import ChainGateway.Text.CharSet

/-!
# Named sets of characters

A property goes by several names. They are written in loose form: lower case, without
blanks, dashes and underscores.
-/

namespace ChainGateway.Text

structure Property where
  names : List String
  /-- The ranges of its characters, in ascending order. -/
  lines : List String

namespace Property

def chars (p : Property) : CharSet := .ofLines p.lines

def find? (properties : List Property) (name : String) : Option CharSet :=
  (properties.find? (·.names.contains name)).map chars

end Property
end ChainGateway.Text
