import ChainGateway.Text.Property.Age
import ChainGateway.Text.Property.Category
import ChainGateway.Text.Property.Letter
import ChainGateway.Text.Property.Script
import ChainGateway.Text.Property.ScriptExtension
import ChainGateway.Text.Property.Segment
import ChainGateway.Text.Property.Sign

/-!
# Asking for a property

A property is asked for by its name alone, or by the name of a kind of property and a
value. Names are compared in loose form, and a leading `is` does not count.
-/

namespace ChainGateway.Text

/-- The loose form of a name: without blanks, dashes, underscores and all that is not
ASCII, in lower case. -/
def looseName (cs : List Char) : String :=
  let (lead, cs) := match cs with
    | a :: b :: rest => if a.toLower = 'i' && b.toLower = 's' then (true, rest) else (false, cs)
    | cs => (false, cs)
  let name := (cs.filter fun c => c.toNat < 128 && c ≠ ' ' && c ≠ '_' && c ≠ '-').map Char.toLower
  -- `isc` is a name of its own and not another name of the category `c`.
  if lead && name = ['c'] then "isc" else .ofList name

/-- A property by a name without a value: a binary property, a category or a script. -/
def property? (name : String) : Option CharSet :=
  Property.find? letterProperties name
    <|> Property.find? signProperties name
    <|> category? name
    <|> Property.find? scripts name

/-- The characters with a value of a kind of property. -/
def propertyValue? (kind value : String) : Option CharSet :=
  match kind with
  | "gc" | "generalcategory" => category? value
  | "sc" | "script" => Property.find? scripts value
  | "scx" | "scriptextensions" => Property.find? scriptExtensions value
  | "age" => charsOfAge? value
  | "gcb" | "graphemeclusterbreak" => Property.find? clusterBreaks value
  | "wb" | "wordbreak" => Property.find? wordBreaks value
  | "sb" | "sentencebreak" => Property.find? sentenceBreaks value
  | _ => none

/-- The characters of a property, asked for by a name or by a name and a value. -/
def charsWith? (name : List Char) (value : Option (List Char)) : Option CharSet :=
  match value with
  | none => property? (looseName name)
  | some value => propertyValue? (looseName name) (looseName value)

end ChainGateway.Text
