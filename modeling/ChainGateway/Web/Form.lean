import ChainGateway.Net.Percent
import ChainGateway.Text.Pieces

/-!
# Query forms

A query is a list of pairs, joined by ampersands; a key without an equals sign has an
empty value. In keys and values a plus sign stands for a blank, and malformed bytes
become replacement characters.
-/

namespace ChainGateway.Web

open Text Net

/-- The text of one key or value. -/
def formText (cs : List Char) : String :=
  let bytes := (utf8Bytes cs).map fun b => if b = '+'.toNat then ' '.toNat else b
  .ofList (decodeLossy (percentDecode bytes))

def formPair (cs : List Char) : String × String :=
  match cut? '=' cs with
  | some (key, value) => (formText key, formText value)
  | none => (formText cs, "")

/-- The pairs of a query in order. -/
def formPairs (query : String) : List (String × String) :=
  ((pieces '&' query.toList).filter (· ≠ [])).map formPair

end ChainGateway.Web
