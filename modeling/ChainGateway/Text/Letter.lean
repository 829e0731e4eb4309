import ChainGateway.Text.Property.Category
import ChainGateway.Text.Property.Letter

/-!
# Letters and numbers

What may stand in a name: characters that are alphabetic or numeric. These follow a later
version of the standard than the property tables, which lack the characters listed here.
-/

namespace ChainGateway.Text

def laterLetters : CharSet := .ofLines [
  "88f c5c cdc a7ce-a7cf a7d2 a7d4 a7f1 10940-10959 10ec5-10ec7 10efa-10efb 11b60-11b67",
  "11db0-11ddb 16ea0-16eb8 16ebb-16ed3 16ff2-16ff6 187f8-187ff 18d09-18d1e 18d80-18df2",
  "1e6c0-1e6de 1e6e0-1e6f5 1e6fe-1e6ff 2b73a-2b73f 2cea2-2cead 323b0-33479"]

def laterNumbers : CharSet := .ofLines ["11de0-11de9 16ff4-16ff6"]

def holds (properties : List Property) (name : String) (c : Char) : Bool :=
  match Property.find? properties name with
  | some s => s.contains c
  | none => false

def isAlphabetic (c : Char) : Bool :=
  if c.toNat < 128 then c.isAlpha
  else holds letterProperties "alphabetic" c || laterLetters.contains c

def isNumeric (c : Char) : Bool :=
  if c.toNat < 128 then c.isDigit
  else ["nd", "nl", "no"].any (holds categories · c) || laterNumbers.contains c

end ChainGateway.Text
