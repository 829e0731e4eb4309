import ChainGateway.Call
import ChainGateway.Text.Utf8

/-!
# Cache keys

A key is the text of an operation and its arguments. Every argument is delimited by
itself: a text carries its length in bytes, an optional value its presence, a list
its size. So two calls have one key only if they have the same arguments, times
being told apart to the microsecond.
-/

namespace ChainGateway

mutual

def Argument.keyText : Argument → List Char
  | .text s => 's' :: Text.natural (Text.byteLength s) ++ ':' :: s.toList
  | .integer n => 'n' :: Text.integer n
  | .flag b => if b then ['T'] else ['F']
  | .time t => 't' :: Text.integer t.micros
  | .absent => ['~']
  | .present a => '+' :: a.keyText
  | .list items => 'l' :: Text.natural items.length ++ Argument.keyTexts items

def Argument.keyTexts : List Argument → List Char
  | [] => []
  | a :: rest => '|' :: a.keyText ++ Argument.keyTexts rest

end

namespace Cache

structure Key where
  operation : Operation
  text : String
  deriving DecidableEq, Repr

namespace Key

def ofArguments (op : Operation) (arguments : List Argument) : Key where
  operation := op
  text := .ofList (op.name.toList ++ arguments.flatMap fun a => '-' :: a.keyText)

/-- The key of a call. The count of active addresses has one key whatever its cut-off. -/
def ofCall (c : Call) : Key :=
  if c.operation = .activeAddressesCount then ofArguments c.operation []
  else ofArguments c.operation c.arguments

end Key
end Cache
end ChainGateway
