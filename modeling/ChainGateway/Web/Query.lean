import ChainGateway.Call
import ChainGateway.Text.Blank
import ChainGateway.Web.Form
import ChainGateway.Web.Problem

/-!
# Query parameters

A route takes some of its arguments from the query. Every such field has a name, and
some have a second one; a field may be given once. Unknown fields are ignored. A field
that cannot be read is a fault of the query as a whole, reported before any rule about
the values.
-/

namespace ChainGateway.Web

open Text

inductive FieldType
  | text
  | number
  | flag
  deriving DecidableEq, Repr

/-- A field of a query. -/
structure QueryField where
  name : String
  alternative : Option String
  type : FieldType
  deriving DecidableEq, Repr

/-- What a field was given as. -/
inductive FieldValue
  | text (s : String)
  | number (n : Nat)
  | flag (b : Bool)
  deriving DecidableEq, Repr

inductive QueryFault
  | duplicate (name : String)
  | numeral (f : NumeralFault)
  | flag
  deriving DecidableEq, Repr

namespace QueryFault

def reason : QueryFault → String
  | .duplicate name => "duplicate field `" ++ name ++ "`"
  | .numeral f => f.message
  | .flag => "provided string was not `true` or `false`"

def toReply (f : QueryFault) : Reply :=
  .text 400 ("Failed to deserialize query string: " ++ f.reason)

end QueryFault

namespace QueryField

def answersTo (f : QueryField) (key : String) : Bool :=
  f.name = key || f.alternative = some key

def read (f : QueryField) (value : String) : Except QueryFault FieldValue :=
  match f.type with
  | .text => .ok (.text value)
  | .number =>
    match readU64 value with
    | .ok n => .ok (.number n)
    | .error fault => .error (.numeral fault)
  | .flag =>
    if value = "true" then .ok (.flag true)
    else if value = "false" then .ok (.flag false)
    else .error .flag

end QueryField

/-- The fields that were given, by name. -/
structure Query where
  given : List (String × FieldValue)
  deriving DecidableEq, Repr

namespace Query

def value? (q : Query) (f : QueryField) : Option FieldValue :=
  (q.given.find? (·.1 = f.name)).map (·.2)

def text? (q : Query) (f : QueryField) : Option String :=
  match q.value? f with
  | some (.text s) => some s
  | _ => none

def number? (q : Query) (f : QueryField) : Option Nat :=
  match q.value? f with
  | some (.number n) => some n
  | _ => none

/-- Takes one pair of the query into account. -/
def take (fields : List QueryField) (q : Query) (pair : String × String) :
    Except QueryFault Query :=
  match fields.find? (·.answersTo pair.1) with
  | none => .ok q
  | some f =>
    if (q.value? f).isSome then .error (.duplicate f.name)
    else do .ok ⟨q.given ++ [(f.name, ← f.read pair.2)]⟩

def read (fields : List QueryField) (query : String) : Except QueryFault Query :=
  (formPairs query).foldlM (take fields) ⟨[]⟩

end Query

/-- The values of a list with commas, without blank ones. -/
def splitValues : Option String → List String
  | none => []
  | some s => (((pieces ',' s.toList).map trimList).filter (· ≠ [])).map String.ofList

/-! ## Page sizes -/

def standardPageSize : Nat := 30

def maxPageSize : Nat := 100

/-- The size of the page that is asked for. -/
def pageSize (limit : Option Nat) : Except Problem Nat :=
  match limit with
  | none => .ok standardPageSize
  | some n =>
    if 1 ≤ n ∧ n ≤ maxPageSize then .ok n else .error (.invalidRange "limit" 1 maxPageSize)

/-! ## Arguments from the query -/

/-- How an argument is taken from the query. -/
inductive QueryArgument
  | pageSize
  | pageToken
  /-- A text that may be left out. -/
  | optional (f : QueryField)
  /-- Values with commas between them. -/
  | values (f : QueryField)
  /-- A flag that is off unless it is given. -/
  | switch (f : QueryField)
  /-- A text that must not be blank. -/
  | required (f : QueryField)
  | requiredNumber (f : QueryField)
  deriving DecidableEq, Repr

namespace QueryArgument

def limitField : QueryField := ⟨"limit", some "count", .number⟩

def tokenField : QueryField := ⟨"continuationToken", some "continuationtoken", .text⟩

def field : QueryArgument → QueryField
  | .pageSize => limitField
  | .pageToken => tokenField
  | .optional f | .values f | .switch f | .required f | .requiredNumber f => f

def argument (q : Query) : QueryArgument → Except Problem Argument
  | .pageSize => do .ok (.number (← Web.pageSize (q.number? limitField)))
  | .pageToken => .ok (.optionalText (q.text? tokenField))
  | .optional f => .ok (.optionalText (q.text? f))
  | .values f => .ok (.texts (splitValues (q.text? f)))
  | .switch f => .ok (.flag (q.value? f = some (.flag true)))
  | .required f =>
    match trimList ((q.text? f).getD "").toList with
    | [] => .error (.missingField f.name)
    | cs => .ok (.text (.ofList cs))
  | .requiredNumber f =>
    match q.number? f with
    | some n => .ok (.number n)
    | none => .error (.missingField f.name)

end QueryArgument
end ChainGateway.Web
