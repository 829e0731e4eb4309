import ChainGateway.Json.Value
import ChainGateway.Model.Kind
import ChainGateway.Operation
import ChainGateway.Time.Timestamp

/-!
# Fields of scripts

Scripts of rehearsals are written as JSON values. A field that is null counts as one
that is not given; spans are given in whole milliseconds or seconds.
-/

namespace ChainGateway.Rehearsal.Notation

open Json

/-- Something read from a script, or what is wrong with it. -/
abbrev Reading (α : Type) := Except String α

def bad {α : Type} (what : String) : Reading α := .error what

def field (v : Value) (name : String) : Reading Value :=
  match v.member? name with
  | some x => .ok x
  | none => bad ("no field " ++ name)

/-- A field that is there and not null. -/
def given (v : Value) (name : String) : Option Value :=
  match v.member? name with
  | some .null => none
  | other => other

def givenOr {α : Type} (v : Value) (name : String) (read : Value → Reading α) (other : α) :
    Reading α :=
  match given v name with
  | some x => read x
  | none => .ok other

def optional {α : Type} (v : Value) (name : String) (read : Value → Reading α) :
    Reading (Option α) :=
  givenOr v name (fun x => do .ok (some (← read x))) none

def asText : Value → Reading String
  | .str s => .ok s
  | _ => bad "not a text"

def asInt : Value → Reading Int
  | .num (.int n) => .ok n
  | _ => bad "not an integer"

def asNat : Value → Reading Nat
  | .num (.int n) => if 0 ≤ n then .ok n.toNat else bad "negative"
  | _ => bad "not a natural"

def asBool : Value → Reading Bool
  | .bool b => .ok b
  | _ => bad "not a flag"

def asList : Value → Reading (List Value)
  | .arr items => .ok items
  | _ => bad "not a list"

def texts (v : Value) : Reading (List String) := do (← asList v).mapM asText

def asTime (v : Value) : Reading Timestamp := do
  match Timestamp.parse? (← asText v) with
  | some t => .ok t
  | none => bad "not a time"

def text (v : Value) (name : String) : Reading String := do asText (← field v name)

def nat (v : Value) (name : String) : Reading Nat := do asNat (← field v name)

def flag (v : Value) (name : String) : Reading Bool := do asBool (← field v name)

def list (v : Value) (name : String) : Reading (List Value) := do asList (← field v name)

/-- The items of a list that may be left out. -/
def items (v : Value) (name : String) : Reading (List Value) := givenOr v name asList []

/-- The span in the fields `name_ms` or `name_secs`. -/
def span? (v : Value) (name : String) : Reading (Option Span) := do
  match ← optional v (name ++ "_ms") asNat, ← optional v (name ++ "_secs") asNat with
  | some n, _ => .ok (some (.ofMillis n))
  | none, some n => .ok (some (.ofSeconds n))
  | none, none => .ok none

def span (v : Value) (name : String) : Reading Span := do
  match ← span? v name with
  | some s => .ok s
  | none => bad ("no span " ++ name)

def millis (v : Value) (name : String) : Reading Nat := do .ok (← span v name).ceilMillis

def operationOf (s : String) : Reading Operation :=
  match Operation.parse s with
  | .ok op => .ok op
  | .error _ => bad "unknown operation"

def asOperation (v : Value) : Reading Operation := do operationOf (← asText v)

def operation (v : Value) : Reading Operation := do asOperation (← field v "operation")

/-- A value through its own codec. -/
def decoded {α : Type} (c : Codec α) (v : Value) : Reading α :=
  match c.decode (.ofList v.write) with
  | .ok a => .ok a
  | .error _ => bad "not a value of its type"

end ChainGateway.Rehearsal.Notation
