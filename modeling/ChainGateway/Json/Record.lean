import ChainGateway.Json.Codec

/-!
# Records

A record is written as an object with its fields in order. It is read from an object
with its fields in any order and unknown ones skipped, or from an array of exactly
its fields. A repeated field is a fault where its name appears again; a missing one
is a fault at the end, the first in order being reported.
-/

namespace ChainGateway.Json

/-- One field of a record. -/
structure Field (α : Type) where
  name : String
  codec : Codec α
  /-- Which values are not written at all. -/
  silent : α → Bool := fun _ => false
  /-- What a missing element of the array form means. -/
  short : Option α := none

/-- The fields of a record, by the types of their values. -/
inductive Layout : List Type → Type 1
  | done : Layout []
  | field {α : Type} {αs : List Type} (f : Field α) (rest : Layout αs) : Layout (α :: αs)

/-- Values for a list of types. -/
def Tuple : List Type → Type
  | [] => Unit
  | α :: αs => α × Tuple αs

/-- The values read so far. -/
def Slots : List Type → Type
  | [] => Unit
  | α :: αs => Option α × Slots αs

def Slots.empty : (αs : List Type) → Slots αs
  | [] => ()
  | _ :: αs => (none, Slots.empty αs)

namespace Layout

def members : {αs : List Type} → Layout αs → Tuple αs → List (List Char)
  | _, .done, _ => []
  | _, .field f rest, (a, more) =>
    let tail := rest.members more
    if f.silent a then tail else (writeString f.name ++ ':' :: f.codec.write a) :: tail

/-- Reads the value of the field `name` behind its name. -/
def store : {αs : List Type} → Layout αs → String → Slots αs → List Char →
    Except DecodeFault (Slots αs × List Char)
  | _, .done, _, _, cs =>
    match skipGaps cs with
    | ':' :: rest => do .ok ((), ← skipValue rest)
    | _ => .error .malformed
  | _, .field f rest, name, (slot, more), cs =>
    if f.name = name then
      if slot.isSome then .error (.duplicateField name)
      else match skipGaps cs with
        | ':' :: cs => do
          let (a, cs) ← f.codec.read cs
          .ok ((some a, more), cs)
        | _ => .error .malformed
    else do
      let (more, cs) ← rest.store name more cs
      .ok ((slot, more), cs)

def finish : {αs : List Type} → Layout αs → Slots αs → Except DecodeFault (Tuple αs)
  | _, .done, _ => .ok ()
  | _, .field f rest, (slot, more) =>
    match slot <|> f.codec.missing with
    | some a => do .ok (a, ← rest.finish more)
    | none => .error (.missingField f.name)

/-- Reads the members behind the first quote or a comma. -/
def readMembers {αs : List Type} (layout : Layout αs) :
    Nat → Slots αs → List Char → Except DecodeFault (Tuple αs × List Char)
  | 0, _, _ => .error .malformed
  | fuel + 1, slots, cs => do
    let (name, cs) ← readString cs
    let (slots, cs) ← layout.store name slots cs
    match skipGaps cs with
    | ',' :: rest => layout.readMembers fuel slots rest
    | '}' :: rest => .ok (← layout.finish slots, rest)
    | _ => .error .malformed

/-- Reads the fields in order as array elements, behind the opening bracket. -/
def readElements : {αs : List Type} → Layout αs → (first : Bool) → List Char →
    Except DecodeFault (Tuple αs × List Char)
  | _, .done, _, cs =>
    match skipGaps cs with
    | ']' :: rest => .ok ((), rest)
    | _ => .error .malformed
  | _, .field f rest, first, cs => do
    match skipGaps cs with
    | ']' :: _ =>
      match f.short with
      | some a =>
        let (more, cs) ← rest.readElements first cs
        .ok ((a, more), cs)
      | none => .error .malformed
    | cs =>
      let cs ← if first then .ok cs else readWord [','] cs
      let (a, cs) ← f.codec.read cs
      let (more, cs) ← rest.readElements false cs
      .ok ((a, more), cs)

def read {αs : List Type} (layout : Layout αs) : Reader (Tuple αs) := fun cs =>
  match skipGaps cs with
  | '{' :: rest =>
    match skipGaps rest with
    | '}' :: rest => do .ok (← layout.finish (Slots.empty αs), rest)
    | rest => layout.readMembers (rest.length + 1) (Slots.empty αs) rest
  | '[' :: rest => layout.readElements true rest
  | _ => .error .malformed

end Layout

namespace Codec

variable {α : Type}

/-- The codec of a record that is equivalent to the tuple of its fields. -/
def record {αs : List Type} (layout : Layout αs) (split : α → Tuple αs) (back : Tuple αs → α) :
    Codec α where
  write a := '{' :: Text.joined [','] (layout.members (split a)) ++ ['}']
  read cs := do let (t, rest) ← layout.read cs; .ok (back t, rest)

end Codec

namespace Field

variable {α : Type}

/-- A field that is always written. -/
def named (name : String) (c : Codec α) : Field α where
  name := name
  codec := c

/-- A field that is not written when there is no value. -/
def sparse (name : String) (c : Codec α) : Field (Option α) where
  name := name
  codec := c.optional
  silent a := a.isNone

end Field
end ChainGateway.Json
