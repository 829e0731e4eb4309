import ChainGateway.Json.Numeral

/-!
# Free-form values

Objects keep their members sorted by name, and of two members of one name the
later stays. Values nest at most as deep as the reader is told.
-/

namespace ChainGateway.Json

inductive Value
  | null
  | bool (b : Bool)
  | num (n : Numeral)
  | str (s : String)
  | arr (items : List Value)
  | obj (members : List (String × Value))
  deriving Inhabited

namespace Value

/-- Puts a member in its place by name, instead of one of the same name. -/
def putMember (name : String) (v : Value) : List (String × Value) → List (String × Value)
  | [] => [(name, v)]
  | (n, w) :: rest =>
    if name = n then (name, v) :: rest
    else if name < n then (name, v) :: (n, w) :: rest
    else (n, w) :: putMember name v rest

def ofMembers (members : List (String × Value)) : Value :=
  .obj (members.foldl (fun sorted (name, v) => putMember name v sorted) [])

def nat (n : Nat) : Value := .num (.int n)

def int (n : Int) : Value := .num (.int n)

def member? (v : Value) (name : String) : Option Value :=
  match v with
  | .obj members => (members.find? (·.1 == name)).map (·.2)
  | _ => none

end Value

def Numeral.write : Numeral → List Char
  | .int n => Text.integer n
  | .real x => (x.wire?).getD "null".toList

mutual

def Value.write : Value → List Char
  | .null => "null".toList
  | .bool b => if b then "true".toList else "false".toList
  | .num n => n.write
  | .str s => writeString s
  | .arr items => '[' :: Value.writeItems items ++ [']']
  | .obj members => '{' :: Value.writeMembers members ++ ['}']

def Value.writeItems : List Value → List Char
  | [] => []
  | [v] => v.write
  | v :: rest => v.write ++ ',' :: Value.writeItems rest

def Value.writeMembers : List (String × Value) → List Char
  | [] => []
  | [(name, v)] => writeString name ++ ':' :: v.write
  | (name, v) :: rest => writeString name ++ ':' :: v.write ++ ',' :: Value.writeMembers rest

end

mutual

/-- Reads a value that opens at most `depth` containers in one another. -/
def readValueFrom (fuel depth : Nat) (cs : List Char) : Except DecodeFault (Value × List Char) :=
  match fuel with
  | 0 => .error .malformed
  | fuel + 1 =>
    match skipGaps cs with
    | 'n' :: rest => do .ok (.null, ← readWord ['u', 'l', 'l'] rest)
    | 't' :: rest => do .ok (.bool true, ← readWord ['r', 'u', 'e'] rest)
    | 'f' :: rest => do .ok (.bool false, ← readWord ['a', 'l', 's', 'e'] rest)
    | '"' :: rest => do
      let (chars, rest) ← readCharsFrom rest.length rest
      .ok (.str (.ofList chars), rest)
    | '[' :: rest =>
      if depth = 0 then .error .malformed
      else match skipGaps rest with
        | ']' :: rest => .ok (.arr [], rest)
        | rest => do
          let (items, rest) ← readItemsFrom fuel (depth - 1) rest
          .ok (.arr items, rest)
    | '{' :: rest =>
      if depth = 0 then .error .malformed
      else match skipGaps rest with
        | '}' :: rest => .ok (.obj [], rest)
        | rest => do
          let (members, rest) ← readMembersFrom fuel (depth - 1) rest
          .ok (.ofMembers members, rest)
    | cs => do
      let (n, rest) ← readNumeral cs
      .ok (.num n, rest)

def readItemsFrom (fuel depth : Nat) (cs : List Char) :
    Except DecodeFault (List Value × List Char) :=
  match fuel with
  | 0 => .error .malformed
  | fuel + 1 => do
    let (v, rest) ← readValueFrom fuel depth cs
    match skipGaps rest with
    | ',' :: rest =>
      let (items, rest) ← readItemsFrom fuel depth rest
      .ok (v :: items, rest)
    | ']' :: rest => .ok ([v], rest)
    | _ => .error .malformed

def readMembersFrom (fuel depth : Nat) (cs : List Char) :
    Except DecodeFault (List (String × Value) × List Char) :=
  match fuel with
  | 0 => .error .malformed
  | fuel + 1 => do
    let (name, rest) ← readString cs
    match skipGaps rest with
    | ':' :: rest =>
      let (v, rest) ← readValueFrom fuel depth rest
      match skipGaps rest with
      | ',' :: rest =>
        let (members, rest) ← readMembersFrom fuel depth rest
        .ok ((name, v) :: members, rest)
      | '}' :: rest => .ok ([(name, v)], rest)
      | _ => .error .malformed
    | _ => .error .malformed

end

def readValue (depth : Nat) : Reader Value := fun cs =>
  readValueFrom (2 * cs.length + 2) depth cs

/-- The whole of a text as one value. -/
def Value.parse (s : String) : Except DecodeFault Value := do
  let (v, rest) ← readValue 127 s.toList
  if skipGaps rest = [] then .ok v else .error .malformed

end ChainGateway.Json
