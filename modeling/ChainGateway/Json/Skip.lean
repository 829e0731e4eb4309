import ChainGateway.Json.Lexeme

/-!
# Skipping values

A value that nobody asked for is only checked for its form: its numbers may have
any size, its strings lone surrogates, and it may nest to any depth.
-/

namespace ChainGateway.Json

def skipCharsFrom : Nat → List Char → Except DecodeFault (List Char)
  | 0, _ | _, [] => .error .malformed
  | fuel + 1, c :: rest =>
    if c = '"' then .ok rest
    else if c = '\\' then
      match rest with
      | [] => .error .malformed
      | e :: rest =>
        if e = 'u' then do
          let (_, rest) ← readHex4 rest
          skipCharsFrom fuel rest
        else if (simpleEscape? e).isSome then skipCharsFrom fuel rest
        else .error .malformed
    else if c.toNat < 32 then .error .malformed
    else skipCharsFrom fuel rest

/-- Skips one or more digits. -/
def skipDigits (cs : List Char) : Except DecodeFault (List Char) :=
  match cs with
  | c :: rest => if c.isDigit then .ok (rest.dropWhile Char.isDigit) else .error .malformed
  | [] => .error .malformed

def skipExponent (cs : List Char) : Except DecodeFault (List Char) :=
  match cs with
  | 'e' :: rest | 'E' :: rest =>
    match rest with
    | '+' :: rest | '-' :: rest => skipDigits rest
    | rest => skipDigits rest
  | cs => .ok cs

def skipNumeral (cs : List Char) : Except DecodeFault (List Char) := do
  let rest ← match cs with
    | '0' :: rest => match rest with
      | c :: _ => if c.isDigit then .error .malformed else .ok rest
      | [] => .ok rest
    | cs => skipDigits cs
  match rest with
  | '.' :: rest => skipExponent (← skipDigits rest)
  | rest => skipExponent rest

/-- What the skipper waits for: a value, or what may follow one in the innermost open
array or object. -/
inductive Awaiting
  | value
  | close
  | firstItem
  | firstKey

def skipKey (cs : List Char) : Except DecodeFault (List Char) :=
  match cs with
  | '"' :: rest => do
    let rest ← skipCharsFrom rest.length rest
    match skipGaps rest with
    | ':' :: rest => .ok rest
    | _ => .error .malformed
  | _ => .error .malformed

/-- Skips values with the open containers `stack`, objects being `true`. Each step
takes a character or leaves a state that will. -/
def skipFrom : Nat → List Bool → Awaiting → List Char → Except DecodeFault (List Char)
  | 0, _, _, _ => .error .malformed
  | fuel + 1, stack, awaiting, cs => do
    let cs' := skipGaps cs
    match awaiting with
    | .close =>
      match stack with
      | [] => .ok cs
      | true :: outer =>
        match cs' with
        | ',' :: rest => skipFrom fuel stack .value (← skipKey (skipGaps rest))
        | '}' :: rest => skipFrom fuel outer .close rest
        | _ => .error .malformed
      | false :: outer =>
        match cs' with
        | ',' :: rest => skipFrom fuel stack .value rest
        | ']' :: rest => skipFrom fuel outer .close rest
        | _ => .error .malformed
    | .firstItem =>
      match cs' with
      | ']' :: rest => skipFrom fuel stack.tail .close rest
      | _ => skipFrom fuel stack .value cs'
    | .firstKey =>
      match cs' with
      | '}' :: rest => skipFrom fuel stack.tail .close rest
      | _ => skipFrom fuel stack .value (← skipKey cs')
    | .value =>
      match cs' with
      | 'n' :: rest => skipFrom fuel stack .close (← readWord ['u', 'l', 'l'] rest)
      | 't' :: rest => skipFrom fuel stack .close (← readWord ['r', 'u', 'e'] rest)
      | 'f' :: rest => skipFrom fuel stack .close (← readWord ['a', 'l', 's', 'e'] rest)
      | '"' :: rest => skipFrom fuel stack .close (← skipCharsFrom rest.length rest)
      | '[' :: rest => skipFrom fuel (false :: stack) .firstItem rest
      | '{' :: rest => skipFrom fuel (true :: stack) .firstKey rest
      | '-' :: rest => skipFrom fuel stack .close (← skipNumeral rest)
      | cs' => skipFrom fuel stack .close (← skipNumeral cs')

/-- Skips one value. -/
def skipValue (cs : List Char) : Except DecodeFault (List Char) :=
  skipFrom (2 * cs.length + 2) [] .value cs

end ChainGateway.Json
