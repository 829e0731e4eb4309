/-!
# UTF-8

The bytes of characters, and reading bytes as text: strictly, where any
malformed sequence is a fault, or leniently, where each maximal malformed piece
becomes the replacement character.
-/

namespace ChainGateway.Text

def charBytes (c : Char) : List Nat :=
  let n := c.toNat
  if n < 0x80 then [n]
  else if n < 0x800 then [0xC0 + n / 0x40, 0x80 + n % 0x40]
  else if n < 0x10000 then [0xE0 + n / 0x1000, 0x80 + n / 0x40 % 0x40, 0x80 + n % 0x40]
  else [0xF0 + n / 0x40000, 0x80 + n / 0x1000 % 0x40, 0x80 + n / 0x40 % 0x40, 0x80 + n % 0x40]

def utf8Bytes (cs : List Char) : List Nat :=
  cs.flatMap charBytes

/-- The number of bytes of a text. -/
def byteLength (s : String) : Nat :=
  (utf8Bytes s.toList).length

def isContinuation (b : Nat) : Bool :=
  0x80 ≤ b && b < 0xC0

/-- Whether `second` may follow the lead byte `lead`: this leaves out overlong
forms, surrogates and numbers above the last code point. -/
def mayFollow (lead second : Nat) : Bool :=
  if lead = 0xE0 then 0xA0 ≤ second && second < 0xC0
  else if lead = 0xED then 0x80 ≤ second && second < 0xA0
  else if lead = 0xF0 then 0x90 ≤ second && second < 0xC0
  else if lead = 0xF4 then 0x80 ≤ second && second < 0x90
  else isContinuation second

/-- One step of reading: a character, or nothing for a malformed piece, and how many
bytes beyond the first it takes. -/
def decodeStep (b : Nat) (rest : List Nat) : Option Char × Nat :=
  if b < 0x80 then (some (Char.ofNat b), 0)
  else if 0xC2 ≤ b && b < 0xE0 then
    match rest with
    | b2 :: _ =>
      if isContinuation b2 then (some (Char.ofNat ((b - 0xC0) * 0x40 + (b2 - 0x80))), 1)
      else (none, 0)
    | [] => (none, 0)
  else if 0xE0 ≤ b && b < 0xF0 then
    match rest with
    | b2 :: more =>
      if mayFollow b b2 then
        match more with
        | b3 :: _ =>
          if isContinuation b3 then
            (some (Char.ofNat ((b - 0xE0) * 0x1000 + (b2 - 0x80) * 0x40 + (b3 - 0x80))), 2)
          else (none, 1)
        | [] => (none, 1)
      else (none, 0)
    | [] => (none, 0)
  else if 0xF0 ≤ b && b < 0xF5 then
    match rest with
    | b2 :: more =>
      if mayFollow b b2 then
        match more with
        | b3 :: last =>
          if isContinuation b3 then
            match last with
            | b4 :: _ =>
              if isContinuation b4 then
                (some (Char.ofNat ((b - 0xF0) * 0x40000 + (b2 - 0x80) * 0x1000
                  + (b3 - 0x80) * 0x40 + (b4 - 0x80))), 3)
              else (none, 2)
            | [] => (none, 2)
          else (none, 1)
        | [] => (none, 1)
      else (none, 0)
    | [] => (none, 0)
  else (none, 0)

/-- Reads every piece of `bytes`, malformed ones as `none`; the counter says how many
bytes the piece before still takes. -/
def decodePieces : Nat → List Nat → List (Option Char)
  | _, [] => []
  | skip + 1, _ :: rest => decodePieces skip rest
  | 0, b :: rest =>
    let (piece, skip) := decodeStep b rest
    piece :: decodePieces skip rest

/-- The text of well-formed bytes. -/
def decode? (bytes : List Nat) : Option (List Char) :=
  (decodePieces 0 bytes).mapM id

/-- The text of any bytes, with a replacement character for each malformed piece. -/
def decodeLossy (bytes : List Nat) : List Char :=
  (decodePieces 0 bytes).map fun piece => piece.getD (Char.ofNat 0xFFFD)

end ChainGateway.Text
