import StaticSite.Text.Basic

/-! UTF-8: the bytes of a text, and a reader that marks every damaged stretch. A damaged stretch
is as long as a well-formed character could have begun with it, so a lossy reading puts one
replacement character for each such beginning. -/

namespace StaticSite.Utf8

def encode (t : Text) : List UInt8 :=
  t.flatMap String.utf8EncodeChar

def size (t : Text) : Nat :=
  t.foldr (fun c n => c.utf8Size + n) 0

inductive Damage where
  | startByte
  | continuationByte
  | unexpectedEnd
  deriving DecidableEq, Repr

/-- What a reader finds next in a sequence of bytes. -/
inductive Piece where
  | char (c : Char)
  | damaged (bytes : List UInt8) (cause : Damage)
  deriving DecidableEq, Repr

/-- A character of which some bytes are still to come: the bytes so far, the number still wanted,
the bounds of the next one, and the value gathered. -/
structure Pending where
  bytes : List UInt8
  wanted : Nat
  low : UInt8
  high : UInt8
  value : Nat

/-- How a byte begins a character: at once, with more bytes to come, or not at all. -/
inductive Lead where
  | char (c : Char)
  | pending (p : Pending)
  | invalid

/-- The bounds on the second byte keep out spellings that are too long, surrogates and values
beyond the last code point. -/
def lead (b : UInt8) : Lead :=
  if b < 0x80 then .char (Char.ofNat b.toNat)
  else if b < 0xc2 then .invalid
  else if b < 0xe0 then .pending ⟨[b], 1, 0x80, 0xbf, b.toNat - 0xc0⟩
  else if b = 0xe0 then .pending ⟨[b], 2, 0xa0, 0xbf, 0⟩
  else if b = 0xed then .pending ⟨[b], 2, 0x80, 0x9f, 13⟩
  else if b < 0xf0 then .pending ⟨[b], 2, 0x80, 0xbf, b.toNat - 0xe0⟩
  else if b = 0xf0 then .pending ⟨[b], 3, 0x90, 0xbf, 0⟩
  else if b < 0xf4 then .pending ⟨[b], 3, 0x80, 0xbf, b.toNat - 0xf0⟩
  else if b = 0xf4 then .pending ⟨[b], 3, 0x80, 0x8f, 4⟩
  else .invalid

/-- The pieces of a byte sequence, `pending` being a character already begun. -/
def pieces : Option Pending → List UInt8 → List Piece
  | none, [] => []
  | some p, [] => [.damaged p.bytes .unexpectedEnd]
  | none, b :: rest =>
      match lead b with
      | .char c => .char c :: pieces none rest
      | .pending p => pieces (some p) rest
      | .invalid => .damaged [b] .startByte :: pieces none rest
  | some p, b :: rest =>
      if p.low ≤ b ∧ b ≤ p.high then
        let value := 64 * p.value + (b.toNat - 0x80)
        if p.wanted ≤ 1 then .char (Char.ofNat value) :: pieces none rest
        else pieces (some ⟨p.bytes ++ [b], p.wanted - 1, 0x80, 0xbf, value⟩) rest
      else
        .damaged p.bytes .continuationByte ::
          match lead b with
          | .char c => .char c :: pieces none rest
          | .pending q => pieces (some q) rest
          | .invalid => .damaged [b] .startByte :: pieces none rest

/-- The character that stands for what cannot be read. -/
def replacement : Char := Char.ofNat 0xfffd

/-- The text of a byte sequence, with one replacement character for each damaged stretch. -/
def decodeLossy (bytes : List UInt8) : Text :=
  (pieces none bytes).map fun
    | .char c => c
    | .damaged _ _ => replacement

/-- Where and why a byte sequence is not UTF-8. -/
structure Fault where
  position : Nat
  bytes : List UInt8
  cause : Damage
  deriving DecidableEq, Repr

/-- The text of a list of pieces, or the first damage; `position` counts the bytes before them. -/
def textOf (position : Nat) : List Piece → Except Fault Text
  | [] => .ok []
  | .damaged bytes cause :: _ => .error ⟨position, bytes, cause⟩
  | .char c :: rest => (textOf (position + c.utf8Size) rest).map (c :: ·)

/-- The text of a byte sequence that is UTF-8 throughout. -/
def decode (bytes : List UInt8) : Except Fault Text :=
  textOf 0 (pieces none bytes)

def Damage.message : Damage → Text
  | .startByte => "invalid start byte".toList
  | .continuationByte => "invalid continuation byte".toList
  | .unexpectedEnd => "unexpected end of data".toList

/-- The wording of a fault: one byte is named, of several only their positions. -/
def Fault.message (f : Fault) : Text :=
  "'utf-8' codec can't decode byte".toList ++
    (match f.bytes with
      | [b] => " 0x".toList ++ Text.digitsIn 16 2 b.toNat ++ " in position ".toList ++
          Text.ofNat f.position
      | _ => "s in position ".toList ++ Text.ofNat f.position ++ ['-'] ++
          Text.ofNat (f.position + f.bytes.length - 1)) ++
    ": ".toList ++ f.cause.message

end StaticSite.Utf8
