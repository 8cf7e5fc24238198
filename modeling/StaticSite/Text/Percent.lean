import StaticSite.Text.Utf8

/-! Percent coding: an octet is written `%` and two hexadecimal digits. -/

namespace StaticSite.Percent

/-- The octets that a text denotes; a `%` without two hexadecimal digits stands for itself. -/
def octets : Text → List UInt8
  | [] => []
  | c :: rest =>
      if c = '%' then
        match rest with
        | a :: b :: after =>
            match Text.hexValue? a, Text.hexValue? b with
            | some high, some low => UInt8.ofNat (16 * high + low) :: octets after
            | _, _ => String.utf8EncodeChar c ++ octets (a :: b :: after)
        | short => String.utf8EncodeChar c ++ octets short
      else String.utf8EncodeChar c ++ octets rest

/-- The text that a percent-coded one denotes, octets that are not UTF-8 being replaced. -/
def decode (t : Text) : Text :=
  Utf8.decodeLossy (octets t)

def hexDigit (d : Nat) : Char :=
  if d < 10 then Char.ofNat (48 + d) else Char.ofNat (55 + d)

/-- The characters that never need coding. -/
def isUnreserved (c : Char) : Bool :=
  c.isAlphanum || "_.-~".toList.contains c

/-- One octet: as it is where `keep` allows its character, else coded. -/
def encodeOctet (keep : Char → Bool) (b : UInt8) : Text :=
  let c := Char.ofNat b.toNat
  if b < 0x80 ∧ (isUnreserved c ∨ keep c) then [c]
  else ['%', hexDigit (b.toNat / 16), hexDigit (b.toNat % 16)]

/-- The coded form of a text, in which the characters that `keep` accepts stay. -/
def encode (keep : Char → Bool) (t : Text) : Text :=
  (Utf8.encode t).flatMap (encodeOctet keep)

end StaticSite.Percent
