import StaticSite.Text.Basic

/-! Addresses of four bytes as numbers: the plain text of four decimal parts, and the wider
spellings of one to four parts, each in decimal, octal or hexadecimal, the last of which fills
the remaining bytes. -/

namespace StaticSite.Address.V4

/-- The number of parts to which each of the greatest values of a last part belongs. -/
def lastPartBound (parts : Nat) : Nat :=
  1 <<< (8 * (5 - parts))

/-- The value of a digit in a base up to sixteen. -/
def digitIn? (base : Nat) (c : Char) : Option Nat :=
  (Text.hexValue? c).bind fun d => if d < base then some d else none

/-- The number that digits of a base denote, one digit at least. -/
def readDigits? (base : Nat) (digits : Text) : Option Nat :=
  if digits = [] then none
  else digits.foldl
    (fun n? c => n?.bind fun n => (digitIn? base c).map fun d => base * n + d) (some 0)

/-- The number that a part denotes: in hexadecimal after `0x`, in octal after `0`, else in
decimal. -/
def readPart? : Text → Option Nat
  | '0' :: 'x' :: digits => readDigits? 16 digits
  | '0' :: 'X' :: digits => readDigits? 16 digits
  | '0' :: digit :: digits => readDigits? 8 (digit :: digits)
  | digits => readDigits? 10 digits

/-- The number that parts give: all but the last are bytes, and the last fills the rest. -/
def combine? (parts : List Nat) : Option Nat :=
  match parts.getLast? with
  | none => none
  | some last =>
      let bytes := parts.dropLast
      if 4 < parts.length then none
      else if bytes.all (· < 256) ∧ last < lastPartBound parts.length then
        some (bytes.foldl (fun n b => 256 * n + b) 0 * lastPartBound parts.length + last)
      else none

def read? (t : Text) : Option Nat :=
  ((Text.splitOn '.' t).mapM readPart?).bind combine?

def text (n : Nat) : Text :=
  Text.joinWith ['.'] ([n >>> 24 % 256, n >>> 16 % 256, n >>> 8 % 256, n % 256].map Text.ofNat)

/-- A byte in plain decimal, without leading zeros. -/
def plainByte? (t : Text) : Option Nat :=
  if t ≠ [] ∧ t.length ≤ 3 ∧ t.all Text.isDigit ∧ (t = ['0'] ∨ t.head? ≠ some '0') then
    let n := Text.natOfDigits t
    if n < 256 then some n else none
  else none

/-- The address that a plain text of four parts denotes. -/
def readPlain? (t : Text) : Option Nat :=
  match (Text.splitOn '.' t).mapM plainByte? with
  | some [a, b, c, d] => some (256 * (256 * (256 * a + b) + c) + d)
  | _ => none

end StaticSite.Address.V4
