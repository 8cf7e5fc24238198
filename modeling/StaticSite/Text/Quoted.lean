import StaticSite.Text.Printable

/-! A text between quotes, as messages show it: on one line and printable throughout. -/

namespace StaticSite.Text

/-- Single quotes, unless the text holds such and no double ones. -/
def quoteMark (t : Text) : Char :=
  if t.contains '\'' && !t.contains '"' then '"' else '\''

/-- An unprintable character by its number, in two, four or eight digits. -/
def escapeNumber (n : Nat) : Text :=
  if n ≤ 0xff then '\\' :: 'x' :: digitsIn 16 2 n
  else if n ≤ 0xffff then '\\' :: 'u' :: digitsIn 16 4 n
  else '\\' :: 'U' :: digitsIn 16 8 n

/-- One character of a text quoted with `mark`. -/
def quoteChar (mark c : Char) : Text :=
  if c = mark ∨ c = '\\' then ['\\', c]
  else if c = '\t' then ['\\', 't']
  else if c = '\n' then ['\\', 'n']
  else if c = '\r' then ['\\', 'r']
  else if isPrintable c then [c]
  else escapeNumber c.toNat

/-- The text between quotes, with escapes for what is not printable. -/
def quoted (t : Text) : Text :=
  let mark := quoteMark t
  mark :: t.flatMap (quoteChar mark) ++ [mark]

end StaticSite.Text
