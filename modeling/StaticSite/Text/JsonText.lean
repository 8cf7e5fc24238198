import StaticSite.Text.Basic

/-! A text as a string of JSON: quotes, backslashes and control characters are escaped, all other
characters stand for themselves. -/

namespace StaticSite.JsonText

/-- The control characters with a short escape. -/
def shortEscapes : List (Char × Char) :=
  [('"', '"'), ('\\', '\\'), ('\n', 'n'), ('\r', 'r'), ('\t', 't'), ('\x08', 'b'), ('\x0c', 'f')]

def escapeChar (c : Char) : Text :=
  match shortEscapes.lookup c with
  | some short => ['\\', short]
  | none => if c.toNat < 0x20 then '\\' :: 'u' :: Text.digitsIn 16 4 c.toNat else [c]

/-- The text between quotes, with escapes. -/
def encode (t : Text) : Text :=
  '"' :: t.flatMap escapeChar ++ ['"']

end StaticSite.JsonText
