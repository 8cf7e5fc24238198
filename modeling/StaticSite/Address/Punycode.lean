import StaticSite.Text.Basic

/-! Punycode: a text in ASCII. What is in ASCII already comes first; the other characters follow in
ascending order as the distances between them, in numbers of a base that adapts to them. -/

namespace StaticSite.Punycode

def base : Nat := 36

/-- The least and the greatest digit that may end a number. -/
def leastEnd : Nat := 1

/-- The greatest digit that may end a number. -/
def greatestEnd : Nat := 26

/-- The first character beyond ASCII. -/
def firstCoded : Nat := 0x80

def firstBias : Nat := 72

/-- A digit: a letter, or above these a decimal digit. -/
def digit (d : Nat) : Char :=
  if d < 26 then Char.ofNat (0x61 + d) else Char.ofNat (0x30 + (d - 26))

/-- The bound below which a digit ends a number, from the weight of its place and the bias. -/
def bound (place bias : Nat) : Nat :=
  max leastEnd (min greatestEnd (place - bias))

/-- A number from a place on, in so many digits at most. -/
def numberWithin (bias : Nat) : Nat → Nat → Nat → Text
  | 0, _, n => [digit n]
  | count + 1, place, n =>
      let least := bound place bias
      if n < least then [digit n]
      else digit (least + (n - least) % (base - least)) ::
        numberWithin bias count (place + base) ((n - least) / (base - least))

/-- A number. It has no more digits than its value and one more. -/
def number (bias n : Nat) : Text :=
  numberWithin bias n base n

/-- How often a distance has to be cut down before it is small, at most so often, and what it is
then. -/
def cutDown : Nat → Nat → Nat × Nat
  | 0, n => (0, n)
  | count + 1, n =>
      if 455 < n then
        let (times, rest) := cutDown count (n / (base - leastEnd))
        (times + 1, rest)
      else (0, n)

/-- The bias after a distance, `count` being the number of characters with the one just coded. -/
def adapt (isFirst : Bool) (distance count : Nat) : Nat :=
  let n := if isFirst then distance / 700 else distance / 2
  let (times, rest) := cutDown n (n + n / count)
  base * times + base * rest / (rest + 38)

/-- A code that has come so far: what is written, the distance from the character coded last, the
bias, the number of characters coded, and whether none of them was beyond ASCII. -/
structure State where
  written : Text
  distance : Nat
  bias : Nat
  coded : Nat
  isFirst : Bool

/-- The code after a look at one character, `n` being the number of the one to be coded. -/
def look (n : Nat) (s : State) (c : Char) : State :=
  if c.toNat < n then { s with distance := s.distance + 1 }
  else if c.toNat = n then
    { written := s.written ++ number s.bias s.distance
      distance := 0
      bias := adapt s.isFirst s.distance (s.coded + 1)
      coded := s.coded + 1
      isFirst := false }
  else s

/-- The code with all characters of the given numbers, which ascend; `n` is the least that the next
may be. -/
def codeAll (t : Text) : Nat → State → List Nat → State
  | _, s, [] => s
  | n, s, next :: rest =>
      let s := { s with distance := s.distance + (next - n) * (s.coded + 1) }
      let s := t.foldl (look next) s
      codeAll t (next + 1) { s with distance := s.distance + 1 } rest

/-- The numbers of the characters beyond ASCII, each once, in ascending order. -/
def codedNumbers (t : Text) : List Nat :=
  (((t.map Char.toNat).filter (firstCoded ≤ ·)).eraseDups).mergeSort (· ≤ ·)

def encode (t : Text) : Text :=
  let plain := t.filter (·.toNat < firstCoded)
  let start : State := ⟨[], 0, firstBias, plain.length, true⟩
  let coded := (codeAll t firstCoded start (codedNumbers t)).written
  if plain = [] then coded else plain ++ '-' :: coded

end StaticSite.Punycode
