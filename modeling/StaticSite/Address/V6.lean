import StaticSite.Address.V4

/-! Addresses of eight groups of sixteen bits: groups in hexadecimal between colons, a run of
zero groups as two colons, and the last two groups in the form of an address of four bytes. -/

namespace StaticSite.Address.V6

/-- A group: one to four hexadecimal digits. -/
def group? (t : Text) : Option Nat :=
  if t.length ≤ 4 then V4.readDigits? 16 t else none

/-- The parts with a last one of four bytes replaced by two groups. -/
def expandTail? (parts : List Text) : Option (List Text) :=
  match parts.getLast? with
  | none => none
  | some last =>
      if last.contains '.' then
        (V4.readPlain? last).map fun n =>
          parts.dropLast ++ [Text.digitsIn 16 1 (n / 65536), Text.digitsIn 16 1 (n % 65536)]
      else some parts

/-- The places of the empty parts that are neither first nor last. -/
def gaps (parts : List Text) : List Nat :=
  (List.range parts.length).filter fun i =>
    i ≠ 0 ∧ i + 1 ≠ parts.length ∧ parts[i]?.getD [] = []

/-- The groups on one side of a run of zeros: nothing, or parts of which none is empty. -/
def side? (parts : List Text) : Option (List Nat) :=
  if parts = [[]] then some [] else parts.mapM group?

/-- The eight groups of an address. -/
def read? (t : Text) : Option (List Nat) := do
  let parts := Text.splitOn ':' t
  if parts.length < 3 then none
  else
    let parts ← expandTail? parts
    match gaps parts with
    | [] => if parts.length = 8 then parts.mapM group? else none
    | [i] =>
        let front ← side? (parts.take i)
        let back ← side? (parts.drop (i + 1))
        if front.length + back.length < 8 then
          some (front ++ List.replicate (8 - front.length - back.length) 0 ++ back)
        else none
    | _ => none

def isLinkLocal (groups : List Nat) : Bool :=
  match groups with
  | first :: _ => first / 64 = 0xfe80 / 64
  | [] => false

/-- Whether an address belongs to a group of listeners. -/
def isMulticast (groups : List Nat) : Bool :=
  match groups with
  | first :: _ => first / 256 = 0xff
  | [] => false

/-- Whether an address belongs to a group of listeners on a link. -/
def isLinkMulticast (groups : List Nat) : Bool :=
  match groups with
  | first :: _ => isMulticast groups && first % 16 = 2
  | [] => false

/-- The address of four bytes that an address stands for. -/
def mapped? : List Nat → Option Nat
  | [0, 0, 0, 0, 0, 0xffff, high, low] => some (65536 * high + low)
  | _ => none

/-- The name of the link of a machine to itself. -/
def loopName : Text := ['l', 'o']

/-- Whether a text names the zone of an address: by a number of 32 bits, or where the address
belongs to a link by the name of that. -/
def isZone (groups : List Nat) (t : Text) : Bool :=
  ((isLinkLocal groups || isLinkMulticast groups) && t = loopName) ||
    (!t.isEmpty && t.all Text.isDigit && Text.natOfDigits t < 0x100000000)

/-- The eight groups of an address that may be followed by a zone. -/
def readZoned? (t : Text) : Option (List Nat) :=
  match Text.cutFirst? '%' t with
  | none => read? t
  | some (address, zone) => (read? address).filter (isZone · zone)

/-- The lengths of the runs of zeros that begin at each place. -/
def zeroRuns : List Nat → List Nat
  | [] => []
  | g :: rest =>
      let runs := zeroRuns rest
      (if g = 0 then 1 + runs.headD 0 else 0) :: runs

/-- Groups in hexadecimal between colons. -/
def groupsText (groups : List Nat) : Text :=
  Text.joinWith [':'] (groups.map (Text.digitsIn 16 1))

/-- Whether the last two groups are written as an address of four bytes, given the longest run of
zero groups, which begins the address. -/
def hasBytes (groups : List Nat) (longest : Nat) : Bool :=
  longest = 6 || (longest = 5 && groups[5]? = some 0xffff)

/-- The groups from the sixth on, the last two as an address of four bytes. -/
def bytesText (groups : List Nat) (longest : Nat) : Text :=
  let bytes := V4.text (65536 * groups.getD 6 0 + groups.getD 7 0)
  if longest = 6 then bytes else groupsText (groups.drop 5 |>.take 1) ++ ':' :: bytes

/-- The plain text of an address: its first longest run of zero groups, if longer than one, becomes
two colons. -/
def text (groups : List Nat) : Text :=
  let runs := zeroRuns groups
  let longest := runs.foldl max 0
  if longest < 2 then groupsText groups
  else
    let i := runs.findIdx (· == longest)
    groupsText (groups.take i) ++ "::".toList ++
      if i = 0 && hasBytes groups longest then bytesText groups longest
      else groupsText (groups.drop (i + longest))

end StaticSite.Address.V6
