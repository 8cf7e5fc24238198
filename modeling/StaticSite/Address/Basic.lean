import StaticSite.Address.V6

/-! Addresses of machines, of four bytes or of eight groups. -/

namespace StaticSite

inductive Address where
  | v4 (n : Nat)
  | v6 (groups : List Nat)
  deriving DecidableEq, Repr

namespace Address

/-- The address that another one stands for, an address of four bytes in eight groups for that of
four bytes. -/
def plain : Address → Address
  | v4 n => v4 n
  | v6 groups => ((V6.mapped? groups).map v4).getD (v6 groups)

/-- Whether an address stands for all addresses of a machine, of either kind. -/
def isWildcard (a : Address) : Bool :=
  match a.plain with
  | v4 n => n == 0
  | v6 groups => groups.all (· == 0)

/-- Whether an address means something only together with the link that it belongs to, or with a
group of listeners. No listener of its own can have it. -/
def needsLink : Address → Bool
  | v4 _ => false
  | v6 groups => V6.isLinkLocal groups || V6.isMulticast groups

def text : Address → Text
  | v4 n => V4.text n
  | v6 groups => V6.text groups

end Address
end StaticSite
