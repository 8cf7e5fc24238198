import Mathlib.Data.List.Forall2
import Mathlib.Data.List.Induction
import Mathlib.Data.Nat.Digits.Defs
import StaticSite.Proofs.Authority
import StaticSite.Proofs.Cuts
import StaticSite.Proofs.PathText
import StaticSite.Proofs.StartOutcome

/-! The spellings of an address of four bytes. It is written in one to four parts, each of them in
decimal, octal or hexadecimal, and the last part fills the bytes that are left. A text is read as an
address if and only if it is one of these spellings, and a listener at any of them is the same as one
at the plain text of the address. -/

namespace StaticSite

theorem exists_of_forall₂ {α β : Type} {R : α → β → Prop} {l : List α} {l' : List β}
    (h : List.Forall₂ R l l') {x : α} (hx : x ∈ l) : ∃ y, R x y := by
  induction h with
  | nil => cases hx
  | cons hxy _ ih =>
      rcases List.mem_cons.mp hx with rfl | hx
      · exact ⟨_, hxy⟩
      · exact ih hx

namespace Address.V4

/-! ### The grammar -/

/-- That a character is the digit of a value in a base, a small letter or a capital. -/
def IsDigit (base : Nat) (c : Char) (d : Nat) : Prop :=
  d < base ∧ (c = d.digitChar ∨ c = d.digitChar.toUpper)

/-- That a text is a run of digits, one at least, which denotes a number in a base. The values of the
digits are told from the last one on, as they count more and more. -/
def InBase (base : Nat) (t : Text) (n : Nat) : Prop :=
  t ≠ [] ∧ ∃ ds, List.Forall₂ (IsDigit base) t.reverse ds ∧ Nat.ofDigits base ds = n

/-- The spellings of one part. A zero in front makes it octal unless it stands alone, and after `0x`
it is hexadecimal; more zeros may follow. -/
inductive Part : Text → Nat → Prop
  | decimal {t : Text} {n : Nat} (digits : InBase 10 t n) (plain : t = ['0'] ∨ t.head? ≠ some '0') :
      Part t n
  | octal {t : Text} {n : Nat} (digits : InBase 8 t n) : Part ('0' :: t) n
  | hexadecimal {x : Char} {t : Text} {n : Nat} (sign : x = 'x' ∨ x = 'X')
      (digits : InBase 16 t n) : Part ('0' :: x :: t) n

/-- The spellings of an address: up to three bytes, and a last part for all the bytes that are
left. -/
inductive Spells : Text → Nat → Prop
  | parts {first : List Text} {last : Text} {bytes : List Nat} {rest : Nat}
      (each : List.Forall₂ Part first bytes) (final : Part last rest) (count : bytes.length ≤ 3)
      (small : ∀ b ∈ bytes, b < 256) (fits : rest < 256 ^ (4 - bytes.length)) :
      Spells (Text.joinWith ['.'] (first ++ [last]))
        (Nat.ofDigits 256 bytes.reverse * 256 ^ (4 - bytes.length) + rest)

/-! ### Digits -/

theorem ascii_of_isHex {c : Char} (h : isHex c = true) : c.toNat < 0x80 := by
  unfold isHex Text.hexValue? at h
  simp only [Char.le_def, UInt32.le_iff_toNat_le] at h
  split at h
  · exact Nat.lt_of_le_of_lt (And.right ‹_›) (by decide)
  split at h
  · exact Nat.lt_of_le_of_lt (And.right ‹_›) (by decide)
  split at h
  · exact Nat.lt_of_le_of_lt (And.right ‹_›) (by decide)
  · cases h

theorem hexValue?_iff {c : Char} {d : Nat} : Text.hexValue? c = some d ↔ IsDigit 16 c d := by
  constructor
  · intro h
    have hascii : c.toNat < 128 := ascii_of_isHex (by rw [isHex, h]; rfl)
    have hall : ∀ k < 128, ∀ d ∈ Text.hexValue? (Char.ofNat k),
        d < 16 ∧ (Char.ofNat k = d.digitChar ∨ Char.ofNat k = d.digitChar.toUpper) := by
      decide +kernel
    have hdigit := hall c.toNat hascii
    rw [Char.ofNat_toNat] at hdigit
    exact hdigit d h
  · rintro ⟨hd, rfl | rfl⟩
    · have hall : ∀ d < 16, Text.hexValue? d.digitChar = some d := by decide +kernel
      exact hall d hd
    · have hall : ∀ d < 16, Text.hexValue? d.digitChar.toUpper = some d := by decide +kernel
      exact hall d hd

theorem digitIn?_iff {base : Nat} (hbase : base ≤ 16) {c : Char} {d : Nat} :
    digitIn? base c = some d ↔ IsDigit base c d := by
  constructor
  · intro h
    obtain ⟨value, hvalue, hsmall⟩ := Option.bind_eq_some_iff.mp h
    split at hsmall
    · cases hsmall
      exact ⟨‹_›, (hexValue?_iff.mp hvalue).2⟩
    · cases hsmall
  · rintro ⟨hd, hc⟩
    have hvalue : Text.hexValue? c = some d := hexValue?_iff.mpr ⟨Nat.lt_of_lt_of_le hd hbase, hc⟩
    rw [digitIn?, hvalue, Option.bind_some, if_pos hd]

/-- Digits are read from the first one on; by what each of them counts, they are told from the last
one on. -/
theorem foldl_digits_iff {base : Nat} (hbase : base ≤ 16) (t : Text) (n : Nat) :
    t.foldl (fun n? c => n?.bind fun n => (digitIn? base c).map fun d => base * n + d) (some 0) =
        some n ↔
      ∃ ds, List.Forall₂ (IsDigit base) t.reverse ds ∧ Nat.ofDigits base ds = n := by
  induction t using List.reverseRecOn generalizing n with
  | nil =>
      simp only [List.foldl_nil, List.reverse_nil, List.forall₂_nil_left_iff, exists_eq_left,
        Nat.ofDigits_nil, Option.some.injEq]
  | append_singleton t c ih =>
      rw [List.foldl_append, List.foldl_cons, List.foldl_nil, List.reverse_append,
        List.reverse_singleton, List.singleton_append]
      constructor
      · intro h
        obtain ⟨before, hbefore, hdigit⟩ := Option.bind_eq_some_iff.mp h
        obtain ⟨d, hd, rfl⟩ := Option.map_eq_some_iff.mp hdigit
        obtain ⟨ds, hds, rfl⟩ := (ih before).mp hbefore
        exact ⟨d :: ds, .cons ((digitIn?_iff hbase).mp hd) hds,
          Nat.ofDigits_cons.trans (Nat.add_comm _ _)⟩
      · rintro ⟨_, hds, rfl⟩
        obtain ⟨d, ds, hd, hrest, rfl⟩ := List.forall₂_cons_left_iff.mp hds
        rw [(ih _).mpr ⟨ds, hrest, rfl⟩, Option.bind_some, (digitIn?_iff hbase).mpr hd,
          Option.map_some, Nat.ofDigits_cons, Nat.add_comm]

theorem readDigits?_iff {base : Nat} (hbase : base ≤ 16) {t : Text} {n : Nat} :
    readDigits? base t = some n ↔ InBase base t n := by
  unfold readDigits? InBase
  by_cases hne : t = []
  · rw [if_pos hne]
    exact iff_of_false nofun fun h => h.1 hne
  · rw [if_neg hne, foldl_digits_iff hbase]
    exact (and_iff_right hne).symm

/-! ### Parts -/

theorem InBase.isDigit {base n : Nat} {t : Text} (h : InBase base t n) :
    ∀ c ∈ t, ∃ d, IsDigit base c d := by
  obtain ⟨-, ds, hds, -⟩ := h
  intro c hc
  exact exists_of_forall₂ hds (List.mem_reverse.mpr hc)

/-- No digit is the sign of a hexadecimal number. -/
theorem IsDigit.ne_sign {base d : Nat} {c : Char} (hbase : base ≤ 16) (h : IsDigit base c d) :
    c ≠ 'x' ∧ c ≠ 'X' := by
  have hvalue : Text.hexValue? c = some d :=
    hexValue?_iff.mpr ⟨Nat.lt_of_lt_of_le h.1 hbase, h.2⟩
  constructor <;> rintro rfl <;> exact absurd hvalue (by simp [Text.hexValue?])

theorem readPart?_iff {t : Text} {n : Nat} : readPart? t = some n ↔ Part t n := by
  constructor
  · intro h
    unfold readPart? at h
    split at h
    · exact .hexadecimal (Or.inl rfl) ((readDigits?_iff (by decide)).mp h)
    · exact .hexadecimal (Or.inr rfl) ((readDigits?_iff (by decide)).mp h)
    · exact .octal ((readDigits?_iff (by decide)).mp h)
    · rename_i hhex hcapital hoctal
      refine .decimal ((readDigits?_iff (by decide)).mp h) ?_
      -- What begins with a zero that does not stand alone would have been taken for another part.
      cases t with
      | nil => exact Or.inr nofun
      | cons c rest =>
          by_cases hc : c = '0'
          · subst hc
            cases rest with
            | nil => exact Or.inl rfl
            | cons d rest => exact absurd rfl (hoctal d rest)
          · exact Or.inr fun hhead => hc (Option.some.inj hhead)
  · rintro (⟨hdigits, hplain⟩ | ⟨hdigits⟩ | ⟨rfl | rfl, hdigits⟩)
    · have hread := (readDigits?_iff (by decide)).mpr hdigits
      rcases hplain with rfl | hhead
      · exact hread
      · unfold readPart?
        split
        · exact absurd rfl hhead
        · exact absurd rfl hhead
        · exact absurd rfl hhead
        · exact hread
    · have hread := (readDigits?_iff (by decide)).mpr hdigits
      obtain ⟨c, rest, rfl⟩ := List.exists_cons_of_ne_nil hdigits.1
      obtain ⟨d, hd⟩ := hdigits.isDigit c List.mem_cons_self
      obtain ⟨hx, hX⟩ := hd.ne_sign (by decide)
      unfold readPart?
      split
      · rename_i heq
        cases heq
        exact absurd rfl hx
      · rename_i heq
        cases heq
        exact absurd rfl hX
      · rename_i heq
        cases heq
        exact hread
      · exact absurd rfl (‹∀ d rest', '0' :: c :: rest = '0' :: d :: rest' → False› c rest)
    · exact (readDigits?_iff (by decide)).mpr hdigits
    · exact (readDigits?_iff (by decide)).mpr hdigits

/-! ### Addresses -/

theorem mapM_readPart?_iff {texts : List Text} {values : List Nat} :
    texts.mapM readPart? = some values ↔ List.Forall₂ Part texts values := by
  induction texts generalizing values with
  | nil =>
      rw [List.mapM_nil, List.forall₂_nil_left_iff]
      exact ⟨fun h => (Option.some.inj h).symm, fun h => h ▸ rfl⟩
  | cons t rest ih =>
      rw [List.mapM_cons, List.forall₂_cons_left_iff]
      constructor
      · intro h
        obtain ⟨n, hn, h⟩ := Option.bind_eq_some_iff.mp h
        obtain ⟨others, hothers, h⟩ := Option.bind_eq_some_iff.mp h
        exact ⟨n, others, readPart?_iff.mp hn, ih.mp hothers, (Option.some.inj h).symm⟩
      · rintro ⟨n, others, hn, hothers, rfl⟩
        rw [readPart?_iff.mpr hn, ih.mpr hothers]
        rfl

theorem lastPartBound_eq (bytes : List Nat) (rest : Nat) :
    lastPartBound (bytes ++ [rest]).length = 256 ^ (4 - bytes.length) := by
  have hleft : 5 - (bytes.length + 1) = 4 - bytes.length := Nat.add_sub_add_right 4 1 _
  rw [lastPartBound, Nat.one_shiftLeft, Nat.pow_mul, List.length_append, List.length_singleton, hleft]

theorem foldl_bytes (bytes : List Nat) :
    bytes.foldl (fun n b => 256 * n + b) 0 = Nat.ofDigits 256 bytes.reverse := by
  rw [Nat.ofDigits_eq_foldr, List.foldr_reverse]
  exact congrArg (bytes.foldl · 0) (funext₂ fun n b => Nat.add_comm _ _)

/-- Bytes and a last part give an address if each of them fits. -/
theorem combine?_append (bytes : List Nat) (rest : Nat) :
    combine? (bytes ++ [rest]) =
      if bytes.length ≤ 3 ∧ (∀ b ∈ bytes, b < 256) ∧ rest < 256 ^ (4 - bytes.length) then
        some (Nat.ofDigits 256 bytes.reverse * 256 ^ (4 - bytes.length) + rest)
      else none := by
  simp only [combine?, List.getLast?_concat, List.dropLast_concat, lastPartBound_eq, foldl_bytes,
    List.all_eq_true, decide_eq_true_eq]
  rw [List.length_append, List.length_singleton]
  by_cases hcount : bytes.length ≤ 3
  · rw [if_neg (by omega)]
    simp only [hcount, true_and]
  · rw [if_pos (by omega), if_neg (fun h => hcount h.1)]

theorem combine?_iff {values : List Nat} {n : Nat} :
    combine? values = some n ↔
      ∃ bytes rest, values = bytes ++ [rest] ∧ bytes.length ≤ 3 ∧ (∀ b ∈ bytes, b < 256) ∧
        rest < 256 ^ (4 - bytes.length) ∧
        Nat.ofDigits 256 bytes.reverse * 256 ^ (4 - bytes.length) + rest = n := by
  constructor
  · intro h
    rcases List.eq_nil_or_concat values with rfl | ⟨bytes, rest, rfl⟩
    · cases h
    · rw [List.concat_eq_append] at h ⊢
      rw [combine?_append] at h
      split at h
      · rename_i hfits
        exact ⟨bytes, rest, rfl, hfits.1, hfits.2.1, hfits.2.2, Option.some.inj h⟩
      · cases h
  · rintro ⟨bytes, rest, rfl, hcount, hsmall, hfits, rfl⟩
    rw [combine?_append, if_pos ⟨hcount, hsmall, hfits⟩]

theorem Part.isHex_or_sign {t : Text} {n : Nat} (h : Part t n) :
    ∀ c ∈ t, isHex c = true ∨ c = 'x' ∨ c = 'X' := by
  have hdigits : ∀ {base n : Nat} {t : Text}, base ≤ 16 → InBase base t n → ∀ c ∈ t, isHex c = true :=
    fun hbase h => isHex_of_readDigits? ((readDigits?_iff hbase).mpr h)
  intro c hc
  cases h with
  | decimal digits _ => exact Or.inl (hdigits (by decide) digits c hc)
  | octal digits =>
      rcases List.mem_cons.mp hc with rfl | hc
      · exact Or.inl rfl
      · exact Or.inl (hdigits (by decide) digits c hc)
  | hexadecimal sign digits =>
      rcases List.mem_cons.mp hc with rfl | hc
      · exact Or.inl rfl
      · rcases List.mem_cons.mp hc with rfl | hc
        · exact Or.inr sign
        · exact Or.inl (hdigits (by decide) digits c hc)

/-- A text is read as an address if and only if it is one of its spellings. -/
theorem read?_iff {t : Text} {n : Nat} : read? t = some n ↔ Spells t n := by
  constructor
  · intro h
    obtain ⟨values, hvalues, hcombined⟩ := Option.bind_eq_some_iff.mp h
    obtain ⟨bytes, rest, rfl, hcount, hsmall, hfits, rfl⟩ := combine?_iff.mp hcombined
    have hparts := mapM_readPart?_iff.mp hvalues
    have heach := List.forall₂_take_append _ _ _ hparts
    have hlast := List.forall₂_drop_append _ _ _ hparts
    obtain ⟨last, _, hfinal, hnil, hdrop⟩ := List.forall₂_cons_right_iff.mp hlast
    cases hnil
    rw [← Text.joinWith_splitOn '.' t, ← List.take_append_drop bytes.length (Text.splitOn '.' t),
      hdrop]
    exact .parts heach hfinal hcount hsmall hfits
  · rintro @⟨first, last, bytes, rest, heach, hfinal, hcount, hsmall, hfits⟩
    have hparts : List.Forall₂ Part (first ++ [last]) (bytes ++ [rest]) :=
      List.rel_append heach (.cons hfinal .nil)
    have hpoint : ∀ part ∈ first ++ [last], '.' ∉ part := by
      intro part hpart hmem
      obtain ⟨n, hn⟩ := exists_of_forall₂ hparts hpart
      rcases hn.isHex_or_sign _ hmem with h | h | h <;> exact absurd h (by decide)
    rw [read?, Text.splitOn_joinWith (by simp) hpoint, mapM_readPart?_iff.mpr hparts]
    exact combine?_iff.mpr ⟨_, _, rfl, hcount, hsmall, hfits, rfl⟩

/-- Every address is below the number of all of them. -/
theorem Spells.lt {t : Text} {n : Nat} (h : Spells t n) : n < 2 ^ 32 := by
  cases h with
  | @parts first last bytes rest each final count small fits =>
      have hbytes : Nat.ofDigits 256 bytes.reverse < 256 ^ bytes.length := by
        rw [← List.length_reverse]
        exact Nat.ofDigits_lt_base_pow_length (by decide) fun b hb => small b (List.mem_reverse.mp hb)
      calc Nat.ofDigits 256 bytes.reverse * 256 ^ (4 - bytes.length) + rest
          < Nat.ofDigits 256 bytes.reverse * 256 ^ (4 - bytes.length) + 256 ^ (4 - bytes.length) :=
            Nat.add_lt_add_left fits _
        _ = (Nat.ofDigits 256 bytes.reverse + 1) * 256 ^ (4 - bytes.length) := (Nat.succ_mul _ _).symm
        _ ≤ 256 ^ bytes.length * 256 ^ (4 - bytes.length) := Nat.mul_le_mul_right _ hbytes
        _ = 256 ^ 4 := by rw [← Nat.pow_add, Nat.add_sub_cancel' (Nat.le_succ_of_le count)]

/-- The plain text of an address is one of its spellings. -/
theorem spells_text {n : Nat} (h : n < 2 ^ 32) : Spells (text n) n := by
  have hall : ∀ b < 256, readPart? (Text.ofNat b) = some b := by decide +kernel
  have hpart : ∀ m, Part (Text.ofNat (m % 256)) (m % 256) := fun m =>
    readPart?_iff.mp (hall _ (Nat.mod_lt _ (by decide)))
  have hfirst : List.Forall₂ Part ([n >>> 24 % 256, n >>> 16 % 256, n >>> 8 % 256].map Text.ofNat)
      [n >>> 24 % 256, n >>> 16 % 256, n >>> 8 % 256] :=
    .cons (hpart _) (.cons (hpart _) (.cons (hpart _) .nil))
  have hsmall : ∀ b ∈ [n >>> 24 % 256, n >>> 16 % 256, n >>> 8 % 256], b < 256 := by
    intro b hb
    simp only [List.mem_cons, List.not_mem_nil, or_false] at hb
    omega
  have hspelled : Spells (text n)
      (Nat.ofDigits 256 [n >>> 24 % 256, n >>> 16 % 256, n >>> 8 % 256].reverse * 256 + n % 256) :=
    .parts hfirst (hpart n) (Nat.le_refl 3) hsmall (Nat.mod_lt _ (by decide))
  have hvalue : Nat.ofDigits 256 [n >>> 24 % 256, n >>> 16 % 256, n >>> 8 % 256].reverse * 256 +
      n % 256 = n := by
    simp only [List.reverse_cons, List.reverse_nil, List.nil_append, List.cons_append,
      Nat.ofDigits_cons, Nat.ofDigits_nil, Nat.shiftRight_eq_div_pow]
    omega
  rwa [hvalue] at hspelled

/-- What a spelling is made of. -/
theorem Spells.isHex_or {t : Text} {n : Nat} (h : Spells t n) :
    ∀ c ∈ t, isHex c = true ∨ c = 'x' ∨ c = 'X' ∨ c = '.' := by
  intro c hc
  obtain ⟨values, hvalues, -⟩ := Option.bind_eq_some_iff.mp (read?_iff.mpr h)
  rcases Text.mem_splitOn_of_mem '.' hc with hpoint | ⟨part, hpart, hc⟩
  · exact Or.inr (Or.inr (Or.inr hpoint))
  · obtain ⟨n, hn⟩ := exists_of_forall₂ (mapM_readPart?_iff.mp hvalues) hpart
    rcases hn.isHex_or_sign c hc with h | h | h
    · exact Or.inl h
    · exact Or.inr (Or.inl h)
    · exact Or.inr (Or.inr (Or.inl h))

theorem Spells.ne_nil {t : Text} {n : Nat} (h : Spells t n) : t ≠ [] := by
  rintro rfl
  cases read?_iff.mpr h

end Address.V4

/-! ### Listeners -/

namespace Network

variable {n : Network} {host : Text} {m : Nat}

/-- A spelling of an address is taken as it stands, and looked up as nothing but this address. -/
theorem resolve_of_spells (h : Address.V4.Spells host m) :
    lookupName host = .ok host ∧ n.resolve host host = .ok (.v4 m) := by
  have hplain : ∀ c ∈ host, Address.isHex c = true ∨ c = 'x' ∨ c = 'X' ∨ c = '.' := h.isHex_or
  have hascii : HostName.isAscii host = true := by
    rw [HostName.isAscii, List.all_eq_true]
    intro c hc
    rcases hplain c hc with hhex | rfl | rfl | rfl
    · exact decide_eq_true (Address.V4.ascii_of_isHex hhex)
    all_goals decide
  have hnot : ∀ c, Address.isHex c = false → c ≠ 'x' → c ≠ 'X' → c ≠ '.' → host.contains c = false := by
    intro c hhex hx hX hpoint
    rw [Bool.eq_false_iff]
    intro hmem
    rcases hplain c (List.contains_iff_mem.mp hmem) with h | h | h | h
    · rw [hhex] at h
      cases h
    · exact hx h
    · exact hX h
    · exact hpoint h
  have hnull : host.contains '\x00' = false := hnot _ rfl (by decide) (by decide) (by decide)
  have hcolon : host.contains ':' = false := hnot _ rfl (by decide) (by decide) (by decide)
  have hbroadcast : host ≠ broadcastName := by
    rintro rfl
    exact absurd (hnot '<' rfl (by decide) (by decide) (by decide)) (by decide)
  constructor
  · rw [lookupName, HostName.toAscii?, if_pos hascii]
    dsimp only
    rw [hnull, if_neg Bool.false_ne_true]
  · rw [resolve, hcolon, if_neg Bool.false_ne_true, resolveV4, if_neg h.ne_nil, if_neg hbroadcast,
      Address.V4.read?_iff.mpr h]

/-- What binding comes to depends on the address alone. -/
theorem bind_of_spells (h : Address.V4.Spells host m) (port : Int) :
    n.bind host port = if !fitsHalfWord port then .error .portOutOfRange else n.bindTo (.v4 m) port := by
  obtain ⟨hname, haddress⟩ := @resolve_of_spells n host m h
  rw [bind, hname]
  dsimp only
  rw [haddress]

/-- A socket that is bound has the address that it was to be bound to. -/
theorem address_of_bindTo {address bound : Address} {port : Int} {got : Nat}
    (h : n.bindTo address port = .ok (bound, got)) : bound = address := by
  rw [bindTo] at h
  split at h
  · cases h
  split at h
  · cases h
  split at h
  · cases h
  split at h
  · cases h
    rfl
  split at h
  · cases h
  · cases h
    rfl

end Network

namespace Listener

/-- What two attempts at an address come to, one at a host that spells it and one at its plain text:
the same socket, whose address is shown as the plain text; or the same refusal, reported in words that
differ in the host alone; or the same failure of a call. Whatever socket is left is the same, too. -/
inductive SameAt (host : Text) (m : Nat) (port : Int) : Attempt → Attempt → Prop
  | opened (s : Socket) (bound : s.address = .v4 m) (shown : s.address.text = Address.V4.text m) :
      SameAt host m port ⟨.ok s, some s⟩ ⟨.ok s, some s⟩
  | refused (e : SystemError) (left : Option Socket)
      (words : ∃ before after : Text,
        (ListenError.startup host port e).message = before ++ host ++ after ∧
          (ListenError.startup (Address.V4.text m) port e).message =
            before ++ Address.V4.text m ++ after) :
      SameAt host m port ⟨.error (.startup host port e), left⟩
        ⟨.error (.startup (Address.V4.text m) port e), left⟩
  | failed (e : CallError) (left : Option Socket) :
      SameAt host m port ⟨.error (.call e), left⟩ ⟨.error (.call e), left⟩

variable {host : Text} {m : Nat} {port : Int}

theorem message_startup (port : Int) (e : SystemError) :
    ∃ before after : Text, ∀ host : Text,
      (ListenError.startup host port e).message = before ++ host ++ after := by
  refine ⟨"could not bind ".toList, [':'] ++ Text.ofInt port ++ ": ".toList ++ e.message, fun host => ?_⟩
  unfold ListenError.message
  simp only [List.append_assoc]

theorem sameAt_fail (s : Socket) (e : CallError) :
    SameAt host m port (fail host port s e) (fail (Address.V4.text m) port s e) := by
  cases e with
  | system e =>
      obtain ⟨before, after, hwords⟩ := message_startup port e
      exact .refused e _ ⟨before, after, hwords host, hwords _⟩
  | _ => exact .failed _ _

/-- The host stands in the words of a refusal, and nowhere else. -/
theorem sameAt_openWith {calls : SocketCalls}
    (hbind : ∀ address bound, calls.bind = .ok (address, bound) → address = .v4 m) :
    SameAt host m port (openWith calls host port) (openWith calls (Address.V4.text m) port) := by
  unfold openWith
  cases calls.create with
  | error e => exact .failed e none
  | ok _ =>
      cases calls.setReuse with
      | error e => exact sameAt_fail _ e
      | ok _ =>
          cases hbound : calls.bind with
          | error e => exact sameAt_fail _ e
          | ok bound =>
              obtain ⟨address, bound⟩ := bound
              cases hbind address bound hbound
              cases calls.listen with
              | error e => exact sameAt_fail _ e
              | ok _ =>
                  cases calls.setInheritable with
                  | error e => exact .failed e _
                  | ok _ => exact .opened _ rfl rfl

/-- All spellings of an address are interchangeable: whatever addresses and ports the machine has and
whatever the other calls on the socket answer, a listener at one of them comes to the same as one at
the plain text of the address. -/
theorem sameAt_of_spells (h : Address.V4.Spells host m) (n : Network) (others : SocketCalls)
    (port : Int) :
    SameAt host m port (openWith { others with bind := n.bind host port } host port)
      (openWith { others with bind := n.bind (Address.V4.text m) port } (Address.V4.text m) port) := by
  have hplain : n.bind (Address.V4.text m) port = n.bind host port := by
    rw [Network.bind_of_spells (Address.V4.spells_text h.lt), Network.bind_of_spells h]
  rw [hplain]
  refine sameAt_openWith fun address bound hbound => ?_
  have hbind : n.bind host port = .ok (address, bound) := hbound
  rw [Network.bind_of_spells h] at hbind
  split at hbind
  · cases hbind
  · exact Network.address_of_bindTo hbind

end Listener

/-! ### One address in two parts -/

namespace TwoParts

/-- A machine on which one port of one address is taken. -/
def network : Network :=
  ⟨fun _ => true, [(.v4 0x7f000001, 8080)], 32768, [], true⟩

/-- A part in hexadecimal and one in octal, each with zeros to spare. -/
def host : Text := "0x0007F.00000000001".toList

/-- The port that is free is bound, and the one that is taken is not, as with the plain text. -/
theorem sameAt_of_spells_loopback :
    Address.V4.Spells host 0x7f000001 ∧
      (Listener.SameAt host 0x7f000001 80 (network.listen host 80)
          (network.listen "127.0.0.1".toList 80) ∧
        (network.listen host 80).result = .ok ⟨.v4 0x7f000001, 80, true, true, true, false⟩) ∧
      Listener.SameAt host 0x7f000001 8080 (network.listen host 8080)
          (network.listen "127.0.0.1".toList 8080) ∧
        (network.listen host 8080).result = .error (.startup host 8080 .addressInUse) := by
  have hspelled : Address.V4.Spells host 0x7f000001 :=
    Address.V4.read?_iff.mp (by decide +kernel)
  have hplain : Address.V4.text 0x7f000001 = "127.0.0.1".toList := by decide +kernel
  have hlisten : ∀ name port, Listener.openWith
      { network.calls host port with bind := network.bind name port } name port =
        network.listen name port := fun _ _ => rfl
  have hfree := Listener.sameAt_of_spells hspelled network (network.calls host 80) 80
  have htaken := Listener.sameAt_of_spells hspelled network (network.calls host 8080) 8080
  rw [hplain, hlisten, hlisten] at hfree htaken
  exact ⟨hspelled, ⟨hfree, by decide +kernel⟩, htaken, by decide +kernel⟩

end TwoParts

end StaticSite
