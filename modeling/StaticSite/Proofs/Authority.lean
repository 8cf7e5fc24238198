import StaticSite.Proofs.ShownPath

/-! The hosts that a request may name. Each of them, a name or an address in brackets, is read again
from a URL as it was written there, with or without a port behind it. -/

namespace StaticSite

theorem exists_of_mapM {α β : Type} {f : α → Option β} {l : List α} {images : List β}
    (h : l.mapM f = some images) : ∀ x ∈ l, ∃ y, f x = some y := by
  induction l generalizing images with
  | nil => nofun
  | cons x rest ih =>
      rw [List.mapM_cons] at h
      obtain ⟨y, hy, h⟩ := Option.bind_eq_some_iff.mp h
      obtain ⟨ys, hys, -⟩ := Option.bind_eq_some_iff.mp h
      intro z hz
      rcases List.mem_cons.mp hz with rfl | hz
      · exact ⟨y, hy⟩
      · exact ih hys z hz

/-! ### Addresses -/

namespace Address

/-- Whether a character is a digit of an address. -/
def isHex (c : Char) : Bool :=
  (Text.hexValue? c).isSome

namespace V4

theorem isHex_of_readDigits? {base n : Nat} {t : Text} (h : readDigits? base t = some n) :
    ∀ c ∈ t, isHex c = true := by
  have hfold : ∀ (t : Text) (before : Option Nat),
      t.foldl (fun n? c => n?.bind fun n => (digitIn? base c).map fun d => base * n + d) before =
        some n → before.isSome = true ∧ ∀ c ∈ t, isHex c = true := by
    intro t
    induction t with
    | nil =>
        intro before h
        rw [List.foldl_nil] at h
        rw [h]
        exact ⟨rfl, nofun⟩
    | cons c rest ih =>
        intro before h
        obtain ⟨hsome, hrest⟩ := ih _ h
        obtain ⟨n', hn'⟩ := Option.isSome_iff_exists.mp hsome
        obtain ⟨m, hm, hdigit⟩ := Option.bind_eq_some_iff.mp hn'
        obtain ⟨d, hd, -⟩ := Option.map_eq_some_iff.mp hdigit
        obtain ⟨value, hvalue, -⟩ := Option.bind_eq_some_iff.mp hd
        refine ⟨by rw [hm]; rfl, fun x hx => ?_⟩
        rcases List.mem_cons.mp hx with rfl | hx
        · rw [isHex, hvalue]
          rfl
        · exact hrest x hx
  unfold readDigits? at h
  split at h
  · cases h
  · exact (hfold t _ h).2

theorem isHex_of_isDigit {c : Char} (h : Text.isDigit c = true) : isHex c = true := by
  rw [Text.isDigit, Bool.and_eq_true, decide_eq_true_eq, decide_eq_true_eq] at h
  rw [isHex, Text.hexValue?, if_pos h]
  rfl

/-- An address of four bytes holds digits and points. -/
theorem chars_of_readPlain? {t : Text} {n : Nat} (h : readPlain? t = some n) :
    ∀ c ∈ t, isHex c = true ∨ c = '.' := by
  intro c hc
  rcases Text.mem_splitOn_of_mem '.' hc with hpoint | ⟨part, hpart, hc⟩
  · exact Or.inr hpoint
  · left
    unfold readPlain? at h
    split at h
    · rename_i hbytes
      obtain ⟨b, hb⟩ := exists_of_mapM hbytes part hpart
      unfold plainByte? at hb
      split at hb
      · rename_i hplain
        exact isHex_of_isDigit (List.all_eq_true.mp hplain.2.2.1 c hc)
      · cases hb
    · cases h

end V4

namespace V6

theorem isHex_of_group? {t : Text} {n : Nat} (h : group? t = some n) : ∀ c ∈ t, isHex c = true := by
  unfold group? at h
  split at h
  · exact V4.isHex_of_readDigits? h
  · cases h

theorem isHex_of_groups {parts : List Text} {groups : List Nat} (h : parts.mapM group? = some groups) :
    ∀ part ∈ parts, ∀ c ∈ part, isHex c = true := by
  intro part hpart
  obtain ⟨n, hn⟩ := exists_of_mapM h part hpart
  exact isHex_of_group? hn

theorem isHex_of_side? {parts : List Text} {groups : List Nat} (h : side? parts = some groups) :
    ∀ part ∈ parts, ∀ c ∈ part, isHex c = true := by
  unfold side? at h
  split at h
  · rename_i hnil
    rw [hnil]
    intro part hpart c hc
    rw [List.mem_singleton.mp hpart] at hc
    cases hc
  · exact isHex_of_groups h

/-- A part that is replaced by two groups holds digits and points. -/
theorem chars_of_expandTail? {parts expanded : List Text} (h : expandTail? parts = some expanded)
    (hexpanded : ∀ part ∈ expanded, ∀ c ∈ part, isHex c = true) :
    ∀ part ∈ parts, ∀ c ∈ part, isHex c = true ∨ c = '.' := by
  unfold expandTail? at h
  split at h
  · cases h
  · rename_i last hlast
    obtain ⟨first, rfl⟩ := List.getLast?_eq_some_iff.mp hlast
    rw [List.dropLast_concat] at h
    split at h
    · obtain ⟨n, hn, rfl⟩ := Option.map_eq_some_iff.mp h
      intro part hpart c hc
      rcases List.mem_append.mp hpart with hpart | hpart
      · exact Or.inl (hexpanded part (List.mem_append_left _ hpart) c hc)
      · rw [List.mem_singleton.mp hpart] at hc
        exact V4.chars_of_readPlain? hn c hc
    · cases h
      exact fun part hpart c hc => Or.inl (hexpanded part hpart c hc)

/-- An address of eight groups holds a colon, and besides colons digits and points. -/
theorem chars_of_read? {t : Text} {groups : List Nat} (h : read? t = some groups) :
    ':' ∈ t ∧ ∀ c ∈ t, isHex c = true ∨ c = '.' ∨ c = ':' := by
  unfold read? at h
  simp only at h
  split at h
  · cases h
  rename_i hlength
  obtain ⟨expanded, hexpanded, h⟩ := Option.bind_eq_some_iff.mp h
  have hhex : ∀ part ∈ expanded, ∀ c ∈ part, isHex c = true := by
    split at h
    · split at h
      · exact isHex_of_groups h
      · cases h
    · rename_i i hgap
      obtain ⟨front, hfront, h⟩ := Option.bind_eq_some_iff.mp h
      obtain ⟨back, hback, -⟩ := Option.bind_eq_some_iff.mp h
      have hi : i ∈ gaps expanded := by
        rw [hgap]
        exact List.mem_singleton_self i
      obtain ⟨hrange, hempty⟩ := List.mem_filter.mp hi
      have hlt := List.mem_range.mp hrange
      simp only [ne_eq, decide_eq_true_eq] at hempty
      have hnone : expanded[i] = [] := by
        have := hempty.2.2
        rwa [List.getElem?_eq_getElem hlt, Option.getD_some] at this
      intro part hpart
      rw [← List.take_append_drop i expanded, List.drop_eq_getElem_cons hlt] at hpart
      rcases List.mem_append.mp hpart with hpart | hpart
      · exact isHex_of_side? hfront part hpart
      · rcases List.mem_cons.mp hpart with rfl | hpart
        · rw [hnone]
          nofun
        · exact isHex_of_side? hback part hpart
    · cases h
  constructor
  · refine Decidable.byContradiction fun hcolon => ?_
    rw [Text.splitOn_of_not_mem hcolon] at hlength
    exact hlength (Nat.lt_of_sub_eq_succ rfl)
  · intro c hc
    rcases Text.mem_splitOn_of_mem ':' hc with hcolon | ⟨part, hpart, hc⟩
    · exact Or.inr (Or.inr hcolon)
    · rcases chars_of_expandTail? hexpanded hhex part hpart c hc with h | h
      · exact Or.inl h
      · exact Or.inr (Or.inl h)

end V6

end Address

/-! ### Authorities -/

namespace Url

theorem isPlainChar_of_isHex {c : Char} (h : Address.isHex c = true) : isPlainChar c = true := by
  have halpha : ∀ c : Char, c.isAlphanum = true → isPlainChar c = true := by
    intro c hc
    rw [isPlainChar, isHostChar, hc]
    rfl
  refine halpha c (Text.isAlphanum_iff.mpr ?_)
  unfold Address.isHex Text.hexValue? at h
  split at h
  · rename_i hdigit
    exact Or.inr hdigit
  split at h
  · rename_i hlower
    exact Or.inl (Or.inr ⟨hlower.1, Nat.le_trans hlower.2 (by decide)⟩)
  split at h
  · rename_i hupper
    exact Or.inl (Or.inl ⟨hupper.1, Nat.le_trans hupper.2 (by decide)⟩)
  · cases h

theorem isPlainChar_of_isFutureChar {c : Char} (h : isFutureChar c = true) :
    isPlainChar c = true := by
  simp only [isFutureChar, Bool.or_eq_true, List.contains_iff_mem] at h
  rcases h with h | h
  · rw [isPlainChar, isHostChar, h]
    rfl
  · have hall : "._~!$&'()*+,;=:-".toList.all isPlainChar = true := by decide
    exact List.all_eq_true.mp hall c h

/-- An address of eight groups may stand between brackets. -/
theorem checkBracketed_of_groups {address : Text} {groups : List Nat}
    (h : Address.V6.read? address = some groups) :
    checkBracketed address = .ok () ∧ ∀ c ∈ address, isPlainChar c = true := by
  obtain ⟨hcolon, hchars⟩ := Address.V6.chars_of_read? h
  constructor
  · have hletter : ∀ mark, mark = 'v' ∨ mark = '%' → mark ∉ address := by
      intro mark hmark hmem
      have := hchars mark hmem
      rcases hmark with rfl | rfl <;> exact absurd this (by decide)
    have hbytes : Address.V4.readPlain? address = none := by
      cases hread : Address.V4.readPlain? address with
      | none => rfl
      | some n =>
          have := Address.V4.chars_of_readPlain? hread ':' hcolon
          exact absurd this (by decide)
    have hzoned : isZonedV6 address = true := by
      rw [isZonedV6, Text.cutFirst?_of_not_mem (hletter '%' (Or.inr rfl)), h]
      rfl
    unfold checkBracketed
    split
    · exact absurd List.mem_cons_self (hletter 'v' (Or.inl rfl))
    · rw [hbytes, hzoned]
      rfl
  · intro c hc
    rcases hchars c hc with h | rfl | rfl
    · exact isPlainChar_of_isHex h
    · decide
    · decide

/-- So may an address of a future kind. -/
theorem checkBracketed_of_future {address : Text} (h : isFutureAddress address = true) :
    checkBracketed address = .ok () ∧ ∀ c ∈ address, isPlainChar c = true := by
  unfold isFutureAddress at h
  split at h
  · rename_i rest
    split at h
    · rename_i version body hcut
      simp only [Bool.and_eq_true] at h
      obtain ⟨⟨⟨hversion, hdigits⟩, hbody⟩, hchars⟩ := h
      constructor
      · simp only [checkBracketed, hcut, hversion, hdigits, hbody, Bool.and_self, if_true]
      · intro c hc
        rw [Text.eq_append_of_cutFirst? hcut] at hc
        rcases List.mem_cons.mp hc with rfl | hc
        · decide
        · rcases List.mem_append.mp hc with hc | hc
          · exact isPlainChar_of_isHex (List.all_eq_true.mp hdigits c hc)
          · rcases List.mem_cons.mp hc with rfl | hc
            · decide
            · exact isPlainChar_of_isFutureChar (List.all_eq_true.mp hchars c hc)
    · cases h
  · cases h

/-- What may stand behind a host: nothing, or a colon and a port. -/
def IsPort (t : Text) : Prop :=
  t = [] ∨ ∃ digits, t = ':' :: digits ∧ ∀ c ∈ digits, isPlainChar c = true

theorem IsPort.chars {t : Text} (h : IsPort t) : ∀ c ∈ t, isPlainChar c = true := by
  rcases h with rfl | ⟨digits, rfl, hdigits⟩
  · nofun
  · intro c hc
    rcases List.mem_cons.mp hc with rfl | hc
    · decide
    · exact hdigits c hc

theorem IsPort.append {t port : Text} (h : IsPort t) (hport : IsPort port) : IsPort (t ++ port) := by
  rcases h with rfl | ⟨digits, rfl, hdigits⟩
  · exact hport
  · refine Or.inr ⟨digits ++ port, rfl, fun c hc => ?_⟩
    rcases List.mem_append.mp hc with hc | hc
    · exact hdigits c hc
    · exact hport.chars c hc

theorem isPort_of_isPortPart {t : Text} (h : isPortPart t = true) : IsPort t := by
  unfold isPortPart at h
  split at h
  · exact Or.inl rfl
  · rename_i digits
    simp only [Bool.and_eq_true] at h
    refine Or.inr ⟨digits, rfl, fun c hc => ?_⟩
    exact isPlainChar_of_isHex (Address.V4.isHex_of_isDigit (List.all_eq_true.mp h.1.2 c hc))
  · cases h

/-- Whether a character may stand in an authority that names a host. -/
def isNamingChar (c : Char) : Bool :=
  isPlainChar c || c == '[' || c == ']'

theorem isNamingChar_of_isPlainChar {c : Char} (h : isPlainChar c = true) : isNamingChar c = true := by
  rw [isNamingChar, h]
  rfl

theorem isNamingChar_iff {c : Char} :
    isNamingChar c = true ↔ isPlainChar c = true ∨ c = '[' ∨ c = ']' := by
  rw [isNamingChar, Bool.or_eq_true, Bool.or_eq_true, beq_iff_eq, beq_iff_eq, or_assoc]

theorem chars_bracketed {address port : Text} (hchars : ∀ c ∈ address, isPlainChar c = true)
    (hport : IsPort port) : ∀ c ∈ '[' :: (address ++ ']' :: port), isNamingChar c = true := by
  intro c hc
  rcases List.mem_cons.mp hc with rfl | hc
  · decide
  · rcases List.mem_append.mp hc with hc | hc
    · exact isNamingChar_of_isPlainChar (hchars c hc)
    · rcases List.mem_cons.mp hc with rfl | hc
      · decide
      · exact isNamingChar_of_isPlainChar (hport.chars c hc)

/-- An address in brackets is read again, with what stands behind it. -/
theorem readable_bracketed {address port : Text} (hchecked : checkBracketed address = .ok ())
    (hchars : ∀ c ∈ address, isPlainChar c = true) (hport : IsPort port) :
    Readable ('[' :: (address ++ ']' :: port)) := by
  have hnaming := chars_bracketed hchars hport
  refine ⟨List.cons_ne_nil _ _, fun c hc => ?_, ?_, checkDeceptive_of_ascii fun c hc => ?_⟩
  · rcases isNamingChar_iff.mp (hnaming c hc) with h | rfl | rfl
    · exact ⟨not_endsAuthority h, not_isDropped h⟩
    · decide
    · decide
  · have hsign : '@' ∉ '[' :: (address ++ ']' :: port) := fun h => by
      have := hnaming _ h
      revert this
      decide
    have hclose : ']' ∉ address := fun h => by
      have := hchars _ h
      revert this
      decide
    have hboth : ('[' :: (address ++ ']' :: port)).contains '[' = true ∧
        ('[' :: (address ++ ']' :: port)).contains ']' = true := by
      simp
    have hafter : checkHostBrackets ('[' :: (address ++ ']' :: port)) = .ok () := by
      rw [checkHostBrackets, Text.cutFirst?, if_pos rfl]
      simp only [cutAt_append_cons hclose]
      rcases hport with rfl | ⟨digits, rfl, -⟩
      · exact hchecked
      · exact hchecked
    rw [checkBrackets, hboth.1, hboth.2, Text.splitOn_of_not_mem hsign]
    exact hafter
  · rcases isNamingChar_iff.mp (hnaming c hc) with h | rfl | rfl
    · exact toNat_lt_of_isPlainChar h
    · decide
    · decide

/-- A host is a plain name with what may stand behind it, or an address in brackets. -/
theorem plain_or_bracketed {host : Text} (h : isAuthority host = true) :
    IsPlain host ∨ ∃ address port, host = '[' :: (address ++ ']' :: port) ∧
      checkBracketed address = .ok () ∧ (∀ c ∈ address, isPlainChar c = true) ∧ IsPort port := by
  by_cases hbracket : host.head? = some '['
  · obtain ⟨rest, rfl⟩ : ∃ rest, host = '[' :: rest := by
      cases host with
      | nil => cases hbracket
      | cons c rest =>
          cases hbracket
          exact ⟨rest, rfl⟩
    rw [isAuthority] at h
    split at h
    · rename_i address after hcut
      rw [Bool.and_eq_true, Bool.or_eq_true] at h
      have hchecked : checkBracketed address = .ok () ∧ ∀ c ∈ address, isPlainChar c = true := by
        rcases h.1 with hgroups | hfuture
        · obtain ⟨groups, hgroups⟩ := Option.isSome_iff_exists.mp hgroups
          exact checkBracketed_of_groups hgroups
        · exact checkBracketed_of_future hfuture
      exact Or.inr ⟨address, after, by rw [Text.eq_append_of_cutFirst? hcut], hchecked.1, hchecked.2,
        isPort_of_isPortPart h.2⟩
    · cases h
  · exact Or.inl (Request.isPlain_of_isAuthority h hbracket)

/-- Each host that a request may name is read again, also with a port behind it. -/
theorem readable_of_isAuthority {host port : Text} (h : isAuthority host = true)
    (hport : IsPort port) :
    Readable (host ++ port) ∧ ∀ c ∈ host ++ port, isNamingChar c = true := by
  rcases plain_or_bracketed h with hplain | ⟨address, after, rfl, hchecked, hchars, hafter⟩
  · have hwhole : IsPlain (host ++ port) := by
      refine ⟨by simp [hplain.notEmpty], fun c hc => ?_⟩
      rcases List.mem_append.mp hc with hc | hc
      · exact hplain.chars c hc
      · exact hport.chars c hc
    exact ⟨hwhole.readable, fun c hc => isNamingChar_of_isPlainChar (hwhole.chars c hc)⟩
  · have hwhole : '[' :: (address ++ ']' :: after) ++ port =
        '[' :: (address ++ ']' :: (after ++ port)) := by simp
    rw [hwhole]
    exact ⟨readable_bracketed hchecked hchars (hafter.append hport),
      chars_bracketed hchars (hafter.append hport)⟩

end Url

end StaticSite
