import StaticSite.Http.ByteRange
import StaticSite.Proofs.Cuts
import StaticSite.Proofs.Numerals

/-! The parts of a file that a Range header asks for. What is sent are ranges in the order of the file,
of which none touches another, and they cover what the entries of the header name, each position once.
An entry with a number of more digits than are read names nothing. -/

namespace StaticSite

namespace ByteRange

/-- Whether a position of a file lies in a range. -/
def Covers (r : ByteRange) (i : Nat) : Prop :=
  r.start ≤ i ∧ i < r.stop

/-- Whether some ranges cover a position. -/
def CoveredBy (ranges : List ByteRange) (i : Nat) : Prop :=
  ∃ r ∈ ranges, r.Covers i

/-- A range of a file of the given size, with a byte in it. -/
structure Within (size : Nat) (r : ByteRange) : Prop where
  proper : r.start < r.stop
  inside : r.stop ≤ size

instance (size : Nat) (r : ByteRange) : Decidable (r.Within size) :=
  decidable_of_iff (r.start < r.stop ∧ r.stop ≤ size)
    ⟨fun h => ⟨h.1, h.2⟩, fun h => ⟨h.proper, h.inside⟩⟩

/-- Whether a range ends before another begins, with a byte between them at least. -/
def Before (a b : ByteRange) : Prop :=
  a.stop < b.start

instance (a b : ByteRange) : Decidable (Before a b) :=
  inferInstanceAs (Decidable (a.stop < b.start))

/-- Ranges of a file in its order, apart from each other. -/
structure Spread (size : Nat) (ranges : List ByteRange) : Prop where
  within : ∀ r ∈ ranges, r.Within size
  apart : ranges.Pairwise Before

/-- The positions of some ranges, one after another. -/
def positions (ranges : List ByteRange) : List Nat :=
  ranges.flatMap fun r => List.range' r.start r.length

theorem mem_range'_iff {r : ByteRange} {i : Nat} :
    i ∈ List.range' r.start r.length ↔ r.Covers i := by
  rw [List.mem_range'_1, length, Covers]
  omega

theorem mem_positions {ranges : List ByteRange} {i : Nat} :
    i ∈ positions ranges ↔ CoveredBy ranges i := by
  simp only [positions, List.mem_flatMap, mem_range'_iff, CoveredBy]

/-- The positions of ranges apart from each other ascend, so there is none twice. -/
theorem Spread.ascending {size : Nat} {ranges : List ByteRange} (h : Spread size ranges) :
    (positions ranges).Pairwise (· < ·) := by
  rw [positions, List.pairwise_flatMap]
  refine ⟨fun r _ => List.pairwise_lt_range' 1, h.apart.imp fun {a b} hbefore => ?_⟩
  intro i hi j hj
  have ha := mem_range'_iff.mp hi
  have hb := mem_range'_iff.mp hj
  exact Nat.lt_of_lt_of_le (Nat.lt_trans ha.2 hbefore) hb.1

theorem Spread.tail {size : Nat} {r : ByteRange} {rest : List ByteRange} (h : Spread size (r :: rest)) :
    Spread size rest :=
  ⟨fun x hx => h.within x (List.mem_cons_of_mem r hx), h.apart.tail⟩

theorem Spread.lt_of_tail {size i : Nat} {r : ByteRange} {rest : List ByteRange}
    (h : Spread size (r :: rest)) (hi : CoveredBy rest i) : r.stop < i := by
  obtain ⟨x, hx, hstart, -⟩ := hi
  exact Nat.lt_of_lt_of_le (List.rel_of_pairwise_cons h.apart hx) hstart

theorem coveredBy_cons {r : ByteRange} {rest : List ByteRange} (i : Nat) :
    CoveredBy (r :: rest) i ↔ r.Covers i ∨ CoveredBy rest i := by
  simp only [CoveredBy, List.mem_cons, exists_eq_or_imp]

/-- The first of some ranges begins not after that of others which cover at least as much, and ends not
after it if both begin together. -/
theorem Spread.bounds_le {size : Nat} {x y : ByteRange} {xs ys : List ByteRange}
    (hx : Spread size (x :: xs)) (hy : Spread size (y :: ys))
    (hcovered : ∀ i, CoveredBy (y :: ys) i → CoveredBy (x :: xs) i) :
    x.start ≤ y.start ∧ (x.start = y.start → y.stop ≤ x.stop) := by
  have hxproper := (hx.within x List.mem_cons_self).proper
  have hyproper := (hy.within y List.mem_cons_self).proper
  constructor
  · have hstart := hcovered y.start ((coveredBy_cons _).mpr (Or.inl ⟨Nat.le_refl _, hyproper⟩))
    rcases (coveredBy_cons _).mp hstart with h | h
    · exact h.1
    · exact Nat.le_of_lt (Nat.lt_trans hxproper (hx.lt_of_tail h))
  · intro hsame
    refine Nat.le_of_not_lt fun hlonger => ?_
    have hstop := hcovered x.stop ((coveredBy_cons _).mpr (Or.inl ⟨by omega, hlonger⟩))
    rcases (coveredBy_cons _).mp hstop with h | h
    · exact Nat.lt_irrefl _ h.2
    · exact Nat.lt_irrefl _ (hx.lt_of_tail h)

/-- Ranges in the order of a file and apart from each other are known by what they cover. -/
theorem Spread.ext {size : Nat} {xs ys : List ByteRange} (hxs : Spread size xs) (hys : Spread size ys)
    (h : ∀ i, CoveredBy xs i ↔ CoveredBy ys i) : xs = ys := by
  have hempty : ∀ {r rest}, Spread size (r :: rest) → ∃ i, CoveredBy (r :: rest) i := fun {r rest} hr =>
    ⟨r.start, (coveredBy_cons _).mpr (Or.inl ⟨Nat.le_refl _, (hr.within r List.mem_cons_self).proper⟩)⟩
  induction xs generalizing ys with
  | nil =>
      cases ys with
      | nil => rfl
      | cons y ys =>
          obtain ⟨i, hi⟩ := hempty hys
          obtain ⟨r, hr, -⟩ := (h i).mpr hi
          cases hr
  | cons x xs ih =>
      cases ys with
      | nil =>
          obtain ⟨i, hi⟩ := hempty hxs
          obtain ⟨r, hr, -⟩ := (h i).mp hi
          cases hr
      | cons y ys =>
          obtain ⟨hstart, hstop⟩ := hxs.bounds_le hys fun i => (h i).mpr
          obtain ⟨hstart', hstop'⟩ := hys.bounds_le hxs fun i => (h i).mp
          have hsame := Nat.le_antisymm hstart hstart'
          have hfirst : x = y := by
            cases x
            cases y
            rw [ByteRange.mk.injEq]
            exact ⟨hsame, Nat.le_antisymm (hstop' hsame.symm) (hstop hsame)⟩
          subst hfirst
          refine congrArg (x :: ·) (ih hxs.tail hys.tail fun i => ?_)
          -- A position that one of the rests covers lies behind the first range.
          have hcons := h i
          rw [coveredBy_cons, coveredBy_cons] at hcons
          constructor
          · intro hi
            have hbehind := hxs.lt_of_tail hi
            exact (hcons.mp (Or.inr hi)).resolve_left fun hx => Nat.lt_asymm hbehind hx.2
          · intro hi
            have hbehind := hys.lt_of_tail hi
            exact (hcons.mpr (Or.inr hi)).resolve_left fun hx => Nat.lt_asymm hbehind hx.2

theorem Within.length_slice {content : List UInt8} {r : ByteRange} (h : r.Within content.length) :
    (r.slice content).length = r.length := by
  have hproper := h.proper
  have hinside := h.inside
  rw [slice, List.length_take, List.length_drop, length]
  omega

/-! ### Joining -/

section Merge

variable {size low : Nat} {current : ByteRange} {ranges : List ByteRange}

theorem within_mergeAfter (hcurrent : current.Within size) (h : ∀ r ∈ ranges, r.Within size) :
    ∀ r ∈ mergeAfter current ranges, r.Within size := by
  induction ranges generalizing current with
  | nil => exact List.forall_mem_singleton.mpr hcurrent
  | cons r rest ih =>
      obtain ⟨hr, hrest⟩ := List.forall_mem_cons.mp h
      rw [mergeAfter]
      split
      · refine ih ⟨?_, ?_⟩ hrest
        · exact Nat.lt_of_lt_of_le hcurrent.proper (Nat.le_max_left _ _)
        · exact Nat.max_le.mpr ⟨hcurrent.inside, hr.inside⟩
      · exact List.forall_mem_cons.mpr ⟨hcurrent, ih hr hrest⟩

/-- Joining ranges moves no beginning to the front. -/
theorem lt_start_of_mem_mergeAfter (hcurrent : low < current.start)
    (h : ∀ r ∈ ranges, low < r.start) : ∀ r ∈ mergeAfter current ranges, low < r.start := by
  induction ranges generalizing current with
  | nil => exact List.forall_mem_singleton.mpr hcurrent
  | cons r rest ih =>
      obtain ⟨hr, hrest⟩ := List.forall_mem_cons.mp h
      rw [mergeAfter]
      split
      · exact ih hcurrent hrest
      · exact List.forall_mem_cons.mpr ⟨hcurrent, ih hr hrest⟩

theorem pairwise_mergeAfter (h : (current :: ranges).Pairwise (·.start ≤ ·.start)) :
    (mergeAfter current ranges).Pairwise Before := by
  induction ranges generalizing current with
  | nil => exact List.pairwise_singleton _ _
  | cons r rest ih =>
      obtain ⟨hfirst, htail⟩ := List.pairwise_cons.mp h
      obtain ⟨hnext, hrest⟩ := List.pairwise_cons.mp htail
      rw [mergeAfter]
      split
      · refine ih (List.pairwise_cons.mpr ⟨fun x hx => ?_, hrest⟩)
        exact hfirst x (List.mem_cons_of_mem _ hx)
      · rename_i hgap
        have hlow : current.stop < r.start := Nat.lt_of_not_le hgap
        refine List.pairwise_cons.mpr ⟨?_, ih htail⟩
        exact lt_start_of_mem_mergeAfter hlow fun x hx => Nat.lt_of_lt_of_le hlow (hnext x hx)

/-- Two ranges of which the second begins in the first or at its end cover what the joined one does. -/
theorem covers_join {a b : ByteRange} (hstart : a.start ≤ b.start) (htouch : b.start ≤ a.stop)
    (i : Nat) : Covers ⟨a.start, max a.stop b.stop⟩ i ↔ a.Covers i ∨ b.Covers i := by
  simp only [Covers]
  omega

/-- Joined ranges cover what they did before. -/
theorem coveredBy_mergeAfter (h : (current :: ranges).Pairwise (·.start ≤ ·.start)) (i : Nat) :
    CoveredBy (mergeAfter current ranges) i ↔ CoveredBy (current :: ranges) i := by
  induction ranges generalizing current with
  | nil => rfl
  | cons r rest ih =>
      obtain ⟨hfirst, htail⟩ := List.pairwise_cons.mp h
      obtain ⟨-, hrest⟩ := List.pairwise_cons.mp htail
      rw [mergeAfter]
      split
      · rename_i htouch
        have hstart := hfirst r List.mem_cons_self
        have hjoined : (ByteRange.mk current.start (max current.stop r.stop) :: rest).Pairwise
            (·.start ≤ ·.start) :=
          List.pairwise_cons.mpr ⟨fun x hx => hfirst x (List.mem_cons_of_mem _ hx), hrest⟩
        rw [ih hjoined, coveredBy_cons, covers_join hstart htouch, coveredBy_cons, coveredBy_cons,
          or_assoc]
      · rw [coveredBy_cons, ih htail]
        exact (coveredBy_cons i).symm

end Merge

/-- Ranges that are put into the order of a file stand in the order of their beginnings. -/
theorem pairwise_mergeSort (ranges : List ByteRange) :
    (ranges.mergeSort comesFirst).Pairwise (·.start ≤ ·.start) := by
  have hsorted : (ranges.mergeSort comesFirst).Pairwise (comesFirst · ·) := by
    apply List.pairwise_mergeSort
    all_goals
      intros
      simp only [comesFirst, Bool.or_eq_true, Bool.and_eq_true, decide_eq_true_eq, beq_iff_eq] at *
      omega
  refine hsorted.imp fun {a b} h => ?_
  simp only [comesFirst, Bool.or_eq_true, Bool.and_eq_true, decide_eq_true_eq, beq_iff_eq] at h
  omega

theorem spread_merge {size : Nat} {ranges : List ByteRange} (h : ∀ r ∈ ranges, r.Within size) :
    Spread size (merge ranges) := by
  have hsorted := pairwise_mergeSort ranges
  have hwithin : ∀ r ∈ ranges.mergeSort comesFirst, r.Within size :=
    fun r hr => h r (List.mem_mergeSort.mp hr)
  rw [merge]
  cases hlist : ranges.mergeSort comesFirst with
  | nil => exact ⟨nofun, .nil⟩
  | cons r rest =>
      rw [hlist] at hsorted hwithin
      obtain ⟨hr, hrest⟩ := List.forall_mem_cons.mp hwithin
      exact ⟨within_mergeAfter hr hrest, pairwise_mergeAfter hsorted⟩

theorem coveredBy_merge (ranges : List ByteRange) (i : Nat) :
    CoveredBy (merge ranges) i ↔ CoveredBy ranges i := by
  have hsorted := pairwise_mergeSort ranges
  have hmem : CoveredBy (ranges.mergeSort comesFirst) i ↔ CoveredBy ranges i := by
    simp only [CoveredBy, List.mem_mergeSort]
  rw [merge, ← hmem]
  cases hlist : ranges.mergeSort comesFirst with
  | nil => rfl
  | cons r rest =>
      rw [hlist] at hsorted
      exact coveredBy_mergeAfter hsorted i

/-! ### Reading a header -/

section Read

variable {size : Nat}

/-- No part of a header asks for more than the file. -/
theorem le_of_bounds? {part : Text} {start stop : Int} (h : bounds? size part = some (start, stop)) :
    stop ≤ size := by
  unfold bounds? at h
  split at h
  · cases h
  · simp only at h
    split at h
    · obtain ⟨n, -, heq⟩ := Option.map_eq_some_iff.mp h
      cases heq
      exact Int.le_refl _
    · split at h
      · cases h
      · split at h
        · cases h
          exact Int.le_refl _
        · obtain ⟨b, -, heq⟩ := Option.map_eq_some_iff.mp h
          cases heq
          split <;> omega

/-- What is asked for is sent if it begins in the file and is not empty. -/
theorem of_checked {asked : List (Int × Int)} {ranges : List ByteRange}
    (h : checked size asked = .ok ranges) :
    (∀ p ∈ asked, 0 ≤ p.1 ∧ p.1 < p.2) ∧
      ranges = merge (asked.map fun (start, stop) => ⟨start.toNat, stop.toNat⟩) := by
  unfold checked at h
  split at h
  · cases h
  split at h
  · cases h
  split at h
  · cases h
  rename_i hinside hproper
  cases h
  refine ⟨fun p hp => ?_, rfl⟩
  have hstart := List.any_eq_false.mp (Bool.not_eq_true _ ▸ hinside) p hp
  have hstop := List.any_eq_false.mp (Bool.not_eq_true _ ▸ hproper) p hp
  simp only [Bool.or_eq_true, decide_eq_true_eq] at hstart hstop
  omega

/-- Ranges are sent if each that is asked for begins in the file and is not empty. -/
theorem exists_checked {asked : List (Int × Int)} (hne : asked ≠ [])
    (h : ∀ p ∈ asked, 0 ≤ p.1 ∧ p.1 < size ∧ p.1 < p.2) :
    ∃ ranges, checked size asked = .ok ranges := by
  have hinside : asked.any (fun (start, _) => start < 0 || (size : Int) ≤ start) = false := by
    refine List.any_eq_false.mpr fun p hp => ?_
    have := h p hp
    simp only [Bool.or_eq_true, decide_eq_true_eq]
    omega
  have hproper : asked.any (fun (start, stop) => stop ≤ start) = false := by
    refine List.any_eq_false.mpr fun p hp => ?_
    have := h p hp
    simp only [decide_eq_true_eq]
    omega
  rw [checked, if_neg hne, hinside, hproper]
  exact ⟨_, rfl⟩

/-- The positions that the parts of a list ask for. -/
def Asked (size : Nat) (parts : List Text) (i : Nat) : Prop :=
  ∃ part ∈ parts, ∃ start stop, bounds? size part = some (start, stop) ∧ start ≤ i ∧ (i : Int) < stop

/-- If a header is not passed over, ranges are sent that cover what its parts ask for. -/
theorem spread_of_checked {parts : List Text} {ranges : List ByteRange}
    (h : checked size (parts.filterMap (bounds? size)) = .ok ranges) :
    Spread size ranges ∧ ∀ i, CoveredBy ranges i ↔ Asked size parts i := by
  obtain ⟨hasked, rfl⟩ := of_checked h
  have hbounds : ∀ p ∈ parts.filterMap (bounds? size), 0 ≤ p.1 ∧ p.1 < p.2 ∧ p.2 ≤ size := by
    intro p hp
    obtain ⟨part, -, hpart⟩ := List.mem_filterMap.mp hp
    obtain ⟨hstart, hstop⟩ := hasked p hp
    exact ⟨hstart, hstop, le_of_bounds? hpart⟩
  constructor
  · refine spread_merge fun r hr => ?_
    obtain ⟨p, hp, rfl⟩ := List.mem_map.mp hr
    have := hbounds p hp
    exact ⟨by dsimp only; omega, by dsimp only; omega⟩
  · intro i
    rw [coveredBy_merge]
    constructor
    · rintro ⟨r, hr, hcovers⟩
      obtain ⟨⟨start, stop⟩, hp, rfl⟩ := List.mem_map.mp hr
      obtain ⟨part, hmem, hpart⟩ := List.mem_filterMap.mp hp
      have := hbounds _ hp
      simp only [Covers] at this hcovers
      exact ⟨part, hmem, start, stop, hpart, by omega, by omega⟩
    · rintro ⟨part, hmem, start, stop, hpart, hstart, hstop⟩
      have hp := List.mem_filterMap.mpr ⟨part, hmem, hpart⟩
      have := hbounds _ hp
      refine ⟨_, List.mem_map.mpr ⟨_, hp, rfl⟩, ?_⟩
      simp only [Covers]
      omega

/-- A header of a list of parts of bytes is passed over or read part by part. -/
theorem read_cases {header : Text} {ranges : List ByteRange} (h : read size header = .ok ranges) :
    ranges = [] ∨ ∃ unit list, Text.cutFirst? '=' header = some (unit, list) ∧
      checked size ((Text.splitOn ',' list).filterMap (bounds? size)) = .ok ranges := by
  unfold read at h
  split at h
  · cases h
  · rename_i unit list hcut
    split at h
    · cases h
    · simp only at h
      split at h
      · cases h
        exact Or.inl rfl
      · exact Or.inr ⟨unit, list, hcut, h⟩

theorem spread_of_read {header : Text} {ranges : List ByteRange} (h : read size header = .ok ranges) :
    Spread size ranges := by
  rcases read_cases h with rfl | ⟨unit, list, -, hchecked⟩
  · exact ⟨nofun, .nil⟩
  · exact (spread_of_checked hchecked).1

end Read

end ByteRange

/-! ### Entries -/

/-- An entry of a list of ranges, by the digits of its numbers: the bytes from a first to a last one,
those from a first one onwards, or so many at the end. -/
inductive RangeEntry where
  | between (first last : Text)
  | onward (first : Text)
  | final (count : Text)
  deriving DecidableEq, Repr

namespace RangeEntry

open Text ByteRange

def text : RangeEntry → Text
  | between first last => first ++ '-' :: last
  | onward first => first ++ ['-']
  | final count => '-' :: count

/-- The digits of the numbers in an entry. -/
def numerals : RangeEntry → List Text
  | between first last => [first, last]
  | onward first => [first]
  | final count => [count]

/-- Whether the numbers of an entry name some bytes of a file of the given size. -/
def Fits (size : Nat) : RangeEntry → Prop
  | between first last => natOfDigits first ≤ natOfDigits last ∧ natOfDigits first < size
  | onward first => natOfDigits first < size
  | final count => 1 ≤ natOfDigits count ∧ natOfDigits count ≤ size

/-- An entry in decimal digits that names some bytes of a file. -/
structure Proper (size : Nat) (e : RangeEntry) : Prop where
  digits : ∀ t ∈ e.numerals, t.IsNumeral
  fits : e.Fits size

/-- Whether all numbers of an entry have as many digits at most as are read. -/
def Short (e : RangeEntry) : Prop :=
  ∀ t ∈ e.numerals, t.length ≤ Number.maxDigits

instance (size : Nat) : (e : RangeEntry) → Decidable (e.Fits size)
  | between _ _ => inferInstanceAs (Decidable (_ ∧ _))
  | onward _ => inferInstanceAs (Decidable (_ < _))
  | final _ => inferInstanceAs (Decidable (_ ∧ _))

instance (size : Nat) (e : RangeEntry) : Decidable (e.Proper size) :=
  decidable_of_iff ((∀ t ∈ e.numerals, t.IsNumeral) ∧ e.Fits size)
    ⟨fun h => ⟨h.1, h.2⟩, fun h => ⟨h.digits, h.fits⟩⟩

instance (e : RangeEntry) : Decidable e.Short :=
  inferInstanceAs (Decidable (∀ t ∈ e.numerals, t.length ≤ Number.maxDigits))

/-- Whether an entry names a position of a file. -/
def Names (size : Nat) (e : RangeEntry) (i : Nat) : Prop :=
  i < size ∧ match e with
    | between first last => natOfDigits first ≤ i ∧ i ≤ natOfDigits last
    | onward first => natOfDigits first ≤ i
    | final count => size - natOfDigits count ≤ i

instance (size : Nat) (e : RangeEntry) (i : Nat) : Decidable (e.Names size i) :=
  match e with
  | between _ _ => inferInstanceAs (Decidable (_ ∧ _ ∧ _))
  | onward _ => inferInstanceAs (Decidable (_ ∧ _))
  | final _ => inferInstanceAs (Decidable (_ ∧ _))

/-- The header that asks for some entries. -/
def header (entries : List RangeEntry) : Text :=
  "bytes=".toList ++ joinWith [','] (entries.map text)

variable {size : Nat} {e : RangeEntry}

/-- What is asked for by an entry from a first byte on. -/
theorem bounds?_of_first {first rest : Text} (hfirst : first.IsNumeral)
    (hshort : first.length ≤ Number.maxDigits) :
    bounds? size (first ++ '-' :: rest) =
      if rest.strip = [] then some ((natOfDigits first : Int), (size : Int))
      else (Number.readInt? rest.strip).map fun last =>
        ((natOfDigits first : Int), if last < (size : Int) then last + 1 else (size : Int)) := by
  rw [bounds?, cutFirst?_append_cons (hfirst.not_mem (by decide))]
  simp only [Number.strip_of_isNumeral hfirst, if_neg hfirst.notEmpty,
    Number.readInt?_of_isNumeral hfirst, if_pos hshort]

/-- An entry from a first byte on asks for nothing if the number of this byte is too long. -/
theorem bounds?_of_long {first rest : Text} (hfirst : first.IsNumeral)
    (hlong : ¬ first.length ≤ Number.maxDigits) : bounds? size (first ++ '-' :: rest) = none := by
  rw [bounds?, cutFirst?_append_cons (hfirst.not_mem (by decide))]
  simp only [Number.strip_of_isNumeral hfirst, if_neg hfirst.notEmpty,
    Number.readInt?_of_isNumeral hfirst, if_neg hlong]

/-- A proper entry whose numbers are short enough asks for what it names. -/
theorem bounds?_text (h : e.Proper size) (hshort : e.Short) :
    ∃ start stop, bounds? size e.text = some (start, stop) ∧
      (0 ≤ start ∧ start < size ∧ start < stop) ∧
        ∀ i : Nat, start ≤ i ∧ (i : Int) < stop ↔ e.Names size i := by
  have hfits := h.fits
  cases e with
  | between first last =>
      have hfirst := h.digits first List.mem_cons_self
      have hlast := h.digits last (List.mem_cons_of_mem _ (List.mem_singleton_self _))
      have hlastShort := hshort last (List.mem_cons_of_mem _ (List.mem_singleton_self _))
      rw [text, bounds?_of_first hfirst (hshort first List.mem_cons_self),
        Number.strip_of_isNumeral hlast, if_neg hlast.notEmpty, Number.readInt?_of_isNumeral hlast,
        if_pos hlastShort]
      simp only [Fits] at hfits
      refine ⟨_, _, rfl, ⟨by omega, by omega, by split <;> omega⟩, fun i => ?_⟩
      simp only [Names]
      split <;> omega
  | onward first =>
      have hfirst := h.digits first (List.mem_singleton_self _)
      rw [text, bounds?_of_first hfirst (hshort first (List.mem_singleton_self _))]
      simp only [Fits] at hfits
      refine ⟨_, _, rfl, by omega, fun i => ?_⟩
      simp only [Names]
      omega
  | final count =>
      have hcount := h.digits count (List.mem_singleton_self _)
      rw [text, bounds?, cutFirst?, if_pos rfl]
      simp only [Number.strip_of_isNumeral hcount, Number.readInt?_of_isNumeral hcount,
        if_pos (hshort count (List.mem_singleton_self _))]
      simp only [Fits] at hfits
      refine ⟨_, _, rfl, by omega, fun i => ?_⟩
      simp only [Names]
      omega

/-- An entry with a number that is too long asks for nothing. -/
theorem bounds?_of_not_short (h : ∀ t ∈ e.numerals, t.IsNumeral) (hlong : ¬ e.Short) :
    bounds? size e.text = none := by
  cases e with
  | between first last =>
      have hfirst := h first List.mem_cons_self
      have hlast := h last (List.mem_cons_of_mem _ (List.mem_singleton_self _))
      by_cases hshort : first.length ≤ Number.maxDigits
      · have hlastLong : ¬ last.length ≤ Number.maxDigits := fun hlastShort =>
          hlong (List.forall_mem_cons.mpr ⟨hshort, List.forall_mem_singleton.mpr hlastShort⟩)
        rw [text, bounds?_of_first hfirst hshort, Number.strip_of_isNumeral hlast, if_neg hlast.notEmpty,
          Number.readInt?_of_isNumeral hlast, if_neg hlastLong]
        rfl
      · exact bounds?_of_long hfirst hshort
  | onward first =>
      exact bounds?_of_long (h first (List.mem_singleton_self _))
        fun hshort => hlong (List.forall_mem_singleton.mpr hshort)
  | final count =>
      have hcount := h count (List.mem_singleton_self _)
      have hcountLong : ¬ count.length ≤ Number.maxDigits := fun hshort =>
        hlong (List.forall_mem_singleton.mpr hshort)
      rw [text, bounds?, cutFirst?, if_pos rfl]
      simp only [Number.strip_of_isNumeral hcount, Number.readInt?_of_isNumeral hcount,
        if_neg hcountLong]
      rfl

theorem comma_not_mem_text (h : ∀ t ∈ e.numerals, t.IsNumeral) : ',' ∉ e.text := by
  have hdigits : ∀ t ∈ e.numerals, ',' ∉ t := fun t ht => (h t ht).not_mem (by decide)
  cases e with
  | between first last => simp_all [text, numerals]
  | onward first => simp_all [text, numerals]
  | final count => simp_all [text, numerals]

variable {entries : List RangeEntry}

/-- A header that asks for some entries is read entry by entry, unless there are too many. -/
theorem read_header (hne : entries ≠ []) (h : ∀ e ∈ entries, e.Proper size) :
    ByteRange.read size (header entries) =
      if maxParts < entries.length then .ok []
      else checked size ((entries.map text).filterMap (bounds? size)) := by
  have hunit : header entries = "bytes".toList ++ '=' :: joinWith [','] (entries.map text) := rfl
  have hsplit : splitOn ',' (joinWith [','] (entries.map text)) = entries.map text := by
    refine splitOn_joinWith (by simpa using hne) fun part hpart => ?_
    obtain ⟨e, he, rfl⟩ := List.mem_map.mp hpart
    exact comma_not_mem_text (h e he).digits
  have hbytes : lower (strip "bytes".toList) = "bytes".toList := by decide +kernel
  rw [ByteRange.read, hunit, cutFirst?_append_cons (by decide)]
  simp only [hbytes, ne_eq, not_true_eq_false, if_false, hsplit, List.length_map]

/-- What is asked for by proper entries is what those of them name that have no number too long. -/
theorem asked_iff (h : ∀ e ∈ entries, e.Proper size) (i : Nat) :
    Asked size (entries.map text) i ↔ ∃ e ∈ entries, e.Short ∧ e.Names size i := by
  constructor
  · rintro ⟨part, hpart, start, stop, hbounds, hi⟩
    obtain ⟨e, he, rfl⟩ := List.mem_map.mp hpart
    have hshort : e.Short := by
      refine Classical.byContradiction fun hlong => ?_
      rw [bounds?_of_not_short (h e he).digits hlong] at hbounds
      cases hbounds
    obtain ⟨start', stop', hbounds', -, hnames⟩ := bounds?_text (h e he) hshort
    rw [hbounds] at hbounds'
    cases hbounds'
    exact ⟨e, he, hshort, (hnames i).mp hi⟩
  · rintro ⟨e, he, hshort, hnames⟩
    obtain ⟨start, stop, hbounds, -, hi⟩ := bounds?_text (h e he) hshort
    exact ⟨e.text, List.mem_map_of_mem he, start, stop, hbounds, (hi i).mpr hnames⟩

/-- The positions that are sent for a list of proper entries are those that the entries with no number
too long name. -/
theorem coveredBy_iff_of_read (h : ∀ e ∈ entries, e.Proper size) {ranges : List ByteRange}
    (hread : ByteRange.read size (header entries) = .ok ranges) (hranges : ranges ≠ []) (i : Nat) :
    CoveredBy ranges i ↔ ∃ e ∈ entries, e.Short ∧ e.Names size i := by
  have hne : entries ≠ [] := by
    rintro rfl
    have hempty : ByteRange.read size (header []) = .error .nothingRequested := rfl
    rw [hempty] at hread
    cases hread
  rw [read_header hne h] at hread
  split at hread
  · cases hread
    exact absurd rfl hranges
  · rw [(spread_of_checked hread).2, asked_iff h]

/-- Something is sent for a list of proper entries that is not too long, unless each of them has too long
a number. -/
theorem exists_read_header (h : ∀ e ∈ entries, e.Proper size) (hlength : entries.length ≤ maxParts)
    (hshort : ∃ e ∈ entries, e.Short) :
    ∃ ranges, ByteRange.read size (header entries) = .ok ranges ∧ ranges ≠ [] := by
  obtain ⟨e, he, hfew⟩ := hshort
  obtain ⟨start, stop, hbounds, hbetween, hnames⟩ := bounds?_text (h e he) hfew
  have hasked : (start, stop) ∈ (entries.map text).filterMap (bounds? size) :=
    List.mem_filterMap.mpr ⟨e.text, List.mem_map_of_mem he, hbounds⟩
  have hall : ∀ p ∈ (entries.map text).filterMap (bounds? size), 0 ≤ p.1 ∧ p.1 < size ∧ p.1 < p.2 := by
    intro p hp
    obtain ⟨part, hpart, hp⟩ := List.mem_filterMap.mp hp
    obtain ⟨e', he', rfl⟩ := List.mem_map.mp hpart
    by_cases hfew' : e'.Short
    · obtain ⟨start', stop', hbounds', hbetween', -⟩ := bounds?_text (h e' he') hfew'
      rw [hbounds'] at hp
      cases hp
      exact hbetween'
    · rw [bounds?_of_not_short (h e' he').digits hfew'] at hp
      cases hp
  obtain ⟨ranges, hread⟩ := exists_checked (List.ne_nil_of_mem hasked) hall
  have hheader := read_header (List.ne_nil_of_mem he) h
  rw [if_neg (Nat.not_lt.mpr hlength), hread] at hheader
  refine ⟨ranges, hheader, ?_⟩
  rintro rfl
  have hstart : e.Names size start.toNat := (hnames _).mp (by omega)
  obtain ⟨r, hr, -⟩ := ((spread_of_checked hread).2 _).mpr ((asked_iff h _).mpr ⟨e, he, hfew, hstart⟩)
  cases hr

end RangeEntry

end StaticSite
