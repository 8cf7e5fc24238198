import StaticSite.Proofs.WireText
import StaticSite.Site.FileResponse

/-! The values of the headers that a site writes. Numbers, digests, dates, kinds of content and
locations are printable and begin and end with a visible character, so that a client reads them as
they were written. -/

namespace StaticSite

namespace Wire

/-- Whether a character is visible or a space. -/
def isPrintable (c : Char) : Bool :=
  isVisible c || c == ' '

/-- Whether a text is printable and, unless it is empty, visible at both ends. -/
def isPrinted (t : Text) : Bool :=
  t.all isPrintable && t.head?.all isVisible && t.getLast?.all isVisible

theorem isPrinted_iff {t : Text} :
    isPrinted t = true ↔
      (∀ c ∈ t, isPrintable c = true) ∧ (∀ c ∈ t.head?, isVisible c = true) ∧
        ∀ c ∈ t.getLast?, isVisible c = true := by
  rw [isPrinted, Bool.and_eq_true, Bool.and_eq_true, List.all_eq_true, and_assoc]
  cases t.head? <;> cases t.getLast? <;> simp

theorem isPrintable_of_isVisible {c : Char} (h : isVisible c = true) : isPrintable c = true := by
  rw [isPrintable, h, Bool.true_or]

theorem printable_of_visible {t : Text} (h : t.all isVisible = true) : t.all isPrintable = true := by
  rw [List.all_eq_true] at h ⊢
  exact fun c hc => isPrintable_of_isVisible (h c hc)

/-- Visible characters alone are printed at all events. -/
theorem isPrinted_of_visible {t : Text} (h : t.all isVisible = true) : isPrinted t = true := by
  rw [List.all_eq_true] at h
  refine isPrinted_iff.mpr ⟨fun c hc => ?_, fun c hc => ?_, fun c hc => ?_⟩
  · exact isPrintable_of_isVisible (h c hc)
  · exact h c (List.mem_of_mem_head? hc)
  · exact h c (List.mem_of_mem_getLast? hc)

theorem isPrinted_append {s t : Text} (hs : isPrinted s = true) (ht : isPrinted t = true) :
    isPrinted (s ++ t) = true := by
  obtain ⟨hsall, hsfirst, hslast⟩ := isPrinted_iff.mp hs
  obtain ⟨htall, htfirst, htlast⟩ := isPrinted_iff.mp ht
  refine isPrinted_iff.mpr ⟨fun c hc => ?_, fun c hc => ?_, fun c hc => ?_⟩
  · rcases List.mem_append.mp hc with hc | hc
    · exact hsall c hc
    · exact htall c hc
  · rw [List.head?_append, Option.mem_def, Option.or_eq_some_iff] at hc
    rcases hc with hc | ⟨-, hc⟩
    · exact hsfirst c hc
    · exact htfirst c hc
  · rw [List.getLast?_append, Option.mem_def, Option.or_eq_some_iff] at hc
    rcases hc with hc | ⟨-, hc⟩
    · exact htlast c hc
    · exact hslast c hc

/-- Between printed texts there may be spaces. -/
theorem isPrinted_between {s t : Text} (hs : isPrinted s = true) (ht : isPrinted t = true)
    (hsne : s ≠ []) (htne : t ≠ []) {m : Text} (hm : m.all isPrintable = true) :
    isPrinted (s ++ m ++ t) = true := by
  obtain ⟨hsall, hsfirst, -⟩ := isPrinted_iff.mp hs
  obtain ⟨htall, -, htlast⟩ := isPrinted_iff.mp ht
  refine isPrinted_iff.mpr ⟨fun c hc => ?_, fun c hc => hsfirst c ?_, fun c hc => htlast c ?_⟩
  · rcases List.mem_append.mp hc with hc | hc
    · rcases List.mem_append.mp hc with hc | hc
      · exact hsall c hc
      · exact List.all_eq_true.mp hm c hc
    · exact htall c hc
  · obtain ⟨first, rest, rfl⟩ := List.exists_cons_of_ne_nil hsne
    exact hc
  · rwa [List.getLast?_append, List.getLast?_eq_some_getLast htne, Option.some_or,
      ← List.getLast?_eq_some_getLast htne] at hc

/-! ### Printed values -/

theorem toNat_of_isPrintable {c : Char} (h : isPrintable c = true) :
    0x20 ≤ c.toNat ∧ c.toNat ≤ 0x7e := by
  simp only [isPrintable, isVisible, Bool.or_eq_true, Bool.and_eq_true, decide_eq_true_eq,
    beq_iff_eq] at h
  rcases h with h | rfl
  · omega
  · decide

theorem isValueChar_of_isPrintable {c : Char} (h : isPrintable c = true) :
    isValueChar c = true := by
  have hbounds := toNat_of_isPrintable h
  have hforbidden : forbidden.all (fun d => d.toNat < 0x20 || 0x7e < d.toNat) = true := by decide
  rw [isValueChar, Bool.not_eq_true', ← Bool.not_eq_true, List.contains_iff_mem]
  intro hmem
  have hd := List.all_eq_true.mp hforbidden c hmem
  simp only [Bool.or_eq_true, decide_eq_true_eq] at hd
  omega

theorem isLineBlank_of_isVisible {c : Char} (h : isVisible c = true) : isLineBlank c = false := by
  rw [← Bool.not_eq_true]
  simp only [isLineBlank, Bool.or_eq_true, beq_iff_eq]
  rintro (rfl | rfl) <;> exact absurd h (by decide)

theorem dropWhile_of_visible {t : Text} (h : ∀ c ∈ t.head?, isVisible c = true) :
    t.dropWhile isLineBlank = t := by
  cases t with
  | nil => rfl
  | cons c rest =>
      rw [List.dropWhile_cons, isLineBlank_of_isVisible (h c rfl), if_neg Bool.false_ne_true]

/-- A printed text may be the value of a header. -/
theorem isValue_of_isPrinted {t : Text} (h : isPrinted t = true) : IsValue t := by
  obtain ⟨hall, hfirst, hlast⟩ := isPrinted_iff.mp h
  refine ⟨fun c hc => ?_, ?_, ?_⟩
  · have := toNat_of_isPrintable (hall c hc)
    omega
  · exact List.all_eq_true.mpr fun c hc => isValueChar_of_isPrintable (hall c hc)
  · have hreverse : t.reverse.dropWhile isLineBlank = t.reverse :=
      dropWhile_of_visible (by rwa [List.head?_reverse])
    rw [Text.trim, dropWhile_of_visible hfirst, Text.trimEnd, hreverse, List.reverse_reverse]

/-! ### Headers -/

theorem areHeaders_nil : AreHeaders [] :=
  fun _ h => absurd h List.not_mem_nil

theorem AreHeaders.cons {headers : Headers} (h : AreHeaders headers) {name value : Text}
    (hname : isRun isTokenChar name = true) (hvalue : isPrinted value = true) :
    AreHeaders ((name, value) :: headers) :=
  List.forall_mem_cons.mpr ⟨⟨isName_of_isRun hname, isValue_of_isPrinted hvalue⟩, h⟩

theorem AreHeaders.append {first last : Headers} (hfirst : AreHeaders first)
    (hlast : AreHeaders last) : AreHeaders (first ++ last) := by
  intro h hh
  rcases List.mem_append.mp hh with hh | hh
  · exact hfirst h hh
  · exact hlast h hh

end Wire

open Wire

/-! ### Digits -/

theorem isVisible_digitChar (n : Nat) : isVisible n.digitChar = true := by
  by_cases h : n < 16
  · have hdigits : (List.range 16).all (fun d => isVisible d.digitChar) = true := by decide
    exact List.all_eq_true.mp hdigits n (List.mem_range.mpr h)
  · rw [Nat.digitChar_eq_star.mpr (Nat.le_of_not_lt h)]
    decide

theorem visible_toDigitsCore (base fuel n : Nat) {digits : Text} (h : digits.all isVisible = true) :
    (Nat.toDigitsCore base fuel n digits).all isVisible = true := by
  induction fuel generalizing n digits with
  | zero => exact h
  | succ fuel ih =>
      have hnext : ((n % base).digitChar :: digits).all isVisible = true := by
        rw [List.all_cons, isVisible_digitChar, h, Bool.and_self]
      rw [Nat.toDigitsCore]
      split
      · exact hnext
      · exact ih _ hnext

namespace Text

theorem visible_ofNat (n : Nat) : (ofNat n).all isVisible = true :=
  visible_toDigitsCore 10 (n + 1) n rfl

theorem ofNat_ne_nil (n : Nat) : ofNat n ≠ [] :=
  Nat.toDigits_ne_nil

/-- A number that is written in decimal is read as it was. -/
theorem natOfDigits_ofNat (n : Nat) : natOfDigits (ofNat n) = n := by
  induction n using Nat.strongRecOn with
  | ind n ih =>
      rw [ofNat, Nat.toDigits_eq_if (by decide)]
      split
      · rename_i hsmall
        rw [natOfDigits, List.foldl_cons, List.foldl_nil, Nat.toNat_digitChar_sub_48_of_lt_ten hsmall]
        omega
      · have hlast : n % 10 < 10 := Nat.mod_lt n (by decide)
        have hbefore : natOfDigits (Nat.toDigits 10 (n / 10)) = n / 10 := ih (n / 10) (by omega)
        rw [natOfDigits] at hbefore
        rw [natOfDigits, List.foldl_append, hbefore, List.foldl_cons, List.foldl_nil,
          Nat.toNat_digitChar_sub_48_of_lt_ten hlast]
        omega

theorem visible_digitsIn (base width n : Nat) : (digitsIn base width n).all isVisible = true := by
  have hzeros : ∀ count : Nat, (List.replicate count '0').all isVisible = true := by
    intro count
    rw [List.all_eq_true]
    intro c hc
    rw [(List.mem_replicate.mp hc).2]
    decide
  rw [digitsIn, List.all_append, hzeros, Bool.true_and]
  exact visible_toDigitsCore base (n + 1) n rfl

end Text

theorem Md5.visible_hexDigest (bytes : List UInt8) : (hexDigest bytes).all isVisible = true := by
  rw [hexDigest, List.all_flatMap, List.all_eq_true]
  exact fun b _ => Text.visible_digitsIn 16 2 b.toNat

/-! ### Locations -/

theorem Percent.isVisible_hexDigit {n : Nat} (h : n < 16) : isVisible (hexDigit n) = true := by
  have hdigits : (List.range 16).all (fun d => isVisible (hexDigit d)) = true := by decide
  exact List.all_eq_true.mp hdigits n (List.mem_range.mpr h)

/-- An octet is coded unless its character is visible. -/
theorem Percent.visible_encodeOctet (b : UInt8) :
    (encodeOctet Url.isKeptInLocation b).all isVisible = true := by
  have hbyte : b.toNat < 256 := b.toNat_lt
  simp only [encodeOctet]
  split
  · rename_i hkept
    obtain ⟨hsmall, hkept⟩ := hkept
    have hchars : (List.range 128).all (fun n =>
        !(isUnreserved (Char.ofNat n) || Url.isKeptInLocation (Char.ofNat n)) ||
          isVisible (Char.ofNat n)) = true := by decide
    have hrange : b.toNat ∈ List.range 128 := List.mem_range.mpr (UInt8.lt_iff_toNat_lt.mp hsmall)
    have hchar := List.all_eq_true.mp hchars b.toNat hrange
    rw [Bool.or_eq_true, Bool.not_eq_true', Bool.or_eq_false_iff] at hchar
    rw [List.all_cons, List.all_nil, Bool.and_true]
    rcases hchar with ⟨hunreserved, hlocation⟩ | hvisible
    · rw [hunreserved, hlocation] at hkept
      simp at hkept
    · exact hvisible
  · rw [List.all_cons, List.all_cons, List.all_cons, isVisible_hexDigit (by omega),
      isVisible_hexDigit (by omega)]
    decide

theorem Url.visible_location (t : Text) : (location t).all isVisible = true := by
  rw [location, Percent.encode, List.all_flatMap, List.all_eq_true]
  exact fun b _ => Percent.visible_encodeOctet b

/-! ### Files -/

theorem ContentType.isPrinted_ofName (name : Text) : isPrinted (ofName name) = true := by
  have htable : table.all (fun kind => isPrinted kind.1.toList) = true := by decide +kernel
  have hunknown : isPrinted unknown = true := by decide
  have hextension : ∀ extension, isPrinted (ofExtension extension) = true := by
    intro extension
    unfold ofExtension
    split
    · rename_i kind extensions hfind
      exact List.all_eq_true.mp htable _ (List.mem_of_find?_eq_some hfind)
    · exact hunknown
  unfold ofName
  split
  · exact hextension _
  · exact hunknown

theorem ContentType.isPrinted_header (name : Text) : isPrinted (header name) = true := by
  simp only [header]
  split
  · exact isPrinted_append (isPrinted_ofName name) (by decide)
  · exact isPrinted_ofName name

theorem ByteRange.isPrinted_header (r : ByteRange) (size : Nat) : isPrinted (r.header size) = true := by
  have hstart := Text.visible_ofNat r.start
  have hend := Text.visible_ofNat (r.stop - 1)
  have hsize := isPrinted_of_visible (Text.visible_ofNat size)
  have hne := Text.ofNat_ne_nil size
  unfold header
  generalize Text.ofNat r.start = start at *
  generalize Text.ofNat (r.stop - 1) = stop at *
  generalize Text.ofNat size = total at *
  have hbounds : "bytes ".toList ++ start ++ ['-'] ++ stop ++ ['/'] ++ total =
      "bytes".toList ++ ([' '] ++ (start ++ ['-'] ++ stop ++ ['/'])) ++ total := by
    simp
  have hvisible : (start ++ ['-'] ++ stop ++ ['/']).all isVisible = true := by
    simp only [List.all_append, hstart, hend]
    decide
  have hmiddle : ([' '] ++ (start ++ ['-'] ++ stop ++ ['/'])).all isPrintable = true := by
    rw [List.all_append, printable_of_visible hvisible]
    decide
  rw [hbounds]
  exact isPrinted_between (by decide) hsize (by simp) hne hmiddle

/-- The names in a date are visible. -/
theorem HttpDate.visible_getD {names : List Text} (h : names.all (·.all isVisible) = true) (i : Nat) :
    (names.getD i []).all isVisible = true := by
  rw [List.getD_eq_getElem?_getD]
  cases hname : names[i]? with
  | none => rfl
  | some name => exact List.all_eq_true.mp h name (List.mem_of_getElem? hname)

/-- A date is the name of a day with a comma, a middle in which there are spaces, and the zone. -/
theorem HttpDate.exists_render_eq (n : Int) :
    ∃ day middle : Text, render n = day ++ [','] ++ middle ++ "GMT".toList ∧
      day.all isVisible = true ∧ middle.all isPrintable = true := by
  have hmonths : monthNames.all (·.all isVisible) = true := by decide
  have hmonth : ∀ i, (monthNames.getD i []).all isPrintable = true :=
    fun i => printable_of_visible (visible_getD hmonths i)
  have hdigits : ∀ width k, (Text.digitsIn 10 width k).all isPrintable = true :=
    fun width k => printable_of_visible (Text.visible_digitsIn 10 width k)
  refine ⟨dayNames.getD (weekday (n / 86400)) [],
    [' '] ++ twoDigits (ClockTime.ofSeconds n).day ++ [' '] ++
      monthNames.getD ((ClockTime.ofSeconds n).month - 1).toNat [] ++ [' '] ++
      Text.digitsIn 10 4 (ClockTime.ofSeconds n).year.toNat ++ [' '] ++
      twoDigits (ClockTime.ofSeconds n).hour ++ [':'] ++
      twoDigits (ClockTime.ofSeconds n).minute ++ [':'] ++
      twoDigits (ClockTime.ofSeconds n).second ++ [' '], ?_, visible_getD (by decide) _, ?_⟩
  · simp [render]
  · simp only [List.all_append, twoDigits, hdigits, hmonth, Bool.and_true]
    decide

theorem HttpDate.isPrinted_render (n : Int) : isPrinted (render n) = true := by
  obtain ⟨day, middle, hrender, hday, hmiddle⟩ := exists_render_eq n
  have hbegin : isPrinted (day ++ [',']) = true :=
    isPrinted_append (isPrinted_of_visible hday) (by decide)
  rw [hrender]
  exact isPrinted_between hbegin (by decide) (by simp) (by simp) hmiddle

theorem Validator.printed_of_ofFile {modified : Int} {size : Nat} {v : Validator}
    (h : ofFile modified size = .ok v) : v.tag.all isVisible = true ∧ isPrinted v.time = true := by
  unfold ofFile timeText at h
  simp only at h
  split at h
  · cases h
    constructor
    · simp only [List.all_cons, List.all_append, Md5.visible_hexDigest]
      decide
    · exact HttpDate.isPrinted_render _
  · cases h

/-- What the description of a file gives as headers is printed. -/
structure FileResponse.Description.Printed (d : Description) : Prop where
  kind : isPrinted d.kind = true
  tag : d.validator.tag.all isVisible = true
  time : isPrinted d.validator.time = true

end StaticSite
