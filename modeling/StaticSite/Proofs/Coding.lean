import Mathlib.Tactic.IntervalCases
import StaticSite.Proofs.Cuts
import StaticSite.Text.Percent

/-! Coding a text and reading it again. A text in UTF-8 is read as it was; so is a text that was
percent-coded, whatever its characters are, if the percent sign itself was coded. Where that sign is
kept, a text is read again that holds no code of its own. -/

namespace StaticSite

namespace Utf8

theorem encode_append (s t : Text) : encode (s ++ t) = encode s ++ encode t :=
  List.flatMap_append

theorem encode_cons (c : Char) (t : Text) : encode (c :: t) = String.utf8EncodeChar c ++ encode t :=
  List.flatMap_cons

theorem toNat_byte {n : Nat} (h : n < 256) : (UInt8.ofNat n).toNat = n :=
  UInt8.toNat_ofNat_of_lt h

theorem utf8EncodeChar_ascii {c : Char} (h : c.toNat < 0x80) :
    String.utf8EncodeChar c = [UInt8.ofNat c.toNat] := by
  have hval : c.val.toNat ≤ 0x7f := Nat.le_of_lt_succ h
  simp only [String.utf8EncodeChar, if_pos hval]
  rfl

/-- All bytes of another character lie outside of ASCII. -/
theorem le_of_mem_utf8EncodeChar {c : Char} (h : ¬ c.toNat < 0x80) {b : UInt8}
    (hb : b ∈ String.utf8EncodeChar c) : 0x80 ≤ b := by
  have hval : c.val.toNat = c.toNat := rfl
  have hle : ∀ n, 0x80 ≤ n → n < 256 → (0x80 : UInt8) ≤ UInt8.ofNat n := by
    intro n hlow hhigh
    rw [UInt8.le_iff_toNat_le, toNat_byte hhigh]
    exact hlow
  simp only [String.utf8EncodeChar, hval] at hb
  generalize c.toNat = v at h hb
  split at hb
  · omega
  split at hb
  · simp only [List.mem_cons, List.not_mem_nil, or_false] at hb
    rcases hb with rfl | rfl <;> exact hle _ (by omega) (by omega)
  split at hb
  · simp only [List.mem_cons, List.not_mem_nil, or_false] at hb
    rcases hb with rfl | rfl | rfl <;> exact hle _ (by omega) (by omega)
  · simp only [List.mem_cons, List.not_mem_nil, or_false] at hb
    rcases hb with rfl | rfl | rfl | rfl <;> exact hle _ (by omega) (by omega)

/-! ### The first byte of a character -/

theorem lead_one {n : Nat} (h : n < 0x80) : lead (UInt8.ofNat n) = .char (Char.ofNat n) := by
  have hbyte : (UInt8.ofNat n).toNat = n := toNat_byte (by omega)
  rw [lead, if_pos (by rwa [UInt8.lt_iff_toNat_lt, hbyte]), hbyte]

theorem lead_two {n : Nat} (hlow : 0xc2 ≤ n) (hhigh : n < 0xe0) :
    lead (UInt8.ofNat n) = .pending ⟨[UInt8.ofNat n], 1, 0x80, 0xbf, n - 0xc0⟩ := by
  have hbyte : (UInt8.ofNat n).toNat = n := toNat_byte (by omega)
  have hfirst : ¬ UInt8.ofNat n < 0x80 := by
    rw [UInt8.lt_iff_toNat_lt, hbyte]
    exact Nat.not_lt.mpr (Nat.le_trans (by decide) hlow)
  have hsecond : ¬ UInt8.ofNat n < 0xc2 := by
    rw [UInt8.lt_iff_toNat_lt, hbyte]
    exact Nat.not_lt.mpr hlow
  have hthird : UInt8.ofNat n < 0xe0 := by
    rwa [UInt8.lt_iff_toNat_lt, hbyte]
  rw [lead, if_neg hfirst, if_neg hsecond, if_pos hthird, hbyte]

/-- The second of three bytes is bounded so that nothing is spelled too long, and no surrogate. -/
theorem lead_three {n : Nat} (hlow : 0xe0 ≤ n) (hhigh : n < 0xf0) :
    ∃ low high, lead (UInt8.ofNat n) = .pending ⟨[UInt8.ofNat n], 2, low, high, n - 0xe0⟩ ∧
      low.toNat = (if n = 0xe0 then 0xa0 else 0x80) ∧
      high.toNat = if n = 0xed then 0x9f else 0xbf := by
  interval_cases n <;> exact ⟨_, _, rfl, rfl, rfl⟩

/-- The second of four is bounded so that nothing is spelled too long or lies behind all characters. -/
theorem lead_four {n : Nat} (hlow : 0xf0 ≤ n) (hhigh : n < 0xf5) :
    ∃ low high, lead (UInt8.ofNat n) = .pending ⟨[UInt8.ofNat n], 3, low, high, n - 0xf0⟩ ∧
      low.toNat = (if n = 0xf0 then 0x90 else 0x80) ∧
      high.toNat = if n = 0xf4 then 0x8f else 0xbf := by
  interval_cases n <;> exact ⟨_, _, rfl, rfl, rfl⟩

/-! ### The bytes after it -/

section

variable {p : Pending} {n : Nat} (hlow : p.low.toNat ≤ n + 0x80) (hhigh : n + 0x80 ≤ p.high.toNat)
  (rest : List UInt8)

include hlow hhigh

/-- A byte within the bounds belongs to the character, which may end with it. -/
theorem pieces_within :
    pieces (some p) (UInt8.ofNat (n + 0x80) :: rest) =
      if p.wanted ≤ 1 then .char (Char.ofNat (64 * p.value + n)) :: pieces none rest
      else pieces (some ⟨p.bytes ++ [UInt8.ofNat (n + 0x80)], p.wanted - 1, 0x80, 0xbf,
        64 * p.value + n⟩) rest := by
  have hbyte : (UInt8.ofNat (n + 0x80)).toNat = n + 0x80 :=
    toNat_byte (Nat.lt_of_le_of_lt hhigh p.high.toNat_lt)
  have hbounds : p.low ≤ UInt8.ofNat (n + 0x80) ∧ UInt8.ofNat (n + 0x80) ≤ p.high := by
    rw [UInt8.le_iff_toNat_le, UInt8.le_iff_toNat_le, hbyte]
    exact ⟨hlow, hhigh⟩
  rw [pieces, if_pos hbounds, hbyte, Nat.add_sub_cancel]

theorem pieces_next (hwanted : 1 < p.wanted) :
    pieces (some p) (UInt8.ofNat (n + 0x80) :: rest) =
      pieces (some ⟨p.bytes ++ [UInt8.ofNat (n + 0x80)], p.wanted - 1, 0x80, 0xbf,
        64 * p.value + n⟩) rest := by
  rw [pieces_within hlow hhigh, if_neg (Nat.not_le.mpr hwanted)]

end

/-- After the second byte there is no bound but that of all such bytes. -/
theorem within_bounds {n : Nat} (h : n < 64) :
    (0x80 : UInt8).toNat ≤ n + 0x80 ∧ n + 0x80 ≤ (0xbf : UInt8).toNat := by
  refine ⟨Nat.le_add_left _ _, ?_⟩
  show n + 0x80 ≤ 0xbf
  omega

theorem pieces_last {bytes : List UInt8} {value n : Nat} (h : n < 64) (rest : List UInt8) :
    pieces (some ⟨bytes, 1, 0x80, 0xbf, value⟩) (UInt8.ofNat (n + 0x80) :: rest) =
      .char (Char.ofNat (64 * value + n)) :: pieces none rest := by
  obtain ⟨hlow, hhigh⟩ := within_bounds h
  rw [pieces_within hlow hhigh, if_pos (Nat.le_refl 1)]

/-! A character of two, three or four bytes, of which the first has the highest digits. -/

theorem pieces_two {a b : Nat} (hlow : 2 ≤ a) (hhigh : a < 0x20) (hb : b < 64) (rest : List UInt8) :
    pieces none (UInt8.ofNat (a + 0xc0) :: UInt8.ofNat (b + 0x80) :: rest) =
      .char (Char.ofNat (64 * a + b)) :: pieces none rest := by
  rw [pieces, lead_two (by omega) (by omega), Nat.add_sub_cancel]
  exact pieces_last hb rest

theorem pieces_three {a b c : Nat} (ha : a < 16) (hb : b < 64) (hc : c < 64)
    (hlow : a = 0 → 0x20 ≤ b) (hhigh : a = 13 → b < 0x20) (rest : List UInt8) :
    pieces none (UInt8.ofNat (a + 0xe0) :: UInt8.ofNat (b + 0x80) :: UInt8.ofNat (c + 0x80) :: rest) =
      .char (Char.ofNat (64 * (64 * a + b) + c)) :: pieces none rest := by
  obtain ⟨low, high, heq, hleast, hmost⟩ := lead_three (n := a + 0xe0) (by omega) (by omega)
  have hsecond : low.toNat ≤ b + 0x80 ∧ b + 0x80 ≤ high.toNat := by
    rw [hleast, hmost]
    constructor <;> split <;> omega
  rw [pieces, heq, Nat.add_sub_cancel]
  show pieces (some _) _ = _
  rw [pieces_next hsecond.1 hsecond.2 _ (by decide : 1 < 2)]
  exact pieces_last hc rest

theorem pieces_four {a b c d : Nat} (ha : a < 5) (hb : b < 64) (hc : c < 64) (hd : d < 64)
    (hlow : a = 0 → 0x10 ≤ b) (hhigh : a = 4 → b < 0x10) (rest : List UInt8) :
    pieces none (UInt8.ofNat (a + 0xf0) :: UInt8.ofNat (b + 0x80) :: UInt8.ofNat (c + 0x80) ::
        UInt8.ofNat (d + 0x80) :: rest) =
      .char (Char.ofNat (64 * (64 * (64 * a + b) + c) + d)) :: pieces none rest := by
  obtain ⟨low, high, heq, hleast, hmost⟩ := lead_four (n := a + 0xf0) (by omega) (by omega)
  have hsecond : low.toNat ≤ b + 0x80 ∧ b + 0x80 ≤ high.toNat := by
    rw [hleast, hmost]
    constructor <;> split <;> omega
  obtain ⟨hthird, hthird'⟩ := within_bounds hc
  rw [pieces, heq, Nat.add_sub_cancel]
  show pieces (some _) _ = _
  rw [pieces_next hsecond.1 hsecond.2 _ (by decide : 1 < 3)]
  show pieces (some ⟨_, 2, _, _, _⟩) _ = _
  rw [pieces_next hthird hthird' _ (by decide : 1 < 2)]
  exact pieces_last hd rest

/-- A character that is spelled is the next piece. -/
theorem pieces_encodeChar (c : Char) (rest : List UInt8) :
    pieces none (String.utf8EncodeChar c ++ rest) = .char c :: pieces none rest := by
  have hchar : Char.ofNat c.toNat = c := Char.ofNat_toNat c
  have hvalid : c.toNat < 0xd800 ∨ 0xdfff < c.toNat ∧ c.toNat < 0x110000 := c.valid
  have hval : c.val.toNat = c.toNat := rfl
  have hlast : c.toNat % 64 < 64 := Nat.mod_lt _ (by decide)
  simp only [String.utf8EncodeChar, hval]
  -- The branches are those of the spelling: one byte, two, three and four.
  generalize c.toNat = v at hchar hvalid hlast
  split
  · rename_i hone
    rw [List.singleton_append, pieces, lead_one (Nat.lt_succ_of_le hone)]
    simp only [hchar]
  split
  · rename_i hone htwo
    have hlead : v / 64 % 32 = v / 64 := by omega
    have hvalue : 64 * (v / 64) + v % 64 = v := by omega
    have hpieces := pieces_two (a := v / 64) (by omega) (by omega) hlast rest
    rw [hvalue, hchar] at hpieces
    rw [hlead]
    exact hpieces
  split
  · rename_i hone htwo hthree
    have hlead : v / 4096 % 16 = v / 4096 := by omega
    have hvalue : 64 * (64 * (v / 4096) + v / 64 % 64) + v % 64 = v := by omega
    have hpieces := pieces_three (a := v / 4096) (b := v / 64 % 64) (by omega) (by omega) hlast
      (by omega) (by omega) rest
    rw [hvalue, hchar] at hpieces
    rw [hlead]
    exact hpieces
  · rename_i hone htwo hthree
    have hlead : v / 262144 % 8 = v / 262144 := by omega
    have hvalue : 64 * (64 * (64 * (v / 262144) + v / 4096 % 64) + v / 64 % 64) + v % 64 = v := by omega
    have hpieces := pieces_four (a := v / 262144) (b := v / 4096 % 64) (c := v / 64 % 64) (by omega)
      (by omega) (by omega) hlast (by omega) (by omega) rest
    rw [hvalue, hchar] at hpieces
    rw [hlead]
    exact hpieces

/-- A text is read as it was written. -/
theorem decodeLossy_encode (t : Text) : decodeLossy (encode t) = t := by
  induction t with
  | nil => rfl
  | cons c t ih =>
      rw [decodeLossy] at ih
      rw [decodeLossy, encode_cons, pieces_encodeChar, List.map_cons, ih]

end Utf8

namespace Percent

/-! ### Coding -/

theorem encode_append (keep : Char → Bool) (s t : Text) :
    encode keep (s ++ t) = encode keep s ++ encode keep t := by
  rw [encode, Utf8.encode_append, List.flatMap_append]
  rfl

theorem encode_cons (keep : Char → Bool) (c : Char) (t : Text) :
    encode keep (c :: t) = encode keep [c] ++ encode keep t :=
  encode_append keep [c] t

/-- Whether a character is written as it is. -/
def isKept (keep : Char → Bool) (c : Char) : Bool :=
  c.toNat < 0x80 && (isUnreserved c || keep c)

variable {keep : Char → Bool}

theorem encode_of_kept {c : Char} (h : isKept keep c = true) : encode keep [c] = [c] := by
  simp only [isKept, Bool.and_eq_true, decide_eq_true_eq, Bool.or_eq_true] at h
  have hbyte : (UInt8.ofNat c.toNat).toNat = c.toNat := Utf8.toNat_byte (by omega)
  have hsmall : UInt8.ofNat c.toNat < 0x80 := by
    rw [UInt8.lt_iff_toNat_lt, hbyte]
    exact h.1
  rw [encode, Utf8.encode_cons, Utf8.utf8EncodeChar_ascii h.1]
  simp only [List.singleton_append, List.flatMap_cons, encodeOctet, hbyte, Char.ofNat_toNat]
  rw [if_pos ⟨hsmall, h.2⟩]
  rfl

/-- A text of such characters is written as it is. -/
theorem encode_eq_self {t : Text} (h : ∀ c ∈ t, isKept keep c = true) : encode keep t = t := by
  induction t with
  | nil => rfl
  | cons c t ih =>
      obtain ⟨hc, ht⟩ := List.forall_mem_cons.mp h
      rw [encode_cons, encode_of_kept hc, ih ht]
      rfl

/-- Any other character is written in codes. -/
theorem encode_of_not_kept {c : Char} (h : isKept keep c = false) :
    encode keep [c] = (String.utf8EncodeChar c).flatMap fun b =>
      ['%', hexDigit (b.toNat / 16), hexDigit (b.toNat % 16)] := by
  have hcoded : ∀ b ∈ String.utf8EncodeChar c,
      encodeOctet keep b = ['%', hexDigit (b.toNat / 16), hexDigit (b.toNat % 16)] := by
    intro b hb
    rw [encodeOctet, if_neg]
    rintro ⟨hsmall, hkeep⟩
    by_cases hascii : c.toNat < 0x80
    · rw [Utf8.utf8EncodeChar_ascii hascii, List.mem_singleton] at hb
      have hbyte : (UInt8.ofNat c.toNat).toNat = c.toNat := Utf8.toNat_byte (by omega)
      rw [hb, hbyte, Char.ofNat_toNat] at hkeep
      have hkept : isKept keep c = true := by simp [isKept, hascii, hkeep]
      rw [h] at hkept
      cases hkept
    · exact absurd (Utf8.le_of_mem_utf8EncodeChar hascii hb) (UInt8.not_le.mpr hsmall)
  rw [encode, Utf8.encode_cons]
  simp only [Utf8.encode, List.flatMap_nil, List.append_nil]
  rw [List.flatMap_def, List.flatMap_def, List.map_congr_left hcoded]

/-! ### Reading codes -/

theorem hexValue?_hexDigit {n : Nat} (h : n < 16) : Text.hexValue? (hexDigit n) = some n := by
  interval_cases n <;> rfl

/-- A code is made of its sign and of digits. -/
theorem digit_of_mem_code {b : UInt8} {c : Char}
    (h : c ∈ ['%', hexDigit (b.toNat / 16), hexDigit (b.toNat % 16)]) :
    c = '%' ∨ (Text.hexValue? c).isSome = true := by
  have hbyte : b.toNat < 256 := b.toNat_lt
  simp only [List.mem_cons, List.not_mem_nil, or_false] at h
  rcases h with rfl | rfl | rfl
  · exact Or.inl rfl
  · rw [hexValue?_hexDigit (by omega)]
    exact Or.inr rfl
  · rw [hexValue?_hexDigit (by omega)]
    exact Or.inr rfl

theorem octets_code (b : UInt8) (t : Text) :
    octets ('%' :: hexDigit (b.toNat / 16) :: hexDigit (b.toNat % 16) :: t) = b :: octets t := by
  have hbyte : b.toNat < 256 := b.toNat_lt
  have hvalue : 16 * (b.toNat / 16) + b.toNat % 16 = b.toNat := Nat.div_add_mod _ _
  rw [octets, if_pos rfl, hexValue?_hexDigit (by omega), hexValue?_hexDigit (by omega)]
  simp only [hvalue, UInt8.ofNat_toNat]

theorem octets_codes (bytes : List UInt8) (t : Text) :
    octets ((bytes.flatMap fun b => ['%', hexDigit (b.toNat / 16), hexDigit (b.toNat % 16)]) ++ t) =
      bytes ++ octets t := by
  induction bytes with
  | nil => rfl
  | cons b bytes ih =>
      rw [List.flatMap_cons, List.append_assoc]
      exact (octets_code b _).trans (congrArg (b :: ·) ih)

/-- A character that is not kept stands nowhere in a coded text, unless codes are made of it. -/
theorem not_mem_encode {c : Char} (hkept : isKept keep c = false) (hsign : c ≠ '%')
    (hdigit : Text.hexValue? c = none) (t : Text) : c ∉ encode keep t := by
  induction t with
  | nil => exact List.not_mem_nil
  | cons d t ih =>
      rw [encode_cons, List.mem_append, not_or]
      refine ⟨fun hmem => ?_, ih⟩
      cases hd : isKept keep d with
      | true =>
          rw [encode_of_kept hd, List.mem_singleton] at hmem
          rw [hmem, hd] at hkept
          cases hkept
      | false =>
          rw [encode_of_not_kept hd] at hmem
          obtain ⟨b, -, hb⟩ := List.mem_flatMap.mp hmem
          rcases digit_of_mem_code hb with hc | hc
          · exact hsign hc
          · rw [hdigit] at hc
            cases hc

theorem octets_cons {c : Char} (h : c ≠ '%') (t : Text) :
    octets (c :: t) = String.utf8EncodeChar c ++ octets t := by
  rw [octets.eq_def]
  simp only [if_neg h]

/-- A text that was coded is read as it was, if the sign of a code was coded as well. -/
theorem octets_encode (h : keep '%' = false) (s t : Text) :
    octets (encode keep s ++ t) = Utf8.encode s ++ octets t := by
  induction s with
  | nil => rfl
  | cons c s ih =>
      rw [encode_cons, List.append_assoc, Utf8.encode_cons, List.append_assoc, ← ih]
      cases hkept : isKept keep c with
      | true =>
          have hsign : c ≠ '%' := by
            rintro rfl
            revert hkept
            simp [isKept, h, isUnreserved]
          rw [encode_of_kept hkept]
          exact octets_cons hsign _
      | false =>
          rw [encode_of_not_kept hkept]
          exact octets_codes _ _

theorem decode_encode (h : keep '%' = false) (t : Text) : decode (encode keep t) = t := by
  have hoctets := octets_encode h t []
  rw [List.append_nil] at hoctets
  rw [decode, hoctets]
  exact (congrArg Utf8.decodeLossy (List.append_nil _)).trans (Utf8.decodeLossy_encode t)

end Percent

end StaticSite
