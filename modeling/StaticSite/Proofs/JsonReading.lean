import StaticSite.Proofs.NamedPath
import StaticSite.Proofs.Numerals
import StaticSite.Proofs.Restoring

/-! JSON as a client reads it: strings with all their escapes, numbers and objects of such values,
without blanks between them. Whatever text a string of JSON is written for, it is read as this text, so
that the body of a refusal is read as an object of three members. -/

namespace StaticSite.JsonText

/-! ### The reader -/

/-- What the letter of an escape stands for. -/
def unescapes : List (Char × Char) :=
  [('"', '"'), ('\\', '\\'), ('/', '/'), ('b', '\x08'), ('f', '\x0c'), ('n', '\n'), ('r', '\r'),
    ('t', '\t')]

/-- The character of four hexadecimal digits. Half of one that takes two such codes is none. -/
def coded? (a b c d : Char) : Option Char :=
  match [a, b, c, d].mapM Text.hexValue? with
  | none => none
  | some digits =>
      let n := digits.foldl (16 * · + ·) 0
      if 0xd800 ≤ n ∧ n ≤ 0xdfff then none else some (Char.ofNat n)

/-- The text of a string whose opening quote has been passed, and what follows its closing quote. -/
def readString? : Text → Option (Text × Text)
  | [] => none
  | '"' :: rest => some ([], rest)
  | '\\' :: 'u' :: a :: b :: c :: d :: rest =>
      (coded? a b c d).bind fun first => (readString? rest).map fun (t, rest) => (first :: t, rest)
  | '\\' :: letter :: rest =>
      (unescapes.lookup letter).bind fun first =>
        (readString? rest).map fun (t, rest) => (first :: t, rest)
  | first :: rest =>
      if first = '\\' ∨ first.toNat < 0x20 then none
      else (readString? rest).map fun (t, rest) => (first :: t, rest)

/-- The values that an object may have here. -/
inductive Value where
  | text (t : Text)
  | number (n : Nat)
  deriving DecidableEq, Repr

/-- A value at the beginning of a text, and what follows it. A number has no zeros in front. -/
def readValue? : Text → Option (Value × Text)
  | '"' :: rest => (readString? rest).map fun (t, rest) => (.text t, rest)
  | t =>
      let digits := t.takeWhile Text.isDigit
      if digits = [] ∨ (digits.head? = some '0' ∧ digits ≠ ['0']) then none
      else some (.number (Text.natOfDigits digits), t.dropWhile Text.isDigit)

/-- A member of an object, its name and its value, and what follows it. -/
def readMember? : Text → Option ((Text × Value) × Text)
  | '"' :: rest =>
      match readString? rest with
      | some (name, ':' :: rest) => (readValue? rest).map fun (value, rest) => ((name, value), rest)
      | _ => none
  | _ => none

/-- The members of an object up to its closing brace, which has to end the text. The count bounds
them. -/
def readMembers? : Nat → Text → Option (List (Text × Value))
  | 0, _ => none
  | count + 1, t =>
      match readMember? t with
      | some (member, ['}']) => some [member]
      | some (member, ',' :: rest) => (readMembers? count rest).map (member :: ·)
      | _ => none

/-- The members of an object, in their order, if a text is one. -/
def readObject? : Text → Option (List (Text × Value))
  | '\x7b' :: rest => if rest = ['}'] then some [] else readMembers? rest.length rest
  | _ => none

/-! ### Strings -/

/-- How each character that does not stand for itself is written. -/
theorem escapes_read : escaped.all (fun c =>
    match escapeChar c with
    | ['\\', letter] => letter != 'u' && unescapes.lookup letter == some c
    | ['\\', 'u', a, b, d, e] => coded? a b d e == some c
    | _ => false) = true := by
  decide +kernel

theorem readString?_letter {letter : Char} (h : letter ≠ 'u') (t : Text) :
    readString? ('\\' :: letter :: t) =
      (unescapes.lookup letter).bind fun first => (readString? t).map fun (s, rest) => (first :: s, rest) := by
  rw [readString?.eq_def]
  split
  · rename_i heq
    cases heq
  · rename_i heq
    cases heq
  · rename_i heq
    cases heq
    exact absurd rfl h
  · rename_i heq
    cases heq
    rfl
  · rename_i hletter heq
    cases heq
    exact absurd rfl (hletter letter t rfl)

/-- A character that is not escaped stands for itself. -/
theorem readString?_plain {c : Char} (h : c ∉ escaped) (t : Text) :
    readString? (c :: t) = (readString? t).map fun (s, rest) => (c :: s, rest) := by
  have hquote : c ≠ '"' := by
    rintro rfl
    exact h (by decide)
  have hbackslash : c ≠ '\\' := by
    rintro rfl
    exact h (by decide)
  have hcontrol : ¬ c.toNat < 0x20 := fun hsmall =>
    h (List.mem_append_left _ (List.mem_map.mpr
      ⟨c.toNat, List.mem_range.mpr hsmall, Char.ofNat_toNat c⟩))
  rw [readString?.eq_def]
  split
  · rename_i heq
    cases heq
  · rename_i heq
    cases heq
    exact absurd rfl hquote
  · rename_i heq
    cases heq
    exact absurd rfl hbackslash
  · rename_i heq
    cases heq
    exact absurd rfl hbackslash
  · rename_i heq
    cases heq
    rw [if_neg (not_or.mpr ⟨hbackslash, hcontrol⟩)]

theorem readString?_escapeChar (c : Char) (t : Text) :
    readString? (escapeChar c ++ t) = (readString? t).map fun (s, rest) => (c :: s, rest) := by
  by_cases hescaped : c ∈ escaped
  · have hread := List.all_eq_true.mp escapes_read c hescaped
    split at hread
    · rename_i letter hletter
      rw [Bool.and_eq_true, bne_iff_ne, beq_iff_eq] at hread
      rw [hletter, List.cons_append, List.cons_append, List.nil_append, readString?_letter hread.1,
        hread.2]
      rfl
    · rename_i x y z w hcode
      rw [beq_iff_eq] at hread
      rw [hcode]
      simp only [List.cons_append, List.nil_append, readString?, hread, Option.bind_some]
    · cases hread
  · have hplain : escapeChar c = [c] :=
      ((escapeChar_cases c).resolve_right fun h => hescaped h.1).1
    rw [hplain]
    exact readString?_plain hescaped t

/-- A string is read as the text that it is written for, whatever follows it. -/
theorem readString?_encode (s rest : Text) :
    readString? (s.flatMap escapeChar ++ '"' :: rest) = some (s, rest) := by
  induction s with
  | nil => rfl
  | cons c s ih =>
      rw [List.flatMap_cons, List.append_assoc, readString?_escapeChar, ih]
      rfl

theorem readValue?_encode (s rest : Text) : readValue? (encode s ++ rest) = some (.text s, rest) := by
  have hstring : encode s ++ rest = '"' :: (s.flatMap escapeChar ++ '"' :: rest) := by
    rw [encode, List.cons_append, List.cons_append, List.append_assoc]
    rfl
  rw [hstring, readValue?, readString?_encode]
  rfl

/-! ### Numbers -/

/-- A number is read as it was, if no other digit follows it. -/
theorem readValue?_ofNat (n : Nat) {rest : Text} (h : ∀ c ∈ rest.head?, Text.isDigit c = false) :
    readValue? (Text.ofNat n ++ rest) = some (.number n, rest) := by
  have hnumeral := Text.isNumeral_ofNat n
  have hends : rest.takeWhile Text.isDigit = [] ∧ rest.dropWhile Text.isDigit = rest := by
    cases rest with
    | nil => exact ⟨rfl, rfl⟩
    | cons c rest =>
        have hc := h c rfl
        rw [List.takeWhile_cons, List.dropWhile_cons, hc]
        exact ⟨rfl, rfl⟩
  have hrun : (Text.ofNat n ++ rest).takeWhile Text.isDigit = Text.ofNat n := by
    rw [List.takeWhile_append_of_pos hnumeral.digits, hends.1, List.append_nil]
  have hrest : (Text.ofNat n ++ rest).dropWhile Text.isDigit = rest := by
    rw [List.dropWhile_append_of_pos hnumeral.digits, hends.2]
  have hplain : ¬ (Text.ofNat n = [] ∨ (Text.ofNat n).head? = some '0' ∧ Text.ofNat n ≠ ['0']) := by
    rintro (hnil | ⟨hhead, hne⟩)
    · exact hnumeral.notEmpty hnil
    · rcases Nat.eq_zero_or_pos n with rfl | hpos
      · exact hne rfl
      · exact Text.head?_ofNat hpos hhead
  unfold readValue?
  split
  · rename_i after heq
    obtain ⟨c, digits, hdigits⟩ := List.exists_cons_of_ne_nil hnumeral.notEmpty
    rw [hdigits, List.cons_append] at heq
    cases heq
    have hquote := hnumeral.digits '"' (hdigits ▸ List.mem_cons_self)
    exact absurd hquote (by decide)
  · simp only [hrun, hrest, if_neg hplain, Text.natOfDigits_ofNat]

/-! ### Members -/

theorem readMember?_of_value {name t rest : Text} {value : Value}
    (hvalue : readValue? t = some (value, rest)) :
    readMember? (encode name ++ ':' :: t) = some ((name, value), rest) := by
  have hstring : encode name ++ ':' :: t = '"' :: (name.flatMap escapeChar ++ '"' :: ':' :: t) := by
    rw [encode, List.cons_append, List.cons_append, List.append_assoc]
    rfl
  rw [hstring, readMember?, readString?_encode]
  simp only [hvalue, Option.map_some]

theorem readMembers?_of_last {t : Text} {member : Text × Value} (h : readMember? t = some (member, ['}']))
    (count : Nat) : readMembers? (count + 1) t = some [member] := by
  simp only [readMembers?, h]

theorem readMembers?_of_next {t rest : Text} {member : Text × Value} {members : List (Text × Value)}
    {count : Nat} (h : readMember? t = some (member, ',' :: rest))
    (hrest : readMembers? count rest = some members) :
    readMembers? (count + 1) t = some (member :: members) := by
  simp only [readMembers?, h, hrest, Option.map_some]

/-- The body of a refusal is an object of its message, the phrase of its status and the status. -/
theorem readObject?_refusalText (status : Status) (message : Text) :
    readObject? (Response.refusalText status message) =
      some [("message".toList, .text message), ("error".toList, .text status.phrase),
        ("statusCode".toList, .number status.code)] := by
  let last := encode "statusCode".toList ++ ':' :: (Text.ofNat status.code ++ ['}'])
  let middle := encode "error".toList ++ ':' :: (encode status.phrase ++ ',' :: last)
  let first := encode "message".toList ++ ':' :: (encode message ++ ',' :: middle)
  have hfirst : readMember? first = some (("message".toList, .text message), ',' :: middle) :=
    readMember?_of_value (readValue?_encode _ _)
  have hmiddle : readMember? middle = some (("error".toList, .text status.phrase), ',' :: last) :=
    readMember?_of_value (readValue?_encode _ _)
  have hends : ∀ c ∈ ['}'].head?, Text.isDigit c = false := by
    rintro c ⟨⟩
    rfl
  have hcode : readValue? (Text.ofNat status.code ++ ['}']) = some (.number status.code, ['}']) :=
    readValue?_ofNat status.code hends
  have hlast : readMember? last = some (("statusCode".toList, .number status.code), ['}']) :=
    readMember?_of_value hcode
  have htext : Response.refusalText status message = '\x7b' :: first := by
    have hmessage : "\x7b\"message\":".toList = '\x7b' :: (encode "message".toList ++ [':']) := by decide
    have herror : ",\"error\":".toList = ',' :: (encode "error".toList ++ [':']) := by decide
    have hcode : ",\"statusCode\":".toList = ',' :: (encode "statusCode".toList ++ [':']) := by decide
    unfold Response.refusalText
    simp only [first, middle, last, hmessage, herror, hcode, List.append_assoc, List.cons_append,
      List.nil_append]
  -- The count is the length of the text, which has room for more members than these.
  obtain ⟨count, hcount⟩ : ∃ count, first.length = count + 3 := by
    refine ⟨first.length - 3, (Nat.sub_add_cancel ?_).symm⟩
    simp only [first, middle, last, List.length_append, List.length_cons]
    omega
  have hne : first ≠ ['}'] := by
    intro h
    rw [h] at hfirst
    cases hfirst
  rw [htext, readObject?, if_neg hne, hcount]
  exact readMembers?_of_next hfirst (readMembers?_of_next hmiddle (readMembers?_of_last hlast _))

end StaticSite.JsonText
