import StaticSite.Proofs.Cuts
import StaticSite.Server.Wire

/-! Messages as they stand on the wire. What is written there line by line is read again line by line:
a message is given back as its lines and what follows them, and a header line as its name and its
value. -/

namespace StaticSite.Wire

/-! ### Characters and bytes -/

/-- A text each character of which is a byte. -/
def IsLatin (t : Text) : Prop :=
  ∀ c ∈ t, c.toNat < 256

theorem isLatin_of_all {t : Text} (h : t.all (·.toNat < 256) = true) : IsLatin t :=
  fun c hc => of_decide_eq_true (List.all_eq_true.mp h c hc)

theorem IsLatin.append {s t : Text} (hs : IsLatin s) (ht : IsLatin t) : IsLatin (s ++ t) := by
  intro c hc
  rcases List.mem_append.mp hc with hc | hc
  · exact hs c hc
  · exact ht c hc

theorem ofBytes_append (s t : List UInt8) : ofBytes (s ++ t) = ofBytes s ++ ofBytes t :=
  List.map_append

theorem ofBytes_toBytes {t : Text} (h : IsLatin t) : ofBytes (toBytes t) = t := by
  rw [ofBytes, toBytes, List.map_map, List.map_congr_left (g := id), List.map_id]
  intro c hc
  have hbyte : (UInt8.ofNat c.toNat).toNat = c.toNat := UInt8.toNat_ofNat_of_lt' (h c hc)
  simp only [Function.comp_apply, hbyte, Char.ofNat_toNat, id]

theorem toBytes_ofBytes (bytes : List UInt8) : toBytes (ofBytes bytes) = bytes := by
  rw [ofBytes, toBytes, List.map_map, List.map_congr_left (g := id), List.map_id]
  intro b _
  have hvalid : b.toNat.isValidChar := Or.inl (Nat.lt_trans b.toNat_lt (by decide))
  have hchar : (Char.ofNat b.toNat).toNat = b.toNat := by
    rw [Char.ofNat, dif_pos hvalid]
    rfl
  simp only [Function.comp_apply, hchar, UInt8.ofNat_toNat, id]

/-! ### Lines -/

/-- A line as it can be written: not empty, and without a break in it. -/
structure IsLine (line : Text) : Prop where
  notEmpty : line ≠ []
  unbroken : '\n' ∉ line

theorem readLines_append {s : Text} (h : '\n' ∉ s) (line t : Text) :
    readLines line (s ++ t) = readLines (s.reverse ++ line) t := by
  induction s generalizing line with
  | nil => rfl
  | cons c rest ih =>
      obtain ⟨hc, hrest⟩ := List.ne_and_not_mem_of_not_mem_cons h
      rw [List.cons_append, readLines, if_neg (Ne.symm hc), ih hrest, List.reverse_cons,
        List.append_assoc, List.singleton_append]

/-- The empty line ends the lines. -/
theorem readLines_end (rest : Text) : readLines [] (lineEnd ++ rest) = some ([], rest) := by
  rfl

theorem readLines_line {line : Text} (h : IsLine line) (rest : Text) :
    readLines [] (line ++ lineEnd ++ rest) =
      (readLines [] rest).map fun (lines, after) => (line :: lines, after) := by
  have hfinish : finishLine ('\r' :: line.reverse) = line := by
    rw [finishLine, List.reverse_reverse]
  rw [List.append_assoc, readLines_append h.unbroken, List.append_nil]
  change readLines line.reverse ('\r' :: '\n' :: rest) = _
  rw [readLines, if_neg (by decide), readLines, if_pos rfl, hfinish]
  obtain ⟨c, name, rfl⟩ := List.exists_cons_of_ne_nil h.notEmpty
  rfl

/-- What is written line by line is read so. -/
theorem readLines_lines {lines : List Text} (h : ∀ line ∈ lines, IsLine line) (rest : Text) :
    readLines [] (lines.flatMap (· ++ lineEnd) ++ (lineEnd ++ rest)) = some (lines, rest) := by
  induction lines with
  | nil => exact readLines_end rest
  | cons line lines ih =>
      rw [List.flatMap_cons, List.append_assoc, readLines_line (h line List.mem_cons_self),
        ih fun l hl => h l (List.mem_cons_of_mem _ hl)]
      rfl

/-! ### Headers -/

/-- The line of a header without its end. -/
def headerLine (h : Text × Text) : Text :=
  h.1 ++ ": ".toList ++ h.2

/-- A value as it can be written: each character is a byte and may stand in a value, and there are
no blanks around it. -/
structure IsValue (value : Text) : Prop where
  latin : IsLatin value
  allowed : value.all isValueChar = true
  trimmed : value.trim isLineBlank = value

/-- A name as it can be written. -/
structure IsName (name : Text) : Prop where
  notEmpty : name ≠ []
  token : ∀ c ∈ name, isTokenChar c = true

theorem isName_of_isRun {name : Text} (h : isRun isTokenChar name = true) : IsName name := by
  simp only [isRun, Bool.and_eq_true, Bool.not_eq_true', List.isEmpty_eq_false_iff] at h
  exact ⟨h.1, List.all_eq_true.mp h.2⟩

theorem trim_cons_blank (value : Text) :
    Text.trim isLineBlank (' ' :: value) = value.trim isLineBlank := by
  rw [Text.trim, Text.trim, List.dropWhile_cons_of_pos (by decide)]

theorem IsName.not_mem {name : Text} (h : IsName name) {c : Char} (hc : isTokenChar c = false) :
    c ∉ name := by
  intro hmem
  rw [h.token c hmem] at hc
  cases hc

theorem IsValue.not_mem {value : Text} (h : IsValue value) {c : Char} (hc : isValueChar c = false) :
    c ∉ value := by
  intro hmem
  rw [List.all_eq_true.mp h.allowed c hmem] at hc
  cases hc

theorem cutFirst?_headerLine {name : Text} (h : IsName name) (value : Text) :
    Text.cutFirst? ':' (headerLine (name, value)) = some (name, ' ' :: value) := by
  have hline : headerLine (name, value) = name ++ ':' :: ' ' :: value := by
    simp [headerLine]
  rw [hline, Text.cutFirst?_append_cons (h.not_mem (by decide))]

/-- A header that a server reads as it was written, but for the case of its name. -/
theorem readHeader?_headerLine {name value : Text} (hname : IsName name) (hvalue : IsValue value) :
    readHeader? (headerLine (name, value)) = some (name.asciiLower, value) := by
  have hrun : isRun isTokenChar name = true := by
    obtain ⟨c, rest, hc⟩ := List.exists_cons_of_ne_nil hname.notEmpty
    rw [isRun, List.all_eq_true.mpr hname.token, hc]
    rfl
  rw [readHeader?, cutFirst?_headerLine hname]
  simp only [trim_cons_blank, hvalue.trimmed, hrun, hvalue.allowed, and_self, if_true]

/-- A header that a client reads as it was written. -/
theorem readReceived?_headerLine {name value : Text} (hname : IsName name) (hvalue : IsValue value) :
    readReceived? (headerLine (name, value)) = some (name, value) := by
  rw [readReceived?, cutFirst?_headerLine hname, Option.map_some]
  simp only [trim_cons_blank, hvalue.trimmed]

theorem isLine_headerLine {name value : Text} (hname : IsName name) (hvalue : IsValue value) :
    IsLine (headerLine (name, value)) := by
  refine ⟨by simp [headerLine], fun hmem => ?_⟩
  simp only [headerLine, List.mem_append] at hmem
  rcases hmem with (hmem | hmem) | hmem
  · exact hname.not_mem (by decide) hmem
  · revert hmem
    decide
  · exact hvalue.not_mem (by decide) hmem

theorem toNat_lt_of_isTokenChar {c : Char} (h : isTokenChar c = true) : c.toNat < 128 := by
  simp only [isTokenChar, Bool.or_eq_true, List.contains_iff_mem] at h
  rcases h with h | h
  · exact Nat.lt_of_le_of_lt (Text.toNat_of_isAlphanum h).2 (by decide)
  · have hall : "!#$%&'*+-.^_`|~".toList.all (fun c => c.toNat < 128) = true := by decide
    simpa using List.all_eq_true.mp hall c h

theorem IsName.latin {name : Text} (h : IsName name) : IsLatin name :=
  fun c hc => Nat.lt_trans (toNat_lt_of_isTokenChar (h.token c hc)) (by decide)

/-! ### Messages -/

/-- Headers as they can be written. -/
def AreHeaders (headers : Headers) : Prop :=
  ∀ h ∈ headers, IsName h.1 ∧ IsValue h.2

theorem AreHeaders.latin {headers : Headers} (h : AreHeaders headers) :
    IsLatin (headers.flatMap headerText) := by
  intro c hc
  obtain ⟨x, hx, hc⟩ := List.mem_flatMap.mp hc
  obtain ⟨hname, hvalue⟩ := h x hx
  simp only [headerText, List.mem_append] at hc
  rcases hc with ((hc | hc) | hc) | hc
  · exact hname.latin c hc
  · exact isLatin_of_all (by decide) c hc
  · exact hvalue.latin c hc
  · exact isLatin_of_all (by decide) c hc

/-- A message is read back as its first line, a line for each header, and its body. -/
theorem readLines_bytes {m : Message} (hline : IsLine m.line) (hlatin : IsLatin m.line)
    (hheaders : AreHeaders m.headers) :
    readLines [] (ofBytes m.bytes) =
      some (m.line :: m.headers.map headerLine, ofBytes m.body) := by
  have hend : IsLatin lineEnd := isLatin_of_all (by decide)
  have htext : m.line ++ lineEnd ++ m.headers.flatMap headerText ++ lineEnd =
      (m.line :: m.headers.map headerLine).flatMap (· ++ lineEnd) ++ lineEnd := by
    rw [List.flatMap_cons, List.flatMap_map]
    rfl
  have hall : ∀ line ∈ m.line :: m.headers.map headerLine, IsLine line := by
    intro line hmem
    rcases List.mem_cons.mp hmem with rfl | hmem
    · exact hline
    · obtain ⟨h, hh, rfl⟩ := List.mem_map.mp hmem
      exact isLine_headerLine (hheaders h hh).1 (hheaders h hh).2
  rw [Message.bytes, ofBytes_append,
    ofBytes_toBytes (((hlatin.append hend).append hheaders.latin).append hend), htext,
    List.append_assoc, readLines_lines hall]

/-- Lines made from headers are read as the headers are, one by one. -/
theorem mapM_map_eq_some {α β γ : Type} {line : α → β} {read : β → Option γ} {g : α → γ} {l : List α}
    (h : ∀ x ∈ l, read (line x) = some (g x)) : (l.map line).mapM read = some (l.map g) := by
  induction l with
  | nil => rfl
  | cons x rest ih =>
      rw [List.map_cons, List.mapM_cons, h x List.mem_cons_self,
        ih fun y hy => h y (List.mem_cons_of_mem _ hy)]
      rfl

end StaticSite.Wire
