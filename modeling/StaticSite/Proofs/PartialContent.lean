import StaticSite.Proofs.OtherHeaders
import StaticSite.Proofs.Unbroken

/-! Ranges of a file as they are sent. One range is sent as it is, several are parts of one body; each is
named with its bytes, and the length that is told is that of the body. What is sent is what the entries
of the header name, but for those with a number of more digits than are read. -/

namespace StaticSite

/-- The length of a body of several parts, counted from the digits of their bounds. -/
def FileResponse.countedLength (boundary kind : Text) (size : Nat) (ranges : List ByteRange) : Nat :=
  ranges.foldr
    (fun r n => 49 + boundary.length + kind.length + (Text.ofNat size).length +
      (Text.ofNat r.start).length + (Text.ofNat (r.stop - 1)).length + r.length + n)
    (4 + boundary.length)

/-- An answer that carries ranges of a file with the given content: a single one as it is, with a header
that names it, or several as parts between boundaries, each with its own. -/
structure Answer.Carries (x : Answer) (boundary kind : Text) (content : List UInt8)
    (ranges : List ByteRange) : Prop where
  intact : x.Intact
  single : ∀ part, ranges = [part] →
    x.response.headers.first? "content-range".toList = some (part.header content.length) ∧
      x.response.headers.first? "content-length".toList = some (Text.ofNat part.length) ∧
      x.response.body = part.slice content
  several : 1 < ranges.length →
    x.response.headers.first? "content-type".toList =
        some ("multipart/byteranges; boundary=".toList ++ boundary) ∧
      (boundary.all Wire.isVisible = true →
        x.response.headers.first? "content-length".toList =
          some (Text.ofNat (FileResponse.countedLength boundary kind content.length ranges))) ∧
      x.response.body =
        (ranges.flatMap fun part =>
          Utf8.encode ("--".toList ++ boundary ++ "\r\nContent-Type: ".toList ++ kind ++
              "\r\nContent-Range: ".toList ++ part.header content.length ++ "\r\n\r\n".toList) ++
            part.slice content ++ Utf8.encode "\r\n".toList) ++
          Utf8.encode ("--".toList ++ boundary ++ "--".toList)

/-! ### Counting -/

/-- A printable text is as long in bytes as in characters. -/
theorem Utf8.size_of_printable {t : Text} (h : t.all Wire.isPrintable = true) :
    Utf8.size t = t.length := by
  induction t with
  | nil => rfl
  | cons c rest ih =>
      rw [List.all_cons, Bool.and_eq_true] at h
      have hbounds := Wire.toNat_of_isPrintable h.1
      have hsize : c.utf8Size = 1 :=
        Char.utf8Size_eq_one_iff.mpr (UInt32.le_iff_toNat_le.mpr (Nat.le_succ_of_le hbounds.2))
      rw [Utf8.size_cons, hsize, ih h.2, List.length_cons, Nat.add_comm]

namespace FileResponse

variable {v : Vantage} {place : Location} {d : Description} {boundary : Text} {request : Headers}
  {delivery : Delivery}

theorem multipartLength_eq (h : d.Printed) (hboundary : boundary.all Wire.isVisible = true)
    (ranges : List ByteRange) :
    multipartLength d boundary ranges = countedLength boundary d.kind d.size ranges := by
  have hplain := Utf8.size_of_printable (Wire.printable_of_visible hboundary)
  have hkind := Utf8.size_of_printable (List.all_eq_true.mpr (Wire.isPrinted_iff.mp h.kind).1)
  have hnumber : ∀ n, Utf8.size (Text.ofNat n) = (Text.ofNat n).length := fun n =>
    Utf8.size_of_printable (Wire.printable_of_visible (Text.visible_ofNat n))
  have hpart : ∀ r : ByteRange,
      Utf8.size (partHead d boundary r) + r.length + Utf8.size partEnd =
        49 + boundary.length + d.kind.length + (Text.ofNat d.size).length +
          (Text.ofNat r.start).length + (Text.ofNat (r.stop - 1)).length + r.length := by
    intro r
    have hdashes : Utf8.size "--".toList = 2 := by decide
    have htype : Utf8.size "\r\nContent-Type: ".toList = 16 := by decide
    have hrange : Utf8.size "\r\nContent-Range: ".toList = 17 := by decide
    have hunit : Utf8.size "bytes ".toList = 6 := by decide
    have hdash : Utf8.size ['-'] = 1 := by decide
    have hslash : Utf8.size ['/'] = 1 := by decide
    have hblank : Utf8.size "\r\n\r\n".toList = 4 := by decide
    have hend : Utf8.size partEnd = 2 := by decide
    unfold partHead ByteRange.header
    simp only [Utf8.size_append, hnumber, hplain, hkind, hdashes, htype, hrange, hunit, hdash, hslash,
      hblank, hend]
    omega
  have hclosing : Utf8.size (closing boundary) = 4 + boundary.length := by
    have hdashes : Utf8.size "--".toList = 2 := by decide
    simp only [closing, Utf8.size_append, hplain, hdashes]
    omega
  simp only [multipartLength, countedLength, hclosing, hpart]

/-! ### Delivering ranges -/

/-- What is sent as part of a file are ranges of it that were asked for. -/
theorem Sent.of_partialContent {headOnly : Bool}
    (h : Sent v place d headOnly boundary request delivery)
    (hstatus : delivery.response.status = .partialContent) :
    ∃ header ranges, request.first? "range".toList = some header ∧
      d.validator.allowsRange request = true ∧ ByteRange.read d.size header = .ok ranges ∧
      ranges ≠ [] ∧ delivery = FileResponse.parts v place d headOnly boundary ranges := by
  cases h with
  | current => cases hstatus
  | whole =>
      rw [FileResponse.whole, status_deliver] at hstatus
      cases hstatus
  | parts _ header ranges hasked hallowed hread hne =>
      exact ⟨header, ranges, hasked, hallowed, hread, hne, rfl⟩
  | refused _ header e =>
      exact absurd hstatus (status_refuseRange_ne (by decide) (by decide) d.size e)

/-- Whatever ranges are sent, the version of the file is named with them. -/
theorem validator_parts (v : Vantage) (place : Location) (d : Description) (headOnly : Bool)
    (boundary : Text) (ranges : List ByteRange) :
    (parts v place d headOnly boundary ranges).response.headers.first? "etag".toList =
        some d.validator.tag ∧
      (parts v place d headOnly boundary ranges).response.headers.first? "last-modified".toList =
        some d.validator.time := by
  unfold parts
  split
  · rw [whole, headers_deliver]
    exact ⟨rfl, rfl⟩
  all_goals
    rw [headers_deliver]
    exact ⟨rfl, rfl⟩

end FileResponse

namespace App

variable {a : App} {v : Vantage} {r : Request} {c : Circumstances}

open FileResponse

/-- What goes out of ranges of a file that can be read. -/
theorem carries_parts {shown : Text} (hshown : r.shownPath = .ok shown) {place : Location}
    {d : Description} (hprinted : d.Printed) {content : List UInt8}
    (hread : v.read (Location.path place) = .ok content) (hsize : d.size = content.length)
    {ranges : List ByteRange} (hwithin : ∀ part ∈ ranges, part.Within content.length) :
    (conclude c r (.ok (FileResponse.parts v place d false c.boundary ranges))).Carries c.boundary d.kind
      content ranges := by
  obtain ⟨hbroken, hmeasured⟩ := measured_parts c.boundary hread hsize hwithin
  refine ⟨conclude_intact hshown hbroken hmeasured, ?_, ?_⟩
  · rintro part rfl
    have hparts : FileResponse.parts v place d false c.boundary [part] =
        deliver v place false .partialContent
          (headers d d.kind part.length ++ [("content-range".toList, part.header d.size)])
          part.slice := rfl
    rw [hparts, deliver_of_read hread, conclude_of_ok hshown, ← hsize]
    exact ⟨rfl, rfl, rfl⟩
  · intro hseveral
    obtain ⟨first, second, rest, rfl⟩ : ∃ first second rest, ranges = first :: second :: rest := by
      match ranges, hseveral with
      | first :: second :: rest, _ => exact ⟨first, second, rest, rfl⟩
    have hparts : FileResponse.parts v place d false c.boundary (first :: second :: rest) =
        deliver v place false .partialContent
          (headers d (multipartKind c.boundary)
            (multipartLength d c.boundary (first :: second :: rest)))
          fun content => multipart d c.boundary content (first :: second :: rest) := rfl
    rw [hparts, deliver_of_read hread, conclude_of_ok hshown, ← hsize]
    refine ⟨rfl, fun hboundary => ?_, rfl⟩
    rw [← multipartLength_eq hprinted hboundary]
    rfl

/-- An answer with part of a file comes of one that is sent, and of the ranges that its header asks
for. -/
theorem ranges_of_partialContent (hget : r.method = "GET".toList)
    (hstatus : (a.handle v c r).2.response.status = .partialContent) :
    ∃ s d header ranges, a.Presents v r s d ∧ r.headers.first? "range".toList = some header ∧
      d.validator.allowsRange r.headers = true ∧
      ByteRange.read s.content.length header = .ok ranges ∧ ranges ≠ [] ∧
      (a.handle v c r).2 =
        conclude c r (.ok (FileResponse.parts v s.place d false c.boundary ranges)) := by
  obtain ⟨s, d, hpresents⟩ := exists_presents (Or.inr hstatus)
  obtain ⟨shown, hshown⟩ := hpresents.shown
  have hhandle := hpresents.handle_eq c
  rw [headOnly_of_get hget] at hhandle
  have hsent := answer_sent v s.place d false c.boundary r.headers
  generalize answer v s.place d false c.boundary r.headers = delivery at hsent hhandle
  rw [hhandle, conclude_of_ok hshown] at hstatus
  obtain ⟨header, ranges, hasked, hallowed, hread, hne, rfl⟩ := hsent.of_partialContent hstatus
  rw [hpresents.size_eq] at hread
  exact ⟨s, d, header, ranges, hpresents, hasked, hallowed, hread, hne, hhandle⟩

/-- A request for some entries is answered with part of the file, unless the client has it, the condition
on the entries names another version, there are too many or each has too long a number. -/
theorem Presents.status_partialContent {s : Source} {d : Description} (h : a.Presents v r s d)
    (hcurrent : d.validator.isCurrent r.headers = false)
    (hallowed : d.validator.allowsRange r.headers = true) {entries : List RangeEntry}
    (hasked : r.headers.first? "range".toList = some (RangeEntry.header entries))
    (hproper : ∀ entry ∈ entries, entry.Proper s.content.length)
    (hlength : entries.length ≤ ByteRange.maxParts) (hshort : ∃ entry ∈ entries, entry.Short) :
    (a.handle v c r).2.response.status = .partialContent := by
  obtain ⟨shown, hshown⟩ := h.shown
  obtain ⟨ranges, hread, hne⟩ := RangeEntry.exists_read_header hproper hlength hshort
  rw [h.handle_eq, conclude_of_ok hshown, answer, hcurrent, if_neg Bool.false_ne_true, hasked]
  simp only [hallowed, if_true, h.size_eq, hread]
  exact status_parts hne

/-- An answer with part of a file carries ranges of it, in its order and apart from each other. They
cover what the entries of a proper header name, unless these have too long a number, and each position
once. A condition on them names the version of the file that is told. -/
theorem partialContent_exact (hget : r.method = "GET".toList)
    (hstatus : (a.handle v c r).2.response.status = .partialContent) :
    ∃ s e ranges, a.material v r = .file s ∧ v.stat (Location.path s.place) = .ok e ∧
      e.node = .file s.content s.modified ∧
      ranges ≠ [] ∧ ByteRange.Spread s.content.length ranges ∧ (ByteRange.positions ranges).Nodup ∧
      (e.allows v.caller readBit = true →
        (a.handle v c r).2.Carries c.boundary (ContentType.header (s.place.getLast?.getD [])) s.content
          ranges) ∧
      (∀ entries, r.headers.first? "range".toList = some (RangeEntry.header entries) →
        (∀ entry ∈ entries, entry.Proper s.content.length) →
        ∀ i, i ∈ ByteRange.positions ranges ↔
          ∃ entry ∈ entries, entry.Short ∧ entry.Names s.content.length i) ∧
      ∀ condition, r.headers.first? "if-range".toList = some condition →
        (a.handle v c r).2.response.headers.first? "etag".toList = some condition ∨
          (a.handle v c r).2.response.headers.first? "last-modified".toList = some condition := by
  obtain ⟨s, d, header, ranges, hpresents, hasked, hallowed, hranges, hne, hhandle⟩ :=
    ranges_of_partialContent hget hstatus
  obtain ⟨shown, hshown⟩ := hpresents.shown
  obtain ⟨e, hstat, hnode, hread⟩ := hpresents.foundIn.read_iff
  have hspread := ByteRange.spread_of_read hranges
  refine ⟨s, e, ranges, hpresents.material, hstat, hnode, hne, hspread,
    hspread.ascending.imp Nat.ne_of_lt, fun hpermitted => ?_, fun entries hentries hproper i => ?_,
    fun condition hcondition => ?_⟩
  · have hprinted := (Material.printed_of_describe hpresents.described).1
    rw [hpermitted, if_pos rfl] at hread
    rw [hhandle, ← hpresents.kind_eq]
    exact carries_parts hshown hprinted hread hpresents.size_eq hspread.within
  · obtain rfl := Option.some.inj (hasked.symm.trans hentries)
    rw [ByteRange.mem_positions]
    exact RangeEntry.coveredBy_iff_of_read hproper hranges hne i
  · obtain ⟨htag, htime⟩ := validator_parts v s.place d false c.boundary ranges
    rw [hhandle, conclude_of_ok hshown, Headers.first?_append_of_some htag,
      Headers.first?_append_of_some htime]
    rw [Validator.allowsRange, hcondition] at hallowed
    simp only [Bool.or_eq_true, beq_iff_eq] at hallowed
    rcases hallowed with rfl | rfl
    · exact Or.inl rfl
    · exact Or.inr rfl

end App

/-! ### Ranges of a small file -/

namespace HelloRanges

open PassingRoot

def circumstances : Circumstances :=
  ⟨"0123456789abcdef0123456789".toList, [], []⟩

/-- The page of five bytes is asked for, with a header for some entries. -/
def request (entries : List RangeEntry) : Request :=
  { get "/" with headers := [("range".toList, RangeEntry.header entries)] }

def page : Source :=
  ⟨[['.'], App.indexName], ["pub".toList, App.indexName], Utf8.encode "hello".toList, 0, false⟩

/-- The first byte, and those from the third one on. -/
def apart : List RangeEntry :=
  [.between ['0'] ['0'], .onward ['2']]

/-- A number with one digit more than is read. -/
def nines : Text :=
  List.replicate (Number.maxDigits + 1) '9'

/-- The first byte, and those from the third one up to one with too long a number. -/
def long : List RangeEntry :=
  [.between ['0'] ['0'], .between ['2'] nines]

theorem isNumeral_nines : nines.IsNumeral where
  notEmpty := List.cons_ne_nil _ _
  digits c hc := by
    rw [List.eq_of_mem_replicate hc]
    decide

theorem le_natOfDigits_nines : 9 ≤ Text.natOfDigits nines := by
  rw [nines, List.replicate_succ', Text.natOfDigits, List.foldl_append, List.foldl_cons,
    List.foldl_nil]
  generalize List.foldl _ 0 _ = before
  exact Nat.le_add_left 9 _

theorem not_short_nines (first : Text) : ¬ (RangeEntry.between first nines).Short := by
  intro hshort
  have hcount := hshort nines (List.mem_cons_of_mem _ List.mem_cons_self)
  rw [nines, List.length_replicate] at hcount
  exact Nat.not_succ_le_self _ hcount

theorem stat_page : vantage.stat (Location.path page.place) =
    .ok ⟨.file (Utf8.encode "hello".toList) 0, 0o644⟩ := by
  decide +kernel

theorem kind_page :
    ContentType.header (page.place.getLast?.getD []) = "text/html; charset=utf-8".toList := by
  decide +kernel

theorem request_eq (entries : List RangeEntry) :
    request entries = (get "/").withHeaders [("range".toList, RangeEntry.header entries)] :=
  rfl

theorem host_request (entries : List RangeEntry) :
    Headers.first? [("range".toList, RangeEntry.header entries)] "host".toList =
      (get "/").headers.first? "host".toList :=
  rfl

/-- The page is what there is to send, whatever part of it is asked for. -/
theorem material_request (entries : List RangeEntry) :
    site.material vantage (request entries) = .file page := by
  rw [request_eq, site.material_withHeaders vantage (host_request entries)]
  decide +kernel

theorem status_request {entries : List RangeEntry}
    (hproper : ∀ entry ∈ entries, entry.Proper page.content.length)
    (hlength : entries.length ≤ ByteRange.maxParts) (hshort : ∃ entry ∈ entries, entry.Short) :
    (site.handle vantage circumstances (request entries)).2.response.status = .partialContent := by
  have hshown : (request entries).shownPath = .ok ['/'] := by
    rw [request_eq, Request.shownPath_withHeaders (host_request entries)]
    decide +kernel
  obtain ⟨d, hpresents⟩ :=
    App.exists_presents_of_nameable hshown (material_request entries) rfl Validator.nameable_zero
  exact hpresents.status_partialContent rfl rfl rfl hproper hlength hshort

/-- Both ranges are sent, and nothing else. -/
theorem carries_apart :
    (site.handle vantage circumstances (request apart)).2.Carries circumstances.boundary
      "text/html; charset=utf-8".toList page.content [⟨0, 1⟩, ⟨2, 5⟩] := by
  have hproper : ∀ entry ∈ apart, entry.Proper page.content.length := by
    decide
  have hstatus := status_request hproper (by decide) (by decide)
  obtain ⟨s, e, ranges, hsource, hstat, -, -, hspread, -, hcarries, hnamed, -⟩ :=
    App.partialContent_exact (by decide) hstatus
  obtain rfl := Material.file.inj ((material_request apart).symm.trans hsource)
  rw [stat_page] at hstat
  obtain rfl := Except.ok.inj hstat
  have hranges : ranges = [⟨0, 1⟩, ⟨2, 5⟩] := by
    refine hspread.ext ⟨by decide, by decide⟩ fun i => ?_
    have hfirst : (RangeEntry.between ['0'] ['0']).Short := by decide
    have hsecond : (RangeEntry.onward ['2']).Short := by decide
    rw [← ByteRange.mem_positions, hnamed apart rfl hproper]
    have hlength : page.content.length = 5 := rfl
    have hzero : Text.natOfDigits ['0'] = 0 := rfl
    have htwo : Text.natOfDigits ['2'] = 2 := rfl
    simp only [apart, ByteRange.CoveredBy, ByteRange.Covers, RangeEntry.Names, List.mem_cons,
      List.not_mem_nil, or_false, exists_eq_or_imp, exists_eq_left, hfirst, hsecond, true_and, hlength,
      hzero, htwo]
    omega
  rw [← hranges, ← kind_page]
  exact hcarries (by decide)

/-- Of two entries that name bytes of the page, the one with too long a number is passed over. -/
theorem carries_less_than_named :
    (∀ entry ∈ long, entry.Proper page.content.length) ∧
      (∃ entry ∈ long, entry.Names page.content.length 2) ∧
      (site.handle vantage circumstances (request long)).2.response.status = .partialContent ∧
      (site.handle vantage circumstances (request long)).2.Carries circumstances.boundary
        "text/html; charset=utf-8".toList page.content [⟨0, 1⟩] ∧
      2 ∉ ByteRange.positions [⟨0, 1⟩] := by
  have hproper : ∀ entry ∈ long, entry.Proper page.content.length := by
    refine List.forall_mem_cons.mpr ⟨by decide, List.forall_mem_singleton.mpr ⟨?_, ?_, by decide⟩⟩
    · exact List.forall_mem_cons.mpr ⟨by decide, List.forall_mem_singleton.mpr isNumeral_nines⟩
    · exact Nat.le_trans (by decide) le_natOfDigits_nines
  have hstatus := status_request hproper (by decide) ⟨_, List.mem_cons_self, by decide⟩
  obtain ⟨s, d, header, ranges, hpresents, hasked, -, hread, hne, hhandle⟩ :=
    App.ranges_of_partialContent (by decide) hstatus
  obtain rfl := Material.file.inj ((material_request long).symm.trans hpresents.material)
  obtain rfl : RangeEntry.header long = header := Option.some.inj hasked
  have hranges : ranges = [⟨0, 1⟩] := by
    refine (ByteRange.spread_of_read hread).ext ⟨by decide, by decide⟩ fun i => ?_
    have hfirst : (RangeEntry.between ['0'] ['0']).Short := by decide
    have hlength : page.content.length = 5 := rfl
    have hzero : Text.natOfDigits ['0'] = 0 := rfl
    rw [RangeEntry.coveredBy_iff_of_read hproper hread hne]
    simp only [long, ByteRange.CoveredBy, ByteRange.Covers, RangeEntry.Names, List.mem_cons,
      List.not_mem_nil, or_false, exists_eq_or_imp, exists_eq_left, hfirst,
      not_short_nines, true_and, false_and, hlength, hzero]
    omega
  have hopen : vantage.read (Location.path page.place) = .ok page.content := by
    rw [Vantage.read, stat_page]
    rfl
  have hnames : (RangeEntry.between ['2'] nines).Names page.content.length 2 :=
    ⟨by decide, by decide, Nat.le_trans (by decide) le_natOfDigits_nines⟩
  refine ⟨hproper, ⟨_, List.mem_cons_of_mem _ List.mem_cons_self, hnames⟩, hstatus, ?_, by decide⟩
  obtain ⟨shown, hshown⟩ := hpresents.shown
  have hprinted := (Material.printed_of_describe hpresents.described).1
  have hcarries := App.carries_parts (c := circumstances) hshown hprinted hopen hpresents.size_eq
    (ByteRange.spread_of_read hread).within
  rw [hpresents.kind_eq, kind_page, hranges] at hcarries
  rw [hhandle, hranges]
  exact hcarries

end HelloRanges

end StaticSite
