import StaticSite.Proofs.Absent
import StaticSite.Proofs.Framing
import StaticSite.Proofs.Ranges

/-! How a file is sent. A client that has it is told so; else the whole file is sent, or ranges of it
that were asked for, or the ranges are refused. Success is told of nothing but a file. What is sent is as
long as the headers say, unless the file cannot be read: then nothing of it is sent. -/

namespace StaticSite

namespace Response

/-- A response whose body is as long as its headers say. -/
def Measured (x : Response) : Prop :=
  x.headers.first? "content-length".toList = some (Text.ofNat x.body.length)

end Response

namespace FileResponse

variable {v : Vantage} {place : Location} {d : Description} {headOnly : Bool} {boundary : Text}
  {request : Headers}

/-- All the ways in which a file is sent. -/
inductive Sent (v : Vantage) (place : Location) (d : Description) (headOnly : Bool) (boundary : Text)
    (request : Headers) : Delivery → Prop
  | current (h : d.validator.isCurrent request = true) :
      Sent v place d headOnly boundary request ⟨notModified d, none⟩
  | whole (h : d.validator.isCurrent request = false) :
      Sent v place d headOnly boundary request (whole v place d headOnly .ok)
  | parts (h : d.validator.isCurrent request = false) (header : Text) (ranges : List ByteRange)
      (asked : request.first? "range".toList = some header)
      (allowed : d.validator.allowsRange request = true)
      (read : ByteRange.read d.size header = .ok ranges) (some : ranges ≠ []) :
      Sent v place d headOnly boundary request (parts v place d headOnly boundary ranges)
  | refused (h : d.validator.isCurrent request = false) (header : Text) (e : RangeError)
      (asked : request.first? "range".toList = some header)
      (allowed : d.validator.allowsRange request = true)
      (read : ByteRange.read d.size header = .error e) :
      Sent v place d headOnly boundary request ⟨refuseRange d.size e, none⟩

theorem answer_sent (v : Vantage) (place : Location) (d : Description) (headOnly : Bool)
    (boundary : Text) (request : Headers) :
    Sent v place d headOnly boundary request (answer v place d headOnly boundary request) := by
  unfold answer
  split
  · rename_i h
    exact .current h
  rename_i h
  rw [Bool.not_eq_true] at h
  split
  · exact .whole h
  split
  · rename_i header hasked hallowed
    split
    · rename_i ranges hread
      cases ranges with
      | nil => exact .whole h
      | cons r rest => exact .parts h header _ hasked hallowed hread (List.cons_ne_nil _ _)
    · rename_i e hread
      exact .refused h header e hasked hallowed hread
  · exact .whole h

theorem status_parts {ranges : List ByteRange} (h : ranges ≠ []) :
    (parts v place d headOnly boundary ranges).response.status = .partialContent := by
  unfold parts
  split
  · exact absurd rfl h
  · exact status_deliver _ _ _
  · exact status_deliver _ _ _

theorem status_refuseRange_ne {status : Status} (hsatisfied : status ≠ .rangeNotSatisfiable)
    (hgood : status ≠ .badRequest) (size : Nat) (e : RangeError) :
    (refuseRange size e).status ≠ status := by
  cases e
  case notSatisfiable => exact hsatisfied.symm
  all_goals exact hgood.symm

/-! ### Reading the file -/

theorem headers_deliver {headOnly : Bool} (status : Status) (headers : Headers)
    (body : List UInt8 → List UInt8) :
    (deliver v place headOnly status headers body).response.headers = headers := by
  unfold deliver
  split
  · rfl
  · split <;> rfl

variable {content : List UInt8} {e : PathError}

theorem deliver_of_read (h : v.read (Location.path place) = .ok content) (status : Status)
    (headers : Headers) (body : List UInt8 → List UInt8) :
    deliver v place false status headers body = ⟨⟨status, headers, body content⟩, none⟩ := by
  rw [deliver, h]
  rfl

/-- Where the file cannot be read, the response breaks off before its body. -/
theorem deliver_of_error (h : v.read (Location.path place) = .error e) (status : Status)
    (headers : Headers) (body : List UInt8 → List UInt8) :
    deliver v place false status headers body =
      ⟨⟨status, headers, []⟩, some (e.failure (Location.text place))⟩ := by
  rw [deliver, h]
  rfl

theorem parts_of_error (h : v.read (Location.path place) = .error e) (ranges : List ByteRange) :
    (parts v place d false boundary ranges).response.body = [] ∧
      (parts v place d false boundary ranges).broken = some (e.failure (Location.text place)) := by
  rw [parts.eq_def]
  simp only [whole, deliver_of_error h]
  split <;> exact ⟨rfl, rfl⟩

/-- Several parts are as long as their bounds say. -/
theorem length_multipart {ranges : List ByteRange} (h : ∀ r ∈ ranges, r.Within content.length) :
    (multipart d boundary content ranges).length = multipartLength d boundary ranges := by
  rw [multipart, multipartLength]
  induction ranges with
  | nil => exact Utf8.length_encode _
  | cons r rest ih =>
      obtain ⟨hr, hrest⟩ := List.forall_mem_cons.mp h
      rw [List.flatMap_cons, List.append_assoc, List.length_append, ih hrest, List.foldr_cons]
      simp only [List.length_append, Utf8.length_encode, hr.length_slice]

theorem measured_whole (h : v.read (Location.path place) = .ok content)
    (hsize : d.size = content.length) (status : Status) :
    (whole v place d false status).broken = none ∧
      (whole v place d false status).response.Measured := by
  rw [whole_of_read h]
  exact ⟨rfl, by rw [Response.Measured, hsize]; rfl⟩

theorem measured_parts (boundary : Text) (h : v.read (Location.path place) = .ok content)
    (hsize : d.size = content.length) {ranges : List ByteRange}
    (hranges : ∀ r ∈ ranges, r.Within content.length) :
    (parts v place d false boundary ranges).broken = none ∧
      (parts v place d false boundary ranges).response.Measured := by
  unfold parts
  split
  · exact measured_whole h hsize .ok
  · rename_i r
    have hlength := (hranges r (List.mem_singleton_self r)).length_slice
    rw [deliver_of_read h]
    exact ⟨rfl, by rw [Response.Measured, hlength]; rfl⟩
  · rw [deliver_of_read h]
    exact ⟨rfl, by rw [Response.Measured, length_multipart hranges]; rfl⟩

end FileResponse

/-- A source is read exactly if its permission bits allow it. -/
theorem Source.FoundIn.read_iff {s : Source} {v : Vantage} {root : Path} (h : s.FoundIn v root) :
    ∃ e, v.stat (Location.path s.place) = .ok e ∧ e.node = .file s.content s.modified ∧
      v.read (Location.path s.place) =
        if e.allows v.caller readBit then .ok s.content else .error (.system .accessDenied) := by
  obtain ⟨mode, hstat⟩ := h.entry
  refine ⟨_, hstat, rfl, ?_⟩
  rw [Vantage.read, hstat]
  rfl

namespace App

variable {a : App} {v : Vantage} {r : Request} {c : Circumstances}

/-! ### Success -/

/-- A request for which a site has a file to send: its path can be told, and what is made of it is a
file, which is not the page for what is missing and whose time a date can name. -/
structure Presents (a : App) (v : Vantage) (r : Request) (s : Source)
    (d : FileResponse.Description) : Prop where
  shown : ∃ shown, r.shownPath = .ok shown
  material : a.material v r = .file s
  asked : s.isPage = false
  described : Material.describe s = .ok d

theorem exists_presents_of_nameable {s : Source} {shown : Text} (hshown : r.shownPath = .ok shown)
    (hmaterial : a.material v r = .file s) (hasked : s.isPage = false)
    (hnameable : Validator.nameable s.modified = true) : ∃ d, a.Presents v r s d := by
  rw [← Validator.ofFile_isOk _ s.content.length] at hnameable
  cases hvalidator : Validator.ofFile s.modified s.content.length with
  | error year =>
      rw [hvalidator] at hnameable
      cases hnameable
  | ok validator =>
      have hdescribed : Material.describe s =
          .ok ⟨ContentType.header (s.place.getLast?.getD []), s.content.length, validator⟩ := by
        rw [Material.describe, hvalidator]
        rfl
      exact ⟨_, ⟨shown, hshown⟩, hmaterial, hasked, hdescribed⟩

theorem headOnly_of_get (hget : r.method = "GET".toList) : headOnly r = false := by
  rw [headOnly, hget]
  decide

/-- The answer from a file that is sent. -/
theorem Presents.handle_eq {s : Source} {d : FileResponse.Description} (h : a.Presents v r s d)
    (c : Circumstances) :
    (a.handle v c r).2 =
      conclude c r (.ok (FileResponse.answer v s.place d (headOnly r) c.boundary r.headers)) := by
  rw [handle_snd, h.material, Material.result, h.described, h.asked]
  rfl

theorem describe_eq_ok {s : Source} {d : FileResponse.Description} (h : Material.describe s = .ok d) :
    d.kind = ContentType.header (s.place.getLast?.getD []) ∧
      Validator.ofFile s.modified s.content.length = .ok d.validator := by
  unfold Material.describe at h
  cases hvalidator : Validator.ofFile s.modified s.content.length with
  | error year =>
      rw [hvalidator] at h
      cases h
  | ok validator =>
      rw [hvalidator] at h
      cases h
      exact ⟨rfl, rfl⟩

theorem Presents.kind_eq {s : Source} {d : FileResponse.Description} (h : a.Presents v r s d) :
    d.kind = ContentType.header (s.place.getLast?.getD []) :=
  (describe_eq_ok h.described).1

theorem Presents.ofFile_eq {s : Source} {d : FileResponse.Description} (h : a.Presents v r s d) :
    Validator.ofFile s.modified s.content.length = .ok d.validator :=
  (describe_eq_ok h.described).2

theorem Presents.size_eq {s : Source} {d : FileResponse.Description} (h : a.Presents v r s d) :
    d.size = s.content.length :=
  (Material.printed_of_describe h.described).2

theorem Presents.foundIn {s : Source} {d : FileResponse.Description} (h : a.Presents v r s d) :
    s.FoundIn v a.rootPath :=
  a.foundIn_of_material v r h.material

/-- The statuses of an answer that is made of no file. -/
def statusesWithoutFile : List Status :=
  [.notFound, .unauthorized, .methodNotAllowed, .temporaryRedirect]

theorem Tells.status_mem {d : Delivery} (h : a.Tells r d) :
    d.response.status ∈ statusesWithoutFile := by
  cases h with
  | refusal status first message hnamed =>
      have hall : ∀ status ∈ [Status.notFound, .unauthorized, .methodNotAllowed],
          status ∈ statusesWithoutFile := by decide
      exact hall status hnamed
  | redirect => exact List.mem_of_getLast? rfl

/-- An answer that tells of success comes of a file that is sent. -/
theorem exists_presents
    (h : (a.handle v c r).2.response.status = .ok ∨
      (a.handle v c r).2.response.status = .partialContent) :
    ∃ s d, a.Presents v r s d := by
  have hnot : ∀ status ∈ .internalError :: statusesWithoutFile,
      (a.handle v c r).2.response.status ≠ status := by
    rintro status hmem rfl
    rcases h with h | h <;> rw [h] at hmem <;> revert hmem <;> decide
  rw [handle_snd] at hnot
  cases hshown : r.shownPath with
  | error u =>
      rw [conclude_of_error hshown] at hnot
      exact absurd rfl (hnot _ List.mem_cons_self)
  | ok shown =>
      have hmakes := a.material_makes v r
      cases hmaterial : a.material v r with
      | fixed result =>
          rw [hmaterial] at hnot hmakes
          cases result with
          | error e =>
              simp only [Material.result, conclude, hshown] at hnot
              exact absurd rfl (hnot _ List.mem_cons_self)
          | ok d =>
              simp only [Material.result, conclude, hshown] at hnot
              exact absurd rfl (hnot _ (List.mem_cons_of_mem _ (hmakes.tells rfl).status_mem))
      | file s =>
          rw [hmaterial, Material.result] at hnot
          cases hdescribe : Material.describe s with
          | error e =>
              simp only [hdescribe, Except.map, conclude, hshown] at hnot
              exact absurd rfl (hnot _ List.mem_cons_self)
          | ok d =>
              refine ⟨s, d, ⟨shown, hshown⟩, hmaterial, ?_, hdescribe⟩
              cases hpage : s.isPage with
              | false => rfl
              | true =>
                  simp only [hdescribe, Except.map, conclude, hshown, hpage, if_true] at hnot
                  exact absurd (FileResponse.status_whole .notFound)
                    (hnot _ (List.mem_cons_of_mem _ List.mem_cons_self))

end App

end StaticSite
