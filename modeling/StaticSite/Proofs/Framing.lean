import StaticSite.Proofs.HeaderValues
import StaticSite.Proofs.Material

/-! The responses of a site as messages. Their headers can be written, and unless a client has the
file already one of them tells a length that the body does not exceed; the body may be shorter, where
only headers are asked for or the response broke off. -/

namespace StaticSite

open Wire

/-- A response that a client reads back: its headers can be written, and it knows where the body
ends. -/
structure Response.Framed (r : Response) : Prop where
  headers : AreHeaders r.headers
  empty : r.status = .notModified → r.body = []
  length : r.status ≠ .notModified →
    ∃ n, r.headers.first? "content-length".toList = some (Text.ofNat n) ∧ r.body.length ≤ n

/-- What differs between runs is made of visible characters, as the digits of a boundary and of a time
are. -/
structure Circumstances.Visible (c : Circumstances) : Prop where
  boundary : c.boundary.all isVisible = true
  elapsed : c.elapsedExactly.all isVisible = true

/-! ### Headers -/

theorem Headers.first?_append_of_none {first : Headers} {name : Text} (h : first.first? name = none)
    (rest : Headers) : Headers.first? (first ++ rest) name = Headers.first? rest name := by
  rw [Headers.first?, Option.map_eq_none_iff] at h
  rw [Headers.first?, Headers.first?, List.find?_append, h, Option.none_or]

theorem Headers.first?_append_of_some {first : Headers} {name value : Text}
    (h : first.first? name = some value) (rest : Headers) :
    Headers.first? (first ++ rest) name = some value := by
  rw [Headers.first?, Option.map_eq_some_iff] at h
  obtain ⟨x, hx, rfl⟩ := h
  rw [Headers.first?, List.find?_append, hx, Option.some_or, Option.map_some]

/-! ### Responses without a file -/

namespace Response

theorem framed_of_bodyHeaders {first : Headers} (hfirst : AreHeaders first)
    (hlength : first.first? "content-length".toList = none) (status : Status)
    (hstatus : status ≠ .notModified) {kind : String} (hkind : isPrinted kind.toList = true)
    (body : List UInt8) : Framed ⟨status, first ++ bodyHeaders kind body, body⟩ := by
  refine ⟨hfirst.append ?_, fun h => absurd h hstatus, fun _ => ⟨body.length, ?_, Nat.le_refl _⟩⟩
  · have hnumber := isPrinted_of_visible (Text.visible_ofNat body.length)
    exact (areHeaders_nil.cons (by decide) hkind).cons
      (by decide) hnumber
  · rw [Headers.first?_append_of_none hlength]
    rfl

theorem framed_redirect (target : Text) : (redirect target).Framed := by
  refine ⟨?_, nofun, fun _ => ⟨0, rfl, Nat.le_refl _⟩⟩
  have hlocation := isPrinted_of_visible (Url.visible_location target)
  exact (areHeaders_nil.cons (by decide) hlocation).cons
    (by decide) (by decide)

theorem framed_internalError : internalError.Framed :=
  framed_of_bodyHeaders areHeaders_nil rfl .internalError (by decide) (by decide) _

theorem framed_refusal {first : Headers} (hfirst : AreHeaders first)
    (hlength : first.first? "content-length".toList = none) {status : Status}
    (hstatus : status ≠ .notModified) (message : Text) : (refusal status first message).Framed :=
  framed_of_bodyHeaders hfirst hlength status hstatus (by decide) _

end Response

/-! ### Responses from a file -/

theorem Utf8.length_encode (t : Text) : (encode t).length = size t := by
  induction t with
  | nil => rfl
  | cons c rest ih =>
      rw [encode, List.flatMap_cons, List.length_append, String.length_utf8EncodeChar]
      exact congrArg (c.utf8Size + ·) ih

theorem ByteRange.length_slice_le (r : ByteRange) (content : List UInt8) :
    (r.slice content).length ≤ r.length :=
  List.length_take_le _ _

namespace FileResponse

variable {v : Vantage} {place : Location} {d : Description} {headOnly : Bool} {boundary : Text}

/-- Several parts are as long as their bounds say, if the file has not become shorter. -/
theorem length_multipart_le (d : Description) (boundary : Text) (content : List UInt8)
    (ranges : List ByteRange) :
    (multipart d boundary content ranges).length ≤ multipartLength d boundary ranges := by
  rw [multipart, multipartLength]
  induction ranges with
  | nil => exact Nat.le_of_eq (Utf8.length_encode _)
  | cons r rest ih =>
      have hslice := r.length_slice_le content
      rw [List.flatMap_cons, List.append_assoc, List.length_append, List.foldr_cons]
      refine Nat.add_le_add ?_ ih
      simp only [List.length_append, Utf8.length_encode]
      omega

theorem areHeaders_headers (h : d.Printed) {kind : Text} (hkind : isPrinted kind = true)
    (length : Nat) : AreHeaders (headers d kind length) := by
  have hlength := isPrinted_of_visible (Text.visible_ofNat length)
  have htag := isPrinted_of_visible h.tag
  have hend : AreHeaders
      [("last-modified".toList, d.validator.time), ("etag".toList, d.validator.tag)] :=
    (areHeaders_nil.cons (by decide) htag).cons
      (by decide) h.time
  exact ((hend.cons (by decide) hlength).cons
    (by decide) (by decide)).cons
    (by decide) hkind

theorem framed_deliver {headers : Headers} (hheaders : AreHeaders headers) {n : Nat}
    (hlength : headers.first? "content-length".toList = some (Text.ofNat n)) {status : Status}
    (hstatus : status ≠ .notModified) {body : List UInt8 → List UInt8}
    (hbody : ∀ content, v.read (Location.path place) = .ok content → (body content).length ≤ n) :
    (deliver v place headOnly status headers body).response.Framed := by
  have hframed : ∀ sent : List UInt8, sent.length ≤ n → Response.Framed ⟨status, headers, sent⟩ :=
    fun sent hsent => ⟨hheaders, fun h => absurd h hstatus, fun _ => ⟨n, hlength, hsent⟩⟩
  unfold deliver
  split
  · exact hframed [] (Nat.zero_le n)
  · split
    · rename_i content hread
      exact hframed (body content) (hbody content hread)
    · exact hframed [] (Nat.zero_le n)

theorem framed_whole (h : d.Printed)
    (hsize : ∀ content, v.read (Location.path place) = .ok content → content.length ≤ d.size)
    {status : Status} (hstatus : status ≠ .notModified) :
    (whole v place d headOnly status).response.Framed :=
  framed_deliver (areHeaders_headers h h.kind d.size) rfl hstatus hsize

theorem framed_parts (h : d.Printed) (hboundary : boundary.all isVisible = true)
    (hsize : ∀ content, v.read (Location.path place) = .ok content → content.length ≤ d.size)
    (ranges : List ByteRange) : (parts v place d headOnly boundary ranges).response.Framed := by
  unfold parts
  split
  · exact framed_whole h hsize (by decide)
  · rename_i r
    have hrange : AreHeaders [("content-range".toList, r.header d.size)] :=
      areHeaders_nil.cons (by decide) (r.isPrinted_header d.size)
    exact framed_deliver ((areHeaders_headers h h.kind r.length).append hrange) rfl (by decide)
      fun content _ => r.length_slice_le content
  · have hkind : isPrinted (multipartKind boundary) = true :=
      isPrinted_append (by decide) (isPrinted_of_visible hboundary)
    exact framed_deliver (areHeaders_headers h hkind _) rfl (by decide)
      fun content _ => length_multipart_le d boundary content ranges

theorem framed_refuseRange (size : Nat) (e : RangeError) : (refuseRange size e).Framed := by
  unfold refuseRange
  split
  · have hsize : isPrinted ("bytes */".toList ++ Text.ofNat size) = true :=
      isPrinted_append (by decide) (isPrinted_of_visible (Text.visible_ofNat size))
    have hrange : AreHeaders [("content-range".toList, "bytes */".toList ++ Text.ofNat size)] :=
      areHeaders_nil.cons (by decide) hsize
    exact Response.framed_of_bodyHeaders hrange rfl _ (by decide) (by decide) _
  · exact Response.framed_of_bodyHeaders areHeaders_nil rfl _ (by decide) (by decide) _

theorem framed_notModified (h : d.Printed) : (notModified d).Framed := by
  refine ⟨?_, fun _ => rfl, fun hstatus => absurd rfl hstatus⟩
  exact areHeaders_nil.cons (by decide) (isPrinted_of_visible h.tag)

theorem framed_answer (h : d.Printed) (hboundary : boundary.all isVisible = true)
    (hsize : ∀ content, v.read (Location.path place) = .ok content → content.length ≤ d.size)
    (request : Headers) : (answer v place d headOnly boundary request).response.Framed := by
  unfold answer
  split
  · exact framed_notModified h
  · split
    · exact framed_whole h hsize (by decide)
    · split
      · split
        · exact framed_parts h hboundary hsize _
        · exact framed_refuseRange d.size _
      · exact framed_whole h hsize (by decide)

end FileResponse

/-! ### Answers -/

theorem Material.printed_of_describe {s : Source} {d : FileResponse.Description}
    (h : Material.describe s = .ok d) : d.Printed ∧ d.size = s.content.length := by
  unfold Material.describe at h
  cases hvalidator : Validator.ofFile s.modified s.content.length with
  | error year =>
      rw [hvalidator] at h
      cases h
  | ok validator =>
      rw [hvalidator] at h
      cases h
      obtain ⟨htag, htime⟩ := Validator.printed_of_ofFile hvalidator
      exact ⟨⟨ContentType.isPrinted_header _, htag, htime⟩, rfl⟩

/-- A source is read as it was found. -/
theorem Source.FoundIn.content_eq {s : Source} {v : Vantage} {root : Path} (h : s.FoundIn v root)
    {content : List UInt8} (hread : v.read (Location.path s.place) = .ok content) :
    content = s.content := by
  obtain ⟨mode, hstat⟩ := h.entry
  rw [Vantage.read, hstat] at hread
  simp only [bind, Except.bind] at hread
  split at hread
  · cases hread
    rfl
  · cases hread

namespace App

variable {a : App} {v : Vantage} {r : Request} {boundary : Text}

/-- Whatever is delivered is framed. -/
theorem Delivers.framed {d : Delivery} (h : a.Delivers v boundary r d)
    (hboundary : boundary.all isVisible = true) : d.response.Framed := by
  -- A file is opened after it was described, but the tree has not changed meanwhile.
  have hread : ∀ (s : Source) (d : FileResponse.Description), s.FoundIn v a.rootPath →
      d.size = s.content.length → ∀ content, v.read (Location.path s.place) = .ok content →
        content.length ≤ d.size := by
    intro s d hfound hsize content hcontent
    rw [hfound.content_eq hcontent]
    exact Nat.le_of_eq hsize.symm
  cases h with
  | refusal status first message hnamed hadded =>
      have hstatus : status ≠ .notModified := by
        rintro rfl
        exact absurd hnamed (by decide)
      rcases hadded with rfl | rfl
      · exact Response.framed_refusal areHeaders_nil rfl hstatus _
      · have hallow : isPrinted allowed = true := by decide
        exact Response.framed_refusal (areHeaders_nil.cons (by decide) hallow) rfl hstatus _
  | redirect target => exact Response.framed_redirect target
  | page s d hfound hdescribed =>
      obtain ⟨hprinted, hsize⟩ := Material.printed_of_describe hdescribed
      exact FileResponse.framed_whole hprinted (hread s d hfound hsize) (by decide)
  | file s d hfound hdescribed =>
      obtain ⟨hprinted, hsize⟩ := Material.printed_of_describe hdescribed
      exact FileResponse.framed_answer hprinted hboundary (hread s d hfound hsize) _

theorem framed_conclude {c : Circumstances} (hc : c.Visible) {result : Except Failure Delivery}
    (h : ∀ d, result = .ok d → d.response.Framed) : (conclude c r result).response.Framed := by
  unfold conclude
  split
  · split <;> exact Response.framed_internalError
  · rename_i d
    split
    · obtain ⟨hheaders, hempty, hlength⟩ := h d rfl
      have htime : AreHeaders [timeHeader c] :=
        areHeaders_nil.cons (by decide) (isPrinted_of_visible hc.elapsed)
      refine ⟨hheaders.append htime, hempty, fun hstatus => ?_⟩
      obtain ⟨n, hn, hle⟩ := hlength hstatus
      exact ⟨n, Headers.first?_append_of_some hn _, hle⟩
    · exact Response.framed_internalError

/-- A client can read whatever a site answers. -/
theorem framed_handle (a : App) (v : Vantage) {c : Circumstances} (hc : c.Visible) (r : Request) :
    (a.handle v c r).2.response.Framed := by
  rw [handle_snd]
  exact framed_conclude hc fun d hd => ((a.material_makes v r).delivers hd).framed hc.boundary

end App

/-! ### Responses as they are received -/

namespace Wire

theorem statusLine_eq_notModified {s : Status} (h : statusLine s = statusLine .notModified) :
    s = .notModified := by
  revert h
  cases s <;> decide

theorem isLine_statusLine (s : Status) : IsLine (statusLine s) := by
  cases s <;> exact ⟨by decide, by decide⟩

theorem isLatin_statusLine (s : Status) : IsLatin (statusLine s) := by
  cases s <;> exact isLatin_of_all (by decide)

theorem areHeaders_ofResponse {r : Response} (h : AreHeaders r.headers) (keepsOpen headOnly : Bool) :
    AreHeaders (ofResponse keepsOpen headOnly r).headers := by
  have hserver : AreHeaders (serverHeader :: r.headers) :=
    h.cons (by decide) (by decide)
  refine hserver.append ?_
  cases keepsOpen with
  | true => exact areHeaders_nil
  | false => exact areHeaders_nil.cons (by decide) (by decide)

theorem length_ofBytes (bytes : List UInt8) : (ofBytes bytes).length = bytes.length :=
  List.length_map _

/-- A message after whose headers nothing is expected has no body. -/
theorem body_ofResponse_eq_nil {r : Response} (h : r.Framed) {keepsOpen headOnly : Bool}
    (hnone : headOnly ∨ (ofResponse keepsOpen headOnly r).line = statusLine .notModified) :
    (ofResponse keepsOpen headOnly r).body = [] := by
  rcases hnone with hhead | hstatus
  · rw [ofResponse, hhead]
    rfl
  · have hempty := h.empty (statusLine_eq_notModified hstatus)
    cases headOnly with
    | true => rfl
    | false => exact hempty

/-- Any other message tells a length that its body does not exceed. -/
theorem length_body_ofResponse {r : Response} (h : r.Framed) {keepsOpen headOnly : Bool}
    (hsome : ¬ (headOnly ∨ (ofResponse keepsOpen headOnly r).line = statusLine .notModified)) :
    ∃ n, (ofResponse keepsOpen headOnly r).headers.first? "content-length".toList =
      some (Text.ofNat n) ∧ (ofResponse keepsOpen headOnly r).body.length ≤ n := by
  rw [not_or] at hsome
  have hstatus : r.status ≠ .notModified := fun heq => hsome.2 (congrArg statusLine heq)
  obtain ⟨n, hn, hle⟩ := h.length hstatus
  have hserver : Headers.first? [serverHeader] "content-length".toList = none := by decide
  have hbegin : Headers.first? (serverHeader :: r.headers) "content-length".toList =
      some (Text.ofNat n) := (Headers.first?_append_of_none hserver r.headers).trans hn
  refine ⟨n, Headers.first?_append_of_some hbegin _, ?_⟩
  rw [ofResponse, if_neg hsome.1]
  exact hle

/-- A client reads the message that was sent, and nothing is left of what it received. -/
theorem receive?_bytes {r : Response} (h : r.Framed) (keepsOpen headOnly : Bool) :
    receive? headOnly (ofBytes (ofResponse keepsOpen headOnly r).bytes) =
      some (ofResponse keepsOpen headOnly r, []) := by
  have hheaders := areHeaders_ofResponse h.headers keepsOpen headOnly
  have hread : ((ofResponse keepsOpen headOnly r).headers.map headerLine).mapM readReceived? =
      some (ofResponse keepsOpen headOnly r).headers := by
    rw [mapM_map_eq_some (g := id)
      fun x hx => readReceived?_headerLine (hheaders x hx).1 (hheaders x hx).2, List.map_id]
  rw [receive?, readLines_bytes (isLine_statusLine r.status) (isLatin_statusLine r.status) hheaders]
  simp only [hread, Option.map_some]
  by_cases hnone : headOnly ∨ (ofResponse keepsOpen headOnly r).line = statusLine .notModified
  · have hbody := body_ofResponse_eq_nil h hnone
    rw [if_pos hnone, List.take_zero, List.drop_zero, hbody]
    exact congrArg (fun body => some (Message.mk _ _ body, [])) hbody.symm
  · obtain ⟨n, hn, hle⟩ := length_body_ofResponse h hnone
    rw [← length_ofBytes] at hle
    simp only [if_neg hnone, hn, Text.natOfDigits_ofNat]
    rw [List.take_of_length_le hle, List.drop_eq_nil_of_le hle, toBytes_ofBytes]

end Wire

end StaticSite
