import Mathlib.Data.List.Forall2
import StaticSite.Proofs.PartialContent
import StaticSite.Proofs.Unbroken

/-! A request for the headers alone. It is answered with the status that the request for the whole would
have, and, unless that is refused, with its headers; only the boundary between parts is a new one each
time. Nothing is read for it, so it is answered in full where the file cannot be read. -/

namespace StaticSite

namespace Headers

/-- Headers that differ in no more than the boundary between the parts of a body. -/
def Alike (boundary boundary' : Text) (headers headers' : Headers) : Prop :=
  List.Forall₂ (fun (name, value) (name', value') =>
    name = name' ∧ (value = value' ∨ name = "content-type".toList ∧
      value = FileResponse.multipartKind boundary ∧ value' = FileResponse.multipartKind boundary'))
    headers headers'

variable {boundary boundary' : Text} {headers headers' : Headers}

theorem Alike.refl (boundary boundary' : Text) (headers : Headers) :
    Alike boundary boundary' headers headers :=
  List.forall₂_same.mpr fun _ _ => ⟨rfl, Or.inl rfl⟩

theorem Alike.append {rest rest' : Headers} (h : Alike boundary boundary' headers headers')
    (hrest : Alike boundary boundary' rest rest') :
    Alike boundary boundary' (headers ++ rest) (headers' ++ rest') :=
  List.rel_append h hrest

/-- Whether a header is left out is told by its name. -/
theorem Alike.without (h : Alike boundary boundary' headers headers') (names : List Text) :
    Alike boundary boundary' (headers.without names) (headers'.without names) := by
  refine List.rel_filter ?_ h
  rintro ⟨name, value⟩ ⟨name', value'⟩ ⟨rfl, -⟩
  exact Iff.rfl

theorem without_append (headers rest : Headers) (names : List Text) :
    without (headers ++ rest) names = without headers names ++ without rest names :=
  List.filter_append headers rest

end Headers

namespace Request

/-- A request made with another method. -/
def withMethod (r : Request) (method : Text) : Request :=
  { r with method }

variable (r : Request) (method : Text)

@[simp] theorem method_withMethod : (r.withMethod method).method = method := rfl

@[simp] theorem path_withMethod : (r.withMethod method).path = r.path := rfl

@[simp] theorem rootPath_withMethod : (r.withMethod method).rootPath = r.rootPath := rfl

@[simp] theorem headers_withMethod : (r.withMethod method).headers = r.headers := rfl

@[simp] theorem urlText_withMethod : (r.withMethod method).urlText = r.urlText := rfl

@[simp] theorem url_withMethod : (r.withMethod method).url = r.url := rfl

@[simp] theorem shownPath_withMethod : (r.withMethod method).shownPath = r.shownPath := rfl

end Request

/-- What is sent of the headers alone in place of a whole response. -/
structure Delivery.Heads (boundary boundary' : Text) (sent heads : Delivery) : Prop where
  status : heads.response.status = sent.response.status
  unbroken : heads.broken = none
  bare : sent.response.status.code < 400 → heads.response.body = []
  alike : sent.response.status.code < 400 →
    Headers.Alike boundary boundary' sent.response.headers heads.response.headers

/-- What comes of a request for the headers alone, beside what comes of that for the whole. -/
inductive Delivery.Mirrored (boundary boundary' : Text) :
    Except Failure Delivery → Except Failure Delivery → Prop
  | failed (e e' : Failure) : Mirrored boundary boundary' (.error e) (.error e')
  | sent {d d' : Delivery} (h : d.Heads boundary boundary' d') :
      Mirrored boundary boundary' (.ok d) (.ok d')

variable {boundary boundary' : Text}

/-- What has no body unless it is refused is sent in its own place. -/
theorem Delivery.Heads.refl {d : Delivery} (hunbroken : d.broken = none)
    (hbare : d.response.status.code < 400 → d.response.body = []) :
    d.Heads boundary boundary' d where
  status := rfl
  unbroken := hunbroken
  bare := hbare
  alike := fun _ => .refl _ _ _

/-- Refusals tell the same by their status alone. -/
theorem Delivery.Heads.refused {x y : Response} (hstatus : y.status = x.status)
    (hrefused : ¬ x.status.code < 400) : Heads boundary boundary' ⟨x, none⟩ ⟨y, none⟩ where
  status := hstatus
  unbroken := rfl
  bare := fun h => absurd h hrefused
  alike := fun h => absurd h hrefused

/-! ### What is sent of a file -/

namespace FileResponse

variable {v : Vantage} {place : Location} {d : Description}

theorem deliver_heads {status : Status} {headers headers' : Headers}
    (h : Headers.Alike boundary boundary' headers headers') (body body' : List UInt8 → List UInt8) :
    (deliver v place false status headers body).Heads boundary boundary'
      (deliver v place true status headers' body') where
  status := by rw [status_deliver, status_deliver]
  unbroken := rfl
  bare := fun _ => rfl
  alike := fun _ => by
    rw [headers_deliver, headers_deliver]
    exact h

theorem whole_heads (status : Status) :
    (whole v place d false status).Heads boundary boundary' (whole v place d true status) :=
  deliver_heads (.refl _ _ _) id id

/-- The length of several parts depends on their boundary by its size alone. -/
theorem multipartLength_congr (hsize : Utf8.size boundary = Utf8.size boundary')
    (ranges : List ByteRange) :
    multipartLength d boundary ranges = multipartLength d boundary' ranges := by
  have hhead : ∀ r, Utf8.size (partHead d boundary r) = Utf8.size (partHead d boundary' r) := by
    intro r
    simp only [partHead, Utf8.size_append, hsize]
  have hclosing : Utf8.size (closing boundary) = Utf8.size (closing boundary') := by
    simp only [closing, Utf8.size_append, hsize]
  simp only [multipartLength, hhead, hclosing]

theorem parts_heads (hsize : Utf8.size boundary = Utf8.size boundary') (ranges : List ByteRange) :
    (parts v place d false boundary ranges).Heads boundary boundary'
      (parts v place d true boundary' ranges) := by
  match ranges with
  | [] => exact whole_heads .ok
  | [r] => exact deliver_heads (.refl _ _ _) r.slice r.slice
  | r :: next :: rest =>
      have halike : Headers.Alike boundary boundary'
          (headers d (multipartKind boundary) (multipartLength d boundary (r :: next :: rest)))
          (headers d (multipartKind boundary') (multipartLength d boundary' (r :: next :: rest))) := by
        rw [multipartLength_congr hsize]
        exact .cons ⟨rfl, Or.inr ⟨rfl, rfl, rfl⟩⟩ (Headers.Alike.refl _ _ _)
      exact deliver_heads halike _ _

theorem answer_heads (hsize : Utf8.size boundary = Utf8.size boundary') (request : Headers) :
    (answer v place d false boundary request).Heads boundary boundary'
      (answer v place d true boundary' request) := by
  unfold answer
  split
  · exact .refl rfl fun _ => rfl
  · split
    · exact whole_heads .ok
    · split
      · split
        · exact parts_heads hsize _
        · rename_i e hread
          refine .refused rfl ?_
          cases e
          case notSatisfiable =>
            show ¬ Status.rangeNotSatisfiable.code < 400
            decide
          all_goals
            show ¬ Status.badRequest.code < 400
            decide
      · exact whole_heads .ok

end FileResponse

/-! ### What comes of a request -/

namespace App

variable {a : App} {v : Vantage} {r : Request}

theorem notFound_mirrored (method method' : Text) :
    Delivery.Mirrored boundary boundary' (notFound (r.withMethod method))
      (notFound (r.withMethod method')) := by
  unfold notFound
  simp only [Request.shownPath_withMethod]
  split
  · refine .sent (.refused rfl ?_)
    show ¬ Status.notFound.code < 400
    decide
  · exact .failed _ _

/-- What is made of no file has no body unless it is a refusal. -/
theorem Makes.mirrored_fixed {result : Except Failure Delivery} (h : a.Makes v r (.fixed result)) :
    Delivery.Mirrored boundary boundary' result result := by
  cases hresult : result with
  | error e => exact .failed e e
  | ok d =>
      cases h.tells hresult with
      | refusal status first message hnamed =>
          have hrefused : ∀ status ∈ [Status.notFound, .unauthorized, .methodNotAllowed],
              ¬ status.code < 400 := by decide
          exact .sent (.refused rfl (hrefused status hnamed))
      | redirect target => exact .sent (.refl rfl fun _ => rfl)

/-- What comes of moved materials. -/
theorem result_mirrored (hsize : Utf8.size boundary = Utf8.size boundary') {m m' : Material}
    (hmakes : a.Makes v (r.withMethod "GET".toList) m)
    (hmoved : m.Moved (r.withMethod "GET".toList) (r.withMethod "HEAD".toList) m') :
    Delivery.Mirrored boundary boundary' (m.result v boundary (r.withMethod "GET".toList))
      (m'.result v boundary' (r.withMethod "HEAD".toList)) := by
  have hget : headOnly (r.withMethod "GET".toList) = false := headOnly_of_get rfl
  have hhead : headOnly (r.withMethod "HEAD".toList) = true := by simp [headOnly]
  cases hmoved with
  | notFound => exact notFound_mirrored _ _
  | redirect => exact hmakes.mirrored_fixed
  | same =>
      cases m with
      | fixed result => exact hmakes.mirrored_fixed
      | file s =>
          simp only [Material.result, hget, hhead, Request.headers_withMethod]
          cases Material.describe s with
          | error e => exact .failed e e
          | ok d =>
              simp only [Except.map]
              split
              · exact .sent (FileResponse.whole_heads .notFound)
              · exact .sent (FileResponse.answer_heads hsize r.headers)

variable (a v r)

/-- A path outside the mount is redirected or refused whatever the method is. -/
theorem outside_moved (method method' route : Text) :
    Material.Moved (r.withMethod method) (r.withMethod method')
      (.fixed (outside a (r.withMethod method) route))
      (.fixed (outside a (r.withMethod method') route)) := by
  unfold outside
  simp only [Request.path_withMethod, Request.rootPath_withMethod, Request.urlText_withMethod]
  split
  · exact .notFound
  · split
    · exact .same _
    · exact .notFound
    · exact .same _

/-- The method tells no more than whether the headers alone are asked for. -/
theorem material_moved_withMethod :
    (a.material v (r.withMethod "GET".toList)).Moved (r.withMethod "GET".toList)
      (r.withMethod "HEAD".toList) (a.material v (r.withMethod "HEAD".toList)) := by
  have hfilePath (method route rest : Text) :
      filePath (r.withMethod method) route rest = filePath r route rest := rfl
  have hinside (route rest : Text) :
      (a.insideMaterial v (r.withMethod "GET".toList) route rest).Moved (r.withMethod "GET".toList)
        (r.withMethod "HEAD".toList)
        (a.insideMaterial v (r.withMethod "HEAD".toList) route rest) := by
    have hslash : (r.withMethod "HEAD".toList).path.endsWith ['/'] =
        (r.withMethod "GET".toList).path.endsWith ['/'] := by simp
    have hhead : headOnly (r.withMethod "HEAD".toList) = true := by simp [headOnly]
    rw [insideMaterial, insideMaterial, if_pos (Or.inl (Request.method_withMethod _ _)),
      if_pos (Or.inr hhead), hfilePath, hfilePath]
    exact a.contentMaterial_moved v hslash _
  unfold material
  simp only [Request.path_withMethod, Request.rootPath_withMethod]
  split
  · exact .same _
  · exact a.outside_moved r _ _ _
  · split
    · exact hinside _ _
    · split
      · exact .same _
      · exact hinside _ _

/-- The headers alone are answered with the status of the whole, in full and, unless that is a refusal,
without a body and with the same headers in the same order, but for the time that each took and for the
boundary between parts. -/
theorem head_mirrors (c c' : Circumstances) (hsize : Utf8.size c.boundary = Utf8.size c'.boundary) :
    let whole := (a.handle v c (r.withMethod "GET".toList)).2
    let heads := (a.handle v c' (r.withMethod "HEAD".toList)).2
    heads.response.status = whole.response.status ∧ heads.complete = true ∧
      (whole.response.status.code < 400 → heads.raised = none ∧ heads.response.body = [] ∧
        Headers.Alike c.boundary c'.boundary
          (whole.response.headers.without ["x-response-time".toList])
          (heads.response.headers.without ["x-response-time".toList])) := by
  intro whole heads
  have hmirrored := result_mirrored hsize (a.material_makes v (r.withMethod "GET".toList))
    (a.material_moved_withMethod v r)
  have hwhole : whole = conclude c (r.withMethod "GET".toList)
      ((a.material v (r.withMethod "GET".toList)).result v c.boundary _) := a.handle_snd v _ c
  have hheads : heads = conclude c' (r.withMethod "HEAD".toList)
      ((a.material v (r.withMethod "HEAD".toList)).result v c'.boundary _) := a.handle_snd v _ c'
  rw [hwhole, hheads]
  generalize (a.material v (r.withMethod "GET".toList)).result v c.boundary _ = result at hmirrored ⊢
  generalize (a.material v (r.withMethod "HEAD".toList)).result v c'.boundary _ = result' at hmirrored ⊢
  have hfailed : ¬ Status.internalError.code < 400 := by decide
  cases hshown : r.shownPath with
  | error u =>
      have hwhole := conclude_of_error (r := r.withMethod "GET".toList) hshown c result
      have hheads := conclude_of_error (r := r.withMethod "HEAD".toList) hshown c' result'
      rw [hwhole, hheads]
      exact ⟨rfl, rfl, fun h => absurd h hfailed⟩
  | ok shown =>
      cases hmirrored with
      | failed e e' =>
          simp only [conclude, Request.shownPath_withMethod, hshown]
          exact ⟨trivial, trivial, fun h => absurd h hfailed⟩
      | sent h =>
          simp only [conclude, Request.shownPath_withMethod, hshown]
          refine ⟨h.status, by rw [h.unbroken]; rfl, fun hcode => ⟨h.unbroken, h.bare hcode, ?_⟩⟩
          rw [Headers.without_append, Headers.without_append]
          exact ((h.alike hcode).without _).append (.refl _ _ _)

end App

/-! ### A file that may not be read -/

namespace LockedFile

open PassingRoot

/-- A request for two ranges of the file. -/
def ranges : Request :=
  (get "/x").withHeaders [("range".toList, RangeEntry.header HelloRanges.apart)]

theorem host_ranges : ranges.headers.first? "host".toList = (get "/x").headers.first? "host".toList :=
  rfl

theorem material_ranges : site.material vantage ranges =
    .file ⟨[['x']], ["pub".toList, ['x']], Utf8.encode "hello".toList, 0, false⟩ := by
  have hsame : site.material vantage ranges = site.material vantage (get "/x") :=
    site.material_withHeaders vantage host_ranges
  rw [hsame]
  decide +kernel

theorem status_ranges (c : Circumstances) :
    (site.handle vantage c ranges).2.response.status = .partialContent := by
  have hshown : ranges.shownPath = .ok "/x".toList := by
    have hsame : ranges.shownPath = (get "/x").shownPath := Request.shownPath_withHeaders host_ranges
    rw [hsame]
    decide +kernel
  have hproper : ∀ entry ∈ HelloRanges.apart, entry.Proper (Utf8.encode "hello".toList).length := by
    decide
  obtain ⟨d, hpresents⟩ :=
    App.exists_presents_of_nameable hshown material_ranges rfl Validator.nameable_zero
  exact hpresents.status_partialContent rfl rfl rfl hproper (by decide) (by decide)

/-- The whole breaks off, since the file cannot be read; the headers alone are answered in full, with
those of the whole but for the boundary. -/
theorem head_mirrors_locked :
    let whole := (site.handle vantage ⟨['a'], [], []⟩ (ranges.withMethod "GET".toList)).2
    let heads := (site.handle vantage ⟨['b'], [], []⟩ (ranges.withMethod "HEAD".toList)).2
    whole.response.status = .partialContent ∧
      whole.BrokenOff (.system .accessDenied "/pub/x".toList) ∧
      heads.response.status = .partialContent ∧ heads.complete = true ∧ heads.raised = none ∧
      Headers.Alike ['a'] ['b'] (whole.response.headers.without ["x-response-time".toList])
        (heads.response.headers.without ["x-response-time".toList]) := by
  intro whole heads
  have hpartial : whole.response.status = .partialContent := status_ranges _
  have hcode : whole.response.status.code < 400 := by
    rw [hpartial]
    decide
  obtain ⟨file, e, hmaterial, hstat, -, -, hbroken⟩ :=
    App.handle_intact_iff (r := ranges) ⟨['a'], [], []⟩ rfl (Or.inr hpartial)
  have hlocked : vantage.stat (Location.path ["pub".toList, ['x']]) =
      .ok ⟨.file (Utf8.encode "hello".toList) 0, 0o600⟩ := by
    decide +kernel
  obtain rfl := Material.file.inj (material_ranges.symm.trans hmaterial)
  obtain rfl := Except.ok.inj (hlocked.symm.trans hstat)
  obtain ⟨hstatus, hcomplete, hmirrors⟩ :=
    site.head_mirrors vantage ranges ⟨['a'], [], []⟩ ⟨['b'], [], []⟩ (by decide)
  obtain ⟨hraised, -, halike⟩ := hmirrors hcode
  exact ⟨hpartial, hbroken (by decide), hstatus.trans hpartial, hcomplete, hraised, halike⟩

end LockedFile

end StaticSite
