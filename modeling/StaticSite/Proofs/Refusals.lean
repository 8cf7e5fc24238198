import StaticSite.Proofs.JsonReading
import StaticSite.Proofs.Sending

/-! The shape of refusals. Whatever a site has against a request, it says so in one shape: an object of
JSON with the message, the phrase of the status and the status. Only a page of the site for what is
missing has its own shape, and the refusal of a range of a file. -/

namespace StaticSite

/-- Whether a status tells the client that its request is at fault. -/
def Status.isRefusal (s : Status) : Bool :=
  400 ≤ s.code && s.code ≤ 499

namespace Answer

/-- The shape of refusals: a body of JSON, as long as it is said to be, that is read as an object of a
message, the phrase of the status and the status. -/
structure Refuses (x : Answer) : Prop where
  complete : x.complete = true
  raised : x.raised = none
  kind : x.response.headers.values "content-type".toList = ["application/json".toList]
  length : x.response.headers.values "content-length".toList = [Text.ofNat x.response.body.length]
  body : ∃ t message, x.response.body = Utf8.encode t ∧
    JsonText.readObject? t = some [("message".toList, .text message),
      ("error".toList, .text x.response.status.phrase),
      ("statusCode".toList, .number x.response.status.code)]

/-- That an answer is the page of a site for what is missing: a file of this name in the directory of
the site, if the site has pages at all. It is sent as any file is, and breaks off if it cannot be
read. -/
structure SendsMissing (a : App) (v : Vantage) (r : Request) (s : Source) (x : Answer) : Prop where
  pages : a.settings.htmlIndex = true
  path : s.path = [App.missingName]
  found : s.FoundIn v a.rootPath
  status : x.response.status = .notFound
  kind : x.response.headers.values "content-type".toList =
    [ContentType.header (s.place.getLast?.getD [])]
  length : x.response.headers.values "content-length".toList = [Text.ofNat s.content.length]
  body : x.complete = true ∧ x.raised = none ∧
      x.response.body = (if App.headOnly r then [] else s.content) ∨
    x.complete = false ∧ x.response.body = [] ∧ ∃ e, v.read (Location.path s.place) = .error e

/-- That an answer refuses a range that is asked for of a file which would be sent otherwise. -/
structure RefusesRange (a : App) (v : Vantage) (r : Request) (s : Source)
    (d : FileResponse.Description) (x : Answer) : Prop where
  presents : a.Presents v r s d
  asked : ∃ header e, r.headers.first? "range".toList = some header ∧
    ByteRange.read d.size header = .error e ∧
    x.response.status = (FileResponse.refuseRange d.size e).status

end Answer

namespace Material

/-- A file that an answer is made from is the page for what is missing only under its name, and where
there are pages. -/
def Missing (a : App) (m : Material) : Prop :=
  ∀ s, m = .file s → s.isPage = true → a.settings.htmlIndex = true ∧ s.path = [App.missingName]

end Material

namespace App

variable {a : App} {v : Vantage} {r : Request}

theorem missing_fixed (result : Except Failure Delivery) : Material.Missing a (.fixed result) :=
  nofun

theorem missing_ofFound {p : Path} {found : Found} {isPage : Bool} {otherwise : Material}
    (h : isPage = true → a.settings.htmlIndex = true ∧ p = [missingName])
    (hotherwise : Material.Missing a otherwise) :
    Material.Missing a (.ofFound p found isPage otherwise) := by
  intro s hs hpage
  unfold Material.ofFound at hs
  split at hs
  · cases hs
    exact h hpage
  · exact hotherwise s hs hpage

theorem missing_missingMaterial (a : App) (v : Vantage) (r : Request) :
    Material.Missing a (a.missingMaterial v r) := by
  unfold missingMaterial
  split
  · rename_i hpages
    split
    · exact missing_fixed _
    · exact missing_fixed _
    · exact missing_ofFound (fun _ => ⟨hpages, rfl⟩) (missing_fixed _)
  · exact missing_fixed _

theorem missing_directoryMaterial (a : App) (v : Vantage) (r : Request) (p : Path) :
    Material.Missing a (a.directoryMaterial v r p) := by
  unfold directoryMaterial
  split
  · split
    · exact missing_fixed _
    · exact missing_missingMaterial a v r
    · split
      · exact missing_fixed _
      · exact missing_ofFound nofun (missing_missingMaterial a v r)
  · exact missing_missingMaterial a v r

theorem missing_contentMaterial (a : App) (v : Vantage) (r : Request) (p : Path) :
    Material.Missing a (a.contentMaterial v r p) := by
  unfold contentMaterial
  split
  · exact missing_fixed _
  · split
    · exact missing_fixed _
    · split <;> exact missing_fixed _
  · exact missing_fixed _
  · exact missing_missingMaterial a v r
  · split
    · exact missing_directoryMaterial a v r p
    · exact missing_ofFound nofun (missing_missingMaterial a v r)

theorem missing_material (a : App) (v : Vantage) (r : Request) :
    Material.Missing a (a.material v r) := by
  have hinside : ∀ route rest, Material.Missing a (a.insideMaterial v r route rest) := by
    intro route rest
    unfold insideMaterial
    split
    · exact missing_contentMaterial a v r _
    · exact missing_fixed _
  unfold material
  split
  · exact missing_fixed _
  · exact missing_fixed _
  · split
    · exact hinside _ _
    · split
      · exact missing_fixed _
      · exact hinside _ _

/-! ### Each kind of answer -/

/-- The time that an answer took is told beside what describes its body. -/
theorem values_timeHeader {name : Text} (h : name ∈ Headers.describing) (headers : Headers)
    (c : Circumstances) : Headers.values (headers ++ [timeHeader c]) name = headers.values name := by
  have hother : ∀ name ∈ Headers.describing,
      (Text.asciiLower "x-response-time".toList == name) = false := by
    decide
  have hnone : Headers.values [timeHeader c] name = [] := by
    unfold Headers.values timeHeader
    rw [List.filter_singleton]
    simp only [hother name h, cond_false, List.map_nil]
  rw [Headers.values_append, hnone, List.append_nil]

theorem refuses_of_refusal {shown : Text} (hshown : r.shownPath = .ok shown) (c : Circumstances)
    {status : Status} {first : Headers} (hfirst : first = [] ∨ first = [("allow".toList, allowed)])
    (message : Text) :
    (conclude c r (.ok ⟨Response.refusal status first message, none⟩)).Refuses := by
  have hvalues : ∀ kind body,
      Headers.values (first ++ Response.bodyHeaders kind body) "content-type".toList = [kind.toList] ∧
        Headers.values (first ++ Response.bodyHeaders kind body) "content-length".toList =
          [Text.ofNat body.length] := by
    intro kind body
    rcases hfirst with rfl | rfl <;> exact ⟨rfl, rfl⟩
  rw [conclude_of_ok hshown]
  refine ⟨rfl, rfl, ?_, ?_, _, message, rfl, JsonText.readObject?_refusalText status message⟩
  · exact (values_timeHeader (by decide) _ c).trans (hvalues _ _).1
  · exact (values_timeHeader (by decide) _ c).trans (hvalues _ _).2

/-- The headers of a file tell its kind and its length once. -/
theorem values_headers (d : FileResponse.Description) (kind : Text) (length : Nat) :
    (FileResponse.headers d kind length).values "content-type".toList = [kind] ∧
      (FileResponse.headers d kind length).values "content-length".toList = [Text.ofNat length] :=
  ⟨rfl, rfl⟩

theorem sendsMissing_of_page {shown : Text} (hshown : r.shownPath = .ok shown) (c : Circumstances)
    {s : Source} {d : FileResponse.Description} (hmaterial : a.material v r = .file s)
    (hpage : s.isPage = true) (hdescribed : Material.describe s = .ok d) :
    (conclude c r (.ok (FileResponse.whole v s.place d (headOnly r) .notFound))).SendsMissing
      a v r s := by
  obtain ⟨hpages, hpath⟩ := missing_material a v r s hmaterial hpage
  have hfound := a.foundIn_of_material v r hmaterial
  have hkind := (describe_eq_ok hdescribed).1
  have hsize := (Material.printed_of_describe hdescribed).2
  rw [conclude_of_ok hshown]
  refine ⟨hpages, hpath, hfound, FileResponse.status_whole .notFound, ?_, ?_, ?_⟩
  · refine (values_timeHeader (by decide) _ c).trans ?_
    rw [FileResponse.whole, FileResponse.headers_deliver, (values_headers d d.kind d.size).1, hkind]
  · refine (values_timeHeader (by decide) _ c).trans ?_
    rw [FileResponse.whole, FileResponse.headers_deliver, (values_headers d d.kind d.size).2, hsize]
  · cases hhead : headOnly r with
    | true => exact Or.inl ⟨rfl, rfl, rfl⟩
    | false =>
        obtain ⟨e, -, -, hread⟩ := hfound.read_iff
        cases hbytes : v.read (Location.path s.place) with
        | ok content =>
            rw [hbytes] at hread
            split at hread
            · cases hread
              rw [FileResponse.whole, FileResponse.deliver_of_read hbytes]
              exact Or.inl ⟨rfl, rfl, rfl⟩
            · cases hread
        | error e =>
            rw [FileResponse.whole, FileResponse.deliver_of_error hbytes]
            exact Or.inr ⟨rfl, rfl, e, rfl⟩

/-- Of what may be sent of a file that is asked for, only a range is ever refused. -/
theorem refusesRange_of_file {shown : Text} (hshown : r.shownPath = .ok shown) (c : Circumstances)
    {s : Source} {d : FileResponse.Description} (hpresents : a.Presents v r s d)
    (hstatus : (a.handle v c r).2.response.status.isRefusal = true) :
    (a.handle v c r).2.RefusesRange a v r s d := by
  rw [hpresents.handle_eq, conclude_of_ok hshown] at hstatus ⊢
  have hsent := FileResponse.answer_sent v s.place d (headOnly r) c.boundary r.headers
  generalize FileResponse.answer v s.place d (headOnly r) c.boundary r.headers = sent at hsent hstatus ⊢
  dsimp only at hstatus ⊢
  cases hsent with
  | current _ => cases hstatus
  | whole _ =>
      rw [FileResponse.status_whole] at hstatus
      cases hstatus
  | parts _ _ ranges _ _ _ hsome =>
      rw [FileResponse.status_parts hsome] at hstatus
      cases hstatus
  | refused _ header e hasked _ hread =>
      exact ⟨hpresents, header, e, hasked, hread, rfl⟩

/-! ### All refusals -/

/-- Whatever is refused to a client is refused in the one shape, whatever the site is and has come to
know, the tree and its permissions, the method and the headers are. There are two exceptions: a page of
the site for what is missing is sent as a file, and a range of a file is refused without the shape. -/
theorem refusal_shaped (a : App) (v : Vantage) (c : Circumstances) (r : Request)
    (hstatus : (a.handle v c r).2.response.status.isRefusal = true) :
    (a.handle v c r).2.Refuses ∨ (∃ s, (a.handle v c r).2.SendsMissing a v r s) ∨
      ∃ s d, (a.handle v c r).2.RefusesRange a v r s d := by
  cases hshown : r.shownPath with
  | error u =>
      rw [handle_snd, conclude_of_error hshown] at hstatus
      cases hstatus
  | ok shown =>
      have hmakes := a.material_makes v r
      cases hmaterial : a.material v r with
      | fixed result =>
          rw [hmaterial] at hmakes
          rw [handle_snd, hmaterial, Material.result] at hstatus ⊢
          cases result with
          | error e =>
              simp only [conclude, hshown] at hstatus
              cases hstatus
          | ok d =>
              cases hmakes.tells rfl with
              | refusal status first message _ hadded =>
                  exact Or.inl (refuses_of_refusal hshown c hadded message)
              | redirect target _ =>
                  rw [conclude_of_ok hshown] at hstatus
                  cases hstatus
      | file s =>
          cases hdescribed : Material.describe s with
          | error e =>
              rw [handle_snd, hmaterial, Material.result, hdescribed] at hstatus
              simp only [Except.map, conclude, hshown] at hstatus
              cases hstatus
          | ok d =>
              cases hpage : s.isPage with
              | true =>
                  refine Or.inr (Or.inl ⟨s, ?_⟩)
                  have hsent := sendsMissing_of_page hshown c hmaterial hpage hdescribed
                  rwa [handle_snd, hmaterial, Material.result, hdescribed, Except.map, hpage, if_pos rfl]
              | false =>
                  have hpresents : a.Presents v r s d := ⟨⟨shown, hshown⟩, hmaterial, hpage, hdescribed⟩
                  exact Or.inr (Or.inr ⟨s, d, refusesRange_of_file hshown c hpresents hstatus⟩)

end App

/-! ### A site with a page of its own -/

namespace OwnPage

open PassingRoot

/-- The body that names a path with a quote in it. -/
def quoted : Text :=
  "\x7b\"message\":\"Route GET:/a\\\" not found\",\"error\":\"Not Found\",\"statusCode\":404\x7d".toList

/-- The quote is escaped in the message. -/
theorem refusal_shaped_quoted :
    let answer := (site.handle vantage circumstances (get "/a%22")).2
    answer.response.status.isRefusal = true ∧
      (answer.Refuses ∨
        (∃ s, answer.SendsMissing site vantage (get "/a%22") s) ∨
        ∃ s d, answer.RefusesRange site vantage (get "/a%22") s d) ∧
      answer.response.body = Utf8.encode quoted := by
  intro answer
  have hstatus : answer.response.status.isRefusal = true := by decide +kernel
  have hbody : answer.response.body = Utf8.encode quoted := by decide +kernel
  exact ⟨hstatus, App.refusal_shaped site vantage circumstances (get "/a%22") hstatus, hbody⟩

/-- A tree with a page for what is missing. -/
def vantage : Vantage :=
  ⟨⟨[(["pub".toList], ⟨.directory, 0o755⟩),
    (["pub".toList, App.missingName], ⟨.file (Utf8.encode "gone".toList) 0, 0o644⟩)]⟩, .superuser, []⟩

/-- What is missing is answered with the page, which is not of the shape of refusals. -/
theorem not_refuses_missing :
    let answer := (site.handle OwnPage.vantage circumstances (get "/x")).2
    App.create settings = .ok site ∧ (get "/x").method = "GET".toList ∧
      answer.response.status = .notFound ∧ answer.response.status.isRefusal = true ∧
      answer.response.body = Utf8.encode "gone".toList ∧ ¬ answer.Refuses := by
  intro answer
  have hkind : answer.response.headers.values "content-type".toList ≠ ["application/json".toList] := by
    decide +kernel
  exact ⟨by decide +kernel, rfl, by decide +kernel, by decide +kernel, by decide +kernel,
    fun h => hkind h.kind⟩

end OwnPage

end StaticSite
