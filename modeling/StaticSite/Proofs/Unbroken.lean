import StaticSite.Proofs.Recording
import StaticSite.Proofs.Sending

/-! Whether a response that tells of success goes out whole. It does exactly if the permission bits of
the file allow the site to read it. The status and the headers are sent before the file is opened, so
where they do not, the response breaks off after its headers, and the line for it tells of success. -/

namespace StaticSite

/-- An answer that went out whole: nothing ended it early, and its body is as long as its headers say. -/
structure Answer.Intact (x : Answer) : Prop where
  raised : x.raised = none
  complete : x.complete = true
  measured : x.response.Measured

/-- An answer that a failure ended before the first byte of its body, and of which no line tells so. -/
structure Answer.BrokenOff (x : Answer) (e : Failure) : Prop where
  raised : x.raised = some e
  complete : x.complete = false
  body : x.response.body = []
  untold : ∀ line ∈ x.log, line.level ≠ .error

theorem Answer.BrokenOff.not_intact {x : Answer} {e : Failure} (h : x.BrokenOff e) : ¬ x.Intact := by
  intro hintact
  have hraised := h.raised
  rw [hintact.raised] at hraised
  cases hraised

namespace FileResponse

variable {v : Vantage} {place : Location} {d : Description} {boundary : Text} {request : Headers}
  {delivery : Delivery}

/-- What is sent of a file with success is the whole file or ranges of it. -/
theorem Sent.of_success (h : Sent v place d false boundary request delivery)
    (hstatus : delivery.response.status = .ok ∨ delivery.response.status = .partialContent) :
    delivery = FileResponse.whole v place d false .ok ∨
      ∃ ranges, ByteRange.Spread d.size ranges ∧
        delivery = FileResponse.parts v place d false boundary ranges := by
  cases h with
  | current =>
      rcases hstatus with hstatus | hstatus <;> cases hstatus
  | whole => exact Or.inl rfl
  | parts _ header ranges _ _ hread =>
      exact Or.inr ⟨ranges, ByteRange.spread_of_read hread, rfl⟩
  | refused _ header e =>
      rcases hstatus with hstatus | hstatus <;>
        exact absurd hstatus (status_refuseRange_ne (by decide) (by decide) d.size e)

/-- It is as long as the headers say, if the file can be read. -/
theorem Sent.measured (h : Sent v place d false boundary request delivery)
    (hstatus : delivery.response.status = .ok ∨ delivery.response.status = .partialContent)
    {content : List UInt8} (hread : v.read (Location.path place) = .ok content)
    (hsize : d.size = content.length) :
    delivery.broken = none ∧ delivery.response.Measured := by
  rcases h.of_success hstatus with rfl | ⟨ranges, hspread, rfl⟩
  · exact measured_whole hread hsize .ok
  · rw [hsize] at hspread
    exact measured_parts boundary hread hsize hspread.within

/-- Nothing is sent of a file that cannot be read. -/
theorem Sent.broken (h : Sent v place d false boundary request delivery)
    (hstatus : delivery.response.status = .ok ∨ delivery.response.status = .partialContent)
    {e : PathError} (hread : v.read (Location.path place) = .error e) :
    delivery.response.body = [] ∧ delivery.broken = some (e.failure (Location.text place)) := by
  rcases h.of_success hstatus with rfl | ⟨ranges, -, rfl⟩
  · rw [FileResponse.whole, deliver_of_error hread]
    exact ⟨rfl, rfl⟩
  · exact parts_of_error hread ranges

end FileResponse

namespace App

variable {a : App} {v : Vantage} {r : Request} {c : Circumstances}

theorem conclude_intact {shown : Text} (hshown : r.shownPath = .ok shown) {d : Delivery}
    (hbroken : d.broken = none) (hmeasured : d.response.Measured) :
    (conclude c r (.ok d)).Intact := by
  rw [conclude_of_ok hshown]
  exact ⟨hbroken, by rw [hbroken]; rfl, Headers.first?_append_of_some hmeasured _⟩

theorem conclude_brokenOff {shown : Text} (hshown : r.shownPath = .ok shown) {d : Delivery}
    {e : Failure} (hbody : d.response.body = []) (hbroken : d.broken = some e) :
    (conclude c r (.ok d)).BrokenOff e := by
  rw [conclude_of_ok hshown]
  refine ⟨hbroken, by rw [hbroken]; rfl, hbody, fun line hline => ?_⟩
  rw [List.mem_singleton.mp hline]
  exact nofun

variable (c)

/-- An answer of success to a request for a file goes out whole exactly if the file may be read. -/
theorem handle_intact_iff (hget : r.method = "GET".toList)
    (hstatus : (a.handle v c r).2.response.status = .ok ∨
      (a.handle v c r).2.response.status = .partialContent) :
    ∃ s e, a.material v r = .file s ∧ v.stat (Location.path s.place) = .ok e ∧
      e.node = .file s.content s.modified ∧
      ((a.handle v c r).2.Intact ↔ e.allows v.caller readBit = true) ∧
      (e.allows v.caller readBit = false →
        (a.handle v c r).2.BrokenOff (.system .accessDenied (Location.text s.place))) := by
  obtain ⟨s, d, hpresents⟩ := exists_presents hstatus
  obtain ⟨shown, hshown⟩ := hpresents.shown
  obtain ⟨e, hstat, hnode, hread⟩ := hpresents.foundIn.read_iff
  have hhandle := hpresents.handle_eq c
  rw [headOnly_of_get hget] at hhandle
  have hsent := FileResponse.answer_sent v s.place d false c.boundary r.headers
  generalize FileResponse.answer v s.place d false c.boundary r.headers = delivery at hsent hhandle
  rw [hhandle] at hstatus ⊢
  rw [conclude_of_ok hshown] at hstatus
  have hdenied (hallowed : e.allows v.caller readBit = false) :
      (conclude c r (.ok delivery)).BrokenOff (.system .accessDenied (Location.text s.place)) := by
    rw [hallowed, if_neg Bool.false_ne_true] at hread
    obtain ⟨hbody, hbroken⟩ := hsent.broken hstatus hread
    exact conclude_brokenOff hshown hbody hbroken
  refine ⟨s, e, hpresents.material, hstat, hnode, ?_, hdenied⟩
  cases hallowed : e.allows v.caller readBit with
  | true =>
      rw [hallowed, if_pos rfl] at hread
      obtain ⟨hbroken, hmeasured⟩ := hsent.measured hstatus hread hpresents.size_eq
      exact iff_of_true (conclude_intact hshown hbroken hmeasured) rfl
  | false => exact iff_of_false (hdenied hallowed).not_intact Bool.false_ne_true

/-- In the course of a run, each answer of success to a request for a file goes out whole exactly if its
permission bits allow the site to read the file. If not, it breaks off with no byte of its body, and
nothing tells so. -/
theorem run_intact_iff (s : Stage) (before rest : List Step) (hget : r.method = "GET".toList) :
    let stage := after c s before
    ∃ x, (run c s (before ++ .request r :: rest))[before.length]? = some (.answered x) ∧
      (x.response.status = .ok ∨ x.response.status = .partialContent →
        ∃ file e, stage.app.material stage.vantage r = .file file ∧
          stage.vantage.stat (Location.path file.place) = .ok e ∧
          e.node = .file file.content file.modified ∧
          (x.Intact ↔ e.allows stage.vantage.caller readBit = true) ∧
          (e.allows stage.vantage.caller readBit = false →
            x.BrokenOff (.system .accessDenied (Location.text file.place)))) := by
  intro stage
  refine ⟨_, run_request s before rest r, fun hstatus => ?_⟩
  rw [← after_vantage (c := c)] at hstatus ⊢
  exact handle_intact_iff c hget hstatus

end App

/-! ### A file that may not be read -/

namespace LockedFile

open PassingRoot

/-- A tree with a file that nobody but its owner may read, as an ordinary process sees it. -/
def vantage : Vantage :=
  ⟨⟨[(["pub".toList], ⟨.directory, 0o755⟩),
    (["pub".toList, ['x']], ⟨.file (Utf8.encode "hello".toList) 0, 0o600⟩)]⟩, .ordinary, []⟩

def stage : Stage :=
  ⟨vantage, site, true⟩

/-- The request is answered as if the file were sent, but nothing of it is. -/
theorem not_intact_locked :
    ∃ x, (App.run circumstances stage [.request (get "/x")])[0]? = some (.answered x) ∧
      x.response.status = .ok ∧ ¬ x.Intact ∧
      x.BrokenOff (.system .accessDenied "/pub/x".toList) := by
  obtain ⟨x, hx, hanswered⟩ :=
    App.run_intact_iff circumstances stage [] [] (r := get "/x") (by decide)
  have hsame : (site.handle vantage circumstances (get "/x")).2 = x :=
    App.Outcome.answered.inj (Option.some.inj ((App.run_request stage [] [] (get "/x")).symm.trans hx))
  have hstatus : x.response.status = .ok := by
    rw [← hsame]
    decide +kernel
  obtain ⟨file, e, hmaterial, hstat, hnode, hiff, hbroken⟩ := hanswered (Or.inl hstatus)
  have hfile : site.material vantage (get "/x") =
      .file ⟨[['x']], ["pub".toList, ['x']], Utf8.encode "hello".toList, 0, false⟩ := by
    decide +kernel
  have hlocked : vantage.stat (Location.path ["pub".toList, ['x']]) =
      .ok ⟨.file (Utf8.encode "hello".toList) 0, 0o600⟩ := by
    decide +kernel
  obtain rfl := Material.file.inj (hfile.symm.trans hmaterial)
  obtain rfl := Except.ok.inj (hlocked.symm.trans hstat)
  exact ⟨x, hx, hstatus, fun h => absurd (hiff.mp h) (by decide), hbroken (by decide)⟩

end LockedFile

end StaticSite
