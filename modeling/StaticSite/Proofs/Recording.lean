import StaticSite.Proofs.HeaderNames
import StaticSite.Proofs.Histories
import StaticSite.Proofs.Legible

/-! What a site writes down of its requests. Each answer is recorded by one line, which tells its
status, and carries the time it took once; one that failed before it began is recorded by one line as
well and carries no time. The line needs the path of the request, so a request of which the path
cannot be told is not recorded at all. -/

namespace StaticSite

/-- The times that headers tell. -/
def Headers.times (headers : Headers) : List Text :=
  (headers.filter fun (name, _) => name.asciiLower == "x-response-time".toList).map (·.2)

theorem Headers.times_eq (headers : Headers) :
    times headers = values headers "x-response-time".toList :=
  rfl

/-- A response with the time that it took. -/
def Response.timed (x : Response) (c : Circumstances) : Response :=
  { x with headers := x.headers ++ [App.timeHeader c] }

/-- An answer that is recorded once, from what came of its request: a response that had begun by the
line with the status that was sent, and it carries the time; a failure before by its own line, and the
answer carries no time. -/
inductive Answer.Recorded (c : Circumstances) (r : Request) (x : Answer) :
    Except Failure Delivery → Prop
  | answered (d : Delivery) (shown : Text) (told : r.shownPath = .ok shown)
      (status : x.response.status = d.response.status)
      (line : x.log = [App.answeredLine c r shown x.response.status])
      (timed : x.response.headers.times = [c.elapsedExactly]) : Recorded c r x (.ok d)
  | failed (e : Failure) (shown : Text) (told : r.shownPath = .ok shown)
      (status : x.response.status = .internalError)
      (line : x.log = [App.failedLine c r shown e])
      (untimed : x.response.headers.times = []) : Recorded c r x (.error e)

theorem Answer.Recorded.legible {c : Circumstances} {r : Request} {x : Answer}
    {result : Except Failure Delivery} (h : x.Recorded c r result) : r.Legible := by
  rw [Request.legible_iff_shownPath]
  cases h with
  | answered d shown told => exact ⟨shown, told⟩
  | failed e shown told => exact ⟨shown, told⟩

namespace App

variable {a : App} {v : Vantage} {r : Request} {boundary : Text}

/-- No response that is delivered tells a time of its own. -/
theorem Delivers.times {d : Delivery} (h : a.Delivers v boundary r d) :
    d.response.headers.times = [] := by
  rcases h.redirect_or_describe with ⟨target, rfl⟩ | hdescribe
  · rfl
  · exact Headers.values_of_describe hdescribe (by decide)

/-! ### Answers -/

theorem conclude_recorded {result : Except Failure Delivery}
    (h : ∀ d, result = .ok d → d.response.headers.times = []) {shown : Text}
    (hshown : r.shownPath = .ok shown) (c : Circumstances) :
    (conclude c r result).Recorded c r result := by
  cases result with
  | error e =>
      simp only [conclude, hshown]
      exact .failed e shown hshown rfl rfl rfl
  | ok d =>
      simp only [conclude, hshown]
      refine .answered d shown hshown rfl rfl ?_
      rw [Headers.times_eq, Headers.values_append, ← Headers.times_eq, h d rfl]
      rfl

variable (a v r)

/-- An answer is recorded exactly where the path of its request can be told. -/
theorem handle_recorded_iff (c : Circumstances) :
    (a.handle v c r).2.Recorded c r (a.respond v c.boundary r).2 ↔ r.Legible := by
  rw [handle_snd, respond_snd]
  constructor
  · exact Answer.Recorded.legible
  · intro h
    obtain ⟨shown, hshown⟩ := Request.legible_iff_shownPath.mp h
    exact conclude_recorded (fun d hd => ((a.material_makes v r).delivers hd).times) hshown c

/-- Where it cannot be told, nothing is written down, and the request fails. -/
theorem handle_of_not_legible (h : ¬ r.Legible) (c : Circumstances) :
    (a.handle v c r).2.log = [] ∧ (a.handle v c r).2.response = Response.internalError ∧
      ∃ e, (a.handle v c r).2.raised = some (.url e) := by
  obtain ⟨e, -, hshown⟩ := Request.not_legible h
  rw [handle_snd, conclude_of_error hshown]
  exact ⟨rfl, rfl, e, rfl⟩

/-- In the course of a run, each request is recorded once by one line, with its status and the time or
with its failure, exactly if its path can be told; else it fails without a line. It can be told of
each request of which the host is known. -/
theorem run_recorded (s : Stage) (c : Circumstances) (before rest : List Step) (r : Request) :
    let stage := after c s before
    ∃ x, (run c s (before ++ .request r :: rest))[before.length]? = some (.answered x) ∧
      (x.Recorded c r (stage.app.respond stage.vantage c.boundary r).2 ↔ r.Legible) ∧
      (¬ r.Legible → x.log = [] ∧ x.response = Response.internalError) ∧
      (r.Located → r.Legible) := by
  intro stage
  refine ⟨_, run_request s before rest r, ?_, fun h => ?_, Request.Located.legible⟩
  · rw [← after_vantage (c := c)]
    exact handle_recorded_iff _ _ r c
  · obtain ⟨hlog, hresponse, -⟩ := handle_of_not_legible (after c s before).app
      (s.vantage.applyAll (edits before)) r h c
    exact ⟨hlog, hresponse⟩

end App

/-! ### A request by an unknown scheme -/

namespace UnknownScheme

open PassingRoot

def stage : Stage :=
  ⟨vantage, site, true⟩

def request : Request :=
  { get "/" with server := some ("testserver".toList, 80), scheme := "foo".toList }

/-- The request is answered, but no line is written for it. -/
theorem run_unrecorded :
    ∃ x, (App.run circumstances stage [.request request])[0]? = some (.answered x) ∧ x.log = [] ∧
      x.response.status = .internalError := by
  have hnot : ¬ request.Legible := by
    rintro ⟨u, hu⟩
    have herror : request.url = .error (.unknownScheme "foo".toList) := by
      decide +kernel
    rw [herror] at hu
    cases hu
  obtain ⟨x, hx, -, hlog, -⟩ := App.run_recorded stage circumstances [] [] request
  obtain ⟨hlog, hresponse⟩ := hlog hnot
  exact ⟨x, hx, hlog, by rw [hresponse]; rfl⟩

end UnknownScheme

end StaticSite
