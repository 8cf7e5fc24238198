import StaticSite.Proofs.Checking
import StaticSite.Proofs.Histories
import StaticSite.Proofs.Restoring
import StaticSite.Proofs.Routing
import StaticSite.Proofs.Starting

/-! What a check of settings promises. The check looks at the settings and the tree once, before there
is a site; the mount, the socket and the first request look at them again, each in its own way. What
passes the check is not refused by any of them while the tree stays as it is. -/

namespace StaticSite

/-! ### The port -/

namespace Network
variable {n : Network}

/-- No port of a check that has passed is refused for its size. -/
theorem listen_ne_outOfRange {host : Text} {port : Int} (hport : 0 ≤ port ∧ port ≤ maxPort) :
    (n.listen host port).result ≠ .error (.call .portOutOfRange) := by
  rw [listen_result]
  cases hbind : n.bind host port with
  | ok found => nofun
  | error e =>
      cases e with
      | portOutOfRange =>
          rcases bind_error hport hbind with hname | ⟨e, he⟩
          · unfold lookupName at hname
            split at hname
            · cases hname
            · split at hname <;> cases hname
          · cases he
      | _ => nofun

end Network

/-! ### The directory -/

namespace App

/-- What is seen of a failure on account of the directory of the site. -/
inductive Outcome.OfRoot : Outcome → Prop
  | answered {x : Answer} {e : Failure} (h : x.raised = some e) (hroot : e.OfRoot) :
      OfRoot (.answered x)
  | failed {e : Failure} (hroot : e.OfRoot) : OfRoot (.failed e)

variable {a : App} {v : Vantage} {c : Circumstances}

/-- Where the directory is there, no request fails on its account, whether it is known to be there
or not. -/
theorem not_ofRoot_of_hasDirectory (h : v.HasDirectory a.settings.rootDir) {r : Request} {e : Failure}
    (he : (a.handle v c r).2.raised = some e) : ¬ e.OfRoot := by
  rw [← a.handle_snd_of_hasDirectory v r c h true] at he
  exact not_ofRoot_of_rootChecked _ v r c rfl he

/-- A step that leaves the tree as it is leaves the directory where it is, and does not fail on its
account. -/
theorem step_of_hasDirectory {s : Stage} {x : Step} (hroot : s.vantage.HasDirectory s.app.settings.rootDir)
    (hedit : x.edit? = none) :
    (step c s x).1.vantage.HasDirectory (step c s x).1.app.settings.rootDir ∧
      ¬ (step c s x).2.OfRoot := by
  constructor
  · have hsame : edits [x] = [] := by rw [edits, List.filterMap_cons_none hedit, List.filterMap_nil]
    obtain ⟨hvantage, ⟨known, happ⟩, -⟩ := step_fst (c := c) s x
    rw [hvantage, happ, hsame]
    exact hroot
  · intro hfails
    cases x with
    | edit e => cases hedit
    | startup => cases hfails
    | shutdown =>
        rw [step] at hfails
        dsimp only at hfails
        split at hfails <;> cases hfails
    | request r =>
        cases hfails with
        | answered hraised hofRoot => exact not_ofRoot_of_hasDirectory hroot hraised hofRoot
    | socket r =>
        rw [step, socketOutcome, acceptSocket] at hfails
        dsimp only at hfails
        split at hfails
        · cases hfails
        · rename_i e hrefused
          split at hrefused <;> cases hrefused
          rcases hfails with _ | ⟨⟨⟩⟩

/-- Nor does any of many. -/
theorem run_of_hasDirectory {s : Stage} {steps : List Step}
    (hroot : s.vantage.HasDirectory s.app.settings.rootDir) (hedits : edits steps = []) :
    ∀ x ∈ run c s steps, ¬ x.OfRoot := by
  induction steps generalizing s with
  | nil => exact List.forall_mem_nil _
  | cons x rest ih =>
      have hnone := List.filterMap_eq_nil_iff.mp hedits
      obtain ⟨hnext, houtcome⟩ := step_of_hasDirectory (c := c) hroot (hnone x List.mem_cons_self)
      rw [run]
      refine List.forall_mem_cons.mpr ⟨houtcome, ih hnext ?_⟩
      exact List.filterMap_eq_nil_iff.mpr fun y hy => hnone y (List.mem_cons_of_mem x hy)

/-- A request that fails on account of the directory is seen to do so when it is the only step. -/
theorem exists_ofRoot_of_handle (begun : Bool) {r : Request} {e : Failure}
    (hraised : (a.handle v c r).2.raised = some e) (hroot : e.OfRoot) :
    ∃ x ∈ run c ⟨v, a, begun⟩ [.request r], x.OfRoot :=
  ⟨_, List.mem_singleton_self _, .answered hraised hroot⟩

end App

/-! ### The check -/

namespace Settings
variable {s : Settings} {v : Vantage}

theorem servable_of_check (h : s.check v = .ok ()) :
    Servable v (Path.plain s.rootDir) s.port s.urlPrefix := by
  have hchecked := checked_checkOf v (Path.plain s.rootDir) s.port s.urlPrefix
  rw [← check_eq_checkOf, h] at hchecked
  have hlooked : ∀ e, ¬ v.Refuses (Path.ofText (Path.plain s.rootDir)) e := by
    intro e hrefuses
    cases hchecked.refused e hrefuses
  exact (hchecked.passed hlooked).mp rfl

/-- Unless the look at the directory is refused, settings that do not pass have problems. -/
theorem exists_problems_of_check_ne (hlooked : ∀ e, ¬ v.Refuses (Path.ofText (Path.plain s.rootDir)) e)
    (h : s.check v ≠ .ok ()) : ∃ problems, s.check v = .error (.problems problems) := by
  have hchecked := checked_checkOf v (Path.plain s.rootDir) s.port s.urlPrefix
  rw [← check_eq_checkOf] at hchecked
  by_cases hshort : s.port.natAbs < Number.tooGreat
  · obtain ⟨problems, _, _, _, hproblems, -⟩ :=
      hchecked.failed hlooked (fun hservable => h ((hchecked.passed hlooked).mpr hservable)) hshort
    exact ⟨problems, hproblems⟩
  · obtain ⟨problems, hproblems, -⟩ := hchecked.untold hlooked (Nat.not_lt.mp hshort)
    exact ⟨problems, hproblems⟩

/-- Settings with which a site can be served from a tree: it is made, its port is not refused for its
size, and as long as the tree stays as it is, nothing fails on account of its directory. -/
structure Serves (s : Settings) (v : Vantage) : Prop where
  created : ∃ a, App.create s = .ok a
  port : ∀ n : Network, (n.listen s.host s.port).result ≠ .error (.call .portOutOfRange)
  root : ∀ a begun c steps, App.create s = .ok a → App.edits steps = [] →
    ∀ x ∈ App.run c ⟨v, a, begun⟩ steps, ¬ x.OfRoot

/-- Settings without a brace in the prefix serve if they pass the check. And if there is no site with
them or something fails on account of its directory, in a tree where the look at this is not refused,
then the check has told problems. -/
theorem check_promises (hnormal : s.Normal) (hbraces : '{' ∉ s.urlPrefix) (v : Vantage) :
    (s.check v = .ok () → s.Serves v) ∧
    ((∀ e, ¬ v.Refuses (Path.ofText s.rootDir) e) →
      ((∃ e, App.create s = .error e) ∨
        ∃ a begun c steps, App.create s = .ok a ∧ App.edits steps = [] ∧
          ∃ x ∈ App.run c ⟨v, a, begun⟩ steps, x.OfRoot) →
      ∃ problems, s.check v = .error (.problems problems)) := by
  have hserves : s.check v = .ok () → s.Serves v := by
    intro hcheck
    obtain ⟨⟨e, hleads, hdirectory, -, -⟩, hport, hslash⟩ := servable_of_check hcheck
    rw [hnormal] at hleads
    have hroot : v.HasDirectory s.rootDir :=
      ⟨e, Vantage.stat_eq_ok_iff.mpr hleads, decide_eq_true hdirectory⟩
    have hcreate : App.create s = .ok ⟨s, ⟨(Mount.trimmed s.urlPrefix).map .literal⟩, false⟩ := by
      rw [App.create, Mount.ofPrefix_of_not_mem (Or.inr hslash) hbraces]
      rfl
    refine ⟨⟨_, hcreate⟩, fun n => Network.listen_ne_outOfRange hport, ?_⟩
    intro a begun c steps ha hedits
    obtain ⟨rfl, -⟩ := App.of_create ha
    exact App.run_of_hasDirectory hroot hedits
  refine ⟨hserves, fun hlooked hfails => ?_⟩
  rw [← hnormal] at hlooked
  refine exists_problems_of_check_ne hlooked fun hcheck => ?_
  obtain ⟨⟨a, hcreate⟩, -, hroot⟩ := hserves hcheck
  rcases hfails with ⟨e, he⟩ | ⟨a', begun, c, steps, ha', hedits, x, hx, hofRoot⟩
  · rw [hcreate] at he
    cases he
  · exact hroot a' begun c steps ha' hedits x hx hofRoot

end Settings

/-! ### A root behind a link, and one that is a file -/

namespace LinkedRoot

def vantage : Vantage :=
  ⟨⟨[(["pub".toList], ⟨.directory, 0o755⟩), (["www".toList], ⟨.link "pub".toList, 0o777⟩),
    (["note".toList], ⟨.file [] 0, 0o644⟩)]⟩, .ordinary, []⟩

def linked : Settings :=
  { Settings.standard "www".toList with
    port := 65535
    urlPrefix := "///".toList }

def noted : Settings :=
  { Settings.standard "note".toList with
    urlPrefix := "/notes/".toList }

def site : App :=
  ⟨noted, ⟨"/notes".toList.map .literal⟩, false⟩

def circumstances : Circumstances := ⟨[], [], []⟩

def request : Request :=
  ⟨"GET".toList, "/notes/a".toList, [], none, "http".toList, []⟩

/-- The link passes the check. The file does not, and the first request below the prefix tells why. -/
theorem check_promises_linked :
    linked.Normal ∧ noted.Normal ∧ linked.check vantage = .ok () ∧ linked.Serves vantage ∧
      ∃ problems, noted.check vantage = .error (.problems problems) := by
  have hlinked : linked.Normal := by decide
  have hnoted : noted.Normal := by decide
  have hcheck : linked.check vantage = .ok () := by decide +kernel
  have hstat : vantage.stat (Path.ofText noted.rootDir) = .ok ⟨.file [] 0, 0o644⟩ := by decide +kernel
  have hlooked : ∀ e, ¬ vantage.Refuses (Path.ofText noted.rootDir) e := by
    rintro e ⟨he, -⟩
    rw [hstat] at he
    cases he
  have hcreate : App.create noted = .ok site := by decide +kernel
  have hraised : (site.handle vantage circumstances request).2.raised =
      some (.rootNotDirectory "note".toList) := by
    decide +kernel
  refine ⟨hlinked, hnoted, hcheck, (Settings.check_promises hlinked (by decide) vantage).1 hcheck, ?_⟩
  exact (Settings.check_promises hnoted (by decide) vantage).2 hlooked
    (Or.inr ⟨site, false, circumstances, [.request request], hcreate, rfl,
      App.exists_ofRoot_of_handle false hraised trivial⟩)

end LinkedRoot

end StaticSite
