import StaticSite.Proofs.Revalidation
import StaticSite.Proofs.WholeSeconds

/-! Asking for a file only if it has changed since a time. Dates from 1970 to 9999 are compared as the
times that they denote: what is written of two times is read as their clocks, and these are in the order
of the times. -/

namespace StaticSite

namespace ClockTime

/-- A time from the beginning of 1970 to the end of 9999. -/
structure IsDated (n : Int) : Prop where
  first : instant ⟨1970, 1, 1, 0, 0, 0⟩ ≤ n
  last : n ≤ instant ⟨9999, 12, 31, 23, 59, 59⟩

theorem isDated_iff (n : Int) : IsDated n ↔ 0 ≤ n ∧ n ≤ 253402300799 := by
  have hfirst : instant ⟨1970, 1, 1, 0, 0, 0⟩ = 0 := by decide
  have hlast : instant ⟨9999, 12, 31, 23, 59, 59⟩ = 253402300799 := by decide
  rw [← hlast, ← hfirst]
  exact ⟨fun h => ⟨h.first, h.last⟩, fun h => ⟨h.1, h.2⟩⟩

theorem IsDated.year {n : Int} (h : IsDated n) :
    1970 ≤ (ofSeconds n).year ∧ (ofSeconds n).year ≤ 9999 := by
  obtain ⟨hfirst, hlast⟩ := (isDated_iff n).mp h
  have hbegin := le_year_iff 1970 n
  have hend := le_year_iff 10000 n
  have hyears : Date.yearStart 10000 = 2932897 := by decide
  rw [Date.yearStart_epoch] at hbegin
  rw [hyears] at hend
  omega

end ClockTime

/-- The text of a time from 1970 to 9999 is read as its clock. -/
theorem HttpDate.read?_of_isDated {n : Int} (h : ClockTime.IsDated n) :
    read? (render n) = some (ClockTime.ofSeconds n) := by
  obtain ⟨hfirst, hlast⟩ := h.year
  have hyear : fullYear (ClockTime.ofSeconds n).year = (ClockTime.ofSeconds n).year :=
    if_neg (by omega)
  rw [read?_render ⟨Int.le_trans (by decide) hfirst, hlast⟩, hyear]

namespace Validator

variable {v : Validator} {t : Int}

/-- The time of a version that was changed on a whole second is the text of that second. -/
theorem time_of_whole (ht : ClockTime.IsDated t) {size : Nat}
    (h : ofFile (t * 1000000000) size = .ok v) : v.time = HttpDate.render t := by
  obtain ⟨hfirst, hlast⟩ := (ClockTime.isDated_iff t).mp ht
  obtain ⟨n, rfl⟩ := Int.eq_ofNat_of_zero_le hfirst
  have hbound : n < 2 * Number.Binary64.leastMantissa := by
    rw [Number.Binary64.leastMantissa]
    omega
  rw [(time_of_ofFile h).1, wholeSeconds_whole hbound]

/-- A date is not before the time of a version exactly if what it denotes is not. -/
theorem notAfter_render (ht : ClockTime.IsDated t) (htime : v.time = HttpDate.render t) {u : Int}
    (hu : ClockTime.IsDated u) : v.notAfter (HttpDate.render u) = true ↔ t ≤ u := by
  rw [notAfter, htime, HttpDate.read?_of_isDated hu, HttpDate.read?_of_isDated ht]
  exact ClockTime.le_ofSeconds_iff t u

end Validator

namespace App

variable {a : App} {v : Vantage} {r : Request} {s : Source} {d : FileResponse.Description}

/-- A file that a client does not have is sent whole, if no part of it is asked for. -/
theorem Presents.status_of_not_current (h : a.Presents v r s d)
    (hcurrent : d.validator.isCurrent r.headers = false)
    (hrange : r.headers.first? "range".toList = none) (c : Circumstances) :
    (a.handle v c r).2.response.status = .ok := by
  obtain ⟨shown, hshown⟩ := h.shown
  rw [h.handle_eq, conclude_of_ok hshown, FileResponse.answer, hcurrent, if_neg Bool.false_ne_true,
    hrange]
  exact FileResponse.status_whole _

/-- A file that is sent, and that was last changed on a whole second from 1970 to 9999, has the date of
this second. If it is asked for only in case it has changed since another such second, it is sent if
this comes first, and else the client is told that it has the file. -/
theorem status_modifiedSince (c c' : Circumstances)
    (hok : (a.handle v c r.bare).2.response.status = .ok) :
    ∃ s mode, a.material v r = .file s ∧
      v.stat (Location.path s.place) = .ok ⟨.file s.content s.modified, mode⟩ ∧
      ∀ t, ClockTime.IsDated t → s.modified = t * 1000000000 →
        (∃ time,
          (a.handle v c r.bare).2.response.headers.first? "last-modified".toList = some time ∧
            HttpDate.Denotes time t) ∧
        (r.headers.first? "if-none-match".toList = none → r.headers.first? "range".toList = none →
          ∀ u date, ClockTime.IsDated u → HttpDate.Denotes date u →
            r.headers.first? "if-modified-since".toList = some date →
            (a.handle v c' r).2.response.status = if t ≤ u then .notModified else .ok) := by
  obtain ⟨s, d, hbare⟩ := exists_presents (Or.inl hok)
  have hpresents := hbare.of_bare
  obtain ⟨mode, hstat⟩ := hpresents.foundIn.entry
  refine ⟨s, mode, hpresents.material, hstat, fun t ht hmodified => ?_⟩
  have hvalidator := hpresents.ofFile_eq
  rw [hmodified] at hvalidator
  have htime := Validator.time_of_whole ht hvalidator
  refine ⟨⟨d.validator.time, ?_, HttpDate.denotes_iff.mpr htime⟩,
    fun hnone hrange u date hu hdate hsince => ?_⟩
  · exact (hbare.validator_of_unconditional r.unconditional_bare c).2
  · have hcurrent : d.validator.isCurrent r.headers = true ↔ t ≤ u := by
      rw [Validator.isCurrent_of_date hnone hsince, HttpDate.denotes_iff.mp hdate]
      exact Validator.notAfter_render ht htime hu
    by_cases horder : t ≤ u
    · rw [if_pos horder]
      exact (hpresents.status_notModified_iff c').mpr (hcurrent.mpr horder)
    · rw [if_neg horder]
      refine hpresents.status_of_not_current ?_ hrange c'
      rw [← Bool.not_eq_true, hcurrent]
      exact horder

end App

/-! ### A page of a leap day -/

namespace LeapDayPage

open PassingRoot

/-- The page was last changed when the leap day of 2024 began. -/
def vantage : Vantage :=
  ⟨⟨[(["pub".toList], ⟨.directory, 0o755⟩),
    (["pub".toList, App.indexName],
      ⟨.file (Utf8.encode "hello".toList) 1709164800000000000, 0o644⟩)]⟩, .superuser, []⟩

def page : Source :=
  ⟨[['.'], App.indexName], ["pub".toList, App.indexName], Utf8.encode "hello".toList,
    1709164800000000000, false⟩

def request (since : String) : Request :=
  { get "/" with headers := [("If-Modified-Since".toList, since.toList)] }

/-- It has changed since the last second of the day before, and not since it began. -/
theorem modified_since_day_before :
    (site.handle vantage circumstances (request "Wed, 28 Feb 2024 23:59:59 GMT")).2.response.status =
        .ok ∧
      (site.handle vantage circumstances (request "Thu, 29 Feb 2024 00:00:00 GMT")).2.response.status =
        .notModified := by
  have hdated : ∀ u, 0 ≤ u ∧ u ≤ 253402300799 → ClockTime.IsDated u :=
    fun u => (ClockTime.isDated_iff u).mpr
  have hstatus : ∀ (since : String) (u : Int),
      (site.handle vantage circumstances (request since).bare).2.response.status = .ok →
      site.material vantage (request since) = .file page → 0 ≤ u ∧ u ≤ 253402300799 →
      since.toList = HttpDate.render u →
      (site.handle vantage circumstances (request since)).2.response.status =
        if 1709164800 ≤ u then .notModified else .ok := by
    intro since u hok hmaterial hu hdate
    obtain ⟨s, mode, hsource, -, hmodified⟩ := App.status_modifiedSince circumstances circumstances hok
    obtain rfl := Material.file.inj (hmaterial.symm.trans hsource)
    obtain ⟨-, hsince⟩ := hmodified 1709164800 (hdated _ (by decide)) rfl
    exact hsince rfl rfl u _ (hdated u hu) (HttpDate.denotes_iff.mpr hdate) rfl
  exact ⟨hstatus _ 1709164799 (by decide +kernel) (by decide +kernel) (by decide) (by decide +kernel),
    hstatus _ 1709164800 (by decide +kernel) (by decide +kernel) (by decide) (by decide +kernel)⟩

end LeapDayPage

end StaticSite
