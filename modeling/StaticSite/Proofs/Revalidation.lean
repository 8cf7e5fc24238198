import StaticSite.Proofs.DateText
import StaticSite.Proofs.OtherHeaders
import StaticSite.Proofs.Sending

/-! Asking for a file again. The tag and the time with which a file was sent tell later that a client has
it: a list of tags does exactly if the tag is one of them, and the time does if there is no list, since
whatever is written of it can be read. -/

namespace StaticSite

/-! ### Lists of tags -/

/-- An entry of a list of tags: a quoted tag, weak or not, between blanks. -/
structure TagEntry where
  before : Text
  weak : Bool
  inner : Text
  after : Text
  deriving DecidableEq, Repr

namespace TagEntry

open Text

/-- The tag of an entry, with its quotes. -/
def tag (e : TagEntry) : Text :=
  '"' :: e.inner ++ ['"']

def text (e : TagEntry) : Text :=
  e.before ++ ((if e.weak then "W/".toList else []) ++ e.tag) ++ e.after

/-- An entry with blanks alone around its tag, and no quote or comma inside. -/
structure Proper (e : TagEntry) : Prop where
  before : ∀ c ∈ e.before, isBlank c = true
  after : ∀ c ∈ e.after, isBlank c = true
  quote : '"' ∉ e.inner
  comma : ',' ∉ e.inner

/-- The header that lists some entries. -/
def header (entries : List TagEntry) : Text :=
  joinWith [','] (entries.map text)

variable {e : TagEntry} {entries : List TagEntry}

theorem strip_text (h : e.Proper) : strip e.text = (if e.weak then "W/".toList else []) ++ e.tag := by
  have hlast : ∀ front : Text, (front ++ e.tag).getLast? = some '"' := by
    intro front
    rw [tag, ← List.append_assoc, List.getLast?_append]
    rfl
  refine trim_padded h.before h.after (by simp [tag]) ?_ ?_
  · intro c hc
    cases hweak : e.weak <;> rw [hweak] at hc <;> cases hc <;> decide
  · intro c hc
    rw [hlast] at hc
    cases hc
    decide

/-- An entry is compared by its tag, weak or not. -/
theorem bareTag_text (h : e.Proper) : Validator.bareTag e.text = e.tag := by
  rw [Validator.bareTag, strip_text h]
  cases e.weak with
  | true => simp only [if_true, isPrefixOf?_append, Option.getD_some]
  | false => rfl

theorem comma_not_mem_text (h : e.Proper) : ',' ∉ e.text := by
  have hblank : isBlank ',' = false := by decide
  have hbefore : ',' ∉ e.before := fun hc => by simp [h.before _ hc] at hblank
  have hafter : ',' ∉ e.after := fun hc => by simp [h.after _ hc] at hblank
  have hcomma := h.comma
  cases hweak : e.weak <;> simp [text, tag, hweak, hbefore, hafter, hcomma]

theorem splitOn_header (hne : entries ≠ []) (h : ∀ e ∈ entries, e.Proper) :
    splitOn ',' (header entries) = entries.map text := by
  refine splitOn_joinWith (by simpa using hne) fun part hpart => ?_
  obtain ⟨e, he, rfl⟩ := List.mem_map.mp hpart
  exact comma_not_mem_text (h e he)

/-- There is a quote in a list of tags. -/
theorem quote_mem_header (hne : entries ≠ []) : '"' ∈ header entries := by
  obtain ⟨e, rest, rfl⟩ := List.exists_cons_of_ne_nil hne
  have hquote : '"' ∈ e.text := by
    simp [text, tag]
  cases rest with
  | nil => exact hquote
  | cons next rest =>
      rw [header, List.map_cons, List.map_cons, joinWith]
      exact List.mem_append_left _ (List.mem_append_left _ hquote)

/-- A list of tags names a version exactly if one of them is its tag. -/
theorem namedBy_header (hne : entries ≠ []) (h : ∀ e ∈ entries, e.Proper) (v : Validator) :
    v.namedBy (header entries) = true ↔ ∃ e ∈ entries, e.tag = v.tag := by
  have hstar : (strip (header entries) == ['*']) = false := by
    rw [beq_eq_false_iff_ne]
    intro hstrip
    have hquote : '"' ∈ strip (header entries) := mem_trim (quote_mem_header hne) (by decide)
    rw [hstrip] at hquote
    revert hquote
    decide
  rw [Validator.namedBy, hstar, Bool.false_or, splitOn_header hne h, List.any_eq_true]
  constructor
  · rintro ⟨part, hpart, hsame⟩
    obtain ⟨e, he, rfl⟩ := List.mem_map.mp hpart
    rw [bareTag_text (h e he), beq_iff_eq] at hsame
    exact ⟨e, he, hsame⟩
  · rintro ⟨e, he, hsame⟩
    refine ⟨e.text, List.mem_map_of_mem he, ?_⟩
    rw [bareTag_text (h e he), beq_iff_eq]
    exact hsame

end TagEntry

/-! ### Conditions -/

namespace Validator

variable {v : Validator} {headers : Headers}

/-- A list of tags decides alone whether a version is current. -/
theorem isCurrent_of_tags {entries : List TagEntry} (hne : entries ≠ [])
    (h : ∀ e ∈ entries, e.Proper)
    (hlist : headers.first? "if-none-match".toList = some (TagEntry.header entries)) :
    v.isCurrent headers = true ↔ ∃ e ∈ entries, e.tag = v.tag := by
  obtain ⟨c, rest, hheader⟩ : ∃ c rest, TagEntry.header entries = c :: rest :=
    List.exists_cons_of_ne_nil (List.ne_nil_of_mem (TagEntry.quote_mem_header hne))
  rw [← TagEntry.namedBy_header hne h, hheader]
  rw [hheader] at hlist
  simp only [isCurrent, hlist]

/-- Without a list the date decides. -/
theorem isCurrent_of_date (hnone : headers.first? "if-none-match".toList = none) {date : Text}
    (hdate : headers.first? "if-modified-since".toList = some date) :
    v.isCurrent headers = v.notAfter date := by
  simp only [isCurrent, hnone, hdate]

/-- The time of a version is written of its whole seconds, in a year that a date can name. -/
theorem time_of_ofFile {modified : Int} {size : Nat} (h : ofFile modified size = .ok v) :
    v.time = HttpDate.render (wholeSeconds (seconds modified)) ∧
      1 ≤ (ClockTime.ofSeconds (wholeSeconds (seconds modified))).year ∧
        (ClockTime.ofSeconds (wholeSeconds (seconds modified))).year ≤ 9999 := by
  unfold ofFile timeText at h
  simp only at h
  split at h
  · rename_i hyear
    cases h
    exact ⟨rfl, hyear⟩
  · cases h

/-- The time of a version is not before itself: what is written of it can be read. -/
theorem notAfter_time {modified : Int} {size : Nat} (h : ofFile modified size = .ok v) :
    v.notAfter v.time = true := by
  obtain ⟨htime, hyear⟩ := time_of_ofFile h
  have hread := HttpDate.read?_render hyear
  rw [← htime] at hread
  rw [notAfter, hread]
  exact (ClockTime.le_iff _ _).mpr
    (Or.inr ⟨rfl, Or.inr ⟨rfl, Or.inr ⟨rfl, Int.le_refl _⟩⟩⟩)

end Validator

namespace FileResponse

variable {v : Vantage} {place : Location} {d : Description} {headOnly : Bool} {boundary : Text}

/-- A client is told that it has a file exactly if its version is current. -/
theorem status_answer_notModified_iff (request : Headers) :
    (answer v place d headOnly boundary request).response.status = .notModified ↔
      d.validator.isCurrent request = true := by
  have hsent := answer_sent v place d headOnly boundary request
  generalize answer v place d headOnly boundary request = delivery at hsent
  cases hsent with
  | current h => exact iff_of_true rfl h
  | whole h =>
      rw [status_whole, h]
      decide
  | parts h _ _ _ _ _ hne =>
      rw [status_parts hne, h]
      decide
  | refused h _ e =>
      rw [h]
      exact iff_of_false (status_refuseRange_ne (by decide) (by decide) d.size e) Bool.false_ne_true

end FileResponse

/-! ### Requests and their conditions -/

namespace Request

/-- The names of the headers that ask for part of a file, or for it in another version only. -/
def conditions : List Text :=
  ["range".toList, "if-none-match".toList, "if-modified-since".toList]

/-- A request without these headers. -/
def bare (r : Request) : Request :=
  r.withHeaders (Headers.without r.headers conditions)

theorem host_bare (r : Request) :
    (Headers.without r.headers conditions).first? "host".toList = r.headers.first? "host".toList :=
  (Headers.first?_without r.headers conditions _).trans (if_neg (by decide))

theorem unconditional_bare (r : Request) : r.bare.Unconditional where
  range := (Headers.first?_without r.headers conditions _).trans (if_pos (by decide))
  noneMatch := (Headers.first?_without r.headers conditions _).trans (if_pos (by decide))
  modifiedSince := (Headers.first?_without r.headers conditions _).trans (if_pos (by decide))

end Request

namespace App

variable {a : App} {v : Vantage} {r : Request} {s : Source} {d : FileResponse.Description}

/-- The conditions of a request make no difference to which file there is to send. -/
theorem Presents.of_bare (h : a.Presents v r.bare s d) : a.Presents v r s d := by
  obtain ⟨shown, hshown⟩ := h.shown
  refine ⟨⟨shown, ?_⟩, ?_, h.asked, h.described⟩
  · rw [← hshown]
    exact (Request.shownPath_withHeaders r.host_bare).symm
  · rw [← h.material]
    exact (a.material_withHeaders v r.host_bare).symm

/-- Without conditions, the file is sent with its tag and its time. -/
theorem Presents.validator_of_unconditional (h : a.Presents v r s d) (hr : r.Unconditional)
    (c : Circumstances) :
    (a.handle v c r).2.response.headers.first? "etag".toList = some d.validator.tag ∧
      (a.handle v c r).2.response.headers.first? "last-modified".toList = some d.validator.time := by
  obtain ⟨shown, hshown⟩ := h.shown
  rw [h.handle_eq, conclude_of_ok hshown, FileResponse.answer_of_unconditional hr,
    FileResponse.whole, FileResponse.headers_deliver]
  exact ⟨rfl, rfl⟩

theorem Presents.status_notModified_iff (h : a.Presents v r s d) (c : Circumstances) :
    (a.handle v c r).2.response.status = .notModified ↔ d.validator.isCurrent r.headers = true := by
  obtain ⟨shown, hshown⟩ := h.shown
  rw [h.handle_eq, conclude_of_ok hshown]
  exact FileResponse.status_answer_notModified_iff r.headers

/-- What a client is told that has the file: its tag, and nothing else. -/
theorem Presents.notModified (h : a.Presents v r s d) {c : Circumstances}
    (hstatus : (a.handle v c r).2.response.status = .notModified) :
    (a.handle v c r).2.response.body = [] ∧
      (a.handle v c r).2.response.headers.first? "etag".toList = some d.validator.tag := by
  obtain ⟨shown, hshown⟩ := h.shown
  have hcurrent := (h.status_notModified_iff c).mp hstatus
  rw [h.handle_eq, conclude_of_ok hshown, FileResponse.answer, hcurrent, if_pos rfl]
  exact ⟨rfl, rfl⟩

/-- What a file was sent with tells later that a client has it. Any list of tags does exactly if its tag
is among them, whatever else the request says; without a list its time does. The tag is repeated then,
and nothing is sent. -/
theorem revalidates (c c' : Circumstances)
    (hok : (a.handle v c r.bare).2.response.status = .ok) :
    ∃ tag time,
      (a.handle v c r.bare).2.response.headers.first? "etag".toList = some tag ∧
      (a.handle v c r.bare).2.response.headers.first? "last-modified".toList = some time ∧
      (∀ entries, entries ≠ [] → (∀ e ∈ entries, e.Proper) →
        r.headers.first? "if-none-match".toList = some (TagEntry.header entries) →
        ((a.handle v c' r).2.response.status = .notModified ↔ ∃ e ∈ entries, e.tag = tag)) ∧
      (r.headers.first? "if-none-match".toList = none →
        r.headers.first? "if-modified-since".toList = some time →
        (a.handle v c' r).2.response.status = .notModified) ∧
      ((a.handle v c' r).2.response.status = .notModified →
        (a.handle v c' r).2.response.body = [] ∧
          (a.handle v c' r).2.response.headers.first? "etag".toList = some tag) := by
  obtain ⟨s, d, hbare⟩ := exists_presents (Or.inl hok)
  have hpresents := hbare.of_bare
  obtain ⟨htag, htime⟩ := hbare.validator_of_unconditional r.unconditional_bare c
  refine ⟨d.validator.tag, d.validator.time, htag, htime, fun entries hne hproper hlist => ?_,
    fun hnone hdate => ?_, hpresents.notModified⟩
  · rw [hpresents.status_notModified_iff]
    exact Validator.isCurrent_of_tags hne hproper hlist
  · rw [hpresents.status_notModified_iff, Validator.isCurrent_of_date hnone hdate]
    exact Validator.notAfter_time hpresents.ofFile_eq

end App

/-! ### A page of the first second -/

namespace EpochPage

open PassingRoot

/-- The page was last changed at the beginning of 1970, and part of it is asked for if it has changed
since. -/
def request : Request :=
  { get "/" with
    headers := [("Range".toList, "bytes=0-0".toList),
      ("If-Modified-Since".toList, "Thu, 01 Jan 1970 00:00:00 GMT".toList)] }

/-- The client is told that it has the page. -/
theorem notModified_epoch :
    (site.handle vantage circumstances request).2.response.status = .notModified ∧
      (site.handle vantage circumstances request).2.response.body = [] := by
  have hok : (site.handle vantage circumstances request.bare).2.response.status = .ok := by
    decide +kernel
  obtain ⟨tag, time, -, htime, -, hdate, hsame⟩ := App.revalidates circumstances circumstances hok
  have hepoch : (site.handle vantage circumstances request.bare).2.response.headers.first?
      "last-modified".toList = some "Thu, 01 Jan 1970 00:00:00 GMT".toList := by
    decide +kernel
  obtain rfl := Option.some.inj (htime.symm.trans hepoch)
  have hstatus := hdate rfl rfl
  exact ⟨hstatus, (hsame hstatus).1⟩

end EpochPage

end StaticSite
