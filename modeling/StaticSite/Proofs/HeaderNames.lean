import StaticSite.Proofs.Material

/-! The names of the headers that a site sends. Each response describes its body, or is a redirect that
tells where it leads as well; the time that it took is added to it once. -/

namespace StaticSite

namespace Headers

/-- The values of the headers of a name given in lower case. -/
def values (headers : Headers) (name : Text) : List Text :=
  (headers.filter fun (other, _) => other.asciiLower == name).map (·.2)

theorem values_append (headers rest : Headers) (name : Text) :
    values (headers ++ rest) name = values headers name ++ values rest name := by
  rw [values, List.filter_append, List.map_append]
  rfl

/-- The names of the headers with which a response describes its body, or what may be asked for. -/
def describing : List Text :=
  ["content-type", "accept-ranges", "content-length", "last-modified", "etag", "content-range",
    "allow"].map String.toList

/-- Whether all headers describe a body. -/
def describe (headers : Headers) : Bool :=
  headers.all fun (name, _) => describing.contains name

theorem values_of_describe {headers : Headers} (h : headers.describe = true) {name : Text}
    (hname : name ∉ describing) : headers.values name = [] := by
  have hlower : ∀ other ∈ describing, other.asciiLower = other := by decide
  rw [values, List.map_eq_nil_iff, List.filter_eq_nil_iff]
  intro header hheader
  have hmem : header.1 ∈ describing := by simpa using List.all_eq_true.mp h header hheader
  simp only [hlower header.1 hmem, beq_iff_eq]
  rintro rfl
  exact hname hmem

end Headers

theorem Response.describe_bodyHeaders {first : Headers} (h : first.describe = true) (kind : String)
    (body : List UInt8) : Headers.describe (first ++ bodyHeaders kind body) = true := by
  rw [Headers.describe, List.all_append]
  exact Bool.and_eq_true_iff.mpr ⟨h, rfl⟩

theorem Response.describe_refusal {status : Status} {first : Headers} {message : Text}
    (h : first = [] ∨ first = [("allow".toList, App.allowed)]) :
    (refusal status first message).headers.describe = true := by
  rcases h with rfl | rfl
  · exact describe_bodyHeaders rfl _ _
  · exact describe_bodyHeaders rfl _ _

namespace FileResponse

variable {v : Vantage} {place : Location} {d : Description} {headOnly : Bool} {boundary : Text}

theorem describe_deliver {headers : Headers} (h : headers.describe = true) (status : Status)
    (body : List UInt8 → List UInt8) :
    (deliver v place headOnly status headers body).response.headers.describe = true := by
  unfold deliver
  split
  · exact h
  · split <;> exact h

theorem describe_whole (status : Status) :
    (whole v place d headOnly status).response.headers.describe = true :=
  describe_deliver rfl status id

theorem describe_parts (ranges : List ByteRange) :
    (parts v place d headOnly boundary ranges).response.headers.describe = true := by
  unfold parts
  split
  · exact describe_whole .ok
  · exact describe_deliver rfl _ _
  · exact describe_deliver rfl _ _

theorem describe_refuseRange (size : Nat) (e : RangeError) :
    (refuseRange size e).headers.describe = true := by
  unfold refuseRange
  split
  · exact Response.describe_bodyHeaders rfl _ _
  · exact Response.describe_bodyHeaders rfl _ _

theorem describe_answer (request : Headers) :
    (answer v place d headOnly boundary request).response.headers.describe = true := by
  unfold answer
  split
  · rfl
  split
  · exact describe_whole .ok
  split
  · split
    · exact describe_parts _
    · exact describe_refuseRange _ _
  · exact describe_whole .ok

end FileResponse

namespace App

variable {a : App} {v : Vantage} {boundary : Text} {r : Request} {d : Delivery}

/-- Whatever is delivered describes its body, unless it is a redirect. -/
theorem Delivers.redirect_or_describe (h : a.Delivers v boundary r d) :
    (∃ target, d = ⟨Response.redirect target, none⟩) ∨ d.response.headers.describe = true := by
  cases h with
  | refusal status first message _ hadded =>
      exact Or.inr (Response.describe_refusal hadded)
  | redirect target => exact Or.inl ⟨target, rfl⟩
  | page s d => exact Or.inr (FileResponse.describe_whole .notFound)
  | file s d => exact Or.inr (FileResponse.describe_answer _)

end App

end StaticSite
