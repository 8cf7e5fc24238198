import StaticSite.Site.App

/-! Where a request arrives. The address of the server stands in for the host where a request names
none; to a request that names its host, a site answers the same wherever it arrives. -/

namespace StaticSite

namespace Request

/-- A request as it would arrive at another server. -/
def arrivedAt (r : Request) (server : Option (Text × Int)) : Request :=
  { r with server }

/-- A request whose Host header names a host. -/
def NamesHost (r : Request) : Prop :=
  ∃ host, r.headers.first? "host".toList = some host ∧ Url.isAuthority host = true

variable {r : Request} (server : Option (Text × Int))

theorem authority?_arrivedAt (h : r.NamesHost) : (r.arrivedAt server).authority? = r.authority? := by
  obtain ⟨host, hfirst, hhost⟩ := h
  have hnamed : (r.headers.first? "host".toList).filter Url.isAuthority = some host := by
    rw [hfirst, Option.filter_some, if_pos hhost]
  rw [authority?, authority?, arrivedAt, hnamed]

theorem urlText_arrivedAt (h : r.NamesHost) (path : Text) :
    (r.arrivedAt server).urlText path = r.urlText path := by
  rw [urlText, urlText, authority?_arrivedAt server h]
  rfl

theorem url_arrivedAt (h : r.NamesHost) : (r.arrivedAt server).url = r.url := by
  rw [url, url, urlText_arrivedAt server h]
  rfl

theorem shownPath_arrivedAt (h : r.NamesHost) : (r.arrivedAt server).shownPath = r.shownPath := by
  rw [shownPath, shownPath, url_arrivedAt server h]

end Request

namespace App

variable {r : Request} (a : App) (v : Vantage) (boundary : Text) (server : Option (Text × Int))

theorem notFound_arrivedAt (h : r.NamesHost) : notFound (r.arrivedAt server) = notFound r := by
  rw [notFound, notFound, r.shownPath_arrivedAt server h]
  rfl

theorem outside_arrivedAt (h : r.NamesHost) (route : Text) :
    outside a (r.arrivedAt server) route = outside a r route := by
  simp only [outside, notFound_arrivedAt server h, r.urlText_arrivedAt server h]
  rfl

theorem redirectToDirectory_arrivedAt (h : r.NamesHost) :
    redirectToDirectory (r.arrivedAt server) = redirectToDirectory r := by
  rw [redirectToDirectory, redirectToDirectory, r.url_arrivedAt server h]

theorem missing_arrivedAt (h : r.NamesHost) :
    missing a v (r.arrivedAt server) = missing a v r := by
  simp only [missing, notFound_arrivedAt server h]
  rfl

theorem directory_arrivedAt (h : r.NamesHost) (p : Path) :
    directory a v boundary (r.arrivedAt server) p = directory a v boundary r p := by
  simp only [directory, missing_arrivedAt a v server h, redirectToDirectory_arrivedAt server h]
  rfl

theorem content_arrivedAt (h : r.NamesHost) (p : Path) :
    content a v boundary (r.arrivedAt server) p = content a v boundary r p := by
  simp only [content, missing_arrivedAt a v server h, notFound_arrivedAt server h,
    directory_arrivedAt a v boundary server h]
  rfl

theorem respond_arrivedAt (h : r.NamesHost) :
    respond a v boundary (r.arrivedAt server) = respond a v boundary r := by
  simp only [respond, inside, outside_arrivedAt a server h, content_arrivedAt a v boundary server h]
  rfl

theorem conclude_arrivedAt (h : r.NamesHost) (c : Circumstances) (result : Except Failure Delivery) :
    conclude c (r.arrivedAt server) result = conclude c r result := by
  simp only [conclude, r.shownPath_arrivedAt server h]
  rfl

/-- A site answers a request that names its host the same wherever it arrives. -/
theorem handle_arrivedAt (h : r.NamesHost) (c : Circumstances) :
    a.handle v c (r.arrivedAt server) = a.handle v c r := by
  simp only [handle, respond_arrivedAt a v c.boundary server h, conclude_arrivedAt server h c]

end App

end StaticSite
