import StaticSite.FileSystem.Normal
import StaticSite.FileSystem.RealPath
import StaticSite.Site.Failure

/-! Looking up a path of a site. All links are followed first, and what is found has to lie in the
directory of the site; whatever lies elsewhere counts as not being there. -/

namespace StaticSite

/-- What stands at a path of a site: where it really is, and what it is. -/
structure Found where
  place : Location
  entry : Entry

namespace Site

/-- Whether a path begins with a backslash; no such path is looked up. -/
def beginsWithBackslash (p : Path) : Bool :=
  match p with
  | ('\\' :: _) :: _ => true
  | _ => false

/-- What stands at a location that all links have been followed to. -/
def statPlace (v : Vantage) (place : Location) : Except Failure (Option Found) :=
  match v.stat (Location.path place) with
  | .ok entry => .ok (some ⟨place, entry⟩)
  | .error (.system .notFound) => .ok none
  | .error (.system .notDirectory) => .ok none
  | .error e => .error (e.failure (Location.text place))

/-- What stands at a path below the directory of a site, if it lies in that directory. -/
def lookup (v : Vantage) (root p : Path) : Except Failure (Option Found) :=
  if beginsWithBackslash p then .ok none
  else
    match v.realPath (root ++ p), v.realPath root with
    | .ok place, .ok top => if top.isPrefixOf place then statPlace v place else .ok none
    | .error e, _ => .error (e.failure (Path.text (root ++ p)))
    | .ok _, .error e => .error (e.failure (Path.text root))

/-- Checks that the directory of a site is there. -/
def checkRoot (v : Vantage) (root : Text) : Except Failure Unit :=
  match v.stat (Path.ofText root) with
  | .ok e => if e.isDirectory then .ok () else .error (.rootNotDirectory root)
  | .error (.system .notFound) => .error (.rootMissing root)
  | .error e => .error (e.failure root)

end Site
end StaticSite
