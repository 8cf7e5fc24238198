import StaticSite.FileSystem.Walk

/-! The location of a path with every link on it replaced, also where nothing stands. Parts are
taken one by one; what is no link, or cannot be seen, is entered as it is named. A link that is
met again while its own target is being followed ends the search: the rest is then applied to it
as it is written. -/

namespace StaticSite.Vantage

/-- The links met so far, each with the location it was found to lead to, or with none while its
target is being followed. -/
abbrev Met := List (Location × Option Location)

/-- Where a path has led, and whether it was followed to its end. -/
structure Resolution where
  place : Location
  finished : Bool
  met : Met

/-- Follows the parts of a path from a location; `follow` does so with the target of a link. -/
def resolveWith (v : Vantage) (follow : Met → Location → Path → Except PathError Resolution) :
    Met → Location → Path → Except PathError Resolution
  | met, place, [] => .ok ⟨place, true, met⟩
  | met, place, part :: rest =>
      if part = [] ∨ part = Path.here then resolveWith v follow met place rest
      else if part = Path.above then resolveWith v follow met place.dropLast rest
      else if part.contains '\x00' then .error .embeddedNull
      else
        let there := place ++ [part]
        match v.linkAt? there with
        | none => resolveWith v follow met there rest
        | some target =>
            match met.lookup there with
            | some (some found) => resolveWith v follow met found rest
            | some none => .ok ⟨Path.applyTo there rest, false, met⟩
            | none =>
                let path := Path.ofText target
                let start := if path.isAbsolute then [] else place
                match follow ((there, none) :: met) start path with
                | .error e => .error e
                | .ok r =>
                    if r.finished then
                      resolveWith v follow ((there, some r.place) :: r.met) r.place rest
                    else .ok ⟨Path.applyTo r.place rest, false, r.met⟩

/-- Follows a path through at most so many links inside one another. Since a link inside its own
target ends the search, there are never more than the tree holds. -/
def resolve (v : Vantage) : Nat → Met → Location → Path → Except PathError Resolution
  | 0 => resolveWith v fun met place _ => .ok ⟨place, false, met⟩
  | depth + 1 => resolveWith v (resolve v depth)

/-- The location of a path with every link replaced. -/
def realPath (v : Vantage) (p : Path) : Except PathError Location :=
  (v.resolve v.files.linkCount [] (v.start p) p).map (·.place)

end StaticSite.Vantage
