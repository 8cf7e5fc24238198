import StaticSite.FileSystem.Basic

/-! Normal forms of paths. The plain form drops empty parts and parts that stay where they are;
the reduced form of a relative path also takes back the part before each `..`. -/

namespace StaticSite.Path

/-- The parts that lead somewhere. -/
def significant (p : Path) : Path :=
  p.filter fun part => part != [] && part != here

/-- The slashes with which a path is written in plain form: none, one, or exactly two. -/
def leadingSlashes (t : Text) : Text :=
  match t with
  | '/' :: '/' :: '/' :: _ => ['/']
  | '/' :: '/' :: _ => ['/', '/']
  | '/' :: _ => ['/']
  | _ => []

/-- The plain form of a path given as text. A path with nothing in it is the one that stays. -/
def plain (t : Text) : Text :=
  let written := leadingSlashes t ++ text (significant (ofText t))
  if written = [] then here else written

/-- One part more on a reduced path, which is given in reverse. -/
def reduceStep (before : Path) (part : Text) : Path :=
  if part = [] ∨ part = here then before
  else if part = above then
    match before with
    | [] => [above]
    | last :: rest => if last = above then above :: before else rest
  else part :: before

/-- The reduced form of a relative path. -/
def reduce (p : Path) : Path :=
  match (p.foldl reduceStep []).reverse with
  | [] => [here]
  | parts => parts

end StaticSite.Path
