import StaticSite.FileSystem.Normal

/-! Paths that begin at a home: `~` stands for the home of the process, `~name` for that of a
user. -/

namespace StaticSite

/-- Where users are at home: the one a process belongs to, and all by their names. -/
structure Homes where
  own : Text
  ofUser : List (Text × Text)

/-- Why there is no home to begin at: nobody is known by the name, or it is no name. -/
inductive HomeError where
  | unknown
  | embeddedNull
  deriving DecidableEq, Repr

def HomeError.message : HomeError → Text
  | unknown => "Could not determine home directory.".toList
  | embeddedNull => "embedded null byte".toList

namespace Homes

/-- The variable that tells where the home of a process is. -/
def variableName : Text := "HOME".toList

/-- The home that stands for a tilde before a name. An environment tells it before anything else
where there is no name. -/
def find (h : Homes) (environment : List (Text × Text)) (name : Text) : Except HomeError Text :=
  if name = [] then .ok ((environment.lookup variableName).getD h.own)
  else if name.contains '\x00' then .error .embeddedNull
  else match h.ofUser.lookup name with
    | some home => .ok home
    | none => .error .unknown

/-- The path in plain form, with the home in place of a tilde that its first part begins with. A
home that begins with a tilde itself is none. -/
def expand (h : Homes) (environment : List (Text × Text)) (path : Text) : Except HomeError Text :=
  let path := Path.plain path
  match path with
  | '~' :: after => do
      let home ← h.find environment (after.takeWhile (· != '/'))
      let home := match Text.trimEnd (· == '/') home with
        | [] => ['/']
        | home => home
      if home.head? = some '~' then throw .unknown
      else
        let rest := after.dropWhile (· != '/')
        return Path.plain (if home = ['/'] ∧ rest ≠ [] then rest else home ++ rest)
  | _ => .ok path

end Homes
end StaticSite
