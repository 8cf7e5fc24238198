import StaticSite.Text.Quoted

/-! The errors with which the operating system refuses a request, their numbers and texts. -/

namespace StaticSite

/-- An error that nothing here looks at: its number, and its text, which is a single line. -/
structure OtherError where
  number : Int
  description : Text
  oneLine : '\n' ∉ description ∧ '\r' ∉ description
  deriving DecidableEq, Repr

/-- Why the operating system refused. -/
inductive SystemError where
  | notPermitted
  | notFound
  | accessDenied
  | alreadyThere
  | notDirectory
  | isDirectory
  | nameTooLong
  | notEmpty
  | invalidArgument
  | tooManyLinks
  | addressInUse
  | addressUnavailable
  | networkUnreachable
  | unknownName
  | otherFamily
  | other (e : OtherError)
  deriving DecidableEq, Repr

namespace SystemError

def code : SystemError → Int
  | notPermitted => 1
  | notFound => 2
  | accessDenied => 13
  | alreadyThere => 17
  | notDirectory => 20
  | isDirectory => 21
  | invalidArgument => 22
  | nameTooLong => 36
  | notEmpty => 39
  | tooManyLinks => 40
  | addressInUse => 98
  | addressUnavailable => 99
  | networkUnreachable => 101
  | unknownName => -2
  | otherFamily => -9
  | other e => e.number

def description : SystemError → Text
  | notPermitted => "Operation not permitted".toList
  | notFound => "No such file or directory".toList
  | accessDenied => "Permission denied".toList
  | alreadyThere => "File exists".toList
  | notDirectory => "Not a directory".toList
  | isDirectory => "Is a directory".toList
  | invalidArgument => "Invalid argument".toList
  | nameTooLong => "File name too long".toList
  | notEmpty => "Directory not empty".toList
  | tooManyLinks => "Too many levels of symbolic links".toList
  | addressInUse => "Address already in use".toList
  | addressUnavailable => "Cannot assign requested address".toList
  | networkUnreachable => "Network is unreachable".toList
  | unknownName => "Name or service not known".toList
  | otherFamily => "Address family for hostname not supported".toList
  | other e => e.description

def message (e : SystemError) : Text :=
  "[Errno ".toList ++ Text.ofInt e.code ++ "] ".toList ++ e.description

/-- The number, the text and the path that the request was about. -/
def messageAbout (e : SystemError) (path : Text) : Text :=
  e.message ++ ": ".toList ++ path.quoted

def isPermission (e : SystemError) : Bool :=
  e = notPermitted || e = accessDenied

/-- Whether an error on the way to a path means that nothing is there. -/
def meansMissing (e : SystemError) : Bool :=
  e = notFound || e = notDirectory || e = tooManyLinks

end SystemError
end StaticSite
