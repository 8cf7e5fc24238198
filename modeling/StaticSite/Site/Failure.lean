import StaticSite.FileSystem.Walk
import StaticSite.Url.Basic

/-! What may go wrong with a request that is nobody's fault but the site's: such a failure is
logged and ends in an internal error. -/

namespace StaticSite

inductive Failure where
  | rootMissing (root : Text)
  | rootNotDirectory (root : Text)
  | embeddedNull
  | system (e : SystemError) (path : Text)
  | tooManyDigits (count : Nat)
  | url (e : UrlError)
  | yearOutOfRange (year : Int)
  deriving DecidableEq, Repr

namespace Failure

def message : Failure → Text
  | rootMissing root => "StaticFiles directory '".toList ++ root ++ "' does not exist.".toList
  | rootNotDirectory root => "StaticFiles path '".toList ++ root ++ "' is not a directory.".toList
  | embeddedNull => "embedded null byte".toList
  | system e path => e.messageAbout path
  | tooManyDigits count =>
      "Exceeds the limit (4300 digits) for integer string conversion: value has ".toList ++
        Text.ofNat count ++
        " digits; use sys.set_int_max_str_digits() to increase the limit".toList
  | url e => e.message
  | yearOutOfRange year => "year ".toList ++ Text.ofInt year ++ " is out of range".toList

end Failure

def PathError.failure (e : PathError) (path : Text) : Failure :=
  match e with
  | .embeddedNull => .embeddedNull
  | .system e => .system e path

end StaticSite
