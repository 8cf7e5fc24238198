import StaticSite.Text.Quoted

/-! Values that are used as what they are not. The wording names the kind of the value. -/

namespace StaticSite

/-- How a value is used that is not of a kind for it, each with the name of its kind; or what else
is wrong with it where it is used. -/
inductive Misuse where
  | asPath (kind : Text)
  | asNumber (kind : Text)
  | asText (kind : Text)
  | asSequence (kind : Text)
  | asPair (kind : Text)
  | asFunction (kind : Text)
  | asSized (kind : Text)
  | asCount (kind : Text)
  | asCharset (kind : Text)
  | asWriter (kind : Text)
  | asWord (kind : Text)
  | asWords (kind : Text)
  | tooFewParts (count : Nat)
  | tooManyParts
  | nullInCharset
  | twice (name : Text)
  deriving DecidableEq, Repr

namespace Misuse

def message : Misuse → Text
  | asPath kind => "expected str, bytes or os.PathLike object, not ".toList ++ kind
  | asNumber kind =>
      "'<=' not supported between instances of 'int' and ".toList ++ '\'' :: kind ++ ['\'']
  | asText kind => '\'' :: kind ++ "' object has no attribute 'startswith'".toList
  | asSequence kind => '\'' :: kind ++ "' object is not iterable".toList
  | asPair kind => "cannot unpack non-iterable ".toList ++ kind ++ " object".toList
  | asFunction kind => '\'' :: kind ++ "' object is not callable".toList
  | asSized kind => "object of type '".toList ++ kind ++ "' has no len()".toList
  | asCount kind => "unsupported operand type(s) for -: '".toList ++ kind ++ "' and 'int'".toList
  | asCharset kind => "open() argument 'encoding' must be str or None, not ".toList ++ kind
  | asWriter kind => '\'' :: kind ++ "' object has no attribute 'to_python'".toList
  | asWord kind => "expected string or bytes-like object, got '".toList ++ kind ++ ['\'']
  | asWords kind =>
      "cli_parse_args must be a list or tuple of strings, received <class '".toList ++ kind ++
        "'>".toList
  | tooFewParts count =>
      "not enough values to unpack (expected 2, got ".toList ++ Text.ofNat count ++ [')']
  | tooManyParts => "too many values to unpack (expected 2)".toList
  | nullInCharset => "embedded null character".toList
  | twice name =>
      "BaseSettings.__init__() got multiple values for argument ".toList ++ name.quoted

end Misuse
end StaticSite
