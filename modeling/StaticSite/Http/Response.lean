import StaticSite.Http.Request
import StaticSite.Http.Status
import StaticSite.Text.JsonText

/-! Responses: a status, headers in order, and the bytes of a body. -/

namespace StaticSite

structure Response where
  status : Status
  headers : Headers
  body : List UInt8
  deriving DecidableEq, Repr

namespace Response

/-- The headers of a body: its length and its kind. -/
def bodyHeaders (kind : String) (body : List UInt8) : Headers :=
  [("content-length".toList, Text.ofNat body.length), ("content-type".toList, kind.toList)]

/-- A response of plain text, with other headers before those of its body. -/
def plain (status : Status) (first : Headers) (t : Text) : Response :=
  let body := Utf8.encode t
  ⟨status, first ++ bodyHeaders "text/plain; charset=utf-8" body, body⟩

/-- The body of a refusal: its message, the phrase of its status and the status. -/
def refusalText (status : Status) (message : Text) : Text :=
  "\x7b\"message\":".toList ++ JsonText.encode message ++ ",\"error\":".toList ++
    JsonText.encode status.phrase ++ ",\"statusCode\":".toList ++ Text.ofNat status.code ++ ['}']

/-- A refusal, with other headers before those of its body. -/
def refusal (status : Status) (first : Headers) (message : Text) : Response :=
  let body := Utf8.encode (refusalText status message)
  ⟨status, first ++ bodyHeaders "application/json" body, body⟩

def redirect (target : Text) : Response :=
  ⟨.temporaryRedirect,
    [("content-length".toList, ['0']), ("location".toList, Url.location target)], []⟩

/-- The answer where a request could not be handled. -/
def internalError : Response :=
  plain .internalError [] "Internal Server Error".toList

end Response
end StaticSite
