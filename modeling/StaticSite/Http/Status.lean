import StaticSite.Text.Basic

/-! The statuses that a site answers with. -/

namespace StaticSite

inductive Status where
  | ok
  | partialContent
  | notModified
  | temporaryRedirect
  | badRequest
  | unauthorized
  | notFound
  | methodNotAllowed
  | rangeNotSatisfiable
  | internalError
  deriving DecidableEq, Repr

namespace Status

def code : Status → Nat
  | ok => 200
  | partialContent => 206
  | notModified => 304
  | temporaryRedirect => 307
  | badRequest => 400
  | unauthorized => 401
  | notFound => 404
  | methodNotAllowed => 405
  | rangeNotSatisfiable => 416
  | internalError => 500

def phrase : Status → Text
  | ok => "OK".toList
  | partialContent => "Partial Content".toList
  | notModified => "Not Modified".toList
  | temporaryRedirect => "Temporary Redirect".toList
  | badRequest => "Bad Request".toList
  | unauthorized => "Unauthorized".toList
  | notFound => "Not Found".toList
  | methodNotAllowed => "Method Not Allowed".toList
  | rangeNotSatisfiable => "Requested Range Not Satisfiable".toList
  | internalError => "Internal Server Error".toList

end Status
end StaticSite
