import StaticSite.Http.ByteRange
import StaticSite.Http.ContentType
import StaticSite.Http.Response
import StaticSite.Http.Validator
import StaticSite.Site.Lookup

/-! Sending a file: whole, in part, in several parts, or not at all where the client has it. The
headers are known before the file is opened; if it then cannot be read, the response has begun
and breaks off. -/

namespace StaticSite

/-- A response and, if it broke off, why. -/
structure Delivery where
  response : Response
  broken : Option Failure

namespace FileResponse

/-- A file to be sent: the kind of its content, its size and its validator. -/
structure Description where
  kind : Text
  size : Nat
  validator : Validator

/-- The headers of a file. `length` is that of the body. -/
def headers (d : Description) (kind : Text) (length : Nat) : Headers :=
  [("content-type".toList, kind),
    ("accept-ranges".toList, "bytes".toList),
    ("content-length".toList, Text.ofNat length),
    ("last-modified".toList, d.validator.time),
    ("etag".toList, d.validator.tag)]

/-- What stands before a part of a file among several. -/
def partHead (d : Description) (boundary : Text) (r : ByteRange) : Text :=
  "--".toList ++ boundary ++ "\r\nContent-Type: ".toList ++ d.kind ++
    "\r\nContent-Range: ".toList ++ r.header d.size ++ "\r\n\r\n".toList

def partEnd : Text := "\r\n".toList

def closing (boundary : Text) : Text :=
  "--".toList ++ boundary ++ "--".toList

/-- The body of several parts of a file. -/
def multipart (d : Description) (boundary : Text) (content : List UInt8)
    (ranges : List ByteRange) : List UInt8 :=
  (ranges.flatMap fun r =>
    Utf8.encode (partHead d boundary r) ++ r.slice content ++ Utf8.encode partEnd) ++
    Utf8.encode (closing boundary)

/-- The length of the body of several parts, known from their bounds. -/
def multipartLength (d : Description) (boundary : Text) (ranges : List ByteRange) : Nat :=
  ranges.foldr
    (fun r n => Utf8.size (partHead d boundary r) + r.length + Utf8.size partEnd + n)
    (Utf8.size (closing boundary))

def multipartKind (boundary : Text) : Text :=
  "multipart/byteranges; boundary=".toList ++ boundary

/-- A response with headers and, unless only these are asked for, a body made from the content of
the file. -/
def deliver (v : Vantage) (place : Location) (headOnly : Bool) (status : Status)
    (headers : Headers) (body : List UInt8 → List UInt8) : Delivery :=
  if headOnly then ⟨⟨status, headers, []⟩, none⟩
  else match v.read (Location.path place) with
    | .ok content => ⟨⟨status, headers, body content⟩, none⟩
    | .error e => ⟨⟨status, headers, []⟩, some (e.failure (Location.text place))⟩

def whole (v : Vantage) (place : Location) (d : Description) (headOnly : Bool)
    (status : Status) : Delivery :=
  deliver v place headOnly status (headers d d.kind d.size) id

/-- Some ranges of a file: of none the whole, of one a single part, else several parts. -/
def parts (v : Vantage) (place : Location) (d : Description) (headOnly : Bool)
    (boundary : Text) (ranges : List ByteRange) : Delivery :=
  match ranges with
  | [] => whole v place d headOnly .ok
  | [r] =>
      deliver v place headOnly .partialContent
        (headers d d.kind r.length ++ [("content-range".toList, r.header d.size)]) r.slice
  | _ =>
      deliver v place headOnly .partialContent
        (headers d (multipartKind boundary) (multipartLength d boundary ranges))
        fun content => multipart d boundary content ranges

/-- The refusal of a Range header. A range outside the file is answered with the size. -/
def refuseRange (size : Nat) : RangeError → Response
  | .notSatisfiable =>
      Response.plain .rangeNotSatisfiable
        [("content-range".toList, "bytes */".toList ++ Text.ofNat size)] []
  | e => Response.plain .badRequest [] e.message

/-- The answer that a client has the file already. -/
def notModified (d : Description) : Response :=
  ⟨.notModified, [("etag".toList, d.validator.tag)], []⟩

/-- A file as an answer to a request: not again if the client has it, in part if a range is asked
for, else whole. -/
def answer (v : Vantage) (place : Location) (d : Description) (headOnly : Bool)
    (boundary : Text) (request : Headers) : Delivery :=
  if d.validator.isCurrent request then ⟨notModified d, none⟩
  else match request.first? "range".toList with
    | none => whole v place d headOnly .ok
    | some range =>
        if d.validator.allowsRange request then
          match ByteRange.read d.size range with
          | .ok ranges => parts v place d headOnly boundary ranges
          | .error e => ⟨refuseRange d.size e, none⟩
        else whole v place d headOnly .ok

/-- What is sent of a file, unless it is none or its time is in no year that a date can name. -/
def describe? (f : Found) : Except Failure (Option Description) :=
  match f.entry.node with
  | .file content modified =>
      match Validator.ofFile modified content.length with
      | .error year => .error (.yearOutOfRange year)
      | .ok validator =>
          .ok (some ⟨ContentType.header (f.place.getLast?.getD []), content.length, validator⟩)
  | _ => .ok none

end FileResponse
end StaticSite
