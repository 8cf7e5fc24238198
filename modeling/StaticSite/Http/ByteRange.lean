import StaticSite.Number.Grouped
import StaticSite.Text.LetterCase

/-! The part of a file that a Range header asks for: what the header means for a file of a given
size, and why it may be refused. -/

namespace StaticSite

/-- The bytes from `start` up to but not including `stop`. -/
structure ByteRange where
  start : Nat
  stop : Nat
  deriving DecidableEq, Repr

inductive RangeError where
  | malformed
  | notBytes
  | nothingRequested
  | startNotLess
  | notSatisfiable
  deriving DecidableEq, Repr

namespace RangeError

/-- The wording of a refusal. A range that lies outside the file needs no words. -/
def message : RangeError → Text
  | malformed => "Malformed range header.".toList
  | notBytes => "Only support bytes range".toList
  | nothingRequested => "Range header: range must be requested".toList
  | startNotLess => "Range header: start must be less than end".toList
  | notSatisfiable => []

end RangeError

namespace ByteRange

/-- The most parts that a header may have; one with more is passed over. -/
def maxParts : Nat := 100

def length (r : ByteRange) : Nat :=
  r.stop - r.start

/-- The bytes of a file that a range names. -/
def slice (r : ByteRange) (content : List UInt8) : List UInt8 :=
  (content.drop r.start).take r.length

/-- The start and the end that one part of a header asks for, not yet checked against the size: a
first and a last byte, a first byte alone, or a number of bytes at the end of the file. Other
parts ask for nothing. -/
def bounds? (size : Nat) (part : Text) : Option (Int × Int) :=
  match Text.cutFirst? '-' part with
  | none => none
  | some (before, after) =>
      let first := before.strip
      let last := after.strip
      if first = [] then
        (Number.readInt? last).map fun n => (max (size - n) 0, (size : Int))
      else
        match Number.readInt? first with
        | none => none
        | some a =>
            if last = [] then some (a, (size : Int))
            else (Number.readInt? last).map fun b =>
              (a, if b < (size : Int) then b + 1 else (size : Int))

/-- Whether the first of two ranges comes first in a file. -/
def comesFirst (a b : ByteRange) : Bool :=
  a.start < b.start || (a.start == b.start && a.stop ≤ b.stop)

/-- Ranges after one that is still growing: one that touches or overlaps it is joined to it. -/
def mergeAfter (current : ByteRange) : List ByteRange → List ByteRange
  | [] => [current]
  | r :: rest =>
      if r.start ≤ current.stop then mergeAfter ⟨current.start, max current.stop r.stop⟩ rest
      else current :: mergeAfter r rest

/-- Ranges in the order of a file, joined where they touch or overlap. -/
def merge (ranges : List ByteRange) : List ByteRange :=
  match ranges.mergeSort comesFirst with
  | [] => []
  | r :: rest => mergeAfter r rest

/-- The ranges of the parts of a header, once they are checked. -/
def checked (size : Nat) (asked : List (Int × Int)) : Except RangeError (List ByteRange) :=
  if asked = [] then .error .nothingRequested
  else if asked.any fun (start, _) => start < 0 || (size : Int) ≤ start then .error .notSatisfiable
  else if asked.any fun (start, stop) => stop ≤ start then .error .startNotLess
  else .ok (merge (asked.map fun (start, stop) => ⟨start.toNat, stop.toNat⟩))

/-- What a Range header means for a file of a given size: the ranges to send, none of them if the
header is passed over. -/
def read (size : Nat) (header : Text) : Except RangeError (List ByteRange) :=
  match Text.cutFirst? '=' header with
  | none => .error .malformed
  | some (unit, list) =>
      if unit.strip.lower ≠ "bytes".toList then .error .notBytes
      else
        let parts := Text.splitOn ',' list
        if maxParts < parts.length then .ok []
        else checked size (parts.filterMap (bounds? size))

/-- The value of a header that names a range of a file. -/
def header (r : ByteRange) (size : Nat) : Text :=
  "bytes ".toList ++ Text.ofNat r.start ++ ['-'] ++ Text.ofNat (r.stop - 1) ++ ['/'] ++
    Text.ofNat size

end ByteRange
end StaticSite
