import StaticSite.Text.CodePage
import StaticSite.Text.Utf8

/-! Charsets: how the characters of a file are coded in its bytes, the names by which this is told,
and where bytes code nothing. -/

namespace StaticSite

/-- The order of the bytes in a unit of several. -/
inductive ByteOrder where
  | littleEnd
  | bigEnd
  deriving DecidableEq, Repr

def ByteOrder.number (o : ByteOrder) (bytes : List UInt8) : Nat :=
  match o with
  | .littleEnd => bytes.foldr (fun b n => b.toNat + 256 * n) 0
  | .bigEnd => bytes.foldl (fun n b => 256 * n + b.toNat) 0

/-- How characters are coded. Where the order of bytes is not given, the file begins with a mark
that tells it; a marked file in UTF-8 may do without the mark. -/
inductive Charset where
  | utf8
  | utf8Marked
  | ascii
  | latin1
  | utf16 (order : Option ByteOrder)
  | utf32 (order : Option ByteOrder)
  | page (p : CodePage)
  deriving DecidableEq, Repr

namespace Charset

inductive Flaw where
  | utf8 (cause : Utf8.Damage)
  | beyondAscii
  | undefined
  | truncated
  | unexpectedEnd
  | loneHighSurrogate
  | loneLowSurrogate
  | surrogate
  | beyondRange
  deriving DecidableEq, Repr

def Flaw.message : Flaw → Text
  | utf8 cause => cause.message
  | beyondAscii => "ordinal not in range(128)".toList
  | undefined => "character maps to <undefined>".toList
  | truncated => "truncated data".toList
  | unexpectedEnd => "unexpected end of data".toList
  | loneHighSurrogate => "illegal UTF-16 surrogate".toList
  | loneLowSurrogate => "illegal encoding".toList
  | surrogate => "code point in surrogate code point range(0xd800, 0xe000)".toList
  | beyondRange => "code point not in range(0x110000)".toList

/-- Where and why bytes cannot be read: the coding in question, the position and the bytes. -/
structure Fault where
  coding : Text
  position : Nat
  bytes : List UInt8
  flaw : Flaw
  deriving DecidableEq, Repr

/-- The wording of a fault: one byte is named, of several only their positions. -/
def Fault.message (f : Fault) : Text :=
  '\'' :: f.coding ++ "' codec can't decode byte".toList ++
    (match f.bytes with
      | [b] => " 0x".toList ++ Text.digitsIn 16 2 b.toNat ++ " in position ".toList ++
          Text.ofNat f.position
      | _ => "s in position ".toList ++ Text.ofNat f.position ++ ['-'] ++
          Text.ofNat (f.position + f.bytes.length - 1)) ++
    ": ".toList ++ f.flaw.message

/-- Why a file has no text: some bytes cannot be read, or the mark is missing that tells the order
of the bytes in units of so many bits. -/
inductive DecodeError where
  | fault (f : Fault)
  | unmarked (bits : Nat)
  deriving DecidableEq, Repr

def DecodeError.message : DecodeError → Text
  | fault f => f.message
  | unmarked bits =>
      "UTF-".toList ++ Text.ofNat bits ++ " stream does not start with BOM".toList

/-! ### Units of several bytes -/

/-- The mark that a file may begin with. -/
def mark : Nat := 0xfeff

/-- Whether a unit is the first of a pair. -/
def isHigh (unit : Nat) : Bool :=
  0xd800 ≤ unit && unit < 0xdc00

/-- Whether a unit is the second of a pair. -/
def isLow (unit : Nat) : Bool :=
  0xdc00 ≤ unit && unit < 0xe000

def ofPair (high low : Nat) : Char :=
  Char.ofNat (0x10000 + (high - 0xd800) * 0x400 + (low - 0xdc00))

/-- The name of a coding in units of so many bits. -/
def unitCoding (bits : Nat) : ByteOrder → Text
  | .littleEnd => "utf-".toList ++ Text.ofNat bits ++ "-le".toList
  | .bigEnd => "utf-".toList ++ Text.ofNat bits ++ "-be".toList

/-- The text in units of two bytes, from a position on. -/
def decode16 (o : ByteOrder) (position : Nat) : List UInt8 → Except Fault Text
  | [] => .ok []
  | [a] => .error ⟨unitCoding 16 o, position, [a], .truncated⟩
  | a :: b :: rest =>
      let unit := o.number [a, b]
      if isLow unit then .error ⟨unitCoding 16 o, position, [a, b], .loneLowSurrogate⟩
      else if isHigh unit then
        match rest with
        | c :: d :: after =>
            let next := o.number [c, d]
            if isLow next then
              (decode16 o (position + 4) after).map (ofPair unit next :: ·)
            else .error ⟨unitCoding 16 o, position, [a, b], .loneHighSurrogate⟩
        | left => .error ⟨unitCoding 16 o, position, a :: b :: left, .unexpectedEnd⟩
      else (decode16 o (position + 2) rest).map (Char.ofNat unit :: ·)

/-- The text in units of four bytes, from a position on. -/
def decode32 (o : ByteOrder) (position : Nat) : List UInt8 → Except Fault Text
  | [] => .ok []
  | a :: b :: c :: d :: rest =>
      let unit := o.number [a, b, c, d]
      if 0x110000 ≤ unit then .error ⟨unitCoding 32 o, position, [a, b, c, d], .beyondRange⟩
      else if isHigh unit || isLow unit then
        .error ⟨unitCoding 32 o, position, [a, b, c, d], .surrogate⟩
      else (decode32 o (position + 4) rest).map (Char.ofNat unit :: ·)
  | left => .error ⟨unitCoding 32 o, position, left, .truncated⟩

/-- The order of bytes that a mark of so many bytes tells. -/
def markedOrder? (width : Nat) (bytes : List UInt8) : Option ByteOrder :=
  if bytes.length < width then none
  else [ByteOrder.littleEnd, .bigEnd].find? fun o => o.number (bytes.take width) == mark

/-- The text of a file in units of so many bytes that begins with a mark. One without a mark is read
as if the least byte came first, and refused unless it is empty. -/
def decodeMarked (width : Nat) (decode : ByteOrder → Nat → List UInt8 → Except Fault Text)
    (bytes : List UInt8) : Except DecodeError Text :=
  match markedOrder? width bytes with
  | some o => (decode o width (bytes.drop width)).mapError .fault
  | none =>
      match decode .littleEnd 0 bytes with
      | .error f => .error (.fault f)
      | .ok t => if t = [] then .ok [] else .error (.unmarked (8 * width))

/-! ### Single bytes -/

/-- The text in single bytes, from a position on. -/
def decodeBytes (coding : Text) (flaw : Flaw) (char? : UInt8 → Option Char) (position : Nat) :
    List UInt8 → Except Fault Text
  | [] => .ok []
  | b :: rest =>
      match char? b with
      | some c => (decodeBytes coding flaw char? (position + 1) rest).map (c :: ·)
      | none => .error ⟨coding, position, [b], flaw⟩

/-- The character that a byte of a coding is by its number, if it is below a bound. -/
def charBelow? (bound : Nat) (b : UInt8) : Option Char :=
  if b.toNat < bound then some (Char.ofNat b.toNat) else none

def decodeUtf8 (bytes : List UInt8) : Except DecodeError Text :=
  (Utf8.decode bytes).mapError fun f =>
    .fault ⟨"utf-8".toList, f.position, f.bytes, .utf8 f.cause⟩

def markBytes : List UInt8 := [0xef, 0xbb, 0xbf]

/-- The text in UTF-8 after the mark, of which a short file may hold only the beginning. -/
def decodeMarkedUtf8 (bytes : List UInt8) : Except DecodeError Text :=
  if bytes.isPrefixOf markBytes then .ok []
  else match markBytes.isPrefixOf? bytes with
    | some rest => decodeUtf8 rest
    | none => decodeUtf8 bytes

def decode (c : Charset) (bytes : List UInt8) : Except DecodeError Text :=
  match c with
  | utf8 => decodeUtf8 bytes
  | utf8Marked => decodeMarkedUtf8 bytes
  | ascii =>
      (decodeBytes "ascii".toList .beyondAscii (charBelow? 0x80) 0 bytes).mapError .fault
  | latin1 =>
      (decodeBytes "latin-1".toList .undefined (charBelow? 0x100) 0 bytes).mapError .fault
  | utf16 (some o) => (decode16 o 0 bytes).mapError .fault
  | utf16 none => decodeMarked 2 decode16 bytes
  | utf32 (some o) => (decode32 o 0 bytes).mapError .fault
  | utf32 none => decodeMarked 4 decode32 bytes
  | page p => (decodeBytes "charmap".toList .undefined p.char? 0 bytes).mapError .fault

/-! ### Names -/

/-- Whether a character counts in the name of a charset. -/
def countsInName (c : Char) : Bool :=
  c.isAlphanum || c == '.'

/-- A name with what does not count as single underscores between what does, in small letters.
`gap` tells whether something has been passed over. -/
def tidyNameAfter (gap : Bool) : Text → Text
  | [] => []
  | c :: rest =>
      if countsInName c then (if gap then ['_'] else []) ++ c.toLower :: tidyNameAfter false rest
      else tidyNameAfter true rest

/-- A name as it is compared. -/
def tidyName (name : Text) : Text :=
  tidyNameAfter false (name.dropWhile fun c => !countsInName c)

/-- The charsets that are no code pages, by their names, of which the first is their own. -/
def named : List (List Text × Charset) :=
  ([(["utf_8", "u8", "utf", "utf8", "utf8_ucs2", "utf8_ucs4", "cp65001"], utf8),
    (["utf_8_sig"], utf8Marked),
    (["ascii", "646", "ansi_x3.4_1968", "ansi_x3_4_1968", "ansi_x3.4_1986", "cp367", "csascii",
      "ibm367", "iso646_us", "iso_646.irv_1991", "iso_ir_6", "us", "us_ascii"], ascii),
    (["latin_1", "8859", "cp819", "csisolatin1", "ibm819", "iso8859", "iso8859_1", "iso_8859_1",
      "iso_8859_1_1987", "iso_ir_100", "l1", "latin", "latin1"], latin1),
    (["utf_16", "u16", "utf16"], utf16 none),
    (["utf_16_le", "unicodelittleunmarked", "utf_16le"], utf16 (some .littleEnd)),
    (["utf_16_be", "unicodebigunmarked", "utf_16be"], utf16 (some .bigEnd)),
    (["utf_32", "u32", "utf32"], utf32 none),
    (["utf_32_le", "utf_32le"], utf32 (some .littleEnd)),
    (["utf_32_be", "utf_32be"], utf32 (some .bigEnd))] : List (List String × Charset)).map
    fun (names, c) => (names.map String.toList, c)

/-- The names of codings that are not of characters, in the same way. -/
def otherCodings : List (List Text) :=
  [["base64_codec", "base64", "base_64"], ["bz2_codec", "bz2"], ["hex_codec", "hex"],
    ["quopri_codec", "quopri", "quoted_printable", "quotedprintable"], ["rot_13", "rot13"],
    ["uu_codec", "uu"], ["zlib_codec", "zip", "zlib"]].map fun names => names.map String.toList

/-- All codings by their names, with the charset that each is, if it is one. -/
def codings : List (List Text × Option Charset) :=
  named.map (fun (names, c) => (names, some c)) ++
    CodePage.all.map (fun p => (p.names, some (page p))) ++
    otherCodings.map (fun names => (names, none))

/-- The coding that has a name as it is compared. In names other than its own, points may stand for
underscores. -/
def coding? (name : Text) : Option (Option Charset) :=
  let plain := name.map fun c => if c = '.' then '_' else c
  (codings.find? fun (names, _) => names.contains name || names.tail.contains plain).map (·.2)

inductive NameError where
  | unknown (name : Text)
  | notOfText (name : Text)
  deriving DecidableEq, Repr

def NameError.message : NameError → Text
  | unknown name => "unknown encoding: ".toList ++ name
  | notOfText name =>
      '\'' :: name ++
        "' is not a text encoding; use codecs.open() to handle arbitrary codecs".toList

def ofName (name : Text) : Except NameError Charset :=
  match coding? (tidyName name) with
  | some (some c) => .ok c
  | some none => .error (.notOfText name)
  | none => .error (.unknown name)

end Charset
end StaticSite
