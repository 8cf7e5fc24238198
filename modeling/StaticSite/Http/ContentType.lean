import StaticSite.Text.LetterCase

/-! The kind of content that the name of a file promises. -/

namespace StaticSite.ContentType

/-- The kinds of content with the extensions of their files. -/
def table : List (String × List String) :=
  [
    ("application/javascript", ["js", "mjs"]),
    ("application/json", ["json"]),
    ("application/manifest+json", ["webmanifest"]),
    ("application/msword", ["doc", "dot", "wiz"]),
    ("application/n-quads", ["nq"]),
    ("application/n-triples", ["nt"]),
    ("application/octet-stream", ["bin", "a", "dll", "exe", "o", "obj", "so"]),
    ("application/oda", ["oda"]),
    ("application/pdf", ["pdf"]),
    ("application/pkcs7-mime", ["p7c"]),
    ("application/postscript", ["ps", "ai", "eps"]),
    ("application/trig", ["trig"]),
    ("application/vnd.apple.mpegurl", ["m3u", "m3u8"]),
    ("application/vnd.ms-excel", ["xls", "xlb"]),
    ("application/vnd.ms-powerpoint", ["ppt", "pot", "ppa", "pps", "pwz"]),
    ("application/wasm", ["wasm"]),
    ("application/x-bcpio", ["bcpio"]),
    ("application/x-cpio", ["cpio"]),
    ("application/x-csh", ["csh"]),
    ("application/x-dvi", ["dvi"]),
    ("application/x-gtar", ["gtar"]),
    ("application/x-hdf", ["hdf"]),
    ("application/x-hdf5", ["h5"]),
    ("application/x-latex", ["latex"]),
    ("application/x-mif", ["mif"]),
    ("application/x-netcdf", ["cdf", "nc"]),
    ("application/x-pkcs12", ["p12", "pfx"]),
    ("application/x-pn-realaudio", ["ram"]),
    ("application/x-python-code", ["pyc", "pyo"]),
    ("application/x-sh", ["sh"]),
    ("application/x-shar", ["shar"]),
    ("application/x-shockwave-flash", ["swf"]),
    ("application/x-sv4cpio", ["sv4cpio"]),
    ("application/x-sv4crc", ["sv4crc"]),
    ("application/x-tar", ["tar"]),
    ("application/x-tcl", ["tcl"]),
    ("application/x-tex", ["tex"]),
    ("application/x-texinfo", ["texi", "texinfo"]),
    ("application/x-troff", ["roff", "t", "tr"]),
    ("application/x-troff-man", ["man"]),
    ("application/x-troff-me", ["me"]),
    ("application/x-troff-ms", ["ms"]),
    ("application/x-ustar", ["ustar"]),
    ("application/x-wais-source", ["src"]),
    ("application/xml", ["xsl", "rdf", "wsdl", "xpdl"]),
    ("application/zip", ["zip"]),
    ("audio/3gpp", ["3gp", "3gpp"]),
    ("audio/3gpp2", ["3g2", "3gpp2"]),
    ("audio/aac", ["aac", "adts", "loas", "ass"]),
    ("audio/basic", ["au", "snd"]),
    ("audio/mpeg", ["mp3", "mp2"]),
    ("audio/opus", ["opus"]),
    ("audio/x-aiff", ["aif", "aifc", "aiff"]),
    ("audio/x-pn-realaudio", ["ra"]),
    ("audio/x-wav", ["wav"]),
    ("image/avif", ["avif"]),
    ("image/bmp", ["bmp"]),
    ("image/gif", ["gif"]),
    ("image/heic", ["heic"]),
    ("image/heif", ["heif"]),
    ("image/ief", ["ief"]),
    ("image/jpeg", ["jpg", "jpe", "jpeg"]),
    ("image/png", ["png"]),
    ("image/svg+xml", ["svg"]),
    ("image/tiff", ["tiff", "tif"]),
    ("image/vnd.microsoft.icon", ["ico"]),
    ("image/x-cmu-raster", ["ras"]),
    ("image/x-portable-anymap", ["pnm"]),
    ("image/x-portable-bitmap", ["pbm"]),
    ("image/x-portable-graymap", ["pgm"]),
    ("image/x-portable-pixmap", ["ppm"]),
    ("image/x-rgb", ["rgb"]),
    ("image/x-xbitmap", ["xbm"]),
    ("image/x-xpixmap", ["xpm"]),
    ("image/x-xwindowdump", ["xwd"]),
    ("message/rfc822", ["eml", "mht", "mhtml", "nws"]),
    ("text/css", ["css"]),
    ("text/csv", ["csv"]),
    ("text/html", ["html", "htm"]),
    ("text/n3", ["n3"]),
    ("text/plain", ["txt", "bat", "c", "h", "ksh", "pl", "srt"]),
    ("text/richtext", ["rtx"]),
    ("text/tab-separated-values", ["tsv"]),
    ("text/vtt", ["vtt"]),
    ("text/x-python", ["py"]),
    ("text/x-setext", ["etx"]),
    ("text/x-sgml", ["sgm", "sgml"]),
    ("text/x-vcard", ["vcf"]),
    ("text/xml", ["xml"]),
    ("video/mp4", ["mp4"]),
    ("video/mpeg", ["mpeg", "m1v", "mpa", "mpe", "mpg"]),
    ("video/quicktime", ["mov", "qt"]),
    ("video/webm", ["webm"]),
    ("video/x-msvideo", ["avi"]),
    ("video/x-sgi-movie", ["movie"])
  ]

/-- The extensions that stand for two. -/
def shorthands : List (Text × Text) :=
  [("svgz", "svg.gz"), ("tgz", "tar.gz"), ("taz", "tar.gz"), ("tz", "tar.gz"),
    ("tbz2", "tar.bz2"), ("txz", "tar.xz")].map fun (short, long) => (short.toList, long.toList)

/-- The extensions that tell how a file is compressed. -/
def encodings : List Text :=
  ["gz", "Z", "bz2", "xz", "br"].map String.toList

/-- The kind of content of files of which nothing is known. -/
def unknown : Text :=
  "application/octet-stream".toList

/-- The name before its last dot, and the extension after it. Dots at the beginning of a name
belong to the name. -/
def splitExtension (name : Text) : Text × Option Text :=
  match Text.cutLast? '.' name with
  | some (base, extension) =>
      if base.all (· == '.') then (name, none) else (base, some extension)
  | none => (name, none)

/-- The kind of content of an extension in lower case. -/
def ofExtension (extension : Text) : Text :=
  match table.find? fun (_, extensions) => extensions.any fun e => e.toList == extension with
  | some (kind, _) => kind.toList
  | none => unknown

/-- The name with an extension that stands for two written as two. -/
def spellOut (name : Text) : Text :=
  match splitExtension name with
  | (base, some extension) =>
      match shorthands.lookup extension.lower with
      | some long => base ++ '.' :: long
      | none => name
  | (_, none) => name

/-- The name without an extension for compression. -/
def dropEncoding (name : Text) : Text :=
  match splitExtension name with
  | (base, some extension) => if encodings.contains extension then base else name
  | (_, none) => name

/-- The kind of content of a file with the given name. -/
def ofName (name : Text) : Text :=
  match splitExtension (dropEncoding (spellOut name)) with
  | (_, some extension) => ofExtension extension.lower
  | (_, none) => unknown

/-- The kind of content as a header gives it: texts are encoded in UTF-8. -/
def header (name : Text) : Text :=
  let kind := ofName name
  if "text/".toList.isPrefixOf kind then kind ++ "; charset=utf-8".toList else kind

end StaticSite.ContentType
