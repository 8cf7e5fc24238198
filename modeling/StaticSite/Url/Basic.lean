import StaticSite.Text.Percent
import StaticSite.Text.Quoted
import StaticSite.Url.Host

/-! The five components of a URL: taking a text apart and putting it together again. Line breaks
and tabulators inside a URL do not count. -/

namespace StaticSite

structure Url where
  scheme : Text
  authority : Text
  path : Text
  query : Text
  fragment : Text
  deriving DecidableEq, Repr

inductive UrlError where
  | unknownScheme (scheme : Text)
  | unpairedBracket
  | futureAddress
  | notAnAddress (host : Text)
  | bracketedV4
  | deceptiveAuthority (authority : Text)
  deriving DecidableEq, Repr

/-- The wording of an error. An unknown scheme is just named. -/
def UrlError.message : UrlError → Text
  | unknownScheme scheme => scheme.quoted
  | unpairedBracket => "Invalid IPv6 URL".toList
  | futureAddress => "IPvFuture address is invalid".toList
  | notAnAddress host => host.quoted ++ " does not appear to be an IPv4 or IPv6 address".toList
  | bracketedV4 => "An IPv4 address cannot be in brackets".toList
  | deceptiveAuthority authority =>
      "netloc '".toList ++ authority ++
        "' contains invalid characters under NFKC normalization".toList

namespace Url

/-- Whether a character is passed over wherever it stands. -/
def isDropped (c : Char) : Bool :=
  c == '\t' || c == '\r' || c == '\n'

def isSchemeChar (c : Char) : Bool :=
  c.isAlphanum || c == '+' || c == '-' || c == '.'

/-- The scheme that a text begins with, in lower case, and the rest. -/
def cutScheme (t : Text) : Text × Text :=
  match Text.cutFirst? ':' t with
  | some (c :: scheme, rest) =>
      if c.isAlpha && (c :: scheme).all isSchemeChar then (Text.asciiLower (c :: scheme), rest)
      else ([], t)
  | _ => ([], t)

/-- What stands before and after the first `mark`; without one all stands before. -/
def cutAt (mark : Char) (t : Text) : Text × Text :=
  (Text.cutFirst? mark t).getD (t, [])

def endsAuthority (c : Char) : Bool :=
  c == '/' || c == '?' || c == '#'

/-- The characters whose compatibility form holds a character that divides URLs. -/
def deceptive : List Nat :=
  [0x2047, 0x2048, 0x2049, 0x2100, 0x2101, 0x2105, 0x2106, 0x2a74, 0xfe13, 0xfe16, 0xfe55, 0xfe56,
    0xfe5f, 0xfe6b, 0xff03, 0xff0f, 0xff1a, 0xff1f, 0xff20]

/-- Whether a text is an address of eight groups, with or without the zone it belongs to. -/
def isZonedV6 (t : Text) : Bool :=
  match Text.cutFirst? '%' t with
  | none => (Address.V6.read? t).isSome
  | some (address, zone) =>
      !zone.isEmpty && !zone.contains '%' && !t.contains '/' && (Address.V6.read? address).isSome

/-- Checks what stands between brackets in an authority. -/
def checkBracketed (host : Text) : Except UrlError Unit :=
  match host with
  | 'v' :: rest =>
      match Text.cutFirst? '.' rest with
      | some (version, body) =>
          if !version.isEmpty && version.all (fun c => (Text.hexValue? c).isSome) &&
              !body.isEmpty then .ok ()
          else .error .futureAddress
      | none => .error .futureAddress
  | _ =>
      if (Address.V4.readPlain? host).isSome then .error .bracketedV4
      else if isZonedV6 host then .ok ()
      else .error (.notAnAddress host)

/-- Checks the host of an authority in which there are brackets: they enclose the host, and only a
port may follow. -/
def checkHostBrackets (host : Text) : Except UrlError Unit :=
  match Text.cutFirst? '[' host with
  | none => checkBracketed (host.takeWhile (· != ':'))
  | some (_ :: _, _) => .error .unpairedBracket
  | some ([], rest) =>
      let (inner, after) := cutAt ']' rest
      match after with
      | [] => checkBracketed inner
      | ':' :: _ => checkBracketed inner
      | _ => .error .unpairedBracket

/-- Checks the brackets of an authority, in which a user may stand before the host. -/
def checkBrackets (authority : Text) : Except UrlError Unit :=
  if authority.contains '[' != authority.contains ']' then .error .unpairedBracket
  else if authority.contains '[' then
    checkHostBrackets ((Text.splitOn '@' authority).getLast?.getD [])
  else .ok ()

/-- Checks that no character of an authority could be taken for one that divides URLs. -/
def checkDeceptive (authority : Text) : Except UrlError Unit :=
  if authority.any fun c => deceptive.contains c.toNat then .error (.deceptiveAuthority authority)
  else .ok ()

/-- The authority that a text begins with after two slashes, and the rest. -/
def cutAuthority (t : Text) : Text × Text :=
  match t with
  | '/' :: '/' :: rest => (rest.takeWhile (!endsAuthority ·), rest.dropWhile (!endsAuthority ·))
  | _ => ([], t)

/-- The components of a text. -/
def read (t : Text) : Except UrlError Url := do
  let t := (t.dropWhile fun c => c.toNat ≤ 0x20).filter (!isDropped ·)
  let (scheme, t) := cutScheme t
  let (authority, t) := cutAuthority t
  checkBrackets authority
  let (t, fragment) := cutAt '#' t
  let (path, query) := cutAt '?' t
  checkDeceptive authority
  return { scheme, authority, path, query, fragment }

/-- The schemes after which an authority is expected, even an empty one. -/
def authoritySchemes : List Text :=
  ["ftp", "http", "gopher", "nntp", "telnet", "imap", "wais", "file", "mms", "https", "shttp",
    "snews", "prospero", "rtsp", "rtspu", "rsync", "svn", "svn+ssh", "sftp", "nfs", "git",
    "git+ssh", "ws", "wss"].map String.toList

/-- The authority and the path as they are written together. An empty authority is written only
where one is expected, and not before a path that begins with two slashes itself. -/
def hierarchy (u : Url) : Text :=
  if u.authority ≠ [] ∨
      (authoritySchemes.contains u.scheme ∧ !"//".toList.isPrefixOf u.path) then
    let path := match u.path with
      | [] => []
      | c :: rest => if c = '/' then c :: rest else '/' :: c :: rest
    "//".toList ++ u.authority ++ path
  else u.path

/-- The text of a URL. Empty components leave no mark. -/
def text (u : Url) : Text :=
  (if u.scheme = [] then [] else u.scheme ++ [':']) ++ u.hierarchy ++
    (if u.query = [] then [] else '?' :: u.query) ++
    (if u.fragment = [] then [] else '#' :: u.fragment)

/-- Whether a character that is not unreserved stays as it is in the location of a redirect. -/
def isKeptInLocation (c : Char) : Bool :=
  ":/%#?=@[]!$&'()*+,;".toList.contains c

/-- A URL as the location of a redirect: printable ASCII throughout. -/
def location (t : Text) : Text :=
  Percent.encode isKeptInLocation t

end Url
end StaticSite
