import StaticSite.Address.V6

/-! What a request may name as the host it was sent to: a name or an address in brackets, with or
without a port. -/

namespace StaticSite.Url

/-- Whether a character may stand in the name of a host. -/
def isHostChar (c : Char) : Bool :=
  c.isAlphanum || "._~%!$&'()*+,;=-".toList.contains c

/-- Whether a character may stand in an address of a future kind. -/
def isFutureChar (c : Char) : Bool :=
  c.isAlphanum || "._~!$&'()*+,;=:-".toList.contains c

/-- Whether a text is an address of a future kind: its version and what that version defines. -/
def isFutureAddress (t : Text) : Bool :=
  match t with
  | 'v' :: rest =>
      match Text.cutFirst? '.' rest with
      | some (version, body) =>
          !version.isEmpty && version.all (fun c => (Text.hexValue? c).isSome) &&
            !body.isEmpty && body.all isFutureChar
      | none => false
  | _ => false

/-- Whether what follows a host is nothing, or a colon and the digits of a port. -/
def isPortPart (t : Text) : Bool :=
  match t with
  | [] => true
  | ':' :: digits =>
      !digits.isEmpty && digits.all Text.isDigit && Text.natOfDigits digits ≤ 65535
  | _ => false

/-- Whether a text names a host, with or without a port. -/
def isAuthority (t : Text) : Bool :=
  match t with
  | '[' :: rest =>
      match Text.cutFirst? ']' rest with
      | some (address, after) =>
          ((Address.V6.read? address).isSome || isFutureAddress address) && isPortPart after
      | none => false
  | _ =>
      let name := t.takeWhile isHostChar
      !name.isEmpty && isPortPart (t.dropWhile isHostChar)

end StaticSite.Url
