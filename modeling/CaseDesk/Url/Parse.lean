/-
  Absolute URLs.

  A URL starts with a scheme and a colon.  Some schemes are special: they
  always have a host, take backslashes for slashes, and name their hosts as
  domains or addresses.  URLs of other schemes may have a host after two
  slashes, and without a slash after the scheme their path is opaque.  Nothing
  after the host and the port can be wrong.

  * `Url.parse`: the URL that a text writes, or what is wrong with it.
  * `Url.hierarchical`: whether the path is not opaque.
-/
import CaseDesk.Text.Bytes
import CaseDesk.Url.Address
import CaseDesk.Url.Basic
import CaseDesk.Url.Domain

namespace CaseDesk

/-- The host of a URL. -/
inductive Host where
  | domain (name : List Char)
  | ipv4 (address : List Char)
  | ipv6 (address : List Char)
  | opaqueName (name : List Char)
  deriving DecidableEq, Repr

/-- What a URL names: its scheme, its host if it has one, and whether its path is opaque. -/
structure Url where
  scheme : List Char
  host : Option Host
  hierarchical : Bool
  deriving DecidableEq, Repr

namespace Url

/-- How URLs of a scheme are read. -/
inductive SchemeKind where
  | file
  | special
  | other
  deriving DecidableEq, Repr

/-- The kind of a scheme. -/
def SchemeKind.ofScheme (scheme : List Char) : SchemeKind :=
  if scheme = "file".toList then .file
  else if ["http", "https", "ws", "wss", "ftp"].any (·.toList == scheme) then .special
  else .other

/-- Whether a character ends the part with host and port. -/
def endsAuthority (kind : SchemeKind) (c : Char) : Bool :=
  c == '/' || c == '?' || c == '#' || (c == '\\' && kind != .other)

/-- Control characters and spaces, which do not count at the ends of a text. -/
def isOuterBlank (c : Char) : Bool := c.toNat ≤ 32

/-- Tabs and line ends, which do not count anywhere. -/
def isInnerBlank (c : Char) : Bool := c == '\t' || c == '\n' || c == '\r'

/-- A text without the characters that do not count. -/
def stripBlanks (cs : List Char) : List Char :=
  let cs := cs.dropWhile isOuterBlank
  let cs := (cs.reverse.dropWhile isOuterBlank).reverse
  cs.filter (!isInnerBlank ·)

/-- Whether a character may stand in a scheme after the first letter. -/
def isSchemeChar (c : Char) : Bool := c.isAlphanum || c == '+' || c == '-' || c == '.'

/-- The scheme of a URL, in lower case, and what follows its colon. -/
def splitScheme? (cs : List Char) : Option (List Char × List Char) :=
  if cs.head?.any Char.isAlpha then
    match cs.dropWhile isSchemeChar with
    | ':' :: rest => some ((cs.takeWhile isSchemeChar).map Char.toLower, rest)
    | _ => none
  else none

/-! ## Hosts -/

/-- Reads an address in brackets, after the opening one. -/
def readBracketed (cs : List Char) : Except UrlError Host :=
  match cs.reverse with
  | ']' :: inner => if isIpv6 inner.reverse then .ok (.ipv6 inner.reverse) else .error .badIpv6
  | _ => .error .badIpv6

/-- The domain name that a host stands for. -/
def readDomain? (cs : List Char) : Option (List Char) := do
  let bytes := percentDecode (Text.utf8 (String.ofList cs))
  let text ← Text.fromUtf8? bytes
  Domain.ofText? text.toList

/-- Reads the host of a special URL. -/
def readHost (cs : List Char) : Except UrlError Host :=
  match cs with
  | '[' :: rest => readBracketed rest
  | _ =>
    match readDomain? cs with
    | none => .error .badDomain
    | some [] => .error .emptyHost
    | some name =>
      if endsInNumber name then
        if isIpv4 name then .ok (.ipv4 name) else .error .badIpv4
      else .ok (.domain name)

/-- Whether a character is forbidden in a host that is no domain. -/
def isForbidden (c : Char) : Bool :=
  ['\x00', '\t', '\n', '\r', ' ', '#', '/', ':', '<', '>', '?', '@', '[', '\\', ']', '^',
    '|'].contains c

/-- Reads a host that is no domain. -/
def readOpaqueHost (cs : List Char) : Except UrlError Host :=
  match cs with
  | '[' :: rest => readBracketed rest
  | _ => if cs.any isForbidden then .error .forbiddenCharacter else .ok (.opaqueName cs)

/-- The text of a host and what follows it; a colon ends it, but not within brackets. -/
def splitHost (kind : SchemeKind) (inBrackets : Bool) : List Char → List Char × List Char
  | [] => ([], [])
  | c :: rest =>
    if (c == ':' && !inBrackets) || endsAuthority kind c then ([], c :: rest)
    else
      let inBrackets := if c == '[' then true else if c == ']' then false else inBrackets
      let (host, rest) := splitHost kind inBrackets rest
      (c :: host, rest)

/-! ## Authorities -/

/-- Checks the digits of a port, with the value so far. -/
def checkPort (value : Nat) : List Char → Except UrlError Unit
  | [] => .ok ()
  | c :: rest =>
    if Text.isDecimalDigit c then
      let value := 10 * value + (c.toNat - 48)
      if 65535 < value then .error .badPort else checkPort value rest
    else if c == '/' || c == '\\' || c == '?' || c == '#' then .ok ()
    else .error .badPort

/-- What follows the name and password of a user, and whether there are any. -/
def skipUser (kind : SchemeKind) (cs : List Char) : Except UrlError (Bool × List Char) :=
  let authority := cs.takeWhile (!endsAuthority kind ·)
  let host := (authority.reverse.takeWhile (· != '@')).reverse
  let user := authority.take (authority.length - host.length - 1)
  let rest := host ++ cs.drop authority.length
  if host.length = authority.length then .ok (false, cs)
  else if user.isEmpty then
    if rest.head?.any (endsAuthority kind) then .error .emptyHost else .ok (false, rest)
  else .ok (user != [':'], rest)

/-- Reads user, host and port after two slashes. -/
def readAuthority (kind : SchemeKind) (cs : List Char) : Except UrlError (Option Host) := do
  let (hasUser, cs) ← skipUser kind cs
  let (text, rest) := splitHost kind false cs
  if kind = .special ∧ text = [] then throw .emptyHost
  let host ← if kind = .other then readOpaqueHost text else readHost text
  let isEmpty := host = .opaqueName []
  match rest with
  | ':' :: port =>
    if isEmpty then throw .emptyHost
    checkPort 0 port
  | _ => pure ()
  if isEmpty ∧ hasUser then throw .emptyHost
  return if isEmpty then none else some host

/-- Whether the host of a file is the letter of a drive instead. -/
def isDrive : List Char → Bool
  | [c, d] => c.isAlpha && (d == ':' || d == '|')
  | _ => false

/-- Reads the host of a file, which two slashes introduce. -/
def readFileHost (cs : List Char) : Except UrlError (Option Host) :=
  match cs with
  | a :: b :: rest =>
    if (a == '/' || a == '\\') && (b == '/' || b == '\\') then
      let host := rest.takeWhile (!endsAuthority .file ·)
      if host.isEmpty || isDrive host then .ok none else some <$> readHost host
    else .ok none
  | _ => .ok none

/-- Reads what follows the scheme. -/
def readRest (scheme rest : List Char) : Except UrlError Url := do
  match SchemeKind.ofScheme scheme with
  | .file => return { scheme, host := ← readFileHost rest, hierarchical := true }
  | .special =>
    let authority := rest.dropWhile fun c => c == '/' || c == '\\'
    return { scheme, host := ← readAuthority .special authority, hierarchical := true }
  | .other =>
    match rest with
    | '/' :: '/' :: authority =>
      return { scheme, host := ← readAuthority .other authority, hierarchical := true }
    | '/' :: _ => return { scheme, host := none, hierarchical := true }
    | _ => return { scheme, host := none, hierarchical := false }

/-- The URL that a text writes. -/
def parse (text : List Char) : Except UrlError Url :=
  match splitScheme? (stripBlanks text) with
  | some (scheme, rest) => readRest scheme rest
  | none => .error .noScheme

end Url

end CaseDesk
