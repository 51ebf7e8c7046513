/-
  Identifying the caller of a request from its headers.

  Three headers name the caller: the user id, which has to be there unless
  unknown callers are let in, the user's name and the grants.  Of a repeated
  header the first counts, and blanks around a value do not.
-/
import CaseDesk.Access.Caller

namespace CaseDesk

open Text

/-- The headers of a request in order; a value is a run of bytes. -/
abbrev Headers := List (String × List UInt8)

namespace Headers

/-- The header with the user id. -/
def userId : String := "x-webitel-user-id"

/-- The header with the user's name. -/
def userName : String := "x-webitel-user-name"

/-- The header with the grants. -/
def access : String := "x-webitel-access"

/-- Whether a byte is a printable ASCII character or a tab. -/
def isPrintable (b : UInt8) : Bool := (32 ≤ b && b < 127) || b == 9

/-- Whether two header names are the same but for the case of their ASCII letters. -/
def sameName (a b : String) : Bool := a.toList.map Char.toLower == b.toList.map Char.toLower

/-- The first value of a header. -/
def value? (headers : Headers) (name : String) : Option (List UInt8) :=
  (headers.find? fun h => sameName h.1 name).map (·.2)

/-- The text of a header, trimmed. -/
def text? (headers : Headers) (name : String) : Except ServiceError (Option (List Char)) :=
  match headers.value? name with
  | none => .ok none
  | some bytes =>
    if bytes.all isPrintable then .ok (some (trimChars (bytes.map fun b => Char.ofNat b.toNat)))
    else .error (.headerNotAscii name)

/-- The grants that the headers give; none without a header. -/
def grants (headers : Headers) : Except ServiceError Grants := do
  match ← headers.text? access with
  | none => return {}
  | some text =>
    match Grants.parse (String.ofList text) with
    | .ok g => return g
    | .error why => throw (.grantsMalformed access why)

end Headers

/-- Whether unknown callers are let in. -/
structure Authenticator where
  allowAnonymous : Bool := false
  deriving DecidableEq, Repr

namespace Authenticator

/-- Reads a positive user id. -/
def readUserId (text : List Char) : Except ServiceError Int :=
  match (readInt64? text).filter (0 < ·) with
  | some id => .ok id
  | none => .error (.userIdMalformed Headers.userId)

/-- The caller of a request. -/
def identify (auth : Authenticator) (headers : Headers) : Except ServiceError Caller := do
  match ← headers.text? Headers.userId with
  | none =>
    if auth.allowAnonymous then return .anonymous
    else throw (.userIdMissing Headers.userId)
  | some raw =>
    let id ← readUserId raw
    let name := (← headers.text? Headers.userName).getD []
    let grants ← headers.grants
    return ⟨⟨id, String.ofList name⟩, grants⟩

end Authenticator

end CaseDesk
