/-
  Entity tags.

  An entity tag names a case, a comment or a link by its id and, as a rule,
  by the version that a client saw last.  It is written as `kind:id` or
  `kind:id:version` in base64 for URLs.  Clients may also give the bare id.

  * `Etag.encode`: the written form.
  * `Etag.parse`: reads a tag of an expected kind.  A tag of another kind is
    told apart from a text that is no tag before its numbers are looked at.
-/
import CaseDesk.Text.Bytes
import CaseDesk.Text.Blank
import CaseDesk.Text.Integer

namespace CaseDesk

open Text

/-- What an entity tag names. -/
inductive EtagKind where
  | wholeCase
  | comment
  | link
  deriving DecidableEq, Repr

namespace EtagKind

/-- The word for the kind that stands in a written tag. -/
def word : EtagKind → String
  | wholeCase => "case"
  | comment => "case_comment"
  | link => "case_link"

/-- The kind with a given word. -/
def ofWord? (word : String) : Option EtagKind :=
  [wholeCase, comment, link].find? (·.word == word)

end EtagKind

/-- Why a text is no entity tag of the expected kind. -/
inductive EtagError where
  | missing (expected : EtagKind)
  | malformed (expected : EtagKind) (raw : String)
  | otherKind (expected found : EtagKind)
  deriving DecidableEq, Repr

/-- The wording of an error. -/
def EtagError.message : EtagError → String
  | missing expected => s!"{expected.word} etag is required"
  | malformed expected raw => s!"malformed {expected.word} etag: {raw}"
  | otherKind expected found => s!"expected {expected.word} etag, got {found.word}"

/-- A record named by its kind, its id and perhaps its version. -/
structure Etag where
  kind : EtagKind
  id : Int
  ver : Option Int
  deriving DecidableEq, Repr

namespace Etag

/-- The tag before it is put into base64. -/
def plain (tag : Etag) : String :=
  let start := tag.kind.word.toList ++ ':' :: integerChars tag.id
  String.ofList <| match tag.ver with
    | some ver => start ++ ':' :: integerChars ver
    | none => start

/-- The written form of a tag. -/
def encode (tag : Etag) : String := String.ofList (Base64Url.encode (utf8 tag.plain))

/-- Reads a positive id. -/
def readId? (cs : List Char) : Option Int := (readInt64? cs).filter (0 < ·)

/-- Reads a version. -/
def readVer? (cs : List Char) : Option Int := (readInt32? cs).filter (0 ≤ ·)

/-- The parts of a text that are set apart by colons and stand in base64. -/
def parts? (cs : List Char) : Option (List (List Char)) := do
  let bytes ← Base64Url.decode cs
  let text ← fromUtf8? bytes
  return pieces ':' text.toList

/-- The id and the version that follow the word of a tag. -/
def numbers? : List (List Char) → Option (Int × Option Int)
  | [id] => do return (← readId? id, none)
  | [id, ver] => do return (← readId? id, some (← readVer? ver))
  | _ => none

/-- Reads a tag that must be of the expected kind. -/
def parse (expected : EtagKind) (raw : String) : Except EtagError Etag :=
  let text := trim raw
  let cs := text.toList
  let malformed := Except.error (EtagError.malformed expected text)
  if cs.isEmpty then .error (.missing expected)
  else if cs.all isDecimalDigit then
    match readId? cs with
    | some id => .ok ⟨expected, id, none⟩
    | none => malformed
  else
    match parts? cs with
    | some (word :: rest) =>
      match EtagKind.ofWord? (String.ofList word) with
      | none => malformed
      | some found =>
        if found = expected then
          match numbers? rest with
          | some (id, ver) => .ok ⟨expected, id, ver⟩
          | none => malformed
        else .error (.otherKind expected found)
    | _ => malformed

end Etag

end CaseDesk
