/-
  Path templates.

  A template is a path some of whose segments are parameters `{name}`.  Empty
  segments of a template do not count.  A path fits if it has, after a slash
  each, the literal segments verbatim and any non-empty segment in place of a
  parameter, and perhaps one more slash at the end.

  * `Template.segments`: the segments that a template text writes.
  * `Template.capture`: the values of the parameters in a path that fits; none
    if a parameter's name is no identifier or stands twice.
  * `Template.literals`: how many segments are literal.
-/
import CaseDesk.Text.Blank
import CaseDesk.Text.Letter

namespace CaseDesk.Template

open Text

/-- A segment of a template. -/
inductive Segment where
  | literal (text : List Char)
  | param (name : List Char)
  deriving DecidableEq, Repr

/-- Reads a segment: braces around it make it a parameter. -/
def Segment.read (text : List Char) : Segment :=
  match text with
  | '\x7b' :: rest =>
    match rest.reverse with
    | '\x7d' :: name => .param name.reverse
    | _ => .literal text
  | _ => .literal text

/-- The segments of a template. -/
def segments (template : String) : List Segment :=
  ((pieces '/' template.toList).filter (!·.isEmpty)).map Segment.read

/-- The names of the parameters, in order. -/
def names : List Segment → List (List Char)
  | [] => []
  | .literal _ :: rest => names rest
  | .param name :: rest => name :: names rest

/-- How many segments are literal. -/
def literals (template : String) : Nat :=
  ((segments template).filter fun | .literal _ => true | .param _ => false).length

/-- Whether a parameter may have this name: a letter or `_`, then also numerals, `.`, `[` or `]`. -/
def isName : List Char → Bool
  | [] => false
  | c :: rest =>
    (c == '_' || isAlphabetic c) &&
      rest.all fun c =>
        c == '_' || c == '.' || c == '[' || c == ']' || isAlphabetic c || isNumeral c

/-- Whether all names are valid and no two are the same. -/
def namesOk (segs : List Segment) : Bool :=
  (names segs).all isName && decide (names segs).Nodup

/-- The values that the segments take from a path, which must end with them. -/
def valuesOf : List Segment → List Char → Option (List (List Char))
  | [], [] => some []
  | [], ['/'] => some []
  | [], _ => none
  | .literal text :: rest, '/' :: path =>
    if path.take text.length = text then valuesOf rest (path.drop text.length) else none
  | .param _ :: rest, '/' :: path =>
    let value := path.takeWhile (· != '/')
    if value.isEmpty then none
    else (valuesOf rest (path.dropWhile (· != '/'))).map (value :: ·)
  | _ :: _, _ => none

/-- The parameters of a template with their values in a path that fits it. -/
def capture (template path : String) : Option (List (String × String)) :=
  let segs := segments template
  if namesOk segs then
    (valuesOf segs path.toList).map fun values =>
      (names segs).zipWith (fun n v => (String.ofList n, String.ofList v)) values
  else none

end CaseDesk.Template
