/-
  Search texts.

  A search text without wildcards is found anywhere in a text, without regard
  to case.  A search text with `*` or `?` has to describe the whole text: `*`
  stands for any run of characters, `?` for one character, any other character
  for itself in either case.

  * `Pattern.parse`: the pattern of a search text; a blank one has none, and
    one with too many wildcards is refused.
  * `Pattern.accepts`: whether a text satisfies a pattern.  For a pattern of
    the whole text this works from its last piece to its first and keeps, for
    each suffix of the text, whether the pieces so far describe it.
-/
import CaseDesk.Text.Blank
import CaseDesk.Text.CaseFold

namespace CaseDesk

open Text

/-- A piece of a pattern for a whole text. -/
inductive PatternPiece where
  | anyRun
  | anyOne
  | letter (c : Char)
  deriving DecidableEq, Repr

/-- What a search text asks for. -/
inductive Pattern where
  | contains (letters : List Char)
  | whole (pieces : List PatternPiece)
  deriving DecidableEq, Repr

namespace PatternPiece

/-- The piece that a character of a search text stands for. -/
def ofChar : Char → PatternPiece
  | '*' => anyRun
  | '?' => anyOne
  | c => letter c

/-- For each suffix of a text: it starts with a character that is `ok`, and what follows is
    described by the later pieces. -/
def afterOne (ok : Char → Bool) : List Char → List Bool → List Bool
  | [], _ => [false]
  | c :: cs, later => (ok c && later.tail.headD false) :: afterOne ok cs later.tail

/-- For each suffix of a text: some suffix of it is described by the later pieces. -/
def afterRun : List Bool → List Bool
  | [] => []
  | b :: bs =>
    let rest := afterRun bs
    (b || rest.headD false) :: rest

/-- For each suffix of a text, the longest first: whether the pieces describe it. -/
def describes (text : List Char) : List PatternPiece → List Bool
  | [] => text.map (fun _ => false) ++ [true]
  | anyRun :: later => afterRun (describes text later)
  | anyOne :: later => afterOne (fun _ => true) text (describes text later)
  | letter c :: later => afterOne (sameLetter c) text (describes text later)

end PatternPiece

namespace Pattern

/-- Whether a text starts with letters, in either case. -/
def startsWith : (letters text : List Char) → Bool
  | [], _ => true
  | _ :: _, [] => false
  | l :: ls, c :: cs => sameLetter l c && startsWith ls cs

/-- Whether letters stand somewhere in a text, in either case. -/
def standsIn (letters : List Char) : List Char → Bool
  | [] => letters.isEmpty
  | c :: cs => startsWith letters (c :: cs) || standsIn letters cs

/-- Whether a text satisfies a pattern. -/
def accepts (p : Pattern) (text : String) : Bool :=
  match p with
  | contains letters => standsIn letters text.toList
  | whole pieces => (PatternPiece.describes text.toList pieces).headD false

/-- Whether a character is a wildcard. -/
def isWildcard (c : Char) : Bool := c == '*' || c == '?'

/-- A search text with this many wildcards or more is too large. -/
def wildcardLimit : Nat := 20000

/-- The refusal of a search text that is too large. -/
def tooLarge : String := "Compiled regex exceeds size limit of 10485760 bytes."

/-- The pattern of a search text; a blank text has none. -/
def parse (raw : String) : Except String (Option Pattern) :=
  let cs := trimChars raw.toList
  if cs.isEmpty then .ok none
  else if cs.any isWildcard then
    if wildcardLimit ≤ cs.countP isWildcard then .error tooLarge
    else .ok (some (whole (cs.map PatternPiece.ofChar)))
  else .ok (some (contains cs))

end Pattern

end CaseDesk
