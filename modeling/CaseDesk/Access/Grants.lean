/-
  Grants: the access levels a caller holds, per object class.

  A grant text is a list of entries set apart by commas.  `*` makes the caller
  a superuser; `class:flags` adds the levels of its flags to a class.  Blank
  entries are skipped, and entries add up.

  * `Grants.parse`: reads a grant text.
  * `Grants.add`: more levels on a class.
  * `Grants.allows`: whether a level on a class is granted.
  * `Grants.sameAs`: whether two grants list the same classes with the same
    levels; a class without levels is still listed.
-/
import CaseDesk.Access.Level
import CaseDesk.Text.Blank

namespace CaseDesk

open Text

/-- The levels granted, class by class in the order in which they were added. -/
structure Grants where
  superuser : Bool := false
  classes : List (String × List Access) := []
  deriving DecidableEq, Repr

/-- Why a text is no grant. -/
inductive GrantsError where
  | noColon (entry : String)
  | noClass (entry : String)
  | unknownFlag (flag : Char)
  deriving DecidableEq, Repr

/-- The wording of an error. -/
def GrantsError.message : GrantsError → String
  | noColon entry => "grant `" ++ entry ++ "` must look like objclass:flags"
  | noClass entry => "grant `" ++ entry ++ "` has no object class"
  | unknownFlag flag => "unknown access flag `" ++ flag.toString ++ "`"

namespace Grants

/-- Everything is granted. -/
def all : Grants := { superuser := true }

/-- Adds levels to the entry of a class, or a new entry for it. -/
def addTo (objclass : String) (levels : List Access) :
    List (String × List Access) → List (String × List Access)
  | [] => [(objclass, levels)]
  | (c, held) :: rest =>
    if c = objclass then (c, held ++ levels) :: rest
    else (c, held) :: addTo objclass levels rest

/-- Grants further levels on a class. -/
def add (g : Grants) (objclass : String) (levels : List Access) : Grants :=
  { g with classes := addTo objclass levels g.classes }

/-- The levels held on a class. -/
def levels (g : Grants) (objclass : String) : List Access :=
  (g.classes.lookup objclass).getD []

/-- Whether a level on a class is granted. -/
def allows (g : Grants) (objclass : String) (access : Access) : Bool :=
  g.superuser || (g.levels objclass).contains access

/-- Whether two grants list the same classes with the same levels. -/
def sameAs (g h : Grants) : Bool :=
  let within (a b : List Access) : Bool := a.all b.contains
  let covers (a b : Grants) : Bool := a.classes.all fun (c, held) =>
    match b.classes.lookup c with
    | some other => within held other && within other held
    | none => false
  g.superuser == h.superuser && covers g h && covers h g

/-- The levels that a run of flags names. -/
def readFlags : List Char → Except GrantsError (List Access)
  | [] => .ok []
  | flag :: rest =>
    match Access.ofLetter? flag with
    | none => .error (.unknownFlag flag)
    | some access => (access :: ·) <$> readFlags rest

/-- Adds one entry, already without blanks around it. -/
def addEntry (g : Grants) (entry : List Char) : Except GrantsError Grants :=
  if entry = ['*'] then .ok { g with superuser := true }
  else match cutOnce ':' entry with
    | none => .error (.noColon (String.ofList entry))
    | some (objclass, flags) =>
      let objclass := trimChars objclass
      if objclass.isEmpty then .error (.noClass (String.ofList entry))
      else do return g.add (String.ofList objclass) (← readFlags (trimChars flags))

/-- The entries of a grant text that are not blank. -/
def entries (raw : String) : List (List Char) :=
  ((pieces ',' raw.toList).map trimChars).filter (!·.isEmpty)

/-- Reads a grant text. -/
def parse (raw : String) : Except GrantsError Grants :=
  (entries raw).foldlM addEntry {}

end Grants

end CaseDesk
