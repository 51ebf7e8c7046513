/-
  What search texts mean.

  A search text without wildcards asks for a run of its letters, in either
  case.  One with wildcards describes a whole text: the text is cut into one
  run for each of its characters.

  * `Pattern.Found`: the letters stand somewhere in a text.
  * `Pattern.StandsFor`, `Pattern.Described`: the runs that a character of a
    search text may stand for, and the texts that can be cut into such runs.
  * `PatternPiece.describes_tails`: the matcher decides, suffix by suffix,
    which texts are described.
  * `Pattern.Expression`: the expressions of search texts, which find what they
    match anywhere in a text.  That of a search text finds something in the
    texts that it asks for (`Pattern.Expression.finds_ofSearch`).
  * `Pattern.search_meaning`: a search text that is not blank and not too large
    has a pattern, and the texts that satisfy it are those it asks for.
-/
import CaseDesk.Listing.Pattern
import Mathlib.Data.List.Forall2

namespace CaseDesk

open Text

namespace Pattern

/-! ## Search texts without wildcards -/

/-- Letters stand somewhere in a text, each in one of its case forms. -/
def Found (letters text : List Char) : Prop :=
  ∃ before run after, text = before ++ run ++ after ∧ run.map foldChar = letters.map foldChar

theorem sameLetter_iff {a b : Char} : sameLetter a b = true ↔ foldChar b = foldChar a := by
  rw [sameLetter, beq_iff_eq, eq_comm]

theorem startsWith_iff {letters text : List Char} : startsWith letters text = true ↔
    ∃ run after, text = run ++ after ∧ run.map foldChar = letters.map foldChar := by
  induction letters generalizing text with
  | nil => simp [startsWith]
  | cons l ls ih =>
    cases text with
    | nil => simp [startsWith]
    | cons c cs =>
      rw [startsWith, Bool.and_eq_true, sameLetter_iff, ih]
      constructor
      · rintro ⟨hc, run, after, rfl, hrun⟩
        exact ⟨c :: run, after, rfl, by rw [List.map_cons, List.map_cons, hc, hrun]⟩
      · rintro ⟨_ | ⟨d, run⟩, after, htext, hrun⟩
        · cases hrun
        · obtain ⟨rfl, rfl⟩ := List.cons.inj htext
          obtain ⟨hc, hrun⟩ := List.cons.inj hrun
          exact ⟨hc, run, after, rfl, hrun⟩

/-- The search for letters starts at every place of a text, from its first on. -/
theorem standsIn_iff {letters text : List Char} :
    standsIn letters text = true ↔ Found letters text := by
  induction text with
  | nil =>
    rw [standsIn, List.isEmpty_iff]
    constructor
    · rintro rfl
      exact ⟨[], [], [], rfl, rfl⟩
    · rintro ⟨before, run, after, htext, hrun⟩
      obtain ⟨-, rfl, -⟩ : before = [] ∧ run = [] ∧ after = [] := by simpa using htext.symm
      exact List.map_eq_nil_iff.1 hrun.symm
  | cons c cs ih =>
    rw [standsIn, Bool.or_eq_true, startsWith_iff, ih]
    constructor
    · rintro (⟨run, after, htext, hrun⟩ | ⟨before, run, after, rfl, hrun⟩)
      · exact ⟨[], run, after, htext, hrun⟩
      · exact ⟨c :: before, run, after, rfl, hrun⟩
    · rintro ⟨_ | ⟨d, before⟩, run, after, htext, hrun⟩
      · exact .inl ⟨run, after, htext, hrun⟩
      · obtain ⟨rfl, rfl⟩ := List.cons.inj htext
        exact .inr ⟨before, run, after, rfl, hrun⟩

/-! ## Search texts with wildcards -/

/-- The runs of characters that a character of a search text may stand for. -/
inductive StandsFor : Char → List Char → Prop where
  | anyRun (run : List Char) : StandsFor '*' run
  | anyOne (c : Char) : StandsFor '?' [c]
  | letter {l c : Char} (hl : isWildcard l = false) (hc : foldChar c = foldChar l) :
      StandsFor l [c]

/-- A text can be cut into runs, one for each character of a search text and each a run that the
    character may stand for. -/
def Described (search text : List Char) : Prop :=
  ∃ runs : List (List Char), runs.flatten = text ∧ List.Forall₂ StandsFor search runs

theorem described_nil {text : List Char} : Described [] text ↔ text = [] := by
  simp [Described, eq_comm]

theorem described_cons {l : Char} {search text : List Char} : Described (l :: search) text ↔
    ∃ run rest, text = run ++ rest ∧ StandsFor l run ∧ Described search rest := by
  constructor
  · rintro ⟨_, rfl, hall⟩
    obtain ⟨run, runs, hrun, hruns, rfl⟩ := List.forall₂_cons_left_iff.1 hall
    exact ⟨run, runs.flatten, rfl, hrun, runs, rfl, hruns⟩
  · rintro ⟨run, _, rfl, hrun, runs, rfl, hruns⟩
    exact ⟨run :: runs, rfl, .cons hrun hruns⟩

theorem described_anyRun {search text : List Char} : Described ('*' :: search) text ↔
    ∃ before rest, text = before ++ rest ∧ Described search rest := by
  rw [described_cons]
  constructor
  · rintro ⟨run, rest, htext, -, hrest⟩
    exact ⟨run, rest, htext, hrest⟩
  · rintro ⟨run, rest, htext, hrest⟩
    exact ⟨run, rest, htext, .anyRun run, hrest⟩

theorem described_anyOne {search text : List Char} : Described ('?' :: search) text ↔
    ∃ c rest, text = c :: rest ∧ Described search rest := by
  rw [described_cons]
  constructor
  · rintro ⟨run, rest, rfl, hrun, hrest⟩
    rcases hrun with _ | c | ⟨hl, -⟩
    · exact ⟨c, rest, rfl, hrest⟩
    · cases hl
  · rintro ⟨c, rest, rfl, hrest⟩
    exact ⟨[c], rest, rfl, .anyOne c, hrest⟩

theorem described_letter {l : Char} (hl : isWildcard l = false) {search text : List Char} :
    Described (l :: search) text ↔
      ∃ c rest, text = c :: rest ∧ foldChar c = foldChar l ∧ Described search rest := by
  rw [described_cons]
  constructor
  · rintro ⟨run, rest, rfl, hrun, hrest⟩
    rcases hrun with _ | _ | @⟨_, c, -, hc⟩
    · cases hl
    · cases hl
    · exact ⟨c, rest, rfl, hc, hrest⟩
  · rintro ⟨c, rest, rfl, hc, hrest⟩
    exact ⟨[c], rest, rfl, .letter hl hc, hrest⟩

end Pattern

namespace PatternPiece

open Pattern (Described isWildcard)

/-- Flags tell for each suffix of a text, the longest first, whether it has a property. -/
def Tells (property : List Char → Prop) (text : List Char) (flags : List Bool) : Prop :=
  List.Forall₂ (fun suffix flag => flag = true ↔ property suffix) text.tails flags

variable {property : List Char → Prop} {text : List Char} {flags : List Bool}

theorem Tells.congr {other : List Char → Prop} (h : ∀ suffix, property suffix ↔ other suffix)
    (hflags : Tells property text flags) : Tells other text flags :=
  List.Forall₂.imp (fun suffix _ hflag => hflag.trans (h suffix)) hflags

theorem tells_nil : Tells property [] flags ↔ ∃ b, flags = [b] ∧ (b = true ↔ property []) := by
  constructor
  · intro h
    obtain ⟨b, rest, hb, hrest, rfl⟩ := List.forall₂_cons_left_iff.1 h
    exact ⟨b, by rw [List.forall₂_nil_left_iff.1 hrest], hb⟩
  · rintro ⟨b, rfl, hb⟩
    exact .cons hb .nil

theorem tells_cons {c : Char} : Tells property (c :: text) flags ↔
    ∃ b rest, flags = b :: rest ∧ (b = true ↔ property (c :: text)) ∧ Tells property text rest := by
  constructor
  · intro h
    obtain ⟨b, rest, hb, hrest, rfl⟩ := List.forall₂_cons_left_iff.1 h
    exact ⟨b, rest, rfl, hb, hrest⟩
  · rintro ⟨b, rest, rfl, hb, hrest⟩
    exact .cons hb hrest

/-- The first flag is about the whole text. -/
theorem Tells.head (h : Tells property text flags) : flags.headD false = true ↔ property text := by
  cases text with
  | nil =>
    obtain ⟨b, rfl, hb⟩ := tells_nil.1 h
    exact hb
  | cons c text =>
    obtain ⟨b, rest, rfl, hb, -⟩ := tells_cons.1 h
    exact hb

theorem tells_end (text : List Char) :
    Tells (· = []) text (text.map (fun _ => false) ++ [true]) := by
  induction text with
  | nil => exact tells_nil.2 ⟨true, rfl, by simp⟩
  | cons c text ih => exact tells_cons.2 ⟨false, _, rfl, by simp, ih⟩

theorem Tells.afterOne (ok : Char → Bool) (h : Tells property text flags) :
    Tells (fun suffix => ∃ c rest, suffix = c :: rest ∧ ok c = true ∧ property rest) text
      (afterOne ok text flags) := by
  induction text generalizing flags with
  | nil => exact tells_nil.2 ⟨false, rfl, by simp⟩
  | cons c text ih =>
    obtain ⟨b, rest, rfl, -, hrest⟩ := tells_cons.1 h
    refine tells_cons.2 ⟨_, _, rfl, ?_, ih hrest⟩
    rw [List.tail_cons, Bool.and_eq_true, hrest.head]
    constructor
    · rintro ⟨hc, htext⟩
      exact ⟨c, text, rfl, hc, htext⟩
    · rintro ⟨_, _, heq, hc, htext⟩
      obtain ⟨rfl, rfl⟩ := List.cons.inj heq
      exact ⟨hc, htext⟩

theorem Tells.afterRun (h : Tells property text flags) :
    Tells (fun suffix => ∃ before rest, suffix = before ++ rest ∧ property rest) text
      (afterRun flags) := by
  induction text generalizing flags with
  | nil =>
    obtain ⟨b, rfl, hb⟩ := tells_nil.1 h
    exact tells_nil.2 ⟨b, by simp [PatternPiece.afterRun], by simp [hb]⟩
  | cons c text ih =>
    obtain ⟨b, rest, rfl, hb, hrest⟩ := tells_cons.1 h
    refine tells_cons.2 ⟨_, _, rfl, ?_, ih hrest⟩
    rw [Bool.or_eq_true, hb, (ih hrest).head]
    constructor
    · rintro (htext | ⟨before, rest, rfl, hproperty⟩)
      · exact ⟨[], c :: text, rfl, htext⟩
      · exact ⟨c :: before, rest, rfl, hproperty⟩
    · rintro ⟨_ | ⟨d, before⟩, rest, heq, hproperty⟩
      · exact .inl (heq ▸ hproperty)
      · obtain ⟨rfl, rfl⟩ := List.cons.inj heq
        exact .inr ⟨before, rest, rfl, hproperty⟩

theorem ofChar_letter {l : Char} (hl : isWildcard l = false) : ofChar l = letter l := by
  unfold ofChar
  split
  · cases hl
  · cases hl
  · rfl

/-- The matcher tells for each suffix of a text whether the search text describes it: by induction
    on the search text, whose last character is looked at first. -/
theorem describes_tails (search text : List Char) :
    Tells (Described search) text (describes text (search.map ofChar)) := by
  induction search with
  | nil => exact (tells_end text).congr fun _ => Pattern.described_nil.symm
  | cons l search ih =>
    by_cases hstar : l = '*'
    · subst hstar
      exact ih.afterRun.congr fun _ => Pattern.described_anyRun.symm
    by_cases hmark : l = '?'
    · subst hmark
      refine (ih.afterOne fun _ => true).congr fun _ => ?_
      simp only [Pattern.described_anyOne, true_and]
    have hl : isWildcard l = false := by simp [isWildcard, hstar, hmark]
    rw [List.map_cons, ofChar_letter hl]
    refine (ih.afterOne (sameLetter l)).congr fun _ => ?_
    simp only [Pattern.described_letter hl, Pattern.sameLetter_iff]

end PatternPiece

namespace Pattern

/-! ## Expressions -/

/-- What the expressions of search texts are made of. -/
inductive Expression where
  | empty
  | start
  | finish
  /-- Any character, line breaks included. -/
  | any
  /-- A character in either case. -/
  | letter (c : Char)
  | star (e : Expression)
  | seq (first second : Expression)

namespace Expression

/-- An expression matches a run of characters of a text, between what stands before and after. -/
inductive Matches : Expression → (before run after : List Char) → Prop where
  | empty (before after : List Char) : Matches .empty before [] after
  | start (after : List Char) : Matches .start [] [] after
  | finish (before : List Char) : Matches .finish before [] []
  | any (before : List Char) (c : Char) (after : List Char) : Matches .any before [c] after
  | letter {l c : Char} (before after : List Char) (h : foldChar c = foldChar l) :
      Matches (.letter l) before [c] after
  | done (e : Expression) (before after : List Char) : Matches (.star e) before [] after
  | more {e : Expression} {before run run' after : List Char}
      (hfirst : Matches e before run (run' ++ after))
      (hrest : Matches (.star e) (before ++ run) run' after) :
      Matches (.star e) before (run ++ run') after
  | seq {first second : Expression} {before run run' after : List Char}
      (hfirst : Matches first before run (run' ++ after))
      (hsecond : Matches second (before ++ run) run' after) :
      Matches (.seq first second) before (run ++ run') after

/-- An expression finds a run in a text that it matches. -/
def Finds (e : Expression) (text : List Char) : Prop :=
  ∃ before run after, text = before ++ run ++ after ∧ e.Matches before run after

/-- The expression of a character of a search text with wildcards. -/
def ofChar : Char → Expression
  | '*' => .star .any
  | '?' => .any
  | c => .letter c

/-- The expression of a search text: its letters, or from start to end what each character stands
    for if there are wildcards among them. -/
def ofSearch (search : List Char) : Expression :=
  if search.any isWildcard then
    .seq .start (search.foldr (fun c rest => .seq (ofChar c) rest) .finish)
  else search.foldr (fun c rest => .seq (.letter c) rest) .empty

variable {before run after : List Char}

theorem matches_star_any : (star any).Matches before run after := by
  induction run generalizing before with
  | nil => exact .done _ _ _
  | cons c run ih => exact .more (.any before c _) ih

theorem matches_ofChar {c : Char} : (ofChar c).Matches before run after ↔ StandsFor c run := by
  by_cases hstar : c = '*'
  · subst hstar
    exact iff_of_true matches_star_any (.anyRun run)
  by_cases hmark : c = '?'
  · subst hmark
    constructor
    · rintro ⟨⟩
      exact .anyOne _
    · rintro (_ | c | ⟨hl, -⟩)
      · exact .any _ _ _
      · cases hl
  have hletter : isWildcard c = false := by simp [isWildcard, hstar, hmark]
  have hchar : ofChar c = .letter c := by
    unfold ofChar
    split <;> simp_all
  rw [hchar]
  constructor
  · rintro ⟨⟩
    exact .letter hletter ‹_›
  · rintro (_ | _ | ⟨-, hc⟩)
    · cases hletter
    · cases hletter
    · exact .letter _ _ hc

theorem matches_seq {first second : Expression} : (seq first second).Matches before run after ↔
    ∃ run₁ run₂, run = run₁ ++ run₂ ∧ first.Matches before run₁ (run₂ ++ after) ∧
      second.Matches (before ++ run₁) run₂ after := by
  constructor
  · rintro ⟨⟩
    exact ⟨_, _, rfl, ‹_›, ‹_›⟩
  · rintro ⟨_, _, rfl, hfirst, hsecond⟩
    exact .seq hfirst hsecond

theorem matches_letters {search : List Char} :
    (search.foldr (fun c rest => seq (letter c) rest) empty).Matches before run after ↔
      run.map foldChar = search.map foldChar := by
  induction search generalizing before run with
  | nil =>
    rw [List.foldr_nil, List.map_nil, List.map_eq_nil_iff]
    constructor
    · rintro ⟨⟩
      rfl
    · rintro rfl
      exact .empty _ _
  | cons l search ih =>
    rw [List.foldr_cons, matches_seq]
    constructor
    · rintro ⟨_, rest, rfl, ⟨⟩, hrest⟩
      rw [List.singleton_append, List.map_cons, List.map_cons, ih.1 hrest, ‹foldChar _ = _›]
    · intro h
      obtain ⟨c, rest, rfl, hc, hrest⟩ := List.map_eq_cons_iff.1 h
      exact ⟨[c], rest, rfl, .letter _ _ hc, ih.2 hrest⟩

theorem matches_whole {search : List Char} :
    (search.foldr (fun c rest => seq (ofChar c) rest) finish).Matches before run after ↔
      after = [] ∧ Described search run := by
  induction search generalizing before run with
  | nil =>
    rw [List.foldr_nil, described_nil]
    constructor
    · rintro ⟨⟩
      exact ⟨rfl, rfl⟩
    · rintro ⟨rfl, rfl⟩
      exact .finish _
  | cons l search ih =>
    rw [List.foldr_cons, matches_seq, described_cons]
    simp only [matches_ofChar, ih]
    constructor
    · rintro ⟨run, rest, rfl, hrun, hafter, hrest⟩
      exact ⟨hafter, run, rest, rfl, hrun, hrest⟩
    · rintro ⟨hafter, run, rest, rfl, hrun, hrest⟩
      exact ⟨run, rest, rfl, hrun, hafter, hrest⟩

/-- What the expression of a search text finds. -/
theorem finds_ofSearch {search text : List Char} : (ofSearch search).Finds text ↔
    if search.any isWildcard = true then Described search text else Found search text := by
  unfold ofSearch Finds
  split_ifs
  · simp only [matches_seq, matches_whole]
    constructor
    · rintro ⟨before, _, after, rfl, _, run, rfl, ⟨⟩, rfl, hrun⟩
      simpa using hrun
    · intro h
      exact ⟨[], text, [], by simp, [], text, rfl, .start _, rfl, h⟩
  · simp only [matches_letters]
    rfl

end Expression

/-! ## All search texts -/

/-- **Search means what it says.**  A search text that is not blank and has not too many wildcards
    has a pattern, which accepts the texts in which the expression of the search text finds
    something.  Without wildcards these are the texts in which the letters stand, whatever their
    case; with wildcards they are the texts that can be cut into one run for each character, where
    `*` stands for any run, `?` for any character and every other character for itself in either
    case. -/
theorem search_meaning {q : String} (hblank : trim q ≠ "")
    (hlimit : (trim q).toList.countP isWildcard < wildcardLimit) :
    ∃ p, parse q = .ok (some p) ∧ ∀ text : String,
      (p.accepts text = true ↔ (Expression.ofSearch (trim q).toList).Finds text.toList) ∧
      (p.accepts text = true ↔
        if '*' ∈ (trim q).toList ∨ '?' ∈ (trim q).toList then
          Described (trim q).toList text.toList
        else Found (trim q).toList text.toList) := by
  have hchars : (trim q).toList = trimChars q.toList := String.toList_ofList
  have hsome : (trimChars q.toList).isEmpty = false := by
    rw [← hchars]
    simpa using hblank
  have hwild : (trimChars q.toList).any isWildcard = true ↔
      '*' ∈ (trim q).toList ∨ '?' ∈ (trim q).toList := by
    rw [hchars]
    simp [isWildcard, and_or_left, exists_or]
  have hpattern : ∃ p, parse q = .ok (some p) ∧ ∀ text : String, p.accepts text = true ↔
      if (trimChars q.toList).any isWildcard = true then
        Described (trimChars q.toList) text.toList
      else Found (trimChars q.toList) text.toList := by
    rw [hchars] at hlimit
    unfold parse
    simp only [hsome, Bool.false_eq_true, if_false, if_neg (Nat.not_le.2 hlimit)]
    split_ifs
    · exact ⟨_, rfl, fun text => (PatternPiece.describes_tails _ _).head⟩
    · exact ⟨_, rfl, fun text => standsIn_iff⟩
  obtain ⟨p, hparse, haccepts⟩ := hpattern
  refine ⟨p, hparse, fun text => ⟨?_, ?_⟩⟩
  · rw [haccepts, hchars, Expression.finds_ofSearch]
  · rw [haccepts, if_congr hwild rfl rfl, hchars]

/-- A search text with both wildcards and a bracket, which is a letter like any other. -/
theorem bracketed_meaning :
    (trim " a*[?\t" ≠ "" ∧ (trim " a*[?\t").toList.countP isWildcard < wildcardLimit) ∧
      ∃ p, parse " a*[?\t" = .ok (some p) ∧ p.accepts "A\n?[z" = true ∧
        p.accepts "xa[z" = false := by
  have hblank : trim " a*[?\t" ≠ "" := by decide
  have hlimit : (trim " a*[?\t").toList.countP isWildcard < wildcardLimit := by decide
  have htrim : (trim " a*[?\t").toList = ['a', '*', '[', '?'] := by decide
  have hwild : '*' ∈ ['a', '*', '[', '?'] ∨ '?' ∈ ['a', '*', '[', '?'] := by decide
  obtain ⟨p, hparse, hmeaning⟩ := search_meaning hblank hlimit
  simp only [htrim, if_pos hwild] at hmeaning
  refine ⟨⟨hblank, hlimit⟩, p, hparse, (hmeaning _).2.2 ?_, Bool.eq_false_iff.2 fun h => ?_⟩
  · refine ⟨[['A'], ['\n', '?'], ['['], ['z']], by decide, ?_⟩
    exact .cons (.letter rfl (by decide)) (.cons (.anyRun _) (.cons (.letter rfl rfl)
      (.cons (.anyOne _) .nil)))
  · obtain ⟨c, rest, htext, hc, -⟩ := (described_letter rfl).1 ((hmeaning _).2.1 h)
    obtain ⟨rfl, rfl⟩ := List.cons.inj htext
    exact absurd hc (by decide)

end Pattern

end CaseDesk
