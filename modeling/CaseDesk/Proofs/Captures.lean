/-
  What a template captures.

  A template is read in two ways: as the paths that it writes, with values in
  the places of its parameters, and as the expression that finds such paths.
  Expressions of any size are matched here; whether one is too large to be
  compiled is not looked at.

  * `Template.Fits`: a path has the segments of a template, with these values
    for the parameters.
  * `Template.WellNamed`: the parameters of a template are called by different
    identifiers.
  * `Template.fits_iff_valuesOf`: a path fits a template just if the template
    takes values from it.
  * `Template.expression`: the expression of a template, which matches just the
    paths that fit (`Template.expression_matches`).
  * `Template.capture_exact`: what is captured from a path is what it fits the
    template with.
-/
import CaseDesk.Proofs.Templates
import Mathlib.Data.List.Nodup

namespace CaseDesk.Template

open Text

/-! ## Paths that fit -/

/-- The segments of a template as they are written: what stands between its slashes and is not
    empty. -/
def texts (template : String) : List (List Char) :=
  (template.toList.splitOn '/').filter (· ≠ [])

/-- A parameter as it is written: its name in braces. -/
def braced (name : List Char) : List Char := '\x7b' :: (name ++ ['\x7d'])

/-- The paths that fit some segments, and the names of the parameters with their values.  A slash
    stands before each segment, and one more may stand at the end. -/
inductive Fits : List (List Char) → List (String × String) → List Char → Prop where
  | nil : Fits [] [] []
  | slash : Fits [] [] ['/']
  | literal {text : List Char} {texts : List (List Char)} {params : List (String × String)}
      {path : List Char} (hplain : ∀ name, text ≠ braced name) (h : Fits texts params path) :
      Fits (text :: texts) params ('/' :: (text ++ path))
  | param {name value : List Char} {texts : List (List Char)} {params : List (String × String)}
      {path : List Char} (hempty : value ≠ []) (hvalue : '/' ∉ value)
      (h : Fits texts params path) :
      Fits (braced name :: texts) ((String.ofList name, String.ofList value) :: params)
        ('/' :: (value ++ path))

/-- An identifier: a letter or `_`, then also digits. -/
def IsIdentifier (name : List Char) : Prop :=
  ∃ first rest, name = first :: rest ∧ (first = '_' ∨ first.isAlpha = true) ∧
    ∀ c ∈ rest, c = '_' ∨ c.isAlphanum = true

/-- The parameters of a template are called by identifiers, and no two by the same. -/
structure WellNamed (template : String) : Prop where
  identifier : ∀ name, braced name ∈ texts template → IsIdentifier name
  distinct : ∀ name, (texts template).count (braced name) ≤ 1

theorem texts_eq (template : String) : texts template = pathTexts template.toList := by
  rw [texts, pathTexts, pieces_eq_splitOn]
  apply List.filter_congr
  intro text _
  cases text <;> rfl

theorem read_braced (name : List Char) : Segment.read (braced name) = .param name := by
  simp [Segment.read, braced]

theorem braced_or_plain (text : List Char) :
    (∃ name, text = braced name) ∨ ∀ name, text ≠ braced name := by
  by_cases h : ∃ name, text = braced name
  · exact .inl h
  · rw [not_exists] at h
    exact .inr h

/-- A segment without braces stands for itself. -/
theorem read_of_plain {text : List Char} (h : ∀ name, text ≠ braced name) :
    Segment.read text = .literal text := by
  unfold Segment.read
  split
  · next rest =>
    split
    · next name hrest =>
      have hname : rest = name.reverse ++ ['\x7d'] := by
        rw [← List.reverse_cons, ← hrest, List.reverse_reverse]
      exact absurd (congrArg _ hname) (h name.reverse)
    · rfl
  · rfl

section
variable {texts : List (List Char)} {params : List (String × String)} {path : List Char}

theorem Fits.atSlash (h : Fits texts params path) : AtSlash path := by
  cases h with
  | nil => exact .inl rfl
  | slash => exact .inr ⟨[], rfl⟩
  | literal => exact .inr ⟨_, rfl⟩
  | param => exact .inr ⟨_, rfl⟩

/-- Values with the names of the parameters they are for. -/
def named (segs : List Segment) (values : List (List Char)) : List (String × String) :=
  (names segs).zipWith (fun n v => (String.ofList n, String.ofList v)) values

theorem Fits.valuesOf (h : Fits texts params path) :
    ∃ values, valuesOf (texts.map Segment.read) path = some values ∧
      named (texts.map Segment.read) values = params := by
  induction h with
  | nil => exact ⟨[], rfl, rfl⟩
  | slash => exact ⟨[], rfl, rfl⟩
  | @literal text texts params path hplain h ih =>
    obtain ⟨values, hvalues, rfl⟩ := ih
    rw [List.map_cons, read_of_plain hplain]
    exact ⟨values, valuesOf_literal.2 ⟨path, rfl, hvalues⟩, rfl⟩
  | @param name value texts params path hempty hvalue h ih =>
    obtain ⟨values, hvalues, rfl⟩ := ih
    rw [List.map_cons, read_braced]
    exact ⟨value :: values, valuesOf_param.2 ⟨value, path, values, rfl, h.atSlash,
      ⟨hempty, hvalue⟩, rfl, hvalues⟩, rfl⟩

theorem fits_of_valuesOf {values : List (List Char)}
    (h : valuesOf (texts.map Segment.read) path = some values) :
    Fits texts (named (texts.map Segment.read) values) path := by
  induction texts generalizing values path with
  | nil =>
    obtain ⟨rfl, rfl | rfl⟩ := valuesOf_nil.1 h
    · exact .nil
    · exact .slash
  | cons text texts ih =>
    rw [List.map_cons] at h ⊢
    rcases braced_or_plain text with ⟨name, rfl⟩ | hplain
    · rw [read_braced] at h ⊢
      obtain ⟨value, rest, others, rfl, -, ⟨hempty, hvalue⟩, rfl, hothers⟩ := valuesOf_param.1 h
      exact .param hempty hvalue (ih hothers)
    · rw [read_of_plain hplain] at h ⊢
      obtain ⟨rest, rfl, hrest⟩ := valuesOf_literal.1 h
      exact .literal hplain (ih hrest)

theorem fits_iff_valuesOf : Fits texts params path ↔
    ∃ values, valuesOf (texts.map Segment.read) path = some values ∧
      named (texts.map Segment.read) values = params := by
  constructor
  · exact Fits.valuesOf
  · rintro ⟨values, hvalues, rfl⟩
    exact fits_of_valuesOf hvalues

end

/-! ## Names -/

/-- A name is there as often as its parameter is written. -/
theorem count_names {texts : List (List Char)} {name : List Char} :
    (names (texts.map Segment.read)).count name = texts.count (braced name) := by
  induction texts with
  | nil => rfl
  | cons text texts ih =>
    rw [List.map_cons]
    rcases braced_or_plain text with ⟨other, rfl⟩ | hplain
    · have hsame : (braced other == braced name) = (other == name) := by simp [braced]
      rw [read_braced, names, List.count_cons, List.count_cons, ih, hsame]
    · rw [read_of_plain hplain, names, List.count_cons_of_ne (hplain name), ih]

theorem mem_names {texts : List (List Char)} {name : List Char} :
    name ∈ names (texts.map Segment.read) ↔ braced name ∈ texts := by
  rw [← List.count_pos_iff, count_names, List.count_pos_iff]

theorem lt_of_isAlphanum {c : Char} (h : c.isAlphanum = true) : c.toNat < 128 := by
  have hkind : (c.isUpper = true ∨ c.isLower = true) ∨ c.isDigit = true := by
    rw [← Bool.or_eq_true, ← Bool.or_eq_true]
    exact h
  have hle {last : Char} (hlast : last.toNat < 128) (h : c.val ≤ last.val) : c.toNat < 128 :=
    Nat.lt_of_le_of_lt (UInt32.le_iff_toNat_le.1 h) hlast
  rcases hkind with (hupper | hlower) | hdigit
  · exact hle (by decide : 'Z'.toNat < 128) (of_decide_eq_true hupper).2
  · exact hle (by decide : 'z'.toNat < 128) (of_decide_eq_true (Bool.and_eq_true_iff.1 hlower).2)
  · exact hle (by decide : '9'.toNat < 128) (of_decide_eq_true (Bool.and_eq_true_iff.1 hdigit).2)

/-- In the letters and digits of identifiers, nothing depends on the script. -/
theorem alphabetic_or_numeral {c : Char} (h : c.isAlphanum = true) :
    isAlphabetic c = c.isAlpha ∧ isNumeral c = c.isDigit := by
  have hcode := lt_of_isAlphanum h
  rw [isAlphabetic, isNumeral, if_pos hcode, if_pos hcode]
  exact ⟨rfl, rfl⟩

theorem isName_of_identifier {name : List Char} (h : IsIdentifier name) : isName name = true := by
  obtain ⟨first, rest, rfl, hfirst, hrest⟩ := h
  rw [isName, Bool.and_eq_true, List.all_eq_true]
  constructor
  · rcases hfirst with rfl | hfirst
    · rfl
    · have halphanum : first.isAlphanum = true := by simp [Char.isAlphanum, hfirst]
      simp [(alphabetic_or_numeral halphanum).1, hfirst]
  · intro c hc
    rcases hrest c hc with rfl | halphanum
    · rfl
    · obtain ⟨halpha, hdigit⟩ := alphabetic_or_numeral halphanum
      have hcases : c.isAlpha = true ∨ c.isDigit = true := by
        rwa [Char.isAlphanum, Bool.or_eq_true] at halphanum
      rcases hcases with hc | hc <;> simp [halpha, hdigit, hc]

theorem WellNamed.namesOk {template : String} (h : WellNamed template) :
    namesOk (segments template) = true := by
  rw [Template.namesOk, Bool.and_eq_true, decide_eq_true_iff, List.all_eq_true, segments_eq,
    ← texts_eq, List.nodup_iff_count_le_one]
  constructor
  · intro name hname
    exact isName_of_identifier (h.identifier name (mem_names.1 hname))
  · intro name
    rw [count_names]
    exact h.distinct name

/-! ## Expressions -/

/-- What the expressions of templates are made of. -/
inductive Expression where
  | empty
  | char (c : Char)
  /-- One or more characters, none of them the given one. -/
  | run (stop : Char)
  | optional (e : Expression)
  | group (name : String) (e : Expression)
  | seq (first second : Expression)

namespace Expression

/-- An expression matches a text from end to end, and these are the texts of its groups in order. -/
inductive Matches : Expression → List Char → List (String × String) → Prop where
  | empty : Matches .empty [] []
  | char (c : Char) : Matches (.char c) [c] []
  | run {stop : Char} {cs : List Char} (hempty : cs ≠ []) (hstop : stop ∉ cs) :
      Matches (.run stop) cs []
  | skipped (e : Expression) : Matches (.optional e) [] []
  | taken {e : Expression} {cs : List Char} {groups : List (String × String)}
      (h : Matches e cs groups) : Matches (.optional e) cs groups
  | group {name : String} {e : Expression} {cs : List Char} {groups : List (String × String)}
      (h : Matches e cs groups) :
      Matches (.group name e) cs ((name, String.ofList cs) :: groups)
  | seq {first second : Expression} {cs cs' : List Char} {groups groups' : List (String × String)}
      (hfirst : Matches first cs groups) (hsecond : Matches second cs' groups') :
      Matches (.seq first second) (cs ++ cs') (groups ++ groups')

/-- The expression that matches just one text. -/
def verbatim : List Char → Expression
  | [] => .empty
  | c :: cs => .seq (.char c) (verbatim cs)

/-- The expression of a segment: a group for a parameter. -/
def ofSegment : Segment → Expression
  | .literal text => verbatim text
  | .param name => .group (String.ofList name) (.run '/')

/-- The expression of some segments: a slash before each, and perhaps one at the end. -/
def ofSegments : List Segment → Expression
  | [] => .optional (.char '/')
  | seg :: segs => .seq (.char '/') (.seq (ofSegment seg) (ofSegments segs))

theorem matches_verbatim {text cs : List Char} {groups : List (String × String)} :
    (verbatim text).Matches cs groups ↔ cs = text ∧ groups = [] := by
  induction text generalizing cs groups with
  | nil =>
    constructor
    · intro h
      cases h
      exact ⟨rfl, rfl⟩
    · rintro ⟨rfl, rfl⟩
      exact .empty
  | cons c text ih =>
    constructor
    · intro h
      cases h with
      | seq hfirst hsecond =>
        cases hfirst
        obtain ⟨rfl, rfl⟩ := ih.1 hsecond
        exact ⟨rfl, rfl⟩
    · rintro ⟨rfl, rfl⟩
      exact .seq (.char c) (ih.2 ⟨rfl, rfl⟩)

end Expression

/-- The expression of a template. -/
def expression (template : String) : Expression := .ofSegments (segments template)

section
variable {texts : List (List Char)} {params : List (String × String)} {path : List Char}

theorem Fits.matches (h : Fits texts params path) :
    (Expression.ofSegments (texts.map Segment.read)).Matches path params := by
  induction h with
  | nil => exact .skipped _
  | slash => exact .taken (.char '/')
  | @literal text texts params path hplain h ih =>
    rw [List.map_cons, read_of_plain hplain]
    exact .seq (.char '/') (.seq (Expression.matches_verbatim.2 ⟨rfl, rfl⟩) ih)
  | @param name value texts params path hempty hvalue h ih =>
    rw [List.map_cons, read_braced]
    exact .seq (.char '/') (.seq (.group (.run hempty hvalue)) ih)

theorem fits_of_matches
    (h : (Expression.ofSegments (texts.map Segment.read)).Matches path params) :
    Fits texts params path := by
  induction texts generalizing params path with
  | nil =>
    cases h with
    | skipped => exact .nil
    | taken h =>
      cases h
      exact .slash
  | cons text texts ih =>
    rw [List.map_cons] at h
    cases h with
    | seq hslash h =>
      cases hslash
      cases h with
      | seq hseg hrest =>
        rcases braced_or_plain text with ⟨name, rfl⟩ | hplain
        · rw [read_braced] at hseg
          cases hseg with
          | group hrun =>
            cases hrun with
            | run hempty hstop => exact .param hempty hstop (ih hrest)
        · rw [read_of_plain hplain] at hseg
          obtain ⟨rfl, rfl⟩ := Expression.matches_verbatim.1 hseg
          exact .literal hplain (ih hrest)

end

theorem expression_matches {template : String} {params : List (String × String)}
    {path : List Char} :
    (expression template).Matches path params ↔ Fits (texts template) params path := by
  rw [expression, segments_eq, ← texts_eq]
  exact ⟨fits_of_matches, Fits.matches⟩

/-! ## Captures -/

theorem capture_iff_fits {template path : String} (h : WellNamed template)
    {params : List (String × String)} :
    capture template path = some params ↔ Fits (texts template) params path.toList := by
  have hcapture : capture template path =
      (valuesOf (segments template) path.toList).map (named (segments template)) :=
    if_pos h.namesOk
  rw [hcapture, Option.map_eq_some_iff, fits_iff_valuesOf, segments_eq, ← texts_eq]

/-- **A template captures what it matches.**  The parameters of the template are called by different
    identifiers.  A path is then captured from just if it writes the segments of the template after
    a slash each, the literal ones verbatim and a value that is not empty and has no slash for each
    parameter, and then perhaps one more slash.  The values are the only ones with which the path
    can be written so, and they come with their names in the order of the template; nothing is
    captured from any other path.  The expression of the template matches the same paths, with the
    same values in its groups. -/
theorem capture_exact {template : String} (h : WellNamed template) (path : String) :
    (∀ params, capture template path = some params ↔ Fits (texts template) params path.toList) ∧
      (∀ params params', Fits (texts template) params path.toList →
        Fits (texts template) params' path.toList → params = params') ∧
      (capture template path = none ↔ ∀ params, ¬ Fits (texts template) params path.toList) ∧
      ∀ params, (expression template).Matches path.toList params ↔
        Fits (texts template) params path.toList := by
  refine ⟨fun params => capture_iff_fits h, ?_, ?_, fun params => expression_matches⟩
  · intro params params' hfits hfits'
    have hsame := (capture_iff_fits h).2 hfits
    rw [(capture_iff_fits h).2 hfits'] at hsame
    exact (Option.some.inj hsame).symm
  · simp only [Option.eq_none_iff_forall_ne_some, ne_eq, capture_iff_fits h]

/-- A template with a doubled slash, signs that mean something in expressions and braces that are
    open, and a path with a line break and one more slash. -/
theorem signs_captured : WellNamed "a.*//\x7bone\x7d/\x7b/\x7btwo_2\x7d/" ∧
    capture "a.*//\x7bone\x7d/\x7b/\x7btwo_2\x7d/" "/a.*/x\ny/\x7b/$/" =
      some [("one", "x\ny"), ("two_2", "$")] ∧
    capture "a.*//\x7bone\x7d/\x7b/\x7btwo_2\x7d/" "/a.*//\x7b/$/" = none := by
  have htexts : texts "a.*//\x7bone\x7d/\x7b/\x7btwo_2\x7d/" =
      [['a', '.', '*'], braced ['o', 'n', 'e'], ['\x7b'], braced ['t', 'w', 'o', '_', '2']] := by
    decide
  have hnamed : WellNamed "a.*//\x7bone\x7d/\x7b/\x7btwo_2\x7d/" := by
    constructor
    · rw [htexts]
      intro name hname
      have hcases : name ++ ['\x7d'] = ['o', 'n', 'e'] ++ ['\x7d'] ∨
          name ++ ['\x7d'] = ['t', 'w', 'o', '_', '2'] ++ ['\x7d'] := by
        simpa [braced] using hname
      rcases hcases with hone | htwo
      · rw [List.append_cancel_right hone]
        exact ⟨'o', _, rfl, .inr rfl, by simp⟩
      · rw [List.append_cancel_right htwo]
        exact ⟨'t', _, rfl, .inr rfl, by simp⟩
    · intro name
      have hnodup : (texts "a.*//\x7bone\x7d/\x7b/\x7btwo_2\x7d/").Nodup := by
        rw [htexts]
        decide
      exact List.nodup_iff_count_le_one.1 hnodup _
  have hpath : "/a.*/x\ny/\x7b/$/".toList = '/' :: (['a', '.', '*'] ++ '/' :: (['x', '\n', 'y'] ++
      '/' :: (['\x7b'] ++ '/' :: (['$'] ++ ['/'])))) := by decide
  have hfits : Fits (texts "a.*//\x7bone\x7d/\x7b/\x7btwo_2\x7d/")
      [("one", "x\ny"), ("two_2", "$")] "/a.*/x\ny/\x7b/$/".toList := by
    rw [htexts, hpath]
    refine .literal (by simp [braced]) (.param (by decide) (by decide) ?_)
    exact .literal (by simp [braced]) (.param (by decide) (by decide) .slash)
  exact ⟨hnamed, ((capture_exact hnamed _).1 _).2 hfits, by decide⟩

end CaseDesk.Template
