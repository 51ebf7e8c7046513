/-
  Templates and the paths that fit them.

  * `Template.fill`, `Template.expand`: the path that a template and values for
    its parameters make.
  * `Template.valuesOf_eq_some`: a path fits exactly if it is such a path,
    perhaps with one more slash at the end, and the values are those that make
    it.
  * `Template.pathTexts_join`: the segments of a path can be told from it.
  * `Template.yields_of_fill`, `Template.countWords_of_yields`: of two templates
    that fit one path, the one whose values are no literal segments of the other
    has at least as many literal segments, and more unless both have the same.
-/
import CaseDesk.Proofs.Tags
import CaseDesk.Registry.Template
import Mathlib.Data.List.Forall2

namespace CaseDesk.Template

open Text

/-! ## Filling in -/

/-- The segments of a path, with values for the parameters in order. -/
def fill : List Segment → (values : List (List Char)) → List (List Char)
  | [], _ => []
  | .literal text :: segs, values => text :: fill segs values
  | .param _ :: segs, value :: values => value :: fill segs values
  | .param _ :: _, [] => []

/-- A path from its segments: a slash before each of them. -/
def join (texts : List (List Char)) : List Char := texts.flatMap ('/' :: ·)

/-- The names of the parameters of a template, in order. -/
def paramNames (template : String) : List String := (names (segments template)).map String.ofList

/-- The path that a template makes of values for its parameters. -/
def expand (template : String) (values : List String) : String :=
  String.ofList (join (fill (segments template) (values.map (·.toList))))

example : expand "/cases/\x7bcase_etag\x7d/links/\x7betag\x7d" ["7", "x"] = "/cases/7/links/x" := by
  decide

/-- Values for segments: one for each parameter, none of them empty or with a slash in it. -/
structure Suits (segs : List Segment) (values : List (List Char)) : Prop where
  count : values.length = (names segs).length
  segment : ∀ v ∈ values, v ≠ [] ∧ '/' ∉ v

theorem suits_nil {values : List (List Char)} : Suits [] values ↔ values = [] := by
  constructor
  · intro h
    exact List.length_eq_zero_iff.1 h.count
  · rintro rfl
    exact ⟨rfl, nofun⟩

theorem suits_literal {text : List Char} {segs : List Segment} {values : List (List Char)} :
    Suits (.literal text :: segs) values ↔ Suits segs values :=
  ⟨fun h => ⟨h.count, h.segment⟩, fun h => ⟨h.count, h.segment⟩⟩

theorem suits_param {name : List Char} {segs : List Segment} {values : List (List Char)} :
    Suits (.param name :: segs) values ↔ ∃ value rest, values = value :: rest ∧
      (value ≠ [] ∧ '/' ∉ value) ∧ Suits segs rest := by
  constructor
  · rintro ⟨hcount, hsegment⟩
    obtain _ | ⟨value, rest⟩ := values
    · cases hcount
    · rw [List.forall_mem_cons] at hsegment
      exact ⟨value, rest, rfl, hsegment.1, Nat.succ.inj hcount, hsegment.2⟩
  · rintro ⟨value, rest, rfl, hvalue, hcount, hsegment⟩
    exact ⟨congrArg Nat.succ hcount, List.forall_mem_cons.2 ⟨hvalue, hsegment⟩⟩

/-! ## Fitting -/

/-- What follows a segment in a path: nothing, or a slash and more. -/
def AtSlash (rest : List Char) : Prop := rest = [] ∨ ∃ more, rest = '/' :: more

theorem atSlash_join (texts : List (List Char)) {slash : List Char}
    (hslash : slash = [] ∨ slash = ['/']) :
    AtSlash (join texts ++ slash) := by
  cases texts with
  | nil =>
    rcases hslash with rfl | rfl
    · exact .inl rfl
    · exact .inr ⟨[], rfl⟩
  | cons text texts => exact .inr ⟨_, rfl⟩

theorem takeWhile_segment {value rest : List Char} (hvalue : '/' ∉ value) (hrest : AtSlash rest) :
    (value ++ rest).takeWhile (· != '/') = value ∧
      (value ++ rest).dropWhile (· != '/') = rest := by
  have hall : ∀ c ∈ value, (c != '/') = true := fun c hc => bne_iff_ne.2 fun h => hvalue (h ▸ hc)
  rw [List.takeWhile_append_of_pos hall, List.dropWhile_append_of_pos hall]
  rcases hrest with rfl | ⟨more, rfl⟩ <;> simp

theorem valuesOf_nil {path : List Char} {values : List (List Char)} :
    valuesOf [] path = some values ↔ values = [] ∧ (path = [] ∨ path = ['/']) := by
  by_cases hempty : path = []
  · simp [hempty, valuesOf.eq_1, eq_comm]
  by_cases hslash : path = ['/']
  · simp [hslash, valuesOf.eq_2, eq_comm]
  · simp [hempty, hslash, valuesOf.eq_3 path hempty hslash]

/-- Each segment of a path has a slash in front. -/
theorem starts_of_valuesOf {seg : Segment} {segs : List Segment} {path : List Char}
    {values : List (List Char)} (h : valuesOf (seg :: segs) path = some values) :
    ∃ rest, path = '/' :: rest := by
  by_contra hnone
  rw [not_exists] at hnone
  have hrefused := valuesOf.eq_6 path seg segs (fun _ rest hpath _ => hnone rest hpath)
    fun _ rest hpath _ => hnone rest hpath
  cases h.symm.trans hrefused

theorem valuesOf_literal {text path : List Char} {segs : List Segment} {values : List (List Char)} :
    valuesOf (.literal text :: segs) path = some values ↔
      ∃ rest, path = '/' :: (text ++ rest) ∧ valuesOf segs rest = some values := by
  constructor
  · intro h
    obtain ⟨rest, rfl⟩ := starts_of_valuesOf h
    rw [valuesOf.eq_4] at h
    split_ifs at h with htext
    have hcut := List.take_append_drop text.length rest
    rw [htext] at hcut
    exact ⟨rest.drop text.length, by rw [hcut], h⟩
  · rintro ⟨rest, rfl, h⟩
    rw [valuesOf.eq_4, if_pos List.take_left, List.drop_left, h]

theorem valuesOf_param {name path : List Char} {segs : List Segment} {values : List (List Char)} :
    valuesOf (.param name :: segs) path = some values ↔
      ∃ value rest others, path = '/' :: (value ++ rest) ∧ AtSlash rest ∧
        (value ≠ [] ∧ '/' ∉ value) ∧ values = value :: others ∧
        valuesOf segs rest = some others := by
  constructor
  · intro h
    obtain ⟨path, rfl⟩ := starts_of_valuesOf h
    rw [valuesOf.eq_5] at h
    split_ifs at h with hempty
    obtain ⟨others, hothers, rfl⟩ := Option.map_eq_some_iff.1 h
    refine ⟨_, _, others, by rw [List.takeWhile_append_dropWhile], ?_, ⟨?_, ?_⟩, rfl, hothers⟩
    · rcases hrest : path.dropWhile (· != '/') with _ | ⟨c, more⟩
      · exact .inl rfl
      · have hc := List.head_dropWhile_not (· != '/') (l := path) (by simp [hrest])
        simp only [hrest, List.head_cons, bne_eq_false_iff_eq] at hc
        exact .inr ⟨more, by rw [hc]⟩
    · simpa using hempty
    · intro hmem
      simpa using List.mem_takeWhile_imp hmem
  · rintro ⟨value, rest, others, rfl, hrest, ⟨hempty, hvalue⟩, rfl, h⟩
    obtain ⟨htake, hdrop⟩ := takeWhile_segment hvalue hrest
    simp [valuesOf.eq_5, htake, hdrop, hempty, h]

/-- **What fits a template.**  A path fits exactly if values fill the template up to it, but perhaps
    for one more slash at its end; the values found are the ones filled in. -/
theorem valuesOf_eq_some {segs : List Segment} {path : List Char} {values : List (List Char)} :
    valuesOf segs path = some values ↔ Suits segs values ∧
      ∃ slash, (slash = [] ∨ slash = ['/']) ∧ path = join (fill segs values) ++ slash := by
  induction segs generalizing path values with
  | nil =>
    rw [valuesOf_nil, suits_nil]
    constructor
    · rintro ⟨rfl, hpath⟩
      exact ⟨rfl, path, hpath, rfl⟩
    · rintro ⟨rfl, slash, hslash, rfl⟩
      exact ⟨rfl, hslash⟩
  | cons seg segs ih =>
    cases seg with
    | literal text =>
      rw [valuesOf_literal, suits_literal]
      constructor
      · rintro ⟨rest, rfl, h⟩
        obtain ⟨hsuits, slash, hslash, rfl⟩ := ih.1 h
        exact ⟨hsuits, slash, hslash, by simp [fill, join]⟩
      · rintro ⟨hsuits, slash, hslash, rfl⟩
        exact ⟨_, by simp [fill, join], ih.2 ⟨hsuits, slash, hslash, rfl⟩⟩
    | param name =>
      rw [valuesOf_param, suits_param]
      constructor
      · rintro ⟨value, rest, others, rfl, -, hvalue, rfl, h⟩
        obtain ⟨hsuits, slash, hslash, rfl⟩ := ih.1 h
        exact ⟨⟨value, others, rfl, hvalue, hsuits⟩, slash, hslash, by simp [fill, join]⟩
      · rintro ⟨⟨value, others, rfl, hvalue, hsuits⟩, slash, hslash, rfl⟩
        exact ⟨value, _, others, by simp [fill, join], atSlash_join _ hslash, hvalue, rfl,
          ih.2 ⟨hsuits, slash, hslash, rfl⟩⟩

/-! ## Telling segments apart -/

/-- The segments of a path, empty ones left out. -/
def pathTexts (path : List Char) : List (List Char) := (pieces '/' path).filter (!·.isEmpty)

theorem segments_eq (template : String) :
    segments template = (pathTexts template.toList).map Segment.read := rfl

theorem pathTexts_slash (path : List Char) : pathTexts ('/' :: path) = pathTexts path := by
  simp [pathTexts, pieces]

theorem pathTexts_segment {text rest : List Char} (hempty : text ≠ []) (htext : '/' ∉ text)
    (hrest : AtSlash rest) : pathTexts (text ++ rest) = text :: pathTexts rest := by
  rcases hrest with rfl | ⟨more, rfl⟩
  · simp [pathTexts, pieces_of_not_mem htext, hempty, pieces]
  · rw [pathTexts_slash]
    simp [pathTexts, pieces_cons_of_not_mem htext, hempty]

/-- The segments of a path are read back from it. -/
theorem pathTexts_join {texts : List (List Char)} (h : ∀ text ∈ texts, text ≠ [] ∧ '/' ∉ text)
    {slash : List Char} (hslash : slash = [] ∨ slash = ['/']) :
    pathTexts (join texts ++ slash) = texts := by
  induction texts with
  | nil => rcases hslash with rfl | rfl <;> rfl
  | cons text texts ih =>
    obtain ⟨⟨hempty, htext⟩, h⟩ := List.forall_mem_cons.1 h
    have hjoin : join (text :: texts) ++ slash = '/' :: (text ++ (join texts ++ slash)) := by
      simp [join]
    rw [hjoin, pathTexts_slash, pathTexts_segment hempty htext (atSlash_join texts hslash), ih h]

theorem not_mem_of_mem_pieces {sep : Char} {cs piece : List Char} (h : piece ∈ pieces sep cs) :
    sep ∉ piece := by
  induction cs generalizing piece with
  | nil =>
    cases List.mem_singleton.1 h
    exact List.not_mem_nil
  | cons c cs ih =>
    rw [pieces] at h
    split_ifs at h with hc
    · rcases List.mem_cons.1 h with rfl | h
      · exact List.not_mem_nil
      · exact ih h
    · split at h
      · cases List.mem_singleton.1 h
        simpa using Ne.symm hc
      · rename_i first others hpieces
        rcases List.mem_cons.1 h with rfl | h
        · have hfirst := ih (hpieces ▸ List.mem_cons_self)
          simpa [hfirst] using Ne.symm hc
        · exact ih (hpieces ▸ List.mem_cons_of_mem _ h)

theorem mem_pathTexts {path text : List Char} (h : text ∈ pathTexts path) :
    text ≠ [] ∧ '/' ∉ text := by
  obtain ⟨hmem, hempty⟩ := List.mem_filter.1 h
  exact ⟨by simpa using hempty, not_mem_of_mem_pieces hmem⟩

theorem mem_segments {template : String} {text : List Char}
    (h : .literal text ∈ segments template) : text ≠ [] ∧ '/' ∉ text := by
  rw [segments_eq] at h
  obtain ⟨written, hwritten, hread⟩ := List.mem_map.1 h
  have hsame : written = text := by
    unfold Segment.read at hread
    split at hread
    · split at hread
      · cases hread
      · exact Segment.literal.inj hread
    · exact Segment.literal.inj hread
  exact hsame ▸ mem_pathTexts hwritten

theorem mem_fill {segs : List Segment} {values : List (List Char)} {text : List Char}
    (h : text ∈ fill segs values) : .literal text ∈ segs ∨ text ∈ values := by
  induction segs generalizing values with
  | nil => cases h
  | cons seg segs ih =>
    cases seg with
    | literal word =>
      rcases List.mem_cons.1 h with rfl | h
      · exact .inl List.mem_cons_self
      · exact (ih h).imp_left (List.mem_cons_of_mem _)
    | param name =>
      obtain _ | ⟨value, values⟩ := values
      · cases h
      rcases List.mem_cons.1 h with rfl | h
      · exact .inr List.mem_cons_self
      · exact (ih h).imp (List.mem_cons_of_mem _) (List.mem_cons_of_mem _)

/-- What fills a template can be told from the path. -/
theorem pathTexts_fill {template : String} {values : List (List Char)}
    (h : Suits (segments template) values) {slash : List Char}
    (hslash : slash = [] ∨ slash = ['/']) :
    pathTexts (join (fill (segments template) values) ++ slash) =
      fill (segments template) values := by
  refine pathTexts_join (fun text htext => ?_) hslash
  rcases mem_fill htext with hliteral | hvalue
  · exact mem_segments hliteral
  · exact h.segment text hvalue

/-! ## Rivals -/

/-- The text of a literal segment. -/
def Segment.word? : Segment → Option (List Char)
  | literal text => some text
  | param _ => none

/-- How many segments are literal, counted segment by segment. -/
def countWords (segs : List Segment) : Nat := segs.countP (·.word?.isSome)

theorem literals_eq (template : String) : literals template = countWords (segments template) := by
  rw [literals, countWords, List.countP_eq_length_filter]
  congr 2
  funext seg
  cases seg <;> rfl

/-- The second segment is a parameter, or both are the same literal segment. -/
def Yields (seg other : Segment) : Prop := ∀ text, other.word? = some text → seg.word? = some text

/-- Of two templates that are filled to the same path, the second has literal segments only where
    the first has the same, unless a value of the first happens to be such a segment. -/
theorem yields_of_fill {segs others : List Segment} {values values' : List (List Char)}
    (h : Suits segs values) (h' : Suits others values')
    (hsame : fill segs values = fill others values')
    (hfree : ∀ v ∈ values, .literal v ∉ others) : List.Forall₂ Yields segs others := by
  induction segs generalizing others values values' with
  | nil =>
    rcases others with _ | ⟨_ | _, others⟩
    · exact .nil
    · cases hsame
    · obtain ⟨value, rest, rfl, -⟩ := suits_param.1 h'
      cases hsame
  | cons seg segs ih =>
    -- whatever the first segments are, the texts after them are the same
    have hrest {values values' : List (List Char)} {other : Segment} {others : List Segment}
        (h : Suits segs values) (h' : Suits others values')
        (hsame : fill segs values = fill others values')
        (hfree : ∀ v ∈ values, .literal v ∉ other :: others) : List.Forall₂ Yields segs others :=
      ih h h' hsame fun v hv hmem => hfree v hv (List.mem_cons_of_mem _ hmem)
    cases seg with
    | literal text =>
      rw [suits_literal] at h
      rcases others with _ | ⟨_ | _, others⟩
      · cases hsame
      · obtain ⟨rfl, htexts⟩ := List.cons.inj hsame
        exact .cons (fun _ heq => heq) (hrest h (suits_literal.1 h') htexts hfree)
      · obtain ⟨value', rest', rfl, -, h'⟩ := suits_param.1 h'
        exact .cons nofun (hrest h h' (List.cons.inj hsame).2 hfree)
    | param name =>
      obtain ⟨value, rest, rfl, -, h⟩ := suits_param.1 h
      have hfree' := fun v hv => hfree v (List.mem_cons_of_mem value hv)
      rcases others with _ | ⟨_ | _, others⟩
      · cases hsame
      · -- the value would be this literal segment
        obtain ⟨rfl, -⟩ := List.cons.inj hsame
        exact absurd List.mem_cons_self (hfree value List.mem_cons_self)
      · obtain ⟨value', rest', rfl, -, h'⟩ := suits_param.1 h'
        exact .cons nofun (hrest h h' (List.cons.inj hsame).2 hfree')

theorem countWords_cons (seg : Segment) (segs : List Segment) :
    countWords (seg :: segs) = countWords segs + if seg.word?.isSome then 1 else 0 :=
  List.countP_cons

/-- The second template has no more literal segments; if it has as many, then they are the same at
    the same places. -/
theorem countWords_of_yields {segs others : List Segment} (h : List.Forall₂ Yields segs others) :
    countWords others ≤ countWords segs ∧
      (countWords others = countWords segs → others.map (·.word?) = segs.map (·.word?)) := by
  induction h with
  | nil => exact ⟨Nat.le_refl _, fun _ => rfl⟩
  | @cons seg other segs others hfirst _ ih =>
    simp only [countWords_cons, List.map_cons, List.cons.injEq]
    cases other with
    | literal text =>
      rw [hfirst text rfl]
      exact ⟨Nat.add_le_add_right ih.1 _, fun heq => ⟨rfl, ih.2 (Nat.add_right_cancel heq)⟩⟩
    | param name =>
      cases seg with
      | literal text =>
        have hlt := Nat.lt_succ_of_le ih.1
        exact ⟨Nat.le_of_lt hlt, fun heq => absurd heq (Nat.ne_of_lt hlt)⟩
      | param name => exact ⟨ih.1, fun heq => ⟨rfl, ih.2 heq⟩⟩

end CaseDesk.Template
