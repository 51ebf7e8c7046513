/-
  Routes lead back to where they were made.

  * `Template.capture_eq_some`: what is captured from a path, by name.
  * `Registry.IsBest`: the first of the matches with the most literal segments,
    which is the one that routing gives (`isBest_of_foldl`).
  * `Registry.WellMade`: what makes the templates of the registry easy to tell
    apart (`table_wellMade`).
  * `Registry.IsValue`: the values that a parameter of a route may have; decimal
    numbers and written entity tags are such values.
  * `Registry.literals_lt_of_rival`: another route that fits such a path has
    fewer literal segments.
  * `Registry.route_expand`: the path that a route makes of such values leads to
    this very route, with these values.
-/
import CaseDesk.Proofs.Templates
import CaseDesk.Registry.Route
import Mathlib.Data.List.Induction
import Mathlib.Data.List.Nodup

namespace CaseDesk

namespace Template

/-- What is captured, by name. -/
theorem capture_eq_some {template path : String} {params : List (String × String)} :
    capture template path = some params ↔ namesOk (segments template) = true ∧
      ∃ values : List String, Suits (segments template) (values.map (·.toList)) ∧
        (∃ slash, (slash = [] ∨ slash = ['/']) ∧
          path.toList = (expand template values).toList ++ slash) ∧
        params = (paramNames template).zip values := by
  have hback (values : List (List Char)) : (values.map String.ofList).map (·.toList) = values := by
    simp
  have hzip (values : List (List Char)) :
      (names (segments template)).zipWith (fun n v => (String.ofList n, String.ofList v)) values =
        (paramNames template).zip (values.map String.ofList) := by
    rw [paramNames, List.zip, List.zipWith_map]
  simp only [capture, expand, String.toList_ofList]
  constructor
  · intro h
    split_ifs at h with hnames
    obtain ⟨values, hvalues, rfl⟩ := Option.map_eq_some_iff.1 h
    obtain ⟨hsuits, hpath⟩ := valuesOf_eq_some.1 hvalues
    exact ⟨hnames, values.map String.ofList, by rwa [hback], by rwa [hback], hzip values⟩
  · rintro ⟨hnames, values, hsuits, hpath, rfl⟩
    have hsame : (values.map (·.toList)).map String.ofList = values := by simp
    rw [if_pos hnames, valuesOf_eq_some.2 ⟨hsuits, hpath⟩, Option.map_some, hzip, hsame]

end Template

namespace Registry

open Template (Segment Suits expand paramNames segments literals countWords)

/-! ## The best match -/

/-- The first of the matches with the most literal segments. -/
def IsBest (ms : List RouteMatch) (m : RouteMatch) : Prop :=
  ∃ before after, ms = before ++ m :: after ∧
    (∀ o ∈ before, literals o.binding.path < literals m.binding.path) ∧
    ∀ o ∈ after, literals o.binding.path ≤ literals m.binding.path

theorem IsBest.mem {ms : List RouteMatch} {m : RouteMatch} (h : IsBest ms m) : m ∈ ms := by
  obtain ⟨before, after, rfl, -, -⟩ := h
  exact List.mem_append_right _ List.mem_cons_self

theorem IsBest.le {ms : List RouteMatch} {m o : RouteMatch} (h : IsBest ms m) (ho : o ∈ ms) :
    literals o.binding.path ≤ literals m.binding.path := by
  obtain ⟨before, after, rfl, hbefore, hafter⟩ := h
  rcases List.mem_append.1 ho with ho | ho
  · exact Nat.le_of_lt (hbefore o ho)
  · rcases List.mem_cons.1 ho with rfl | ho
    · exact Nat.le_refl _
    · exact hafter o ho

theorem foldl_better_eq_none {ms : List RouteMatch} : ms.foldl better none = none ↔ ms = [] := by
  induction ms using List.reverseRecOn with
  | nil => exact ⟨fun _ => rfl, fun _ => rfl⟩
  | append_singleton ms last _ =>
    rw [List.foldl_concat, better.eq_def]
    split
    · simp
    · split_ifs <;> simp

/-- Routing gives the best of the matches: one more at the end only counts if it is better. -/
theorem isBest_of_foldl {ms : List RouteMatch} {m : RouteMatch}
    (h : ms.foldl better none = some m) : IsBest ms m := by
  induction ms using List.reverseRecOn generalizing m with
  | nil => cases h
  | append_singleton ms last ih =>
    rw [List.foldl_concat] at h
    rcases hold : ms.foldl better none with _ | old
    · obtain rfl := foldl_better_eq_none.1 hold
      cases h
      exact ⟨[], [], rfl, nofun, nofun⟩
    · have hbest := ih hold
      rw [hold, better] at h
      split_ifs at h with hlast
      · cases h
        exact ⟨ms, [], rfl, fun o ho => Nat.lt_of_le_of_lt (hbest.le ho) hlast, nofun⟩
      · cases h
        obtain ⟨before, after, rfl, hbefore, hafter⟩ := hbest
        refine ⟨before, after ++ [last], by simp, hbefore, ?_⟩
        intro o ho
        rcases List.mem_append.1 ho with ho | ho
        · exact hafter o ho
        · exact List.mem_singleton.1 ho ▸ Nat.le_of_not_lt hlast

/-- A match with more literal segments than all others is the one that routing gives. -/
theorem foldl_better_of_lt {ms : List RouteMatch} {m : RouteMatch} (hm : m ∈ ms)
    (hlt : ∀ o ∈ ms, o ≠ m → literals o.binding.path < literals m.binding.path) :
    ms.foldl better none = some m := by
  rcases hbest : ms.foldl better none with _ | best
  · cases foldl_better_eq_none.1 hbest ▸ hm
  · have hfirst := isBest_of_foldl hbest
    by_contra hne
    have hless := hlt best hfirst.mem fun h => hne (h ▸ rfl)
    exact absurd (hfirst.le hm) (Nat.not_le_of_lt hless)

theorem tryRoute_eq_some {verb : Verb} {path : String} {r : ServiceEntry × Method × Binding}
    {m : RouteMatch} : tryRoute verb path r = some m ↔
      r.2.2.verb = verb ∧ ∃ params, Template.capture r.2.2.path path = some params ∧
        ⟨r.1, r.2.1, r.2.2, params⟩ = m := by
  simp only [tryRoute, Option.ite_none_right_eq_some, Option.map_eq_some_iff]

theorem mem_routes {s : ServiceEntry} {m : Method} {b : Binding} (hs : s ∈ services)
    (hm : m ∈ s.methods) (hb : b ∈ m.bindings) : (s, m, b) ∈ routes := by
  rw [routes, List.mem_flatMap]
  refine ⟨s, hs, List.mem_flatMap.2 ⟨m, hm, ?_⟩⟩
  exact List.mem_map.2 ⟨b, hb, rfl⟩

/-! ## The table -/

/-- Every route by its verb, with the segments of its template. -/
def table : List (Verb × List Segment) :=
  routes.map fun r => (r.2.2.verb, segments r.2.2.path)

/-- The words that stand as literal segments in the templates of the registry. -/
def words : List (List Char) := table.flatMap fun row => row.2.filterMap (·.word?)

/-- What makes templates easy to tell apart: the names of the parameters are valid, the literal
    segments have no signs, digits and capitals in them, which all come before `_`, and no two
    templates of a verb have the same literal segments at the same places. -/
structure WellMade (rows : List (Verb × List Segment)) : Prop where
  names : ∀ row ∈ rows, Template.namesOk row.2 = true
  words : ∀ row ∈ rows, ∀ word ∈ row.2.filterMap (·.word?),
    word.all (fun c => 95 ≤ c.toNat) = true
  nodup : (rows.map fun row => (row.1, row.2.map (·.word?))).Nodup

instance (rows : List (Verb × List Segment)) : Decidable (WellMade rows) :=
  decidable_of_iff
    ((∀ row ∈ rows, Template.namesOk row.2 = true) ∧
      (∀ row ∈ rows, ∀ word ∈ row.2.filterMap (·.word?),
        word.all (fun c => 95 ≤ c.toNat) = true) ∧
      (rows.map fun row => (row.1, row.2.map (·.word?))).Nodup)
    ⟨fun ⟨h₁, h₂, h₃⟩ => ⟨h₁, h₂, h₃⟩, fun h => ⟨h.names, h.words, h.nodup⟩⟩

-- one decision for all three, since each evaluates the texts of the whole table
theorem table_wellMade : WellMade table := by decide +kernel

theorem mem_table {r : ServiceEntry × Method × Binding} (h : r ∈ routes) :
    (r.2.2.verb, segments r.2.2.path) ∈ table :=
  List.mem_map.2 ⟨r, h, rfl⟩

theorem mem_words {r : ServiceEntry × Method × Binding} (h : r ∈ routes) {text : List Char}
    (htext : .literal text ∈ segments r.2.2.path) : text ∈ words :=
  List.mem_flatMap.2 ⟨_, mem_table h, List.mem_filterMap.2 ⟨_, htext, rfl⟩⟩

theorem le_of_mem_words {text : List Char} (h : text ∈ words) {c : Char} (hc : c ∈ text) :
    95 ≤ c.toNat := by
  obtain ⟨row, hrow, htext⟩ := List.mem_flatMap.1 h
  exact of_decide_eq_true (List.all_eq_true.1 (table_wellMade.words row hrow text htext) c hc)

/-- Two routes of a verb with the same literal segments at the same places are one. -/
theorem eq_of_words {r r' : ServiceEntry × Method × Binding} (h : r ∈ routes) (h' : r' ∈ routes)
    (hverb : r'.2.2.verb = r.2.2.verb)
    (hwords : (segments r'.2.2.path).map (·.word?) = (segments r.2.2.path).map (·.word?)) :
    r' = r := by
  have hnodup := table_wellMade.nodup
  rw [table, List.map_map] at hnodup
  exact List.inj_on_of_nodup_map hnodup h' h (Prod.ext hverb hwords)

/-! ## Values -/

/-- A value for a parameter: not empty, without the characters that end a segment or a path, and no
    word of the registry. -/
structure IsValue (v : String) : Prop where
  ne_empty : v ≠ ""
  plain : ∀ c ∈ v.toList, c ≠ '/' ∧ c ≠ '?' ∧ c ≠ '#'
  not_word : v.toList ∉ words

/-- What starts with a sign, a digit or a capital is no word. -/
theorem not_mem_words {c : Char} {rest : List Char} (h : c.toNat < 95) :
    c :: rest ∉ words := fun hmem =>
  Nat.not_le_of_lt h (le_of_mem_words hmem List.mem_cons_self)

theorem isValue_ofList {c : Char} {rest : List Char} (h : c.toNat < 95)
    (hplain : ∀ d ∈ c :: rest, d ≠ '/' ∧ d ≠ '?' ∧ d ≠ '#') :
    IsValue (String.ofList (c :: rest)) where
  ne_empty heq := by simpa using congrArg String.toList heq
  plain := by rwa [String.toList_ofList]
  not_word := by
    rw [String.toList_ofList]
    exact not_mem_words h

theorem plain_of_mem_integerChars {n : Int} {c : Char} (h : c ∈ Text.integerChars n) :
    c.toNat < 95 ∧ c ≠ '/' ∧ c ≠ '?' ∧ c ≠ '#' := by
  have hdigit {n : Nat} (h : c ∈ Text.decimal n) : c.toNat < 95 ∧ c ≠ '/' ∧ c ≠ '?' ∧ c ≠ '#' := by
    have hdecimal := Text.isDecimalDigit_of_mem_decimal h
    have hrange : 48 ≤ c.toNat ∧ c.toNat ≤ 57 := by
      simpa [Text.isDecimalDigit] using hdecimal
    refine ⟨by omega, ?_, ?_, ?_⟩ <;> rintro rfl <;> cases hdecimal
  cases n with
  | ofNat n => exact hdigit h
  | negSucc n =>
    rcases List.mem_cons.1 h with rfl | h
    · decide
    · exact hdigit h

/-- Decimal numbers are values. -/
theorem isValue_integerText (n : Int) : IsValue (Text.integerText n) := by
  have hne : Text.integerChars n ≠ [] := by
    cases n with
    | ofNat n => exact Text.decimal_ne_nil n
    | negSucc n => exact List.cons_ne_nil _ _
  obtain ⟨c, rest, hchars⟩ := List.exists_cons_of_ne_nil hne
  have hplain (d : Char) (hd : d ∈ c :: rest) := plain_of_mem_integerChars (hchars ▸ hd)
  rw [Text.integerText, hchars]
  exact isValue_ofList (hplain c List.mem_cons_self).1 fun d hd => (hplain d hd).2

theorem plain_of_mem_base64 {bytes : List UInt8} {c : Char}
    (h : c ∈ Text.Base64Url.encode bytes) : c ≠ '/' ∧ c ≠ '?' ∧ c ≠ '#' := by
  have hall : ∀ n : Fin 64, Text.Base64Url.digit n ≠ '/' ∧ Text.Base64Url.digit n ≠ '?' ∧
      Text.Base64Url.digit n ≠ '#' := by decide
  rw [Text.Base64Url.encode_eq] at h
  obtain ⟨n, hn, rfl⟩ := List.mem_map.1 h
  exact hall ⟨n, Text.Base64Url.lt_of_mem_digits hn⟩

/-- Written entity tags are values: they all start with a capital. -/
theorem isValue_encode (tag : Etag) : IsValue tag.encode := by
  obtain ⟨bytes, hbytes⟩ := tag.utf8_plain
  have hstart : ∃ rest, Text.Base64Url.encode (99 :: bytes) = 'Y' :: rest := by
    rcases bytes with _ | ⟨b, _ | ⟨c, bytes⟩⟩ <;> exact ⟨_, rfl⟩
  obtain ⟨rest, hrest⟩ := hstart
  rw [Etag.encode, hbytes, hrest]
  exact isValue_ofList (by decide) fun d hd => plain_of_mem_base64 (hrest ▸ hd)

/-! ## Rivals -/

/-- The values of a route suit its template. -/
theorem suits_of_isValue {path : String} {values : List String}
    (hcount : values.length = (paramNames path).length) (hvalues : ∀ v ∈ values, IsValue v) :
    Suits (segments path) (values.map (·.toList)) where
  count := by rw [List.length_map, hcount, paramNames, List.length_map]
  segment := by
    rw [List.forall_mem_map]
    intro v hv
    exact ⟨fun h => (hvalues v hv).ne_empty (String.toList_eq_nil_iff.1 h),
      fun h => ((hvalues v hv).plain '/' h).1 rfl⟩

/-- Another route of the verb that fits the path has fewer literal segments: it has no literal
    segment in place of a value, and else only those of the first. -/
theorem literals_lt_of_rival {r r' : ServiceEntry × Method × Binding} (h : r ∈ routes)
    (h' : r' ∈ routes) (hverb : r'.2.2.verb = r.2.2.verb) (hne : r' ≠ r) {values : List String}
    (hcount : values.length = (paramNames r.2.2.path).length) (hvalues : ∀ v ∈ values, IsValue v)
    {path : String} {slash : List Char} (hslash : slash = [] ∨ slash = ['/'])
    (hpath : path.toList = (expand r.2.2.path values).toList ++ slash)
    {params : List (String × String)} (hparams : Template.capture r'.2.2.path path = some params) :
    literals r'.2.2.path < literals r.2.2.path := by
  have hsuits := suits_of_isValue hcount hvalues
  obtain ⟨-, values', hsuits', ⟨slash', hslash', hpath'⟩, -⟩ := Template.capture_eq_some.1 hparams
  have hfill : Template.fill (segments r.2.2.path) (values.map (·.toList)) =
      Template.fill (segments r'.2.2.path) (values'.map (·.toList)) := by
    have htexts := congrArg Template.pathTexts (hpath.symm.trans hpath')
    rw [expand, expand, String.toList_ofList, String.toList_ofList] at htexts
    rwa [Template.pathTexts_fill hsuits hslash, Template.pathTexts_fill hsuits' hslash'] at htexts
  have hfree : ∀ v ∈ values.map (·.toList), .literal v ∉ segments r'.2.2.path := by
    rw [List.forall_mem_map]
    intro v hv hliteral
    exact (hvalues v hv).not_word (mem_words h' hliteral)
  obtain ⟨hle, heq⟩ :=
    Template.countWords_of_yields (Template.yields_of_fill hsuits hsuits' hfill hfree)
  rw [Template.literals_eq, Template.literals_eq]
  exact Nat.lt_of_le_of_ne hle fun hcounts => hne (eq_of_words h h' hverb (heq hcounts))

/-! ## Back to the route -/

/-- What may stand after the part of a path that routes look at. -/
def IsSuffix (s : String) : Prop := s = "" ∨ ∃ rest, s = "?" ++ rest ∨ s = "#" ++ rest

theorem pathPart_append {path suffix : String} (hpath : ∀ c ∈ path.toList, c ≠ '?' ∧ c ≠ '#')
    (hsuffix : IsSuffix suffix) : pathPart (path ++ suffix) = path := by
  have hall : ∀ c ∈ path.toList, (c != '?' && c != '#') = true := by simpa using hpath
  have hstop : suffix.toList.takeWhile (fun c => c != '?' && c != '#') = [] := by
    obtain rfl | ⟨rest, rfl | rfl⟩ := hsuffix <;> simp
  rw [pathPart, String.toList_append, List.takeWhile_append_of_pos hall, hstop, List.append_nil,
    String.ofList_toList]

theorem expand_plain {r : ServiceEntry × Method × Binding} (h : r ∈ routes) {values : List String}
    (hvalues : ∀ v ∈ values, IsValue v) :
    ∀ c ∈ (expand r.2.2.path values).toList, c ≠ '?' ∧ c ≠ '#' := by
  have htexts : ∀ text ∈ Template.fill (segments r.2.2.path) (values.map (·.toList)),
      ∀ c ∈ text, c ≠ '?' ∧ c ≠ '#' := by
    intro text htext c hc
    rcases Template.mem_fill htext with hliteral | hvalue
    · have hle := le_of_mem_words (mem_words h hliteral) hc
      constructor <;> rintro rfl <;> exact absurd hle (by decide)
    · obtain ⟨v, hv, rfl⟩ := List.mem_map.1 hvalue
      exact ((hvalues v hv).plain c hc).2
  rw [expand, String.toList_ofList, Template.join]
  intro c hc
  obtain ⟨text, htext, hmem⟩ := List.mem_flatMap.1 hc
  rcases List.mem_cons.1 hmem with rfl | hmem
  · decide
  · exact htexts text htext c hmem

theorem capture_expand {r : ServiceEntry × Method × Binding} (h : r ∈ routes)
    {values : List String} (hsuits : Suits (segments r.2.2.path) (values.map (·.toList)))
    {path : String} {slash : List Char} (hslash : slash = [] ∨ slash = ['/'])
    (hpath : path.toList = (expand r.2.2.path values).toList ++ slash) :
    Template.capture r.2.2.path path = some ((paramNames r.2.2.path).zip values) :=
  Template.capture_eq_some.2
    ⟨table_wellMade.names _ (mem_table h), values, hsuits, ⟨slash, hslash, hpath⟩, rfl⟩

/-- A route is found again by the values that were filled into it, if nothing follows them but
    perhaps a slash. -/
theorem foldl_better_expand {r : ServiceEntry × Method × Binding} (h : r ∈ routes)
    {values : List String} (hcount : values.length = (paramNames r.2.2.path).length)
    (hvalues : ∀ v ∈ values, IsValue v) {path : String} {slash : List Char}
    (hslash : slash = [] ∨ slash = ['/'])
    (hpath : path.toList = (expand r.2.2.path values).toList ++ slash) :
    (routes.filterMap (tryRoute r.2.2.verb path)).foldl better none =
      some ⟨r.1, r.2.1, r.2.2, (paramNames r.2.2.path).zip values⟩ := by
  have hcapture := capture_expand h (suits_of_isValue hcount hvalues) hslash hpath
  refine foldl_better_of_lt
    (List.mem_filterMap.2 ⟨r, h, tryRoute_eq_some.2 ⟨rfl, _, hcapture, rfl⟩⟩) ?_
  intro o ho hne
  obtain ⟨r', hr', htry⟩ := List.mem_filterMap.1 ho
  obtain ⟨hverb, params, hparams, rfl⟩ := tryRoute_eq_some.1 htry
  refine literals_lt_of_rival h hr' hverb ?_ hcount hvalues hslash hpath hparams
  -- the same route cannot fit the path with other values
  rintro rfl
  exact hne (by rw [Option.some.inj (hparams.symm.trans hcapture)])

/-- **Routes resolve back to their binding.**  Values are put into the template of a route; a slash
    and a query or a fragment may follow.  Routing gives this route, with these values under the
    names of its parameters.  Decimal numbers and written entity tags are such values. -/
theorem route_expand :
    (∀ n : Int, IsValue (Text.integerText n)) ∧ (∀ tag : Etag, IsValue tag.encode) ∧
      ∀ s ∈ services, ∀ m ∈ s.methods, ∀ b ∈ m.bindings, ∀ values : List String,
        values.length = (paramNames b.path).length → (∀ v ∈ values, IsValue v) →
        ∀ slash suffix : String, slash = "" ∨ slash = "/" → IsSuffix suffix →
          route b.verb (expand b.path values ++ slash ++ suffix) =
            some { service := s, method := m, binding := b
                   params := (paramNames b.path).zip values } := by
  refine ⟨isValue_integerText, isValue_encode, ?_⟩
  intro s hs m hm b hb values hcount hvalues slash suffix hslash hsuffix
  have hroute := mem_routes hs hm hb
  have hpath : (expand b.path values ++ slash).toList =
      (expand b.path values).toList ++ slash.toList := String.toList_append
  have hslash' : slash.toList = [] ∨ slash.toList = ['/'] := by
    rcases hslash with rfl | rfl <;> simp
  have hplain : ∀ c ∈ (expand b.path values ++ slash).toList, c ≠ '?' ∧ c ≠ '#' := by
    rw [hpath, List.forall_mem_append]
    refine ⟨expand_plain hroute hvalues, ?_⟩
    rcases hslash' with hslash' | hslash' <;> simp [hslash']
  rw [route, pathPart_append hplain hsuffix]
  exact foldl_better_expand hroute hcount hvalues hslash' hpath

/-- A link by the tags of its case and of itself. -/
theorem locateLink_expand :
    (route .get "/cases/Y2FzZTo3/links/Y2FzZV9saW5rOjU6Mg/?fields=url").map
        (fun m => (m.service.name, m.method.name, m.params)) =
      some ("CaseLinks", "LocateLink",
        [("case_etag", "Y2FzZTo3"), ("etag", "Y2FzZV9saW5rOjU6Mg")]) := by
  have hvalues : ∀ v ∈ ["Y2FzZTo3", "Y2FzZV9saW5rOjU6Mg"], IsValue v := by
    have hcase : (⟨.wholeCase, 7, none⟩ : Etag).encode = "Y2FzZTo3" := by decide +kernel
    have hlink : (⟨.link, 5, some 2⟩ : Etag).encode = "Y2FzZV9saW5rOjU6Mg" := by decide +kernel
    rw [← hcase, ← hlink]
    simp [route_expand.2.1]
  have hroute := route_expand.2.2 caseLinks (by simp [services]) caseLinks.methods[4]
    (List.getElem_mem _) ⟨.get, "/cases/\x7bcase_etag\x7d/links/\x7betag\x7d"⟩
    (by simp [caseLinks]) ["Y2FzZTo3", "Y2FzZV9saW5rOjU6Mg"] (by decide) hvalues
    "/" "?fields=url" (.inr rfl) (.inr ⟨"fields=url", .inl (by decide)⟩)
  have hpath : expand "/cases/\x7bcase_etag\x7d/links/\x7betag\x7d"
      ["Y2FzZTo3", "Y2FzZV9saW5rOjU6Mg"] ++ "/" ++ "?fields=url" =
        "/cases/Y2FzZTo3/links/Y2FzZV9saW5rOjU6Mg/?fields=url" := by decide +kernel
  rw [hpath] at hroute
  rw [hroute]
  decide +kernel

end Registry

end CaseDesk
