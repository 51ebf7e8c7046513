/-
  Which route answers a path.

  * `Registry.Fits`: a route of a verb fits a path, with values for its
    parameters.
  * `Registry.Chosen`: a route that fits, with no better one in the registry
    and none as good before it.
  * `Registry.foldl_better_eq_some`: the best of the matches is found by going
    through them once.
  * `Registry.isBest_filterMap`: the best of the matches is the chosen route.
  * `Registry.route_chosen`: routing gives the chosen route, and nothing only
    if no route fits.
-/
import CaseDesk.Proofs.Routes

namespace CaseDesk.Registry

open Template (literals)

/-! ## The choice -/

/-- Where the match stands in the registry. -/
def RouteMatch.entry (m : RouteMatch) : ServiceEntry × Method × Binding :=
  (m.service, m.method, m.binding)

/-- A route has this verb, and its template fits the path with these values. -/
structure Fits (verb : Verb) (path : String) (r : ServiceEntry × Method × Binding)
    (params : List (String × String)) : Prop where
  verb : r.2.2.verb = verb
  capture : Template.capture r.2.2.path path = some params

/-- The choice among some routes: a match of one of them.  The routes before it that fit have fewer
    literal segments, and those after it have no more. -/
structure Chosen (rows : List (ServiceEntry × Method × Binding)) (verb : Verb) (path : String)
    (m : RouteMatch) : Prop where
  fits : Fits verb path m.entry m.params
  first : ∃ before after, rows = before ++ m.entry :: after ∧
    (∀ r ∈ before, ∀ params, Fits verb path r params →
      literals r.2.2.path < literals m.binding.path) ∧
    ∀ r ∈ after, ∀ params, Fits verb path r params → literals r.2.2.path ≤ literals m.binding.path

theorem tryRoute_iff_fits {verb : Verb} {path : String} {r : ServiceEntry × Method × Binding}
    {m : RouteMatch} : tryRoute verb path r = some m ↔ m.entry = r ∧ Fits verb path r m.params := by
  rw [tryRoute_eq_some]
  constructor
  · rintro ⟨hverb, params, hparams, rfl⟩
    exact ⟨rfl, hverb, hparams⟩
  · rintro ⟨rfl, hverb, hparams⟩
    exact ⟨hverb, _, hparams, rfl⟩

/-- What all matches have in the number of their literal segments, the routes that fit have. -/
theorem forall_mem_filterMap {verb : Verb} {path : String}
    {rows : List (ServiceEntry × Method × Binding)} (p : Nat → Prop) :
    (∀ o ∈ rows.filterMap (tryRoute verb path), p (literals o.binding.path)) ↔
      ∀ r ∈ rows, ∀ params, Fits verb path r params → p (literals r.2.2.path) := by
  constructor
  · intro h r hr params hfits
    exact h ⟨r.1, r.2.1, r.2.2, params⟩
      (List.mem_filterMap.2 ⟨r, hr, tryRoute_iff_fits.2 ⟨rfl, hfits⟩⟩)
  · intro h o ho
    obtain ⟨r, hr, htry⟩ := List.mem_filterMap.1 ho
    obtain ⟨rfl, hfits⟩ := tryRoute_iff_fits.1 htry
    exact h o.entry hr o.params hfits

/-- The best of the matches is the chosen route: what was left out does not fit. -/
theorem isBest_filterMap {verb : Verb} {path : String} {m : RouteMatch}
    {rows : List (ServiceEntry × Method × Binding)} :
    IsBest (rows.filterMap (tryRoute verb path)) m ↔ Chosen rows verb path m := by
  constructor
  · rintro ⟨_, _, hsplit, hbefore, hafter⟩
    obtain ⟨before, rest, rfl, rfl, hrest⟩ := List.filterMap_eq_append_iff.1 hsplit
    obtain ⟨skipped, r, after, rfl, hskipped, htry, rfl⟩ := List.filterMap_eq_cons_iff.1 hrest
    obtain ⟨rfl, hfits⟩ := tryRoute_iff_fits.1 htry
    have hnone : skipped.filterMap (tryRoute verb path) = [] := List.filterMap_eq_nil_iff.2 hskipped
    refine ⟨hfits, before ++ skipped, after, by rw [List.append_assoc], ?_, ?_⟩
    · apply (forall_mem_filterMap (· < literals m.binding.path)).1
      rwa [List.filterMap_append, hnone, List.append_nil]
    · exact (forall_mem_filterMap (· ≤ literals m.binding.path)).1 hafter
  · rintro ⟨hfits, before, after, rfl, hbefore, hafter⟩
    have htry : tryRoute verb path m.entry = some m := tryRoute_iff_fits.2 ⟨rfl, hfits⟩
    have hmatches : (before ++ m.entry :: after).filterMap (tryRoute verb path) =
        before.filterMap (tryRoute verb path) ++ m :: after.filterMap (tryRoute verb path) := by
      rw [List.filterMap_append, List.filterMap_cons_some htry]
    exact ⟨_, _, hmatches, (forall_mem_filterMap (· < literals m.binding.path)).2 hbefore,
      (forall_mem_filterMap (· ≤ literals m.binding.path)).2 hafter⟩

/-! ## Going through the matches -/

/-- A match stays the best as long as none with more literal segments comes. -/
theorem foldl_better_of_le {ms : List RouteMatch} {m : RouteMatch}
    (h : ∀ o ∈ ms, literals o.binding.path ≤ literals m.binding.path) :
    ms.foldl better (some m) = some m := by
  induction ms with
  | nil => rfl
  | cons next ms ih =>
    obtain ⟨hnext, h⟩ := List.forall_mem_cons.1 h
    rw [List.foldl_cons, better, if_neg (Nat.not_lt.2 hnext), ih h]

theorem foldl_better_eq_some {ms : List RouteMatch} {m : RouteMatch} :
    ms.foldl better none = some m ↔ IsBest ms m := by
  constructor
  · exact isBest_of_foldl
  · rintro ⟨before, after, rfl, hbefore, hafter⟩
    have htaken : better (before.foldl better none) m = some m := by
      rcases hold : before.foldl better none with _ | old
      · rfl
      · rw [better, if_pos (hbefore old (isBest_of_foldl hold).mem)]
    rw [List.foldl_append, List.foldl_cons, htaken, foldl_better_of_le hafter]

theorem route_eq_some {verb : Verb} {path : String} {m : RouteMatch} :
    route verb path = some m ↔ Chosen routes verb (pathPart path) m := by
  rw [route, foldl_better_eq_some, isBest_filterMap]

theorem route_eq_none {verb : Verb} {path : String} : route verb path = none ↔
    ∀ s ∈ services, ∀ m ∈ s.methods, ∀ b ∈ m.bindings, b.verb = verb →
      Template.capture b.path (pathPart path) = none := by
  rw [route, foldl_better_eq_none, List.filterMap_eq_nil_iff]
  constructor
  · intro h s hs m hm b hb hverb
    have hnone := h (s, m, b) (mem_routes hs hm hb)
    rwa [tryRoute, if_pos hverb, Option.map_eq_none_iff] at hnone
  · intro h r hr
    obtain ⟨s, hs, hr⟩ := List.mem_flatMap.1 hr
    obtain ⟨m, hm, hr⟩ := List.mem_flatMap.1 hr
    obtain ⟨b, hb, rfl⟩ := List.mem_map.1 hr
    by_cases hverb : b.verb = verb
    · rw [tryRoute, if_pos hverb, h s hs m hm b hb hverb, Option.map_none]
    · rw [tryRoute, if_neg hverb]

/-! ## Paths -/

/-- Every path is what routes look at and what follows it. -/
theorem exists_suffix (path : String) : ∃ suffix, path = pathPart path ++ suffix ∧
    (∀ c ∈ (pathPart path).toList, c ≠ '?' ∧ c ≠ '#') ∧ IsSuffix suffix := by
  have hcut := List.takeWhile_append_dropWhile (p := fun c => c != '?' && c != '#')
    (l := path.toList)
  refine ⟨String.ofList (path.toList.dropWhile fun c => c != '?' && c != '#'), ?_, ?_, ?_⟩
  · rw [pathPart, ← String.ofList_append, hcut, String.ofList_toList]
  · rw [pathPart, String.toList_ofList]
    intro c hc
    simpa using List.mem_takeWhile_imp hc
  · rcases hrest : path.toList.dropWhile fun c => c != '?' && c != '#' with _ | ⟨c, rest⟩
    · exact .inl rfl
    · have hstop := List.head_dropWhile_not (fun c => c != '?' && c != '#') (l := path.toList)
        (by simp [hrest])
      simp only [hrest, List.head_cons] at hstop
      have hc : c = '?' ∨ c = '#' := by
        by_contra hnone
        rw [not_or] at hnone
        simp [hnone] at hstop
      have hfirst : String.ofList (c :: rest) = String.ofList [c] ++ String.ofList rest := by
        rw [← String.ofList_append, List.singleton_append]
      refine .inr ⟨String.ofList rest, ?_⟩
      rcases hc with rfl | rfl
      · exact .inl hfirst
      · exact .inr hfirst

/-- **Routing chooses the best route that fits.**  A path counts up to its first question mark or
    number sign.  Nothing is found just if no route of the verb fits this part.  What is found else
    is a route of the verb that fits it, with the values it captures: no other that fits has more
    literal segments, and those with as many come later in the registry. -/
theorem route_chosen (verb : Verb) (path : String) :
    ∃ p suffix : String, path = p ++ suffix ∧ (∀ c ∈ p.toList, c ≠ '?' ∧ c ≠ '#') ∧
      IsSuffix suffix ∧
      (route verb path = none ↔ ∀ s ∈ services, ∀ m ∈ s.methods, ∀ b ∈ m.bindings,
        b.verb = verb → Template.capture b.path p = none) ∧
      ∀ m : RouteMatch, route verb path = some m ↔ Chosen routes verb p m := by
  obtain ⟨suffix, hpath, hplain, hsuffix⟩ := exists_suffix path
  exact ⟨pathPart path, suffix, hpath, hplain, hsuffix, route_eq_none, fun _ => route_eq_some⟩

-- the links of a case fit this path as well, with as many literal segments, but come later
example : (route .get "/cases/slas/links?q").map (fun m => (m.method.name, m.params)) =
    some ("LocateSla", [("id", "links")]) := by decide +kernel

end CaseDesk.Registry
