/-
  What a grant text grants.

  * `Grants.IsEntry`: the entries that can be read.
  * `Grants.EntryAllows`: what an entry grants, by itself.
  * `Grants.allows_parse`: a text grants what its entries grant.
  * `Grants.exists_parse`: a text can be read if each of its entries can.
-/
import CaseDesk.Access.Grants
import CaseDesk.Proofs.Outcomes
import Mathlib.Tactic.SplitIfs

namespace CaseDesk

/-- A letter stands for a level in either case. -/
def Access.HasLetter (access : Access) (c : Char) : Prop :=
  c = access.letter ∨ c = access.letter.toUpper

theorem Access.ofLetter?_eq_some {c : Char} {access : Access} :
    ofLetter? c = some access ↔ access.HasLetter c := by
  constructor
  · intro h
    unfold ofLetter? at h
    split at h <;> cases h <;> first | exact Or.inl rfl | exact Or.inr rfl
  · rintro (rfl | rfl) <;> cases access <;> rfl

namespace Grants

open Text

/-! ## Adding levels -/

theorem lookup_cons (classes : List (String × List Access)) (name : String) (held : List Access)
    (c : String) : ((name, held) :: classes).lookup c =
      if c = name then some held else classes.lookup c := by
  rw [List.lookup_cons]
  by_cases hc : c = name
  · rw [if_pos hc, beq_iff_eq.2 hc]
  · rw [if_neg hc, beq_eq_false_iff_ne.2 hc]

theorem lookup_addTo (objclass : String) (levels : List Access)
    (classes : List (String × List Access)) (c : String) :
    (addTo objclass levels classes).lookup c =
      if c = objclass then some ((classes.lookup objclass).getD [] ++ levels)
      else classes.lookup c := by
  induction classes with
  | nil => exact lookup_cons [] objclass levels c
  | cons entry rest ih =>
    obtain ⟨name, held⟩ := entry
    rw [addTo]
    by_cases hn : name = objclass
    · subst hn
      simp only [if_true, lookup_cons, Option.getD_some]
      split_ifs <;> rfl
    · have hno : objclass ≠ name := fun h => hn h.symm
      simp only [if_neg hn, lookup_cons, if_neg hno, ih]
      by_cases hc : c = objclass
      · simp [hc, hno]
      · simp [hc]

theorem mem_levels_add {g : Grants} {objclass c : String} {levels : List Access} {a : Access} :
    a ∈ (g.add objclass levels).levels c ↔ a ∈ g.levels c ∨ c = objclass ∧ a ∈ levels := by
  change a ∈ ((addTo objclass levels g.classes).lookup c).getD [] ↔ _
  rw [lookup_addTo]
  by_cases hc : c = objclass
  · simp [hc, Grants.levels]
  · simp [hc, Grants.levels]

theorem allows_iff {g : Grants} {c : String} {a : Access} :
    g.allows c a = true ↔ g.superuser = true ∨ a ∈ g.levels c := by
  simp [allows]

/-- Adding levels on a class grants these levels on it and nothing else. -/
theorem allows_add {g : Grants} {objclass c : String} {levels : List Access} {a : Access} :
    (g.add objclass levels).allows c a = true ↔
      g.allows c a = true ∨ c = objclass ∧ a ∈ levels := by
  rw [allows_iff, allows_iff, mem_levels_add, or_assoc]
  rfl

/-! ## Entries -/

/-- An entry that can be read: a star, or a class that is not blank before the first colon and only
    letters of levels after it. -/
def IsEntry (entry : List Char) : Prop :=
  entry = ['*'] ∨ ∃ objclass flags, cutOnce ':' entry = some (objclass, flags) ∧
    trimChars objclass ≠ [] ∧ ∀ flag ∈ trimChars flags, ∃ a : Access, a.HasLetter flag

/-- An entry grants a level on a class: it is a star, or it names the class and has a letter of the
    level among its flags. -/
def EntryAllows (entry : List Char) (c : String) (a : Access) : Prop :=
  entry = ['*'] ∨ ∃ objclass flags, cutOnce ':' entry = some (objclass, flags) ∧
    c = String.ofList (trimChars objclass) ∧ ∃ flag ∈ trimChars flags, a.HasLetter flag

theorem readFlags_eq_ok {flags : List Char} {levels : List Access} :
    readFlags flags = .ok levels ↔ flags.map Access.ofLetter? = levels.map some := by
  induction flags generalizing levels with
  | nil => cases levels <;> simp [readFlags]
  | cons flag rest ih =>
    rw [readFlags]
    cases hflag : Access.ofLetter? flag with
    | none => cases levels <;> simp [hflag]
    | some access =>
      dsimp only
      rw [map_eq_ok, List.map_cons, hflag]
      constructor
      · rintro ⟨held, hheld, rfl⟩
        rw [ih.1 hheld, List.map_cons]
      · intro h
        cases levels with
        | nil => cases h
        | cons first held =>
          obtain ⟨hfirst, hheld⟩ := List.cons.inj h
          cases hfirst
          exact ⟨held, ih.2 hheld, rfl⟩

theorem mem_of_readFlags {flags : List Char} {levels : List Access}
    (h : readFlags flags = .ok levels) {a : Access} :
    a ∈ levels ↔ ∃ flag ∈ flags, a.HasLetter flag := by
  have hmem : a ∈ levels ↔ some a ∈ levels.map some := by simp
  rw [hmem, ← readFlags_eq_ok.1 h, List.mem_map]
  simp only [Access.ofLetter?_eq_some]

theorem exists_readFlags {flags : List Char} :
    (∃ levels, readFlags flags = .ok levels) ↔ ∀ flag ∈ flags, ∃ a : Access, a.HasLetter flag := by
  constructor
  · rintro ⟨levels, h⟩ flag hflag
    have hsome : Access.ofLetter? flag ∈ levels.map some :=
      readFlags_eq_ok.1 h ▸ List.mem_map_of_mem hflag
    obtain ⟨a, -, ha⟩ := List.mem_map.1 hsome
    exact ⟨a, Access.ofLetter?_eq_some.1 ha.symm⟩
  · induction flags with
    | nil => exact fun _ => ⟨[], rfl⟩
    | cons flag rest ih =>
      intro h
      obtain ⟨a, ha⟩ := h flag List.mem_cons_self
      obtain ⟨levels, hlevels⟩ := ih fun flag hflag => h flag (List.mem_cons_of_mem _ hflag)
      refine ⟨a :: levels, ?_⟩
      rw [readFlags, Access.ofLetter?_eq_some.2 ha, hlevels]
      rfl

/-- What reading an entry can come to. -/
theorem addEntry_eq_ok {g g' : Grants} {entry : List Char} :
    addEntry g entry = .ok g' ↔ entry = ['*'] ∧ g' = { g with superuser := true } ∨
      entry ≠ ['*'] ∧ ∃ objclass flags levels, cutOnce ':' entry = some (objclass, flags) ∧
        trimChars objclass ≠ [] ∧ readFlags (trimChars flags) = .ok levels ∧
        g' = g.add (String.ofList (trimChars objclass)) levels := by
  unfold addEntry
  by_cases hstar : entry = ['*']
  · rw [if_pos hstar]
    constructor
    · intro h
      cases h
      exact Or.inl ⟨hstar, rfl⟩
    · rintro (⟨-, rfl⟩ | ⟨hne, -⟩)
      · rfl
      · exact absurd hstar hne
  · rw [if_neg hstar]
    cases hcut : cutOnce ':' entry with
    | none => simp [hstar]
    | some cut =>
      obtain ⟨objclass, flags⟩ := cut
      dsimp only
      by_cases hblank : trimChars objclass = []
      · simp [hstar, hblank]
      · rw [if_neg (by simpa using hblank), bind_eq_ok]
        constructor
        · rintro ⟨levels, hlevels, h⟩
          cases h
          exact Or.inr ⟨hstar, objclass, flags, levels, rfl, hblank, hlevels, rfl⟩
        · rintro (⟨h, -⟩ | ⟨-, objclass', flags', levels, hcut', -, hlevels, rfl⟩)
          · exact absurd h hstar
          · cases hcut'
            exact ⟨levels, hlevels, rfl⟩

/-- An entry adds what it grants by itself. -/
theorem allows_addEntry {g g' : Grants} {entry : List Char} (h : addEntry g entry = .ok g')
    {c : String} {a : Access} :
    g'.allows c a = true ↔ g.allows c a = true ∨ EntryAllows entry c a := by
  rcases addEntry_eq_ok.1 h with
    ⟨rfl, rfl⟩ | ⟨hstar, objclass, flags, levels, hcut, -, hlevels, rfl⟩
  · simp [allows, EntryAllows]
  · rw [allows_add, mem_of_readFlags hlevels]
    refine or_congr_right ⟨fun ⟨hc, hflag⟩ => Or.inr ⟨objclass, flags, hcut, hc, hflag⟩, ?_⟩
    rintro (hentry | ⟨objclass', flags', hcut', hc, hflag⟩)
    · exact absurd hentry hstar
    · cases hcut.symm.trans hcut'
      exact ⟨hc, hflag⟩

theorem exists_addEntry {g : Grants} {entry : List Char} :
    (∃ g', addEntry g entry = .ok g') ↔ IsEntry entry := by
  simp only [addEntry_eq_ok]
  constructor
  · rintro ⟨g', ⟨hstar, -⟩ | ⟨-, objclass, flags, levels, hcut, hblank, hlevels, -⟩⟩
    · exact Or.inl hstar
    · exact Or.inr ⟨objclass, flags, hcut, hblank, exists_readFlags.1 ⟨levels, hlevels⟩⟩
  · intro h
    by_cases hstar : entry = ['*']
    · exact ⟨_, Or.inl ⟨hstar, rfl⟩⟩
    · obtain ⟨objclass, flags, hcut, hblank, hflags⟩ := h.resolve_left hstar
      obtain ⟨levels, hlevels⟩ := exists_readFlags.2 hflags
      exact ⟨_, Or.inr ⟨hstar, objclass, flags, levels, hcut, hblank, hlevels, rfl⟩⟩

/-! ## Texts -/

theorem allows_foldlM {es : List (List Char)} {g g' : Grants} (h : es.foldlM addEntry g = .ok g')
    {c : String} {a : Access} :
    g'.allows c a = true ↔ g.allows c a = true ∨ ∃ entry ∈ es, EntryAllows entry c a := by
  induction es generalizing g with
  | nil =>
    cases h
    simp
  | cons entry es ih =>
    rw [List.foldlM_cons] at h
    obtain ⟨g₁, hentry, hrest⟩ := bind_eq_ok.1 h
    rw [ih hrest, allows_addEntry hentry, or_assoc]
    simp

theorem exists_foldlM {es : List (List Char)} {g : Grants} :
    (∃ g', es.foldlM addEntry g = .ok g') ↔ ∀ entry ∈ es, IsEntry entry := by
  induction es generalizing g with
  | nil => exact ⟨fun _ entry hentry => (List.not_mem_nil hentry).elim, fun _ => ⟨g, rfl⟩⟩
  | cons entry es ih =>
    rw [List.forall_mem_cons, List.foldlM_cons]
    constructor
    · rintro ⟨g', h⟩
      obtain ⟨g₁, hentry, hrest⟩ := bind_eq_ok.1 h
      exact ⟨exists_addEntry.1 ⟨g₁, hentry⟩, ih.1 ⟨g', hrest⟩⟩
    · rintro ⟨hentry, hrest⟩
      obtain ⟨g₁, hg₁⟩ := exists_addEntry.2 hentry
      obtain ⟨g', hg'⟩ := ih.2 hrest
      exact ⟨g', bind_eq_ok.2 ⟨g₁, hg₁, hg'⟩⟩

/-- A text can be read if each of its entries can. -/
theorem exists_parse {raw : String} :
    (∃ g, parse raw = .ok g) ↔ ∀ entry ∈ entries raw, IsEntry entry := exists_foldlM

/-- A text grants what its entries grant. -/
theorem allows_parse {raw : String} {g : Grants} (h : parse raw = .ok g) {c : String} {a : Access} :
    g.allows c a = true ↔ ∃ entry ∈ entries raw, EntryAllows entry c a := by
  rw [allows_foldlM h]
  simp [allows, levels]

end Grants

end CaseDesk
