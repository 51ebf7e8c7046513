/-
  The language of grant texts.

  A grant text lists entries between commas.  Blank entries say nothing; every
  other entry is a star, or a class and the letters of levels, set apart by the
  first colon.

  * `Grants.Entry`: what an entry says; `Entry.Spelled` gives its spellings and
    `Entry.Allows` what it grants.
  * `Grants.mem_entries`: the entries of a text are what stands between its
    commas, without the blanks around it.
  * `Grants.allows_foldl_add`: levels that are added one after another grant
    just these levels.
  * `Grants.grants_listed`: a text is read if all its entries are spelled
    right, and then grants what its entries say.
-/
import CaseDesk.Proofs.Grants
import CaseDesk.Proofs.Tags
import Mathlib.Data.List.DropRight

namespace CaseDesk

/-! ## Texts -/

namespace Text

theorem cutOnce_eq_some {sep : Char} {cs before after : List Char} :
    cutOnce sep cs = some (before, after) ↔ sep ∉ before ∧ cs = before ++ sep :: after := by
  constructor
  · intro h
    induction cs generalizing before with
    | nil => simp [cutOnce] at h
    | cons c cs ih =>
      rw [cutOnce] at h
      split_ifs at h with hc
      · cases h
        simp [hc]
      · obtain ⟨⟨first, rest⟩, hcut, heq⟩ := Option.map_eq_some_iff.1 h
        cases heq
        obtain ⟨hfirst, rfl⟩ := ih hcut
        simp [hfirst, Ne.symm hc]
  · rintro ⟨hbefore, rfl⟩
    exact cutOnce_append hbefore after

/-- Nothing is left of a text that is all blanks. -/
theorem trimChars_eq_nil {cs : List Char} : trimChars cs = [] ↔ ∀ c ∈ cs, isBlank c = true := by
  have hend : trimChars cs = [] ↔ ∀ c ∈ trimStart cs, isBlank c = true := List.rdropWhile_eq_nil_iff
  rw [hend]
  constructor
  · intro h c hc
    rw [← List.takeWhile_append_dropWhile (p := isBlank) (l := cs)] at hc
    rcases List.mem_append.1 hc with hc | hc
    · exact List.mem_takeWhile_imp hc
    · exact h c hc
  · intro h c hc
    exact h c ((List.dropWhile_sublist _).subset hc)

theorem trimChars_ne_nil {cs : List Char} : trimChars cs ≠ [] ↔ ∃ c ∈ cs, isBlank c = false := by
  simp [trimChars_eq_nil]

end Text

namespace Grants

open Text

/-! ## Entries -/

/-- What an entry says: everything is granted, or the levels of some letters on a class. -/
inductive Entry where
  | everything
  | levels (objclass : String) (letters : List Char)

namespace Entry

/-- The spellings of an entry without blanks around it.  What stands before the first colon is the
    class, which is not blank; the rest are letters of levels.  Both may have blanks around them. -/
inductive Spelled : Entry → List Char → Prop where
  | everything : Spelled .everything ['*']
  | levels {before after : List Char} (hfirst : ':' ∉ before)
      (hclass : ∃ c ∈ before, isBlank c = false)
      (hletters : ∀ c ∈ trimChars after, ∃ a : Access, a.HasLetter c) :
      Spelled (.levels (String.ofList (trimChars before)) (trimChars after))
        (before ++ ':' :: after)

/-- An entry grants a level on a class. -/
def Allows : Entry → String → Access → Prop
  | everything, _, _ => True
  | levels objclass letters, c, a => c = objclass ∧ ∃ letter ∈ letters, a.HasLetter letter

end Entry

/-- The entries that can be read are those that are spelled right. -/
theorem isEntry_iff {text : List Char} : IsEntry text ↔ ∃ e : Entry, e.Spelled text := by
  simp only [IsEntry, cutOnce_eq_some, trimChars_ne_nil]
  constructor
  · rintro (rfl | ⟨before, after, ⟨hfirst, rfl⟩, hclass, hletters⟩)
    · exact ⟨.everything, .everything⟩
    · exact ⟨_, .levels hfirst hclass hletters⟩
  · rintro ⟨_, h⟩
    cases h with
    | everything => exact .inl rfl
    | levels hfirst hclass hletters => exact .inr ⟨_, _, ⟨hfirst, rfl⟩, hclass, hletters⟩

/-- An entry that can be read grants what it says. -/
theorem entryAllows_iff {text : List Char} (h : IsEntry text) {c : String} {a : Access} :
    EntryAllows text c a ↔ ∃ e : Entry, e.Spelled text ∧ e.Allows c a := by
  constructor
  · rintro (rfl | ⟨before, after, hcut, hc, hletter⟩)
    · exact ⟨.everything, .everything, trivial⟩
    · obtain ⟨hfirst, rfl⟩ := cutOnce_eq_some.1 hcut
      rcases h with hstar | ⟨objclass, flags, hcut', hclass, hletters⟩
      · -- a star has no colon
        have hmem : ':' ∈ ['*'] := by rw [← hstar]; simp
        cases List.mem_singleton.1 hmem
      · cases hcut.symm.trans hcut'
        exact ⟨_, .levels hfirst (trimChars_ne_nil.1 hclass) hletters, hc, hletter⟩
  · rintro ⟨_, hspelled, hallows⟩
    cases hspelled with
    | everything => exact .inl rfl
    | levels hfirst => exact .inr ⟨_, _, cutOnce_eq_some.2 ⟨hfirst, rfl⟩, hallows⟩

/-- The entries of a text are what stands between its commas and is not blank, without the blanks
    around it. -/
theorem mem_entries {raw : String} {entry : List Char} : entry ∈ entries raw ↔
    entry ≠ [] ∧ ∃ piece ∈ raw.toList.splitOn ',', trimChars piece = entry := by
  simp [entries, pieces_eq_splitOn, and_comm]

theorem forall_mem_entries {raw : String} {p : List Char → Prop} :
    (∀ entry ∈ entries raw, p entry) ↔
      ∀ piece ∈ raw.toList.splitOn ',', trimChars piece = [] ∨ p (trimChars piece) := by
  simp only [mem_entries, or_iff_not_imp_left]
  constructor
  · intro h piece hpiece hsome
    exact h _ ⟨hsome, piece, hpiece, rfl⟩
  · rintro h _ ⟨hsome, piece, hpiece, rfl⟩
    exact h piece hpiece hsome

/-! ## Further levels -/

/-- Levels that are added one after another, in whatever order, grant just these levels. -/
theorem allows_foldl_add {g : Grants} {added : List (String × List Access)} {c : String}
    {a : Access} : (added.foldl (fun g entry => g.add entry.1 entry.2) g).allows c a = true ↔
      g.allows c a = true ∨ ∃ levels, (c, levels) ∈ added ∧ a ∈ levels := by
  induction added generalizing g with
  | nil => simp
  | cons entry added ih =>
    obtain ⟨objclass, levels⟩ := entry
    rw [List.foldl_cons, ih, allows_add, or_assoc]
    refine or_congr_right ?_
    constructor
    · rintro (⟨rfl, ha⟩ | ⟨levels', hmem, ha⟩)
      · exact ⟨levels, List.mem_cons_self, ha⟩
      · exact ⟨levels', List.mem_cons_of_mem _ hmem, ha⟩
    · rintro ⟨levels', hmem, ha⟩
      rcases List.mem_cons.1 hmem with heq | hmem
      · cases heq
        exact .inl ⟨rfl, ha⟩
      · exact .inr ⟨levels', hmem, ha⟩

/-! ## Texts -/

/-- **A grant text grants what it lists.**  A text is read just if each of its entries between
    commas is blank or spelled right.  Whoever holds it is then allowed what some entry allows: a
    star everything, and a class with letters the levels of these letters on the class of this very
    name.  Levels that are added to grants, however many and in whatever order, are allowed besides
    what was allowed before, and nothing else is. -/
theorem grants_listed :
    (∀ raw : String,
      ((∃ g, parse raw = .ok g) ↔ ∀ piece ∈ raw.toList.splitOn ',',
        trimChars piece = [] ∨ ∃ e : Entry, e.Spelled (trimChars piece)) ∧
      ∀ g, parse raw = .ok g → ∀ (c : String) (a : Access), g.allows c a = true ↔
        ∃ piece ∈ raw.toList.splitOn ',', ∃ e : Entry, e.Spelled (trimChars piece) ∧ e.Allows c a) ∧
    ∀ (g : Grants) (added : List (String × List Access)) (c : String) (a : Access),
      (added.foldl (fun g entry => g.add entry.1 entry.2) g).allows c a = true ↔
        g.allows c a = true ∨ ∃ levels, (c, levels) ∈ added ∧ a ∈ levels := by
  refine ⟨fun raw => ⟨?_, fun g hg c a => ?_⟩, fun g added c a => allows_foldl_add⟩
  · rw [exists_parse, forall_mem_entries]
    simp only [isEntry_iff]
  · have hentries := exists_parse.1 ⟨g, hg⟩
    rw [allows_parse hg]
    constructor
    · rintro ⟨entry, hentry, hallows⟩
      obtain ⟨e, hspelled, he⟩ := (entryAllows_iff (hentries entry hentry)).1 hallows
      obtain ⟨-, piece, hpiece, rfl⟩ := mem_entries.1 hentry
      exact ⟨piece, hpiece, e, hspelled, he⟩
    · rintro ⟨piece, hpiece, e, hspelled, he⟩
      have hsome : trimChars piece ≠ [] := by
        intro hblank
        rw [hblank] at hspelled
        generalize hnil : ([] : List Char) = text at hspelled
        cases hspelled <;> simp at hnil
      exact ⟨_, mem_entries.2 ⟨hsome, piece, hpiece, rfl⟩,
        (entryAllows_iff (isEntry_iff.2 ⟨e, hspelled⟩)).2 ⟨e, hspelled, he⟩⟩

/-- A class that is named twice has the levels of both entries; one that is named without letters
    has none, until a level is added. -/
theorem repeatedClass_listed :
    ∃ g, parse "cases : cR,, other:,cases:d\t" = .ok g ∧ g.allows "cases" .read = true ∧
      g.allows "cases" .delete = true ∧ g.allows "other" .update = false ∧
      (g.add "other" [.update]).allows "other" .update = true := by
  obtain ⟨-, hallows⟩ := grants_listed.1 "cases : cR,, other:,cases:d\t"
  have hblank : ∃ c ∈ "cases ".toList, isBlank c = false := ⟨'c', by decide, rfl⟩
  have hcreate : ∀ c ∈ trimChars " cR".toList, ∃ a : Access, a.HasLetter c := by
    intro c hc
    rcases List.mem_pair.1 hc with rfl | rfl
    · exact ⟨.create, .inl rfl⟩
    · exact ⟨.read, .inr rfl⟩
  have hfirst : Entry.Spelled (.levels "cases" ['c', 'R']) "cases : cR".toList :=
    @Entry.Spelled.levels "cases ".toList " cR".toList (by decide) hblank hcreate
  have hdelete : ∀ c ∈ trimChars "d".toList, ∃ a : Access, a.HasLetter c := by
    intro c hc
    cases List.mem_singleton.1 hc
    exact ⟨.delete, .inl rfl⟩
  have hlast : Entry.Spelled (.levels "cases" ['d']) "cases:d".toList :=
    @Entry.Spelled.levels "cases".toList "d".toList (by decide) ⟨'c', by decide, rfl⟩ hdelete
  have hg : parse "cases : cR,, other:,cases:d\t" =
      .ok ⟨false, [("cases", [.create, .read, .delete]), ("other", [])]⟩ := rfl
  refine ⟨_, hg, ?_, ?_, rfl, ?_⟩
  · exact (hallows _ hg "cases" .read).2 ⟨"cases : cR".toList, by decide, _, hfirst, rfl, 'R',
      by decide, .inr rfl⟩
  · exact (hallows _ hg "cases" .delete).2 ⟨"cases:d\t".toList, by decide, _, hlast, rfl, 'd',
      by decide, .inl rfl⟩
  · exact (grants_listed.2 _ [("other", [.update])] "other" .update).2 (.inr ⟨[.update],
      List.mem_singleton_self _, List.mem_singleton_self _⟩)

end Grants

end CaseDesk
