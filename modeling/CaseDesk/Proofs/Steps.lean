/-
  Tables over time.

  Whatever happens to a table happens in steps, one for each write of
  `CaseDesk.Table`.

  * `Step`: one step; a bulk change in it keeps ids and tells truly where it
    changes nothing (`Honest`).
  * `Evolves`: no id is used twice.  Any number of steps lets a table evolve
    (`evolves_of_steps`).
  * `Keyed`: every row holds the id that it stands under.  Steps keep it
    (`Keyed.steps`).
  * `Keeps`: of every record that is still there a function sees what it saw
    before.
-/
import CaseDesk.Proofs.Rows
import Mathlib.Logic.Relation

namespace CaseDesk.Table

variable {ρ : Type} [Record ρ]

/-! ## Steps -/

/-- A bulk change that keeps ids, and changes nothing where it says so. -/
structure Honest (change : ρ → Bool × ρ) : Prop where
  id : ∀ r, Record.idOf (change r).2 = Record.idOf r
  same : ∀ r, (change r).1 = false → (change r).2 = r

theorem Honest.idOf_changeRow {change : ρ → Bool × ρ} (h : Honest change) (select : ρ → Bool)
    (row : Row ρ) :
    Record.idOf (if select row.value then changeRow change row else row).value =
      Record.idOf row.value := by
  split_ifs
  · exact h.id row.value
  · rfl

/-- One write to a table. -/
inductive Step (t : Table ρ) : Table ρ → Prop
  | inserted (r : ρ) : Step t (t.insert r).2
  | updated {key : RowKey} {old : Row ρ} (value : ρ) (h : t.find key = .ok old) :
      Step t (t.put key.id (some (edited key old value)))
  | removed {key : RowKey} {old : Row ρ} (h : t.find key = .ok old) : Step t (t.put key.id none)
  | scopeRemoved (scope : Int) : Step t (t.removeScope scope).2
  | modified (select : ρ → Bool) {change : ρ → Bool × ρ} (h : Honest change) :
      Step t (t.modifyWhere select change).2

/-- Any number of writes to a table. -/
abbrev Steps : Table ρ → Table ρ → Prop := Relation.ReflTransGen Step

/-! ## Evolution -/

/-- What a table turns into: no id is used twice, so that where there is a row under an id that was
    given already, there was one before. -/
structure Evolves (t t' : Table ρ) : Prop where
  length_le : t.slots.length ≤ t'.slots.length
  row : ∀ {id : Int} {row' : Row ρ}, id ≤ t.slots.length → t'.row? id = some row' →
    ∃ row, t.row? id = some row

omit [Record ρ] in
theorem Evolves.refl (t : Table ρ) : t.Evolves t := ⟨Nat.le_refl _, fun _ h => ⟨_, h⟩⟩

omit [Record ρ] in
theorem Evolves.trans {t t' t'' : Table ρ} (h : t.Evolves t') (h' : t'.Evolves t'') :
    t.Evolves t'' := by
  refine ⟨Nat.le_trans h.length_le h'.length_le, fun hid hrow => ?_⟩
  have hle := h.length_le
  obtain ⟨row', hrow'⟩ := h'.row (by omega) hrow
  exact h.row hid hrow'

omit [Record ρ] in
/-- An id that is used and has no row does not get one again. -/
theorem Evolves.row?_eq_none {t t' : Table ρ} (h : t.Evolves t') {id : Int}
    (hused : id ≤ t.slots.length) (hnone : t.row? id = none) : t'.row? id = none := by
  rcases hrow : t'.row? id with _ | row
  · rfl
  · obtain ⟨_, hold⟩ := h.row hused hrow
    cases hold.symm.trans hnone

theorem Step.evolves {t t' : Table ρ} (h : Step t t') : t.Evolves t' := by
  cases h with
  | inserted r =>
    refine ⟨by rw [length_insert]; omega, fun hid hrow => ?_⟩
    rw [row?_insert, if_neg (by omega)] at hrow
    exact ⟨_, hrow⟩
  | @updated key old value h =>
    refine ⟨Nat.le_of_eq (length_put ..).symm, fun {id row'} _ hrow => ?_⟩
    have hold := row?_of_find h
    rw [row?_put hold] at hrow
    split_ifs at hrow with he
    · exact ⟨old, he ▸ hold⟩
    · exact ⟨row', hrow⟩
  | removed h =>
    refine ⟨Nat.le_of_eq (length_put ..).symm, fun _ hrow => ?_⟩
    rw [row?_put (row?_of_find h)] at hrow
    split_ifs at hrow with he
    exact ⟨_, hrow⟩
  | scopeRemoved scope =>
    refine ⟨Nat.le_of_eq (length_removeScope t scope).symm, fun _ hrow => ?_⟩
    rw [row?_removeScope, Option.filter_eq_some_iff] at hrow
    exact ⟨_, hrow.1⟩
  | modified select h =>
    refine ⟨Nat.le_of_eq (length_modifyWhere ..).symm, fun _ hrow => ?_⟩
    rw [row?_modifyWhere, Option.map_eq_some_iff] at hrow
    obtain ⟨row, hrow, -⟩ := hrow
    exact ⟨row, hrow⟩

theorem evolves_of_steps {t t' : Table ρ} (h : Steps t t') : t.Evolves t' := by
  induction h with
  | refl => exact .refl t
  | tail _ hstep ih => exact ih.trans hstep.evolves

/-! ## Ids -/

/-- Every row holds the id that it stands under. -/
def Keyed (t : Table ρ) : Prop :=
  ∀ (id : Int) (row : Row ρ), t.row? id = some row → Record.idOf row.value = id

theorem Keyed.empty : ({} : Table ρ).Keyed := fun _ _ h => by
  rw [row?_empty] at h; cases h

/-- In a keyed table equal rows stand under equal ids. -/
theorem Keyed.id_eq {t : Table ρ} (h : t.Keyed) {i j : Int} {row : Row ρ}
    (hi : t.row? i = some row) (hj : t.row? j = some row) : i = j :=
  (h i row hi).symm.trans (h j row hj)

theorem Keyed.step {t t' : Table ρ} (hk : t.Keyed) (h : Step t t') : t'.Keyed := by
  intro id row hrow
  cases h with
  | inserted r =>
    rw [row?_insert] at hrow
    split_ifs at hrow with he
    · cases hrow
      exact (Record.idOf_withId _ _).trans he.symm
    · exact hk id row hrow
  | updated value h =>
    rw [row?_put (row?_of_find h)] at hrow
    split_ifs at hrow with he
    · cases hrow
      exact (Record.idOf_withId _ _).trans he.symm
    · exact hk id row hrow
  | removed h =>
    rw [row?_put (row?_of_find h)] at hrow
    split_ifs at hrow
    exact hk id row hrow
  | scopeRemoved scope =>
    rw [row?_removeScope, Option.filter_eq_some_iff] at hrow
    exact hk id row hrow.1
  | modified select h =>
    rw [row?_modifyWhere, Option.map_eq_some_iff] at hrow
    obtain ⟨old, hold, rfl⟩ := hrow
    exact (h.idOf_changeRow select old).trans (hk id old hold)

theorem Keyed.steps {t t' : Table ρ} (hk : t.Keyed) (h : Steps t t') : t'.Keyed := by
  induction h with
  | refl => exact hk
  | tail _ hstep ih => exact ih.step hstep

/-! ## What stays -/

section
variable {α : Type} {f : ρ → α}

/-- No id is used twice, and of a record that is still there a function sees what it saw before. -/
structure Keeps (f : ρ → α) (t t' : Table ρ) : Prop where
  length_le : t.slots.length ≤ t'.slots.length
  view : ∀ {id : Int} {a : α}, id ≤ t.slots.length → t'.view f id = some a → t.view f id = some a

omit [Record ρ] in
theorem Keeps.refl (t : Table ρ) : t.Keeps f t := ⟨Nat.le_refl _, fun _ h => h⟩

omit [Record ρ] in
theorem Keeps.trans {t t' t'' : Table ρ} (h : t.Keeps f t') (h' : t'.Keeps f t'') :
    t.Keeps f t'' := by
  refine ⟨Nat.le_trans h.length_le h'.length_le, fun hid hview => ?_⟩
  have hle := h.length_le
  exact h.view hid (h'.view (by omega) hview)

theorem Keeps.insert (t : Table ρ) (r : ρ) : t.Keeps f (t.insert r).2 := by
  refine ⟨by rw [length_insert]; omega, fun hid hview => ?_⟩
  rw [view_insert, if_neg (by omega)] at hview
  exact hview

omit [Record ρ] in
theorem Keeps.put {t : Table ρ} {key : Int} {old : Row ρ} (hold : t.row? key = some old)
    {new : Option (Row ρ)} (hnew : ∀ row, new = some row → f row.value = f old.value) :
    t.Keeps f (t.put key new) := by
  refine ⟨Nat.le_of_eq (length_put ..).symm, fun {id a} _ hview => ?_⟩
  rw [view_put hold] at hview
  split_ifs at hview with he
  · obtain ⟨row, hrow, rfl⟩ := Option.map_eq_some_iff.1 hview
    rw [he, hnew row hrow]
    exact view_of_row? hold
  · exact hview

end

end CaseDesk.Table
