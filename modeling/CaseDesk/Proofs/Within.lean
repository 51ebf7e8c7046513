/-
  The rows of one parent.

  All parents share one table of records and one count of ids.  What is done
  within a parent depends on the rows of that parent only, and leaves the others
  as they are.

  * `Table.within`, `Table.beyond`: the rows of a parent, and the others.
  * `Table.AgreeWithin`: tables that hold the same rows of a parent.  They list
    and find the same (`Table.AgreeWithin.listWhere_eq`,
    `Table.AgreeWithin.find_eq`), and writes leave them in agreement.
-/
import CaseDesk.Proofs.Rows

namespace CaseDesk

namespace Table

variable {ρ : Type} [Record ρ] {scope : Int} {t t' : Table ρ}

/-! ## Rows of a parent -/

/-- The row with an id, if it is of a parent. -/
def within (t : Table ρ) (scope id : Int) : Option (Row ρ) :=
  (t.row? id).filter fun row => inScope scope row.value

/-- The row with an id, unless it is of a parent. -/
def beyond (t : Table ρ) (scope id : Int) : Option (Row ρ) :=
  (t.row? id).filter fun row => !inScope scope row.value

/-- The tables hold the same rows of a parent. -/
def AgreeWithin (scope : Int) (t t' : Table ρ) : Prop :=
  ∀ id, t.within scope id = t'.within scope id

omit [Record ρ] in
theorem filterMap_eq_nil_of_join {slots : List (Option (Row ρ))}
    (h : ∀ n : Nat, slots[n]?.join = none) : slots.filterMap id = [] := by
  refine List.filterMap_eq_nil_iff.2 fun slot hslot => ?_
  obtain ⟨n, hn⟩ := List.mem_iff_getElem?.1 hslot
  have hempty := h n
  rw [hn] at hempty
  exact hempty

omit [Record ρ] in
/-- Lists of slots that differ only in how many empty slots follow hold the same rows. -/
theorem filterMap_congr_join {xs ys : List (Option (Row ρ))}
    (h : ∀ n : Nat, xs[n]?.join = ys[n]?.join) : xs.filterMap id = ys.filterMap id := by
  induction xs generalizing ys with
  | nil => exact (filterMap_eq_nil_of_join fun n => (h n).symm).symm
  | cons x xs ih =>
    cases ys with
    | nil => exact filterMap_eq_nil_of_join h
    | cons y ys =>
      have hhead : x = y := h 0
      rw [hhead, List.filterMap_cons, List.filterMap_cons, ih fun n => h (n + 1)]

theorem scopeRows_eq (t : Table ρ) (scope : Int) : t.scopeRows scope =
    (t.slots.map fun slot => slot.filter fun row => inScope scope row.value).filterMap id := by
  rw [scopeRows, rows, List.filter_filterMap, List.filterMap_map]
  rfl

/-- The row of a parent in a slot. -/
theorem within_slot (t : Table ρ) (scope : Int) (n : Nat) :
    ((t.slots.map fun slot => slot.filter fun row => inScope scope row.value)[n]?).join =
      t.within scope (n + 1) := by
  have hslot := row?_mapSlots t (fun slot => slot.filter fun row => inScope scope row.value) rfl
    (n + 1)
  rw [row?, if_pos (by omega)] at hslot
  simpa [within] using hslot

/-- Tables that agree on the rows of a parent list them alike. -/
theorem AgreeWithin.scopeRows_eq (h : AgreeWithin scope t t') :
    t.scopeRows scope = t'.scopeRows scope := by
  rw [Table.scopeRows_eq, Table.scopeRows_eq]
  refine filterMap_congr_join fun n => ?_
  rw [within_slot, within_slot, h (n + 1)]

theorem AgreeWithin.listWhere_eq (h : AgreeWithin scope t t') (query : ListQuery)
    (keep : ρ → Bool) :
    t.listWhere (some scope) query keep = t'.listWhere (some scope) query keep := by
  have hfound (t : Table ρ) : (t.rows.filter fun row => wanted (some scope) query keep row.value) =
      (t.scopeRows scope).filter fun row => wanted (some scope) query keep row.value := by
    rw [scopeRows, List.filter_filter]
    refine List.filter_congr fun row _ => ?_
    simp only [wanted, Option.all_some]
    cases inScope scope row.value <;> simp
  have hmatching : t.matching (some scope) query keep = t'.matching (some scope) query keep := by
    simp only [matching, hfound, h.scopeRows_eq]
  simp only [listWhere, hmatching]

/-- A key within a parent addresses a row of that parent, or none. -/
theorem find_eq_within {key : RowKey} (hkey : key.scope = some scope) (t : Table ρ) :
    t.find key = match t.within scope key.id with
      | some row => check key row >>= fun _ => return row
      | none => .error (.notFound (Record.kind ρ) key.id) := by
  rw [find, within]
  rcases t.row? key.id with _ | row
  · rfl
  · cases hrow : inScope scope row.value with
    | true => simp only [Option.filter_some, hrow, if_true]
    | false =>
      have hcheck : check key row = .error (.notFound (Record.kind ρ) key.id) := by
        simp [check, hkey, hrow]
      simp [Option.filter_some, hrow, hcheck, bind, Except.bind]

theorem AgreeWithin.find_eq (h : AgreeWithin scope t t') {key : RowKey}
    (hkey : key.scope = some scope) : t.find key = t'.find key := by
  rw [find_eq_within hkey, find_eq_within hkey, h key.id]

/-! ## Writes within a parent -/

theorem within_put {key : Int} {old : Row ρ} (hold : t.row? key = some old)
    (new : Option (Row ρ)) (id : Int) :
    (t.put key new).within scope id =
      if id = key then new.filter fun row => inScope scope row.value else t.within scope id := by
  rw [within, row?_put hold]
  split_ifs <;> rfl

/-- A row of a parent is removed, or replaced by one of the same parent. -/
theorem beyond_put {key : Int} {old : Row ρ} (hold : t.row? key = some old)
    (hscope : inScope scope old.value = true) {new : Option (Row ρ)}
    (hnew : ∀ row, new = some row → inScope scope row.value = true) (id : Int) :
    (t.put key new).beyond scope id = t.beyond scope id := by
  rw [beyond, row?_put hold]
  split_ifs with hid
  · rw [beyond, hid, hold, Option.filter_some, hscope]
    rcases new with _ | row
    · rfl
    · rw [Option.filter_some, hnew row rfl]
      rfl
  · rfl

theorem AgreeWithin.put (h : AgreeWithin scope t t') {key : Int} {old old' : Row ρ}
    (hold : t.row? key = some old) (hold' : t'.row? key = some old') (new : Option (Row ρ)) :
    AgreeWithin scope (t.put key new) (t'.put key new) := fun id => by
  rw [within_put hold, within_put hold', h id]

/-- A change that moves no record to another parent. -/
theorem inScope_changeRow {change : ρ → Bool × ρ}
    (hchange : ∀ r, Record.scope (change r).2 = Record.scope r) (row : Row ρ) :
    inScope scope (changeRow change row).value = inScope scope row.value :=
  congrArg (· == some scope) (hchange row.value)

theorem within_modifyScope {change : ρ → Bool × ρ}
    (hchange : ∀ r, Record.scope (change r).2 = Record.scope r) (id : Int) :
    (t.modifyScope scope change).2.within scope id =
      (t.within scope id).map (changeRow change) := by
  rw [within, within, modifyScope, row?_modifyWhere]
  rcases t.row? id with _ | row
  · rfl
  · cases hrow : inScope scope row.value <;>
      simp [Option.filter_some, hrow, inScope_changeRow hchange]

theorem beyond_modifyScope {change : ρ → Bool × ρ}
    (hchange : ∀ r, Record.scope (change r).2 = Record.scope r) (id : Int) :
    (t.modifyScope scope change).2.beyond scope id = t.beyond scope id := by
  rw [beyond, beyond, modifyScope, row?_modifyWhere]
  rcases t.row? id with _ | row
  · rfl
  · cases hrow : inScope scope row.value <;>
      simp [Option.filter_some, hrow, inScope_changeRow hchange]

theorem AgreeWithin.modifyScope (h : AgreeWithin scope t t') {change : ρ → Bool × ρ}
    (hchange : ∀ r, Record.scope (change r).2 = Record.scope r) :
    AgreeWithin scope (t.modifyScope scope change).2 (t'.modifyScope scope change).2 := fun id => by
  rw [within_modifyScope hchange, within_modifyScope hchange, h id]

/-- An edit within a parent is refused alike, or replaces the same row by the same. -/
theorem AgreeWithin.update_cases (h : AgreeWithin scope t t') {key : RowKey}
    (hkey : key.scope = some scope) (edit : Edit ρ) :
    (∃ e, t.update key edit = (.error e, t) ∧ t'.update key edit = (.error e, t')) ∨
      ∃ old value, t.find key = .ok old ∧ t'.find key = .ok old ∧
        edit old.value = (.ok (), value) ∧
        t.update key edit =
          (.ok (edited key old value), t.put key.id (some (edited key old value))) ∧
        t'.update key edit =
          (.ok (edited key old value), t'.put key.id (some (edited key old value))) := by
  unfold update
  rw [← h.find_eq hkey]
  rcases hf : t.find key with e | old
  · exact Or.inl ⟨_, rfl, rfl⟩
  · rcases he : edit old.value with ⟨e | _, value⟩
    · exact Or.inl ⟨e, by simp only [he], by simp only [he]⟩
    · exact Or.inr ⟨old, value, rfl, rfl, he, by simp only [he]; rfl, by simp only [he]; rfl⟩

/-- A removal within a parent is refused alike, or removes the same row. -/
theorem AgreeWithin.removeIf_cases (h : AgreeWithin scope t t') {key : RowKey}
    (hkey : key.scope = some scope) (accept : ρ → Except ServiceError Unit) :
    (∃ e, t.removeIf key accept = (.error e, t) ∧ t'.removeIf key accept = (.error e, t')) ∨
      ∃ old, t.find key = .ok old ∧ t'.find key = .ok old ∧
        t.removeIf key accept = (.ok old, t.put key.id none) ∧
        t'.removeIf key accept = (.ok old, t'.put key.id none) := by
  unfold removeIf
  rw [← h.find_eq hkey]
  rcases hf : t.find key with e | old
  · exact Or.inl ⟨_, rfl, rfl⟩
  · rcases ha : accept old.value with e | _
    · exact Or.inl ⟨e, by simp only [ha], by simp only [ha]⟩
    · exact Or.inr ⟨old, rfl, rfl, by simp only [ha], by simp only [ha]⟩

end Table

end CaseDesk
