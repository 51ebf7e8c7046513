/-
  The rows of a table, id by id.

  `row?` is the view of a table.  For each operation it is said what the
  operation does to the row under every id:

  * `row?_insert`, `row?_put`: one row;
  * `row?_removeScope`, `row?_modifyWhere`: all rows of a parent, all rows;
  * `update_cases`, `removeIf_cases`: an operation that can fail leaves the
    table alone or puts a row, or nothing, in place of the row that its key
    addresses.

  `view` is the same for what a function sees of the records.

  `Version.toInt_add_one`: the next version of a row that is not at the last
  one is larger by one.
-/
import CaseDesk.Table
import Mathlib.Tactic.SplitIfs

namespace CaseDesk

/-! ## Versions -/

namespace Version

variable {v : Int32}

/-- The version after one that is not the largest is larger by one. -/
theorem toInt_add_one (h : v < Int32.maxValue) : ((v + 1 : Int32) : Int) = v + 1 := by
  have hlow := v.le_toInt
  have hhigh := Int32.lt_iff_toInt_lt.1 h
  rw [Int32.toInt_maxValue] at hhigh
  rw [Int32.toInt_add, Int32.toInt_one]
  exact Int.bmod_eq_of_le (by omega) (by omega)

theorem lt_add_one (h : v < Int32.maxValue) : v < v + 1 := by
  rw [Int32.lt_iff_toInt_lt, toInt_add_one h]
  exact Int.lt_succ _

theorem add_one_ne (v : Int32) : v + 1 ≠ v := by
  intro h
  have hone : (1 : Int32) = 0 := (Int32.add_right_inj (c := v)).1 (h.trans (Int32.add_zero v).symm)
  cases hone

end Version

/-! ## Records under an id -/

namespace Record

variable {ρ : Type} [Record ρ]

@[simp]
theorem idOf_withId (n : Int) (r : ρ) : idOf (withId n r) = n := id.get_set n r

end Record

namespace Table

variable {ρ : Type}

theorem row?_eq_some {t : Table ρ} {id : Int} {row : Row ρ} :
    t.row? id = some row ↔ ∃ n : Nat, id = n + 1 ∧ t.slots[n]? = some (some row) := by
  unfold row?
  constructor
  · intro h
    split at h
    · rw [Option.join_eq_some_iff] at h
      exact ⟨(id - 1).toNat, by omega, h⟩
    · cases h
  · rintro ⟨n, rfl, h⟩
    rw [if_pos (by omega), Option.join_eq_some_iff]
    simpa using h

theorem row?_empty (id : Int) : ({} : Table ρ).row? id = none := by
  simp [row?]

/-- Ids are counted from 1 up to the number of records ever inserted. -/
theorem bounds_of_row? {t : Table ρ} {id : Int} {row : Row ρ} (h : t.row? id = some row) :
    1 ≤ id ∧ id ≤ t.slots.length := by
  obtain ⟨n, rfl, hn⟩ := row?_eq_some.1 h
  obtain ⟨hlt, -⟩ := List.getElem?_eq_some_iff.1 hn
  omega

/-- The next id is not in use. -/
theorem row?_next (t : Table ρ) : t.row? (t.slots.length + 1) = none := by
  rcases h : t.row? (t.slots.length + 1) with _ | row
  · rfl
  · have := (bounds_of_row? h).2
    omega

theorem mem_rows {t : Table ρ} {row : Row ρ} : row ∈ t.rows ↔ ∃ id, t.row? id = some row := by
  simp only [rows, List.mem_filterMap, id_eq, exists_eq_right]
  constructor
  · intro h
    obtain ⟨n, hn⟩ := List.mem_iff_getElem?.1 h
    exact ⟨n + 1, row?_eq_some.2 ⟨n, rfl, hn⟩⟩
  · rintro ⟨id, h⟩
    obtain ⟨n, -, hn⟩ := row?_eq_some.1 h
    exact List.mem_of_getElem? hn

theorem forall_mem_rows {t : Table ρ} {p : Row ρ → Prop} :
    (∀ row ∈ t.rows, p row) ↔ ∀ (id : Int) (row : Row ρ), t.row? id = some row → p row := by
  constructor
  · intro h id row hrow
    exact h row (mem_rows.2 ⟨id, hrow⟩)
  · intro h row hrow
    obtain ⟨id, hid⟩ := mem_rows.1 hrow
    exact h id row hid

/-! ## One row -/

theorem row?_put {t : Table ρ} {key : Int} {old : Row ρ} (h : t.row? key = some old)
    (new : Option (Row ρ)) (id : Int) :
    (t.put key new).row? id = if id = key then new else t.row? id := by
  obtain ⟨n, rfl, hn⟩ := row?_eq_some.1 h
  obtain ⟨hlt, -⟩ := List.getElem?_eq_some_iff.1 hn
  by_cases hid : 1 ≤ id
  · have hpos : n = (id - 1).toNat ↔ id = n + 1 := by omega
    simp only [row?, put, hid, if_true, List.getElem?_set, Int.add_sub_cancel, Int.toNat_natCast,
      hpos]
    by_cases he : id = n + 1
    · simp [he, hlt]
    · simp [he]
  · have he : id ≠ n + 1 := by omega
    simp [row?, hid, he]

theorem row?_put_self {t : Table ρ} {key : Int} {old : Row ρ} (h : t.row? key = some old)
    (new : Option (Row ρ)) : (t.put key new).row? key = new := by
  rw [row?_put h, if_pos rfl]

theorem length_put (t : Table ρ) (key : Int) (new : Option (Row ρ)) :
    (t.put key new).slots.length = t.slots.length := by
  simp [put]

/-- A change of every slot by itself, which leaves empty slots empty. -/
theorem row?_mapSlots (t : Table ρ) (f : Option (Row ρ) → Option (Row ρ)) (hf : f none = none)
    (id : Int) : (⟨t.slots.map f⟩ : Table ρ).row? id = f (t.row? id) := by
  unfold row?
  split
  · rw [List.getElem?_map]
    rcases t.slots[(id - 1).toNat]? with _ | slot
    · exact hf.symm
    · rfl
  · exact hf.symm

theorem row?_modifyWhere (t : Table ρ) (select : ρ → Bool) (change : ρ → Bool × ρ) (id : Int) :
    (t.modifyWhere select change).2.row? id =
      (t.row? id).map fun row => if select row.value then changeRow change row else row :=
  row?_mapSlots t _ rfl id

theorem length_modifyWhere (t : Table ρ) (select : ρ → Bool) (change : ρ → Bool × ρ) :
    (t.modifyWhere select change).2.slots.length = t.slots.length := by
  simp [modifyWhere]

variable [Record ρ]

theorem row?_insert (t : Table ρ) (r : ρ) (id : Int) :
    (t.insert r).2.row? id =
      if id = t.slots.length + 1 then some (t.insert r).1 else t.row? id := by
  simp only [row?, insert, List.getElem?_append]
  split_ifs with hid hlt he he he
  · omega
  · rfl
  · simp [he]
  · have hle : t.slots.length ≤ (id - 1).toNat := by omega
    have hpos : (id - 1).toNat - t.slots.length ≠ 0 := by omega
    rw [List.getElem?_eq_none hle, List.getElem?_singleton, if_neg hpos]
  · omega
  · rfl

theorem row?_insert_self (t : Table ρ) (r : ρ) :
    (t.insert r).2.row? (t.slots.length + 1) = some (t.insert r).1 := by
  rw [row?_insert, if_pos rfl]

theorem length_insert (t : Table ρ) (r : ρ) :
    (t.insert r).2.slots.length = t.slots.length + 1 := by
  simp [insert]

/-! ## Keys -/

theorem inScope_iff {scope : Int} {r : ρ} :
    inScope scope r = true ↔ Record.scope r = some scope := beq_iff_eq

theorem check_eq_ok {key : RowKey} {row : Row ρ} :
    check key row = .ok () ↔
      (∀ scope, key.scope = some scope → inScope scope row.value = true) ∧
        ∀ ver, key.ver = some ver → ver = row.ver := by
  have hscope : (key.scope.any fun scope => !inScope scope row.value) = false ↔
      ∀ scope, key.scope = some scope → inScope scope row.value = true := by
    cases key.scope <;> simp
  rw [check, ← hscope]
  cases key.scope.any fun scope => !inScope scope row.value with
  | true => simp
  | false =>
    cases key.ver with
    | none => simp
    | some expected => by_cases hv : expected = row.ver <;> simp [hv]

theorem find_eq_ok {t : Table ρ} {key : RowKey} {row : Row ρ} :
    t.find key = .ok row ↔ t.row? key.id = some row ∧ check key row = .ok () := by
  rw [find]
  cases h : t.row? key.id with
  | none => simp
  | some row' =>
    have hbind : (check key row' >>= fun _ => pure row' : Except StoreError (Row ρ)) = .ok row ↔
        row' = row ∧ check key row' = .ok () := by
      cases check key row' <;> simp [bind, Except.bind, pure, Except.pure]
    simp only [Option.some.injEq]
    rw [hbind]
    exact and_congr_right fun he => by rw [he]

theorem row?_of_find {t : Table ρ} {key : RowKey} {row : Row ρ} (h : t.find key = .ok row) :
    t.row? key.id = some row := (find_eq_ok.1 h).1

/-- A key that names a version addresses a row at that version only. -/
theorem ver_of_find {t : Table ρ} {key : RowKey} {row : Row ρ} (h : t.find key = .ok row)
    {ver : Int} (hv : key.ver = some ver) : row.ver = ver :=
  ((check_eq_ok.1 (find_eq_ok.1 h).2).2 ver hv).symm

/-- A key that names a parent addresses a row of that parent only. -/
theorem inScope_of_find {t : Table ρ} {key : RowKey} {row : Row ρ} (h : t.find key = .ok row)
    {scope : Int} (hs : key.scope = some scope) : inScope scope row.value = true :=
  (check_eq_ok.1 (find_eq_ok.1 h).2).1 scope hs

omit [Record ρ] in
theorem ofRevision_eq_ok {revise : ρ → Except ServiceError ρ} {old new : ρ} :
    Edit.ofRevision revise old = (.ok (), new) ↔ revise old = .ok new := by
  unfold Edit.ofRevision
  cases revise old <;> simp

/-- A row after an edit that was accepted. -/
def edited (key : RowKey) (old : Row ρ) (value : ρ) : Row ρ :=
  { ver := old.ver + 1, value := Record.withId key.id value }

theorem update_cases (t : Table ρ) (key : RowKey) (edit : Edit ρ) :
    (∃ e, t.update key edit = (.error e, t)) ∨
      ∃ old value, t.find key = .ok old ∧ edit old.value = (.ok (), value) ∧
        t.update key edit =
          (.ok (edited key old value), t.put key.id (some (edited key old value))) := by
  unfold update
  rcases hf : t.find key with e | old
  · exact Or.inl ⟨_, rfl⟩
  · rcases he : edit old.value with ⟨e | _, value⟩
    · exact Or.inl ⟨e, by simp only [he]⟩
    · exact Or.inr ⟨old, value, rfl, he, by simp only [he]; rfl⟩

theorem removeIf_cases (t : Table ρ) (key : RowKey) (accept : ρ → Except ServiceError Unit) :
    (∃ e, t.removeIf key accept = (.error e, t)) ∨
      ∃ old, t.find key = .ok old ∧ accept old.value = .ok () ∧
        t.removeIf key accept = (.ok old, t.put key.id none) := by
  unfold removeIf
  rcases hf : t.find key with e | old
  · exact Or.inl ⟨_, rfl⟩
  · rcases ha : accept old.value with e | _
    · exact Or.inl ⟨e, by simp only [ha]⟩
    · exact Or.inr ⟨old, rfl, ha, by simp only [ha]⟩

/-! ## All rows -/

theorem mem_scopeRows {t : Table ρ} {scope : Int} {row : Row ρ} :
    row ∈ t.scopeRows scope ↔ (∃ id, t.row? id = some row) ∧ inScope scope row.value = true := by
  rw [scopeRows, List.mem_filter, mem_rows]

theorem row?_removeScope (t : Table ρ) (scope id : Int) :
    (t.removeScope scope).2.row? id =
      (t.row? id).filter fun row => !inScope scope row.value :=
  row?_mapSlots t _ rfl id

theorem length_removeScope (t : Table ρ) (scope : Int) :
    (t.removeScope scope).2.slots.length = t.slots.length := by
  simp [removeScope]

/-! ## Lists -/

theorem mem_matching {t : Table ρ} {scope : Option Int} {query : ListQuery} {keep : ρ → Bool}
    {row : Row ρ} : row ∈ t.matching scope query keep ↔
      row ∈ t.rows ∧ wanted scope query keep row.value = true := by
  unfold matching
  split
  · exact List.mem_filter
  · rw [List.mem_mergeSort]
    exact List.mem_filter

/-- What a page shows are rows of the table that the query asks for, projected. -/
theorem exists_wanted_of_mem_items {t : Table ρ} {scope : Option Int} {query : ListQuery}
    {keep : ρ → Bool} {item : Row ρ} (h : item ∈ (t.listWhere scope query keep).items) :
    ∃ id row, t.row? id = some row ∧ wanted scope query keep row.value = true ∧
      item = { row with value := Record.project query.fields row.value } := by
  obtain ⟨row, hrow, rfl⟩ := List.mem_map.1 h
  have hmatching := List.mem_of_mem_drop (List.mem_of_mem_take hrow)
  obtain ⟨hmem, hwanted⟩ := mem_matching.1 hmatching
  obtain ⟨id, hid⟩ := mem_rows.1 hmem
  exact ⟨id, row, hid, hwanted, rfl⟩

/-- What a page shows are rows of the table, projected. -/
theorem exists_of_mem_items {t : Table ρ} {scope : Option Int} {query : ListQuery}
    {keep : ρ → Bool} {item : Row ρ} (h : item ∈ (t.listWhere scope query keep).items) :
    ∃ id row, t.row? id = some row ∧
      item = { row with value := Record.project query.fields row.value } := by
  obtain ⟨id, row, hid, -, hitem⟩ := exists_wanted_of_mem_items h
  exact ⟨id, row, hid, hitem⟩

/-! ## Views -/

section
variable {α : Type} (f : ρ → α)

omit [Record ρ]

/-- What a function sees of the record under each id. -/
def view (t : Table ρ) (id : Int) : Option α := (t.row? id).map fun row => f row.value

variable {f}

theorem view_eq_some {t : Table ρ} {id : Int} {a : α} :
    t.view f id = some a ↔ ∃ row, t.row? id = some row ∧ f row.value = a :=
  Option.map_eq_some_iff

theorem view_of_row? {t : Table ρ} {id : Int} {row : Row ρ} (h : t.row? id = some row) :
    t.view f id = some (f row.value) := view_eq_some.2 ⟨row, h, rfl⟩

theorem view_empty (id : Int) : ({} : Table ρ).view f id = none := by
  rw [view, row?_empty]; rfl

theorem view_next (t : Table ρ) : t.view f (t.slots.length + 1) = none := by
  rw [view, row?_next]; rfl

theorem view_put {t : Table ρ} {key : Int} {old : Row ρ} (h : t.row? key = some old)
    (new : Option (Row ρ)) (id : Int) :
    (t.put key new).view f id = if id = key then new.map (fun row => f row.value)
      else t.view f id := by
  rw [view, row?_put h]
  split_ifs <;> rfl

theorem view_insert [Record ρ] (t : Table ρ) (r : ρ) (id : Int) :
    (t.insert r).2.view f id =
      if id = t.slots.length + 1 then some (f (t.insert r).1.value) else t.view f id := by
  rw [view, row?_insert]
  split_ifs <;> rfl

end

end Table

end CaseDesk
