/-
  The bookkeeping of a table over any history.

  A history is any sequence of operations on one table, from the empty one.
  Edits, checks and bulk changes in it are arbitrary: they may fail half-way,
  assign any field, and a bulk change may tell wrongly whether it changed a
  record.  What a bulk change does to a record may also depend on the records
  that it was shown before (`Pass`).

  * `sweep`: a bulk change that remembers; without memory it is `modifyWhere`
    (`sweep_forgetful`).  It counts the records that get a new version
    (`sweep_fst`), as `removeScope` counts those that it takes
    (`removeScope_fst`).
  * `Op`, `History`: operations, and the tables before each of them.
  * `Op.ver?_run`: what an operation makes of the version under an id.
  * `History.inserts`, `History.updates`, `History.changes`: what happened so far.
  * `History.bookkeeping`: ids, versions and counts keep step with that.
-/
import CaseDesk.Proofs.Steps
import CaseDesk.Record.Priority
import Mathlib.Data.Nat.Count
import Mathlib.Data.Set.Card

namespace CaseDesk

variable {ρ : Type}

/-! ## Bulk changes that remember -/

/-- A bulk change that remembers the records that it was shown before. -/
abbrev Pass (ρ : Type) : Type := List ρ → ρ → Bool × ρ

namespace Table

variable (t : Table ρ) (select : ρ → Bool) (change : Pass ρ)

/-- The records that a bulk change is shown before it comes to an id. -/
def shown (id : Int) : List ρ :=
  ((t.slots.take (id - 1).toNat).filterMap fun slot => slot.map (·.value)).filter select

/-- Whether a bulk change is shown the record under an id, and says that it changed it. -/
def reports (id : Int) : Bool :=
  (t.row? id).any fun row => select row.value && (change (t.shown select id) row.value).1

/-- The row under an id after a bulk change. -/
def sweepRow (id : Int) (row : Row ρ) : Row ρ :=
  if select row.value then changeRow (change (t.shown select id)) row else row

/-- Applies a bulk change that remembers to the rows that are selected, in the order of their ids,
    and counts those that it says it changed. -/
def sweep : Nat × Table ρ :=
  (Nat.count (fun n => t.reports select change (n + 1) = true) t.slots.length,
    ⟨t.slots.mapIdx fun n slot => slot.map (t.sweepRow select change (n + 1))⟩)

theorem length_sweep : (t.sweep select change).2.slots.length = t.slots.length := by
  simp [sweep]

theorem row?_sweep (id : Int) :
    (t.sweep select change).2.row? id = (t.row? id).map (t.sweepRow select change id) := by
  unfold row?
  split_ifs with hid
  · have hpos : ((id - 1).toNat : Int) + 1 = id := by omega
    simp only [sweep, List.getElem?_mapIdx, hpos]
    rcases t.slots[(id - 1).toNat]? with _ | slot <;> rfl
  · rfl

/-- The version of the record under an id. -/
def ver? (id : Int) : Option Int32 := (t.row? id).map (·.ver)

theorem contains_eq (id : Int) : t.contains id = (t.ver? id).isSome := by
  rw [contains, ver?, Option.isSome_map]

/-- A version is counted up where a bulk change says that it changed the record. -/
theorem ver?_sweep (id : Int) : (t.sweep select change).2.ver? id =
    (t.ver? id).map fun ver => ver + .ofNat (t.reports select change id).toNat := by
  rw [ver?, row?_sweep, ver?, reports]
  rcases t.row? id with _ | row
  · rfl
  · cases hselect : select row.value
    · simp [sweepRow, hselect]
    · cases hreport : (change (t.shown select id) row.value).1 <;>
        simp [sweepRow, changeRow, hselect, hreport]

theorem row?_succ (n : Nat) : t.row? (n + 1) = (t.slots[n]?).join := by
  simp [row?, show (1 : Int) ≤ n + 1 by omega]

/-- The rows of a table are counted by their ids. -/
theorem count_rows (p : Row ρ → Bool) :
    Nat.count (fun n : Nat => (t.row? (n + 1)).any p = true) t.slots.length = t.rows.countP p := by
  simp only [row?_succ, rows]
  induction t.slots with
  | nil => rfl
  | cons slot slots ih =>
    rw [List.length_cons, Nat.count_succ']
    simp only [List.getElem?_cons_succ, List.getElem?_cons_zero, Option.join_some, ih]
    cases slot with
    | none => simp
    | some row => simp [List.countP_cons]

/-- A bulk change that remembers nothing is an ordinary one. -/
theorem sweep_forgetful (change : ρ → Bool × ρ) :
    t.sweep select (fun _ => change) = t.modifyWhere select change := by
  have hcount := t.count_rows fun row => select row.value && (change row.value).1
  have hslots : (t.slots.mapIdx fun n slot =>
      slot.map (t.sweepRow select (fun _ => change) (n + 1))) =
      t.slots.map fun slot => slot.map fun row =>
        if select row.value then changeRow change row else row := by
    refine List.ext_getElem? fun n => ?_
    rw [List.getElem?_mapIdx, List.getElem?_map]
    rfl
  unfold sweep modifyWhere
  rw [hslots]
  exact congrArg (·, _) hcount

/-- Ids that lie in the bounds of a table are counted by position. -/
theorem ncard_ids (p : Int → Bool) (count : Nat)
    (h : ∀ id, p id = true → 1 ≤ id ∧ id ≤ count) :
    {id | p id = true}.ncard = Nat.count (fun n => p (n + 1) = true) count := by
  have himage : {id | p id = true} =
      (fun n : Nat => (n : Int) + 1) ''
        (((Finset.range count).filter fun n : Nat => p (n + 1) = true : Finset Nat) : Set Nat) := by
    ext id
    simp only [Set.mem_ofPred_eq, Set.mem_image, Finset.coe_filter, Finset.mem_range]
    constructor
    · intro hid
      have hbounds := h id hid
      have hpos : ((id - 1).toNat : Int) + 1 = id := by omega
      exact ⟨(id - 1).toNat, ⟨by omega, by rwa [hpos]⟩, hpos⟩
    · rintro ⟨n, ⟨-, hn⟩, rfl⟩
      exact hn
  rw [himage, Set.ncard_image_of_injective _ fun a b hab => by simpa using hab,
    Set.ncard_coe_finset, Nat.count_eq_card_filter_range]

/-- A bulk change counts the records that get a new version. -/
theorem sweep_fst : (t.sweep select change).1 =
    {id | (t.sweep select change).2.ver? id ≠ t.ver? id}.ncard := by
  have hreports (id : Int) :
      (t.sweep select change).2.ver? id ≠ t.ver? id ↔ t.reports select change id = true := by
    rw [ver?_sweep]
    cases hreport : t.reports select change id with
    | false => simp
    | true =>
      obtain ⟨row, hrow, -⟩ := (Option.any_eq_true _ _).1 hreport
      rw [ver?, hrow]
      exact iff_of_true (fun h => Version.add_one_ne row.ver (Option.some.inj h)) rfl
  simp only [hreports]
  refine (ncard_ids _ t.slots.length fun id hid => ?_).symm
  obtain ⟨row, hrow, -⟩ := (Option.any_eq_true _ _).1 hid
  exact bounds_of_row? hrow

/-- The removal of a parent's records counts the ids that are not held any more. -/
theorem removeScope_fst [Record ρ] (scope : Int) : (t.removeScope scope).1 =
    {id | t.contains id = true ∧ (t.removeScope scope).2.contains id = false}.ncard := by
  have hgone (id : Int) : t.contains id = true ∧ (t.removeScope scope).2.contains id = false ↔
      ((t.row? id).any fun row => inScope scope row.value) = true := by
    rw [contains, contains, row?_removeScope]
    rcases t.row? id with _ | row
    · simp
    · cases hscope : inScope scope row.value <;> simp [hscope]
  simp only [hgone]
  rw [ncard_ids _ t.slots.length, count_rows, List.countP_eq_length_filter]
  · rfl
  · intro id hid
    obtain ⟨row, hrow, -⟩ := (Option.any_eq_true _ _).1 hid
    exact bounds_of_row? hrow

end Table

/-! ## Histories -/

/-- An operation on a table that may change it.  A removal without a check is one whose check
    accepts everything, and a bulk change of the rows of a parent or of all rows is one that selects
    these. -/
inductive Op (ρ : Type) where
  | insert (r : ρ)
  | update (key : RowKey) (edit : Edit ρ)
  | remove (key : RowKey) (accept : ρ → Except ServiceError Unit)
  | removeScope (scope : Int)
  | modify (select : ρ → Bool) (change : Pass ρ)

variable [Record ρ]

namespace Op

/-- The table after an operation. -/
def run (t : Table ρ) : Op ρ → Table ρ
  | insert r => (t.insert r).2
  | update key edit => (t.update key edit).2
  | remove key accept => (t.removeIf key accept).2
  | removeScope scope => (t.removeScope scope).2
  | modify select change => (t.sweep select change).2

/-- Whether an operation is an insertion. -/
def inserts : Op ρ → Bool
  | insert _ => true
  | _ => false

/-- Whether an operation is an update of an id that succeeds. -/
def updates (t : Table ρ) (id : Int) : Op ρ → Bool
  | update key edit => key.id == id && (t.update key edit).1.isOk
  | _ => false

/-- Whether an operation is a bulk change that says that it changed the record under an id. -/
def changes (t : Table ρ) (id : Int) : Op ρ → Bool
  | modify select change => t.reports select change id
  | _ => false

/-- Whether an operation removes the record under an id. -/
def removes (t : Table ρ) (id : Int) : Op ρ → Bool
  | remove key accept => key.id == id && (t.removeIf key accept).1.isOk
  | removeScope scope => (t.row? id).any fun row => Table.inScope scope row.value
  | _ => false

variable (op : Op ρ) (t : Table ρ) (id : Int)

theorem length_run : (op.run t).slots.length = t.slots.length + op.inserts.toNat := by
  cases op with
  | insert r => exact Table.length_insert t r
  | update key edit =>
    rcases Table.update_cases t key edit with ⟨e, h⟩ | ⟨old, value, -, -, h⟩
    · simp [run, inserts, h]
    · simp [run, inserts, h, Table.length_put]
  | remove key accept =>
    rcases Table.removeIf_cases t key accept with ⟨e, h⟩ | ⟨old, -, -, h⟩
    · simp [run, inserts, h]
    · simp [run, inserts, h, Table.length_put]
  | removeScope scope => exact Table.length_removeScope t scope
  | modify select change => exact Table.length_sweep t select change

/-- What an operation makes of the version under an id: the first one for a new record, none for a
    record that it removes, and else the one that was there, with the change counted. -/
theorem ver?_run : (op.run t).ver? id =
    if op.inserts ∧ id = t.slots.length + 1 then some 1
    else if op.removes t id then none
    else (t.ver? id).map fun ver =>
      ver + .ofNat (op.updates t id).toNat + .ofNat (op.changes t id).toNat := by
  cases op with
  | insert r =>
    simp only [run, inserts, removes, updates, changes, Table.ver?, Table.row?_insert]
    split_ifs <;> simp_all [Table.insert, Function.comp_def]
  | update key edit =>
    simp only [run, inserts, removes, updates, changes, Table.ver?]
    rcases Table.update_cases t key edit with ⟨e, h⟩ | ⟨old, value, hfind, -, h⟩
    · simp [h, Except.isOk, Except.toBool, Function.comp_def]
    · have hold := Table.row?_of_find hfind
      by_cases hid : id = key.id
      · simp [h, Table.row?_put hold, hid, hold, Table.edited, Except.isOk, Except.toBool]
      · have hne : (key.id == id) = false := beq_false_of_ne (Ne.symm hid)
        simp [h, Table.row?_put hold, hid, hne, Function.comp_def]
  | remove key accept =>
    simp only [run, inserts, removes, updates, changes, Table.ver?]
    rcases Table.removeIf_cases t key accept with ⟨e, h⟩ | ⟨old, hfind, -, h⟩
    · simp [h, Except.isOk, Except.toBool, Function.comp_def]
    · have hold := Table.row?_of_find hfind
      by_cases hid : id = key.id
      · simp [h, Table.row?_put hold, hid, Except.isOk, Except.toBool]
      · have hne : (key.id == id) = false := beq_false_of_ne (Ne.symm hid)
        simp [h, Table.row?_put hold, hid, hne, Function.comp_def]
  | removeScope scope =>
    simp only [run, inserts, removes, updates, changes, Table.ver?, Table.row?_removeScope]
    rcases Option.eq_none_or_eq_some (t.row? id) with hrow | ⟨row, hrow⟩
    · simp [hrow]
    · cases hscope : Table.inScope scope row.value <;> simp [hrow, hscope]
  | modify select change =>
    simp [run, inserts, removes, updates, changes, Table.ver?_sweep]

variable {t id}

/-- Only a record that is there is updated, changed or removed. -/
theorem idle (h : t.row? id = none) :
    op.updates t id = false ∧ op.changes t id = false ∧ op.removes t id = false := by
  cases op with
  | insert r => exact ⟨rfl, rfl, rfl⟩
  | update key edit =>
    refine ⟨?_, rfl, rfl⟩
    rcases Table.update_cases t key edit with ⟨e, hrun⟩ | ⟨old, value, hfind, -, -⟩
    · simp [updates, hrun, Except.isOk, Except.toBool]
    · have hne : key.id ≠ id := fun he => by simp [← he, Table.row?_of_find hfind] at h
      simp [updates, hne]
  | remove key accept =>
    refine ⟨rfl, rfl, ?_⟩
    rcases Table.removeIf_cases t key accept with ⟨e, hrun⟩ | ⟨old, hfind, -, -⟩
    · simp [removes, hrun, Except.isOk, Except.toBool]
    · have hne : key.id ≠ id := fun he => by simp [← he, Table.row?_of_find hfind] at h
      simp [removes, hne]
  | removeScope scope => exact ⟨rfl, rfl, by simp [removes, h]⟩
  | modify select change => exact ⟨rfl, by simp [changes, Table.reports, h], rfl⟩

end Op

/-- Operations one after another, from the empty table; a finite sequence of operations is the
    beginning of one. -/
abbrev History (ρ : Type) : Type := Nat → Op ρ

namespace History

/-- The table before the operation at a position. -/
def before (h : History ρ) : Nat → Table ρ
  | 0 => {}
  | n + 1 => (h n).run (before h n)

variable (h : History ρ) (id : Int)

/-- How many of the first operations are insertions. -/
def inserts (n : Nat) : Nat := Nat.count (fun k => (h k).inserts = true) n

/-- How many of the first operations are updates of an id that succeed. -/
def updates (n : Nat) : Nat := Nat.count (fun k => (h k).updates (h.before k) id = true) n

/-- How many of the first operations are bulk changes that say that they changed the record under
    an id. -/
def changes (n : Nat) : Nat := Nat.count (fun k => (h k).changes (h.before k) id = true) n

theorem length_before (n : Nat) : (h.before n).slots.length = h.inserts n := by
  induction n with
  | zero => rfl
  | succ n ih =>
    rw [before, Op.length_run, ih, inserts, inserts, Nat.count_succ]
    cases (h n).inserts <;> rfl

variable {h id}

omit [Record ρ] in
theorem inserts_le (h : History ρ) {m n : Nat} (hmn : m ≤ n) : h.inserts m ≤ h.inserts n :=
  Nat.count_monotone _ hmn

theorem row?_of_inserts_lt {n : Nat} (hid : h.inserts n < id) : (h.before n).row? id = none := by
  rcases hrow : (h.before n).row? id with _ | row
  · rfl
  · have hbounds := Table.bounds_of_row? hrow
    rw [length_before] at hbounds
    omega

/-- Nothing happens to an id before its record is inserted. -/
theorem untouched {n : Nat} (hid : h.inserts n < id) : h.updates id n = 0 ∧ h.changes id n = 0 := by
  induction n with
  | zero => exact ⟨Nat.count_zero _, Nat.count_zero _⟩
  | succ n ih =>
    have hn : h.inserts n < id := by
      have := h.inserts_le (Nat.le_add_right n 1)
      omega
    obtain ⟨hupdates, hchanges⟩ := ih hn
    obtain ⟨hu, hc, -⟩ := (h n).idle (row?_of_inserts_lt hn)
    rw [updates, changes, Nat.count_succ, Nat.count_succ, hu, hc]
    exact ⟨hupdates, hchanges⟩

/-- The version of a record counts what happened to it. -/
theorem ver_before {n : Nat} {ver : Int32} (hver : (h.before n).ver? id = some ver) :
    ver = .ofNat (1 + h.updates id n + h.changes id n) := by
  induction n generalizing ver with
  | zero =>
    rw [before, Table.ver?, Table.row?_empty] at hver
    cases hver
  | succ n ih =>
    rw [before, Op.ver?_run] at hver
    rw [updates, changes, Nat.count_succ, Nat.count_succ]
    split_ifs at hver with hnew
    · -- a new record, to which nothing happened yet
      have hid : h.inserts n < id := by rw [← length_before]; omega
      obtain ⟨hu, hc, -⟩ := (h n).idle (row?_of_inserts_lt hid)
      obtain ⟨hupdates, hchanges⟩ := untouched hid
      rw [updates] at hupdates
      rw [changes] at hchanges
      cases hver
      simp [hupdates, hchanges, hu, hc]
    · obtain ⟨old, hold, rfl⟩ := Option.map_eq_some_iff.1 hver
      rw [ih hold, updates, changes, ← Int32.ofNat_add, ← Int32.ofNat_add]
      refine congrArg Int32.ofNat ?_
      cases (h n).updates (h.before n) id <;> cases (h n).changes (h.before n) id <;> simp <;> omega

/-- A record that is held is held on, unless it is removed. -/
theorem contains_succ {n : Nat} (hid : id ≤ h.inserts n) : (h.before (n + 1)).contains id =
    ((h.before n).contains id && !(h n).removes (h.before n) id) := by
  have hver := (h n).ver?_run (h.before n) id
  have hold : ¬((h n).inserts ∧ id = (h.before n).slots.length + 1) := by
    rw [length_before]; omega
  rw [if_neg hold] at hver
  rw [Table.contains_eq, Table.contains_eq, before, hver]
  cases (h n).removes (h.before n) id <;> simp

/-- An id that was given is not given to another record. -/
theorem not_contains_of_le {m n : Nat} (hid : id ≤ h.inserts m)
    (hgone : (h.before m).contains id = false) (hmn : m ≤ n) :
    (h.before n).contains id = false := by
  induction n, hmn using Nat.le_induction with
  | base => exact hgone
  | succ n hmn ih =>
    have hle := h.inserts_le hmn
    rw [contains_succ (by omega), ih, Bool.false_and]

/-- **The bookkeeping of a table.** Over any history, the operation that inserts for the nth time
    stores its record at version 1 under the id n; the ids that are held lie between 1 and the
    number of insertions so far, and a held record is at version 1 plus the number of updates of its
    id that succeeded plus the number of bulk changes that said that they changed it, counted in 32
    bits; an id is held until it is removed, and never again after that; the removal of a parent's
    records counts the ids that it takes, and a bulk change counts the records that get a new
    version. -/
theorem bookkeeping (h : History ρ) (n : Nat) :
    (∀ r, h n = .insert r →
      ((h.before n).insert r).1 = ⟨1, Record.withId (h.inserts n + 1) r⟩ ∧
        (h.before (n + 1)).row? (h.inserts n + 1) = some ((h.before n).insert r).1) ∧
    (∀ id row, (h.before n).row? id = some row → 1 ≤ id ∧ id ≤ h.inserts n ∧
      row.ver = .ofNat (1 + h.updates id n + h.changes id n) ∧
      (1 + h.updates id n + h.changes id n ≤ 2147483647 →
        (row.ver : Int) = 1 + h.updates id n + h.changes id n)) ∧
    (∀ id, (h.before n).contains id = true →
      ((h.before (n + 1)).contains id = false ↔ (h n).removes (h.before n) id = true)) ∧
    (∀ id, (h n).removes (h.before n) id = true → ∀ later > n,
      (h.before later).contains id = false) ∧
    (∀ scope, ((h.before n).removeScope scope).1 = {id | (h.before n).contains id = true ∧
      ((h.before n).removeScope scope).2.contains id = false}.ncard) ∧
    (∀ select change, ((h.before n).sweep select change).1 =
      {id | ((h.before n).sweep select change).2.ver? id ≠ (h.before n).ver? id}.ncard) ∧
    ∀ select change, (h.before n).modifyWhere select change =
      (h.before n).sweep select fun _ => change := by
  have hbounds {id : Int} {row : Row ρ} (hrow : (h.before n).row? id = some row) :
      1 ≤ id ∧ id ≤ h.inserts n := by
    rw [← length_before]
    exact Table.bounds_of_row? hrow
  have hcontains {id : Int} (hid : (h.before n).contains id = true) :
      (h.before (n + 1)).contains id = !(h n).removes (h.before n) id := by
    obtain ⟨row, hrow⟩ := Option.isSome_iff_exists.1 hid
    rw [contains_succ (hbounds hrow).2, hid, Bool.true_and]
  refine ⟨fun r hr => ?_, fun id row hrow => ?_, fun id hid => ?_,
    fun id hremoves later hlater => ?_,
    fun scope => Table.removeScope_fst .., fun select change => Table.sweep_fst ..,
    fun select change => (Table.sweep_forgetful ..).symm⟩
  · rw [← length_before, before, hr]
    exact ⟨rfl, Table.row?_insert_self ..⟩
  · have hver : row.ver = .ofNat (1 + h.updates id n + h.changes id n) :=
      ver_before (by rw [Table.ver?, hrow, Option.map_some])
    refine ⟨(hbounds hrow).1, (hbounds hrow).2, hver, fun hlimit => ?_⟩
    rw [hver, Int32.toInt_ofNat_of_lt (Nat.lt_succ_of_le hlimit)]
    rfl
  · rw [hcontains hid, Bool.not_eq_false']
  · rcases Option.eq_none_or_eq_some ((h.before n).row? id) with hrow | ⟨row, hrow⟩
    · rw [((h n).idle hrow).2.2] at hremoves
      cases hremoves
    · have hid : (h.before n).contains id = true := by rw [Table.contains, hrow]; rfl
      refine not_contains_of_le ?_ (by rw [hcontains hid, hremoves]; rfl) hlater
      exact Int.le_trans (hbounds hrow).2 (Int.ofNat_le.2 (h.inserts_le (Nat.le_add_right n 1)))

/-- Two priorities, a bulk change that says that it changed the first record that it is shown, an
    update of the second and a removal of the first, and then one insertion after another. -/
def turnover : History Priority
  | 0 => .insert { name := "high" }
  | 1 => .insert { name := "low" }
  | 2 => .modify (fun _ => true) fun shown r => (shown.isEmpty, { r with color := "red" })
  | 3 => .update { id := 2 } fun r => (.ok (), { r with id := 1 })
  | 4 => .remove { id := 1, ver := some 2 } fun _ => .ok ()
  | _ => .insert { name := "new" }

/-- The priority that is inserted after all this stands under the id 3, the second one is at version
    2, and the id 1 is not used again. -/
theorem turnover_bookkeeping :
    ((turnover.before 5).insert { name := "new" }).1 = ⟨1, { id := 3, name := "new" }⟩ ∧
      (∀ row, (turnover.before 5).row? 2 = some row → (row.ver : Int) = 2) ∧
      ∀ later > 4, (turnover.before later).contains 1 = false := by
  refine ⟨((turnover.bookkeeping 5).1 _ rfl).1, fun row hrow => ?_, fun later hlater => ?_⟩
  · obtain ⟨-, -, -, hver⟩ := (turnover.bookkeeping 5).2.1 2 row hrow
    exact hver (by decide)
  · exact (turnover.bookkeeping 4).2.2.2.1 1 (by decide) later hlater

end History

end CaseDesk
