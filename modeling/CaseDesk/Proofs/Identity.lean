/-
  The id that a record holds and the id that it stands under, over any history.

  An insertion and an update put the id back that the record stands under,
  whatever the edit assigned.  A bulk change does not: it keeps the two the
  same if and only if what it makes of a record holds the record's id
  (`Op.KeepsIds`).

  * `Op.keyed_run_iff`, `History.keyed_before_iff`: when all records of a table
    hold the ids that they stand under, after one operation and over a history.
  * `Table.Answers`: an id leads to a row, for fetching, updating and removing.
  * `ServiceName.identity`: as long as bulk changes keep ids, each row that is
    shown is led to by the id that it shows.
-/
import CaseDesk.Proofs.Histories
import CaseDesk.Proofs.Services

namespace CaseDesk

section
variable {ρ : Type} [Record ρ]

namespace Op

/-- Whether an operation on a table makes records that hold the ids that they stand under. -/
def KeepsIds (t : Table ρ) : Op ρ → Prop
  | modify select change => ∀ id row, t.row? id = some row → select row.value = true →
      Record.idOf (change (t.shown select id) row.value).2 = id
  | _ => True

theorem keyed_run_iff (op : Op ρ) {t : Table ρ} (ht : t.Keyed) :
    (op.run t).Keyed ↔ op.KeepsIds t := by
  cases op with
  | insert r => exact iff_of_true (ht.step (.inserted r)) trivial
  | update key edit =>
    refine iff_of_true ?_ trivial
    rcases Table.update_cases t key edit with ⟨e, h⟩ | ⟨old, value, hfind, -, h⟩
    · rw [run, h]
      exact ht
    · rw [run, h]
      exact ht.step (.updated value hfind)
  | remove key accept =>
    refine iff_of_true ?_ trivial
    rcases Table.removeIf_cases t key accept with ⟨e, h⟩ | ⟨old, hfind, -, h⟩
    · rw [run, h]
      exact ht
    · rw [run, h]
      exact ht.step (.removed hfind)
  | removeScope scope => exact iff_of_true (ht.step (.scopeRemoved scope)) trivial
  | modify select change =>
    constructor
    · intro h id row hrow hselect
      have hnew := h id _ (by rw [run, Table.row?_sweep, hrow, Option.map_some])
      rwa [Table.sweepRow, if_pos hselect] at hnew
    · intro h id row hrow
      rw [run, Table.row?_sweep, Option.map_eq_some_iff] at hrow
      obtain ⟨old, hold, rfl⟩ := hrow
      rw [Table.sweepRow]
      split_ifs with hselect
      · exact h id old hold hselect
      · exact ht id old hold

end Op

theorem History.keyed_before_iff (h : History ρ) (n : Nat) :
    (∀ k ≤ n, (h.before k).Keyed) ↔ ∀ k < n, (h k).KeepsIds (h.before k) := by
  induction n with
  | zero =>
    refine iff_of_true (fun k hk => ?_) nofun
    rw [Nat.le_zero.1 hk]
    exact Table.Keyed.empty
  | succ n ih =>
    constructor
    · intro hkeyed k hk
      exact (Op.keyed_run_iff (h k) (hkeyed k (Nat.le_of_lt hk))).1 (hkeyed (k + 1) hk)
    · intro hkeeps
      have hbefore := ih.2 fun k hk => hkeeps k (Nat.lt_succ_of_lt hk)
      intro k hk
      rcases Nat.le_succ_iff.1 hk with hk | rfl
      · exact hbefore k hk
      · exact (Op.keyed_run_iff (h n) (hbefore n (Nat.le_refl n))).2 (hkeeps n (Nat.lt_succ_self n))

namespace Table

/-- An id leads to a row: the row is fetched by it, updated by every edit that accepts the record,
    and removed. -/
structure Answers (t : Table ρ) (id : Int) (row : Row ρ) : Prop where
  fetched : t.find { id } = .ok row
  updated : ∀ (edit : Edit ρ) (value : ρ), edit row.value = (.ok (), value) →
    (t.update { id } edit).1 = .ok (edited { id } row value)
  removed : (t.remove { id }).1 = .ok row

theorem answers_of_row? {t : Table ρ} {id : Int} {row : Row ρ} (h : t.row? id = some row) :
    t.Answers id row := by
  have hfind : t.find { id } = .ok row := find_of_row? h nofun
  refine ⟨hfind, fun edit value hedit => ?_, ?_⟩
  · rw [update, hfind]
    simp only [hedit]
    rfl
  · rw [remove, removeIf, hfind]

end Table
end

/-- **Rows under their own ids.** Over any history of a table of any kind of records, all records
    hold the ids that they stand under up to a point if and only if every bulk change up to there
    kept the ids of the records it was shown; then each row that is shown, of a parent or in a list,
    is fetched, updated and removed by the id that it shows. -/
theorem ServiceName.identity (service : ServiceName) (h : History service.Kept) (n : Nat) :
    ((∀ k ≤ n, (h.before k).Keyed) ↔ ∀ k < n, (h k).KeepsIds (h.before k)) ∧
    ((h.before n).Keyed →
      (∀ scope, ∀ row ∈ (h.before n).scopeRows scope,
        (h.before n).Answers (Record.idOf row.value) row) ∧
      ∀ scope query keep, ∀ item ∈ ((h.before n).listWhere scope query keep).items,
        ∃ row, item = { row with value := Record.project query.fields row.value } ∧
          (h.before n).Answers (Record.idOf item.value) row) := by
  refine ⟨h.keyed_before_iff n, fun hkeyed => ⟨fun scope row hrow => ?_,
    fun scope query keep item hitem => ?_⟩⟩
  · obtain ⟨⟨id, hid⟩, -⟩ := Table.mem_scopeRows.1 hrow
    exact Table.answers_of_row? (by rwa [hkeyed id row hid])
  · obtain ⟨id, row, hid, rfl⟩ := Table.exists_of_mem_items hitem
    refine ⟨row, rfl, Table.answers_of_row? ?_⟩
    rwa [idOf_project, hkeyed id row hid]

/-- The bulk change of `History.turnover` keeps ids: the priority that is left shows the id 2. -/
theorem turnover_identity : (∀ k < 5, (History.turnover k).KeepsIds (History.turnover.before k)) ∧
    (History.turnover.before 5).Keyed := by
  have hkeeps : ∀ k < 5, (History.turnover k).KeepsIds (History.turnover.before k) := by
    intro k hk
    match k, hk with
    | 0, _ | 1, _ | 3, _ | 4, _ => trivial
    | 2, _ =>
      have hkeyed := (ServiceName.identity .priorities History.turnover 2).1.2 ?_ 2 (Nat.le_refl 2)
      · exact fun id row hrow _ => hkeyed id row hrow
      · intro k hk
        match k, hk with
        | 0, _ | 1, _ => trivial
  exact ⟨hkeeps, (ServiceName.identity .priorities History.turnover 5).1.2 hkeeps 5 (Nat.le_refl 5)⟩

/-- A priority, and bulk changes that give it the id 7. -/
def History.renumbered : History Priority
  | 0 => .insert { name := "high" }
  | _ => .modify (fun _ => true) fun _ r => (true, { r with id := 7 })

/-- The priority is listed with the id 7, still stands under the id 1, and is not found by the id
    that it shows. -/
theorem renumbered_astray :
    ((History.renumbered.before 2).list none { page := 1, size := 10 }).items =
      [⟨2, { id := 7, name := "high" }⟩] ∧
    ¬(History.renumbered.before 2).Keyed ∧
    (History.renumbered.before 2).find { id := 7 } = .error (.notFound "priority" 7) := by
  refine ⟨by decide, fun hkeyed => ?_, by decide⟩
  have hid := hkeyed 1 ⟨2, { id := 7, name := "high" }⟩ (by decide)
  exact absurd hid (by decide)

end CaseDesk
