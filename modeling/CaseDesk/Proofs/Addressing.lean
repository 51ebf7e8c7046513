/-
  How keys address rows.

  Fetching, updating and removing look a key up alike.  A key addresses the row
  under its id, in the parent that it names; the version that it names comes
  last, and has to be the current one.

  * `Table.Addresses`: a key addresses a row, whatever version it names.
  * `Table.Finds`: what looking up a key comes to, and when.  `find` comes to
    just this (`find_iff`).
  * `Table.Reaches`: all accesses by a key succeed on a row.  An edit or a check
    that refuses the record leaves the table alone.
  * `Table.Refuses`: all accesses by a key fail, for one reason.
  * `Table.accesses_agree`: a key reaches a row or is refused, and why.
-/
import CaseDesk.Proofs.Rows
import CaseDesk.Record.SlaCondition

namespace CaseDesk.Table

variable {ρ : Type} [Record ρ]

/-! ## Looking up -/

/-- A key addresses a row, whatever version it names: the row stands under the id of the key, and
    belongs to the parent that the key names, if it names one. -/
structure Addresses (t : Table ρ) (key : RowKey) (row : Row ρ) : Prop where
  held : t.row? key.id = some row
  scope : ∀ scope, key.scope = some scope → Record.scope row.value = some scope

/-- What looking up a key comes to: the row that it addresses, unless there is none or the key names
    a version that is not the current one. -/
inductive Finds (t : Table ρ) (key : RowKey) : Except StoreError (Row ρ) → Prop
  | missing (h : ∀ row, ¬ t.Addresses key row) :
      Finds t key (.error (.notFound (Record.kind ρ) key.id))
  | stale {row : Row ρ} {expected : Int} (h : t.Addresses key row)
      (hver : key.ver = some expected) (hne : expected ≠ row.ver) :
      Finds t key (.error (.versionMismatch (Record.kind ρ) key.id expected row.ver))
  | current {row : Row ρ} (h : t.Addresses key row)
      (hver : ∀ expected, key.ver = some expected → expected = row.ver) : Finds t key (.ok row)

variable {t : Table ρ} {key : RowKey}

/-- A key addresses one row at most. -/
theorem Addresses.unique {row row' : Row ρ} (h : t.Addresses key row)
    (h' : t.Addresses key row') : row = row' :=
  Option.some.inj (h.held.symm.trans h'.held)

/-- A key addresses no row if there is none under its id, or one outside of its parent. -/
theorem not_addresses_iff : (∀ row, ¬ t.Addresses key row) ↔
    t.row? key.id = none ∨ ∃ row scope, t.row? key.id = some row ∧ key.scope = some scope ∧
      Record.scope row.value ≠ some scope := by
  constructor
  · intro h
    rcases hrow : t.row? key.id with _ | row
    · exact .inl rfl
    · have hscope : ¬ ∀ scope, key.scope = some scope → Record.scope row.value = some scope :=
        fun hscope => h row ⟨hrow, hscope⟩
      obtain ⟨scope, hscope⟩ := Classical.not_forall.1 hscope
      obtain ⟨hkey, hforeign⟩ := Classical.not_imp.1 hscope
      exact .inr ⟨row, scope, rfl, hkey, hforeign⟩
  · rintro (hnone | ⟨row, scope, hrow, hkey, hforeign⟩) row' h
    · cases hnone.symm.trans h.held
    · cases hrow.symm.trans h.held
      exact hforeign (h.scope scope hkey)

theorem Finds.unique {out out' : Except StoreError (Row ρ)} (h : t.Finds key out)
    (h' : t.Finds key out') : out = out' := by
  cases h with
  | missing h =>
    cases h' with
    | missing => rfl
    | stale h' => exact absurd h' (h _)
    | current h' => exact absurd h' (h _)
  | stale h hver hne =>
    cases h' with
    | missing h' => exact absurd h (h' _)
    | stale h' hver' =>
      cases h.unique h'
      cases hver.symm.trans hver'
      rfl
    | current h' hver' =>
      cases h.unique h'
      exact absurd (hver' _ hver) hne
  | current h hver =>
    cases h' with
    | missing h' => exact absurd h (h' _)
    | stale h' hver' hne =>
      cases h.unique h'
      exact absurd (hver _ hver') hne
    | current h' => rw [h.unique h']

/-- The parent is looked at before the version. -/
theorem finds_find (t : Table ρ) (key : RowKey) : t.Finds key (t.find key) := by
  rcases hrow : t.row? key.id with _ | row
  · have hfind : t.find key = .error (.notFound (Record.kind ρ) key.id) := by rw [find, hrow]
    rw [hfind]
    exact .missing (not_addresses_iff.2 (.inl hrow))
  have hfind : t.find key = (check key row).map fun _ => row := by
    rw [find, hrow]
    rfl
  rw [hfind, check]
  cases hscope : key.scope.any fun scope => !inScope scope row.value with
  | true =>
    obtain ⟨scope, hkey, hout⟩ := (Option.any_eq_true _ _).1 hscope
    refine .missing (not_addresses_iff.2 (.inr ⟨row, scope, hrow, hkey, fun h => ?_⟩))
    rw [inScope_iff.2 h] at hout
    cases hout
  | false =>
    have haddress : t.Addresses key row := by
      refine ⟨hrow, fun scope hkey => inScope_iff.1 ?_⟩
      rwa [hkey, Option.any_some, Bool.not_eq_false'] at hscope
    rcases hver : key.ver with _ | expected
    · exact .current haddress fun _ h => by cases hver.symm.trans h
    · by_cases heq : expected = row.ver
      · have hcurrent : ∀ ver, key.ver = some ver → ver = row.ver := by
          intro ver hver'
          cases hver.symm.trans hver'
          exact heq
        simp only [heq, if_true]
        exact .current haddress hcurrent
      · simp only [heq, if_false]
        exact .stale haddress hver heq

theorem find_iff {out : Except StoreError (Row ρ)} : t.find key = out ↔ t.Finds key out :=
  ⟨fun h => h ▸ finds_find t key, (finds_find t key).unique⟩

/-! ## Accesses -/

/-- All accesses by a key succeed on a row, unless the edit or the check that comes with them
    refuses its record; then that error is given, and the table stays as it is. -/
structure Reaches (t : Table ρ) (key : RowKey) (row : Row ρ) : Prop where
  fetched : t.find key = .ok row
  updated : ∀ (edit : Edit ρ) (value : ρ), edit row.value = (.ok (), value) →
    t.update key edit = (.ok (edited key row value), t.put key.id (some (edited key row value)))
  removedIf : ∀ accept : ρ → Except ServiceError Unit, accept row.value = .ok () →
    t.removeIf key accept = (.ok row, t.put key.id none)
  removed : t.remove key = (.ok row, t.put key.id none)
  editFailed : ∀ (edit : Edit ρ) (e : ServiceError) (copy : ρ), edit row.value = (.error e, copy) →
    t.update key edit = (.error e, t)
  checkFailed : ∀ (accept : ρ → Except ServiceError Unit) (e : ServiceError),
    accept row.value = .error e → t.removeIf key accept = (.error e, t)

/-- All accesses by a key fail for one reason, whatever edit or check comes with them, and leave the
    table as it is. -/
structure Refuses (t : Table ρ) (key : RowKey) (why : StoreError) : Prop where
  fetched : t.find key = .error why
  updated : ∀ edit : Edit ρ, t.update key edit = (.error (.store why), t)
  removedIf : ∀ accept : ρ → Except ServiceError Unit,
    t.removeIf key accept = (.error (.store why), t)
  removed : t.remove key = (.error (.store why), t)

theorem reaches_iff {row : Row ρ} : t.Reaches key row ↔ t.find key = .ok row := by
  refine ⟨Reaches.fetched, fun h => ?_⟩
  have hremoveIf (accept : ρ → Except ServiceError Unit) (haccept : accept row.value = .ok ()) :
      t.removeIf key accept = (.ok row, t.put key.id none) := by
    simp only [removeIf, h, haccept]
  refine ⟨h, fun edit value hedit => ?_, hremoveIf, hremoveIf _ rfl, fun edit e copy hedit => ?_,
    fun accept e haccept => ?_⟩
  · simp only [update, h, hedit, edited]
  · simp only [update, h, hedit]
  · simp only [removeIf, h, haccept]

theorem refuses_iff {why : StoreError} : t.Refuses key why ↔ t.find key = .error why := by
  refine ⟨Refuses.fetched, fun h => ?_⟩
  have hremoveIf (accept : ρ → Except ServiceError Unit) :
      t.removeIf key accept = (.error (.store why), t) := by
    simp only [removeIf, h]
  exact ⟨h, fun edit => by simp only [update, h], hremoveIf, hremoveIf _⟩

/-- **All accesses address rows alike.**  By any key, fetching, updating, removing and removing
    under a check all succeed on one row, or all fail for one reason: that the row is missing, just
    if none stands under the id or the key names a parent that is not the row's; that it is at
    another version, just if the row is addressed but the key names a version that is not the
    current one.  An edit or a check that refuses the record gives its own error and leaves the
    table as it is. -/
theorem accesses_agree (t : Table ρ) (key : RowKey) :
    ((∃ row, t.Reaches key row) ∨ ∃ why, t.Refuses key why) ∧
    (∀ row, t.Reaches key row ↔ t.Addresses key row ∧
      ∀ expected, key.ver = some expected → expected = row.ver) ∧
    (∀ why, t.Refuses key why →
      why = .notFound (Record.kind ρ) key.id ∨
        ∃ expected current, why = .versionMismatch (Record.kind ρ) key.id expected current) ∧
    (t.Refuses key (.notFound (Record.kind ρ) key.id) ↔
      t.row? key.id = none ∨ ∃ row scope, t.row? key.id = some row ∧ key.scope = some scope ∧
        Record.scope row.value ≠ some scope) ∧
    ∀ expected current,
      t.Refuses key (.versionMismatch (Record.kind ρ) key.id expected current) ↔
        ∃ row, t.Addresses key row ∧ key.ver = some expected ∧ row.ver = current ∧
          expected ≠ current := by
  simp only [reaches_iff, refuses_iff, find_iff, ← not_addresses_iff]
  refine ⟨?_, fun row => ⟨?_, fun h => .current h.1 h.2⟩, fun why h => ?_, ⟨?_, .missing⟩,
    fun expected current => ⟨?_, ?_⟩⟩
  · rcases hfind : t.find key with why | row
    · exact .inr ⟨why, find_iff.1 hfind⟩
    · exact .inl ⟨row, find_iff.1 hfind⟩
  · rintro (_ | _ | ⟨haddress, hver⟩)
    exact ⟨haddress, hver⟩
  · cases h with
    | missing => exact .inl rfl
    | stale => exact .inr ⟨_, _, rfl⟩
  · rintro (h | _ | _)
    exact h
  · rintro (_ | ⟨haddress, hver, hne⟩ | _)
    exact ⟨_, haddress, hver, rfl, hne⟩
  · rintro ⟨row, haddress, hver, rfl, hne⟩
    exact .stale haddress hver hne

/-- A table with one condition, of the agreement 1. -/
def oneCondition : Table SlaCondition := (Table.insert {} { name := "day", slaId := 1 }).2

/-- A key that names another agreement and a version that is not the current one is refused for the
    agreement, and one that names only such a version for the version. -/
theorem oneCondition_agrees :
    oneCondition.Refuses { id := 1, scope := some 2, ver := some 9 } (.notFound "sla condition" 1) ∧
    oneCondition.Refuses { id := 1, scope := some 1, ver := some 9 }
      (.versionMismatch "sla condition" 1 9 1) := by
  have hrow : oneCondition.row? 1 = some ⟨1, { id := 1, name := "day", slaId := 1 }⟩ := by decide
  constructor
  · exact (accesses_agree oneCondition _).2.2.2.1.2 (.inr ⟨_, 2, hrow, rfl, by decide⟩)
  · exact ((accesses_agree oneCondition _).2.2.2.2 9 1).2
      ⟨_, ⟨hrow, fun _ h => h⟩, rfl, rfl, by decide⟩

end CaseDesk.Table
