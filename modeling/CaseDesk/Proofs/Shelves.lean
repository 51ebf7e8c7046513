/-
  The tables of the services, and how many versions they have left.

  * `ServiceName.Kept`, `ServiceName.shelf`: the records that a service keeps,
    and their table.
  * `ServiceName.copyField_cases`: what a name copies of a record.
  * `Tables.Steps.shelf`, `Tables.Keyed.shelf`: what holds of all tables, for
    that of a service.
  * `Tables.BelowLimit`, `Run.BelowLimit`: every row has a next version, at one
    time and all through a run.
-/
import CaseDesk.Proofs.Runs

namespace CaseDesk

namespace ServiceName

/-! ## Records -/

/-- The kind of records that a service keeps. -/
abbrev Kept : ServiceName → Type
  | slas => Sla
  | slaConditions => SlaCondition
  | closeReasons => CloseReason
  | reasons => Reason
  | sources => Source
  | statuses => CaseStatus
  | statusConditions => StatusCondition
  | priorities => Priority
  | caseComments => CaseComment
  | caseLinks => CaseLink

/-- What a service keeps are records. -/
instance (priority := low) instRecord : (service : ServiceName) → Record service.Kept
  | slas => inferInstanceAs (Record Sla)
  | slaConditions => inferInstanceAs (Record SlaCondition)
  | closeReasons => inferInstanceAs (Record CloseReason)
  | reasons => inferInstanceAs (Record Reason)
  | sources => inferInstanceAs (Record Source)
  | statuses => inferInstanceAs (Record CaseStatus)
  | statusConditions => inferInstanceAs (Record StatusCondition)
  | priorities => inferInstanceAs (Record Priority)
  | caseComments => inferInstanceAs (Record CaseComment)
  | caseLinks => inferInstanceAs (Record CaseLink)

variable {service : ServiceName}

/-- Each name copies the field that is called so. -/
theorem copies_fields : ∀ entry ∈ Record.copies service.Kept, ∃ f,
    (Record.schema (ρ := service.Kept)).fields.find? (·.name == entry.1) = some f ∧
      f.copy = entry.2 := by
  intro entry hentry
  cases service <;> repeat (rcases hentry with _ | ⟨_, hentry⟩; · exact ⟨_, rfl, rfl⟩)
  all_goals cases hentry

/-- A name copies the field that is called so, or nothing. -/
theorem copyField_cases (source target : service.Kept) (name : String) :
    (name ∉ (Record.copies service.Kept).map Prod.fst ∧
      Record.copyField source target name = target) ∨
    (name ∈ (Record.copies service.Kept).map Prod.fst ∧
      ∃ f ∈ (Record.schema (ρ := service.Kept)).fields, f.name = name ∧
        Record.copyField source target name = f.copy source target) := by
  unfold Record.copyField
  rcases hlookup : (Record.copies service.Kept).lookup name with _ | copy
  · refine .inl ⟨fun hname => ?_, rfl⟩
    obtain ⟨entry, hentry, rfl⟩ := List.mem_map.1 hname
    simpa using List.lookup_eq_none_iff.1 hlookup entry hentry
  · obtain ⟨before, after, hcopies, -⟩ := List.lookup_eq_some_iff.1 hlookup
    have hentry : (name, copy) ∈ Record.copies service.Kept := by simp [hcopies]
    obtain ⟨f, hfind, rfl⟩ := copies_fields _ hentry
    exact .inr ⟨List.mem_map_of_mem hentry, f, List.mem_of_find?_eq_some hfind,
      by simpa using List.find?_some hfind, rfl⟩

/-- Copying a field from a record with the same id keeps the id. -/
theorem idOf_copy {f : Field service.Kept} (hf : f ∈ Record.schema.fields)
    {source target : service.Kept} (h : Record.idOf source = Record.idOf target) :
    Record.idOf (f.copy source target) = Record.idOf target := by
  cases service <;> repeat (rcases hf with _ | ⟨_, hf⟩; · first | rfl | exact h)
  all_goals cases hf

theorem idOf_copyField (source target : service.Kept) (name : String)
    (h : Record.idOf source = Record.idOf target) :
    Record.idOf (Record.copyField source target name) = Record.idOf target := by
  rcases copyField_cases source target name with ⟨-, hcopy⟩ | ⟨-, f, hf, -, hcopy⟩
  · rw [hcopy]
  · rw [hcopy]
    exact idOf_copy hf h

/-- A record that is cut down to fields keeps its id. -/
theorem idOf_project (names : List String) (r : service.Kept) :
    Record.idOf (Record.project names r) = Record.idOf r := by
  have hfold : ∀ target : service.Kept, Record.idOf target = Record.idOf r →
      Record.idOf (names.foldl (Record.copyField r) target) = Record.idOf r := by
    induction names with
    | nil => exact fun _ h => h
    | cons name names ih => exact fun _ h => ih _ ((idOf_copyField r _ name h.symm).trans h)
  unfold Record.project
  split
  · rfl
  · exact hfold _ (Record.idOf_withId _ _)

/-! ## Tables -/

/-- The table of a service. -/
def shelf : (service : ServiceName) → Shelf service.Kept
  | slas => Slas.desk.shelf
  | slaConditions => SlaConditions.desk.shelf
  | closeReasons => CloseReasons.desk.shelf
  | reasons => Reasons.desk.shelf
  | sources => Sources.desk.shelf
  | statuses => Statuses.desk.shelf
  | statusConditions => StatusConditions.desk.shelf
  | priorities => Priorities.desk.shelf
  | caseComments => CaseComments.desk.shelf
  | caseLinks => CaseLinks.desk.shelf

end ServiceName

/-- Every table went through writes of its own. -/
theorem Tables.Steps.shelf {s s' : Tables} (h : s.Steps s') (service : ServiceName) :
    Table.Steps (service.shelf.get s) (service.shelf.get s') := by
  cases service with
  | slas => exact h.slas
  | slaConditions => exact h.slaConditions
  | closeReasons => exact h.closeReasons
  | reasons => exact h.reasons
  | sources => exact h.sources
  | statuses => exact h.statuses
  | statusConditions => exact h.statusConditions
  | priorities => exact h.priorities
  | caseComments => exact h.comments
  | caseLinks => exact h.links

theorem Tables.Keyed.shelf {s : Tables} (h : s.Keyed) (service : ServiceName) :
    (service.shelf.get s).Keyed := by
  cases service with
  | slas => exact h.slas
  | slaConditions => exact h.slaConditions
  | closeReasons => exact h.closeReasons
  | reasons => exact h.reasons
  | sources => exact h.sources
  | statuses => exact h.statuses
  | statusConditions => exact h.statusConditions
  | priorities => exact h.priorities
  | caseComments => exact h.comments
  | caseLinks => exact h.links

theorem Tables.Steps.evolves {s s' : Tables} (h : s.Steps s') (service : ServiceName) :
    (service.shelf.get s).Evolves (service.shelf.get s') := Table.evolves_of_steps (h.shelf service)

/-! ## Versions below their limit -/

/-- No row is at the last version, so that each has a next one. -/
def Table.BelowLimit {ρ : Type} (t : Table ρ) : Prop := ∀ row ∈ t.rows, row.ver < Int32.maxValue

instance {ρ : Type} (t : Table ρ) : Decidable t.BelowLimit :=
  inferInstanceAs (Decidable (∀ row ∈ t.rows, row.ver < Int32.maxValue))

theorem Table.BelowLimit.row {ρ : Type} {t : Table ρ} (h : t.BelowLimit) {id : Int} {row : Row ρ}
    (hrow : t.row? id = some row) : row.ver < Int32.maxValue := forall_mem_rows.1 h id row hrow

/-- No row of any table is at the last version. -/
def Tables.BelowLimit (s : Tables) : Prop :=
  ∀ service : ServiceName, (service.shelf.get s).BelowLimit

theorem ServiceName.mem_all (service : ServiceName) : service ∈ all := by
  cases service <;> decide

instance (s : Tables) : Decidable s.BelowLimit :=
  decidable_of_iff (∀ service ∈ ServiceName.all, (service.shelf.get s).BelowLimit)
    ⟨fun h service => h service service.mem_all, fun h service _ => h service⟩

/-- No row is ever at the last version in the states of a run. -/
def Run.BelowLimit (run : Run) : Prop := ∀ n, (run.before n).BelowLimit

theorem Run.belowLimit_iff {run : Run} :
    (∀ n < run.length + 1, (run.before n).BelowLimit) ↔ run.BelowLimit := by
  refine ⟨fun h n => ?_, fun h n _ => h n⟩
  induction n with
  | zero => exact h 0 (Nat.succ_pos _)
  | succ n ih =>
    by_cases hn : n < run.length
    · exact h (n + 1) (Nat.succ_lt_succ hn)
    · rwa [before_succ_of_none (List.getElem?_eq_none (Nat.le_of_not_lt hn))]

instance (run : Run) : Decidable run.BelowLimit := decidable_of_iff _ Run.belowLimit_iff

end CaseDesk
