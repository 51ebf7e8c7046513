/-
  The initial conditions of statuses.

  What matters of a condition is its status and whether it is initial
  (`StatusConditions.flags`).  All changes come down to four: one condition is
  promoted, one that is not initial joins others, one leaves, or all of a
  status leave together.  Each of them keeps one initial condition for every
  status that has conditions (`Flags.OneInitial`).

  * `StatusConditions.oneInitial_step`: the desk makes only such changes.
  * `Reachable.unique_initial`: of the conditions of a status one is initial.
-/
import CaseDesk.Proofs.Runs
import Mathlib.Logic.ExistsUnique

namespace CaseDesk

namespace StatusConditions

/-! ## Flags -/

/-- The status of the condition with each id, and whether the condition is initial. -/
abbrev Flags : Type := Int → Option (Int × Bool)

/-- The flags of the conditions in a table. -/
def flags (t : Table StatusCondition) : Flags := t.view fun c => (c.statusId, c.initial)

/-- Where a status has conditions, one of them is initial. -/
structure Flags.OneInitial (f : Flags) : Prop where
  holder : ∀ {id status flag}, f id = some (status, flag) → ∃ i, f i = some (status, true)
  unique : ∀ {i j status}, f i = some (status, true) → f j = some (status, true) → i = j

namespace Flags.OneInitial

variable {f g : Flags}

/-- One condition becomes initial and takes the flag from the rest of its status. -/
theorem promote (h : f.OneInitial) {keep status : Int} (hkeep : g keep = some (status, true))
    (hold : ∀ p, f keep = some p → p.1 = status)
    (hrest : ∀ id, id ≠ keep → g id = (f id).map fun p => (p.1, p.2 && p.1 != status)) :
    g.OneInitial := by
  -- elsewhere nothing is initial in this status, and all is as it was in the others
  have hother : ∀ {id st flag}, g id = some (st, flag) → id ≠ keep →
      (st = status → flag = false) ∧ (st ≠ status → f id = some (st, flag)) := by
    intro id st flag hid hne
    rw [hrest id hne, Option.map_eq_some_iff] at hid
    obtain ⟨⟨st', flag'⟩, hf, heq⟩ := hid
    cases heq
    exact ⟨fun (hst : st' = status) => by simp [hst],
      fun (hst : st' ≠ status) => by simp [hf, hst]⟩
  have hback : ∀ {id st}, f id = some (st, true) → st ≠ status → g id = some (st, true) := by
    intro id st hid hst
    have hne : id ≠ keep := by rintro rfl; exact hst (hold _ hid)
    rw [hrest id hne, hid]
    simp [hst]
  constructor
  · intro id st flag hid
    by_cases hst : st = status
    · exact ⟨keep, hst ▸ hkeep⟩
    · have hne : id ≠ keep := by
        rintro rfl
        rw [hkeep] at hid
        cases hid
        exact hst rfl
      obtain ⟨i, hi⟩ := h.holder ((hother hid hne).2 hst)
      exact ⟨i, hback hi hst⟩
  · have hkept : ∀ {i}, g i = some (status, true) → i = keep := by
      intro i hi
      by_cases hne : i = keep
      · exact hne
      · cases (hother hi hne).1 rfl
    intro i j st hi hj
    by_cases hst : st = status
    · subst hst
      rw [hkept hi, hkept hj]
    · have hne : ∀ {i}, g i = some (st, true) → i ≠ keep := by
        rintro i hi rfl
        rw [hkeep] at hi
        cases hi
        exact hst rfl
      exact h.unique ((hother hi (hne hi)).2 hst) ((hother hj (hne hj)).2 hst)

/-- A condition that is not initial joins others of its status. -/
theorem join (h : f.OneInitial) {new other status : Int} {flag : Bool} (hnew : f new = none)
    (hother : f other = some (status, flag))
    (hg : ∀ id, g id = if id = new then some (status, false) else f id) : g.OneInitial := by
  have hkept : ∀ {i p}, f i = some p → g i = some p := by
    intro i p hi
    rw [hg, if_neg, hi]
    rintro rfl
    rw [hnew] at hi
    cases hi
  have hback : ∀ {i st}, g i = some (st, true) → f i = some (st, true) := by
    intro i st hi
    rw [hg] at hi
    split_ifs at hi
    · cases hi
    · exact hi
  constructor
  · intro id st flag' hid
    have hf : ∃ j flag, f j = some (st, flag) := by
      rw [hg] at hid
      split_ifs at hid
      · cases hid
        exact ⟨other, flag, hother⟩
      · exact ⟨id, flag', hid⟩
    obtain ⟨j, _, hj⟩ := hf
    obtain ⟨i, hi⟩ := h.holder hj
    exact ⟨i, hkept hi⟩
  · exact fun hi hj => h.unique (hback hi) (hback hj)

/-- A condition leaves that is not initial, or is the last one of its status. -/
theorem leave (h : f.OneInitial) {gone status : Int} {flag : Bool}
    (hgone : f gone = some (status, flag))
    (hlast : flag = true → ∀ i flag', f i = some (status, flag') → i = gone)
    (hg : ∀ id, g id = if id = gone then none else f id) : g.OneInitial := by
  have hback : ∀ {i p}, g i = some p → i ≠ gone ∧ f i = some p := by
    intro i p hi
    rw [hg] at hi
    split_ifs at hi with hne
    exact ⟨hne, hi⟩
  constructor
  · intro id st flag' hid
    obtain ⟨hne, hf⟩ := hback hid
    obtain ⟨i, hi⟩ := h.holder hf
    have hstay : i ≠ gone := by
      rintro rfl
      rw [hgone] at hi
      cases hi
      exact hne (hlast rfl id flag' hf)
    exact ⟨i, by rw [hg, if_neg hstay, hi]⟩
  · exact fun hi hj => h.unique (hback hi).2 (hback hj).2

/-- All conditions of some statuses leave. -/
theorem filter (h : f.OneInitial) (stays : Int → Bool)
    (hg : ∀ id, g id = (f id).filter fun p => stays p.1) : g.OneInitial := by
  have hiff : ∀ {id p}, g id = some p ↔ f id = some p ∧ stays p.1 = true := by
    intro id p
    rw [hg, Option.filter_eq_some_iff]
  constructor
  · intro id st flag hid
    obtain ⟨hf, hst⟩ := hiff.1 hid
    obtain ⟨i, hi⟩ := h.holder hf
    exact ⟨i, hiff.2 ⟨hi, hst⟩⟩
  · exact fun hi hj => h.unique (hiff.1 hi).1 (hiff.1 hj).1

end Flags.OneInitial

/-! ## Flags of tables -/

theorem flags_eq_some {t : Table StatusCondition} {id status : Int} {flag : Bool} :
    flags t id = some (status, flag) ↔
      ∃ row, t.row? id = some row ∧ row.value.statusId = status ∧ row.value.initial = flag := by
  simp only [flags, Table.view_eq_some, Prod.mk.injEq]

theorem inScope_iff {status : Int} {condition : StatusCondition} :
    Table.inScope status condition = true ↔ condition.statusId = status :=
  Table.inScope_iff.trans Option.some_inj

theorem flags_removeScope (t : Table StatusCondition) (status id : Int) :
    flags (t.removeScope status).2 id = (flags t id).filter fun p => p.1 != status := by
  rw [flags, flags, Table.view, Table.view, Table.row?_removeScope]
  rcases t.row? id with _ | row
  · rfl
  · by_cases h : row.value.statusId = status <;>
      simp [Option.filter, Table.inScope, Record.scope, h]

theorem statusId_clearInitial (keep : Int) (condition : StatusCondition) :
    (clearInitial keep condition).2.statusId = condition.statusId := by
  unfold clearInitial
  split_ifs <;> rfl

theorem initial_clearInitial (keep : Int) (condition : StatusCondition) :
    (clearInitial keep condition).2.initial = (condition.initial && condition.id == keep) := by
  unfold clearInitial
  by_cases hid : condition.id = keep
  · simp [hid]
  · cases hflag : condition.initial <;> simp [hid, hflag]

/-- In a table where conditions hold their own ids, clearing the flag of a status leaves it to the
    condition that is to keep it. -/
theorem flags_clearInitial {t : Table StatusCondition} (hk : t.Keyed) (status keep id : Int) :
    flags (t.modifyScope status (clearInitial keep)).2 id =
      (flags t id).map fun p => (p.1, p.2 && (p.1 != status || id == keep)) := by
  rw [flags, flags, Table.view, Table.view, Table.modifyScope, Table.row?_modifyWhere]
  rcases hrow : t.row? id with _ | row
  · rfl
  · have hid : row.value.id = id := hk id row hrow
    by_cases hs : row.value.statusId = status
    · simp [inScope_iff.2 hs, Table.changeRow, statusId_clearInitial, initial_clearInitial, hid, hs]
    · have hout : Table.inScope status row.value = false :=
        Bool.eq_false_iff.2 fun h => hs (inScope_iff.1 h)
      simp [hout, hs]

/-! ## Writes -/

/-- A condition that is not initial is added to a status that has conditions. -/
theorem oneInitial_insert {t : Table StatusCondition} (h : (flags t).OneInitial)
    {new : StatusCondition} (hnew : new.initial = false)
    (hothers : t.scopeRows new.statusId ≠ []) : (flags (t.insert new).2).OneInitial := by
  obtain ⟨other, hother⟩ := List.exists_mem_of_ne_nil _ hothers
  obtain ⟨⟨i, hi⟩, hscope⟩ := Table.mem_scopeRows.1 hother
  have hstatus := inScope_iff.1 hscope
  have hheld : flags t i = some (new.statusId, other.value.initial) :=
    hstatus ▸ Table.view_of_row? hi
  refine h.join (Table.view_next t) hheld fun id => ?_
  rw [← hnew]
  exact Table.view_insert t new id

/-- A condition is replaced by one with the same flag in the same status. -/
theorem flags_put {t : Table StatusCondition} {key : Int} {old row : Row StatusCondition}
    (hold : t.row? key = some old) (hstatus : row.value.statusId = old.value.statusId)
    (hinitial : row.value.initial = old.value.initial) :
    flags (t.put key (some row)) = flags t := by
  funext id
  rw [flags, Table.view_put hold]
  split_ifs with hid
  · rw [hid, flags, Table.view_of_row? hold, ← hstatus, ← hinitial]; rfl
  · rfl

/-- A condition is removed that is not initial, or is the last one of its status. -/
theorem oneInitial_remove {t : Table StatusCondition} (h : (flags t).OneInitial) (hk : t.Keyed)
    {key : Int} {old : Row StatusCondition} (hold : t.row? key = some old)
    (hlast : old.value.initial = true → (t.scopeRows old.value.statusId).length ≤ 1) :
    (flags (t.put key none)).OneInitial := by
  refine h.leave (Table.view_of_row? hold) (fun hinitial i flag hi => ?_) (Table.view_put hold none)
  obtain ⟨row, hrow, hstatus, -⟩ := flags_eq_some.1 hi
  have hmem : row ∈ t.scopeRows old.value.statusId :=
    Table.mem_scopeRows.2 ⟨⟨i, hrow⟩, inScope_iff.2 hstatus⟩
  have hmem' : old ∈ t.scopeRows old.value.statusId :=
    Table.mem_scopeRows.2 ⟨⟨key, hold⟩, inScope_iff.2 rfl⟩
  obtain ⟨last, hrows⟩ := List.length_eq_one_iff.1
    (Nat.le_antisymm (hlast hinitial) (List.length_pos_of_mem hmem))
  rw [hrows, List.mem_singleton] at hmem hmem'
  rw [hmem, ← hmem'] at hrow
  exact hk.id_eq hrow hold

/-- A condition that was just made initial, among conditions that else are as they were, takes the
    flag from the rest of its status. -/
theorem oneInitial_clearInitial {t t' : Table StatusCondition} (h : (flags t).OneInitial)
    (hk : t'.Keyed) {keep : Int} {row : Row StatusCondition} (hrow : t'.row? keep = some row)
    (hinitial : row.value.initial = true)
    (hold : ∀ old, t.row? keep = some old → old.value.statusId = row.value.statusId)
    (hrest : ∀ id, id ≠ keep → t'.row? id = t.row? id) :
    (flags (t'.modifyScope row.value.statusId (clearInitial row.value.id)).2).OneInitial := by
  have hid : row.value.id = keep := hk keep row hrow
  rw [hid]
  have hkeep : flags (t'.modifyScope row.value.statusId (clearInitial keep)).2 keep =
      some (row.value.statusId, true) := by
    rw [flags_clearInitial hk, flags, Table.view_of_row? hrow, hinitial]
    simp
  refine h.promote hkeep (fun p hp => ?_) fun id hne => ?_
  · obtain ⟨old, hrow, hstatus, -⟩ := flags_eq_some.1 hp
    exact hstatus ▸ hold old hrow
  · have hflags : flags t' id = flags t id := by
      rw [flags, flags, Table.view, Table.view, hrest id hne]
    rw [flags_clearInitial hk, hflags, beq_eq_false_iff_ne.2 hne]
    simp only [Bool.or_false]

/-! ## Rules of the desk -/

theorem apply_eq_ok {mask : FieldMask} {input : StatusConditionInput} {old new : StatusCondition}
    (h : apply mask input old = .ok new) : new.statusId = old.statusId := by
  obtain ⟨_, -, h⟩ := bind_eq_ok.1 h
  cases h
  rfl

/-- A new condition is initial if its status has none yet. -/
theorem draft_eq_ok {tables : Tables} {status : Int} {input : Option StatusConditionInput}
    {new : StatusCondition} (h : draft tables status input = .ok new) :
    tables.statusConditions.scopeRows new.statusId = [] → new.initial = true := by
  obtain ⟨_, -, h⟩ := bind_eq_ok.1 h
  obtain ⟨status, -, h⟩ := bind_eq_ok.1 h
  obtain ⟨new', hnew, h⟩ := bind_eq_ok.1 h
  have hstatus := apply_eq_ok hnew
  cases h
  split_ifs with hfirst
  · exact fun _ => rfl
  · intro hnone
    rw [hstatus] at hnone
    exact absurd (List.isEmpty_iff.2 hnone) hfirst

/-- A revised condition stays in its status, and an initial one stays initial. -/
theorem revision_eq_ok {tables : Tables} {key : ChildKey} {input : Option StatusConditionInput}
    {mask : FieldMask} {row : RowKey}
    {change : Caller → StatusCondition → Except ServiceError StatusCondition}
    (h : desk.revision tables key input mask = .ok (row, change)) {caller : Caller}
    {old new : StatusCondition} (hnew : change caller old = .ok new) :
    new.statusId = old.statusId ∧ (old.initial = true → new.initial = true) := by
  obtain ⟨_, -, h⟩ := bind_eq_ok.1 h
  obtain ⟨_, -, h⟩ := bind_eq_ok.1 h
  cases h
  obtain ⟨new', hnew', hnew⟩ := bind_eq_ok.1 hnew
  have hstatus := apply_eq_ok hnew'
  dsimp only at hnew
  split at hnew
  · cases hnew
  case isFalse hkept =>
    cases hnew
    exact ⟨hstatus, fun hold => by simpa [hold] using hkept⟩

/-- An initial condition is removed only as the last one of its status. -/
theorem removal_eq_ok {tables : Tables} {key : ChildKey} {row : RowKey}
    {allow : Caller → StatusCondition → Except ServiceError Unit}
    (h : removal tables key = .ok (row, allow)) :
    ∃ status, row.scope = some status ∧ ∀ caller condition, allow caller condition = .ok () →
      condition.initial = true → (tables.statusConditions.scopeRows status).length ≤ 1 := by
  obtain ⟨status, -, h⟩ := bind_eq_ok.1 h
  cases h
  refine ⟨status, rfl, fun _ condition hallow hinitial => ?_⟩
  dsimp only at hallow
  split_ifs at hallow with hmany
  exact Nat.le_of_not_lt fun hlt => hmany ⟨hinitial, hlt⟩

/-! ## Steps -/

/-- What follows from a change of a condition takes the flag from the rest of its status if the
    condition has become initial. -/
theorem get_settled (before : Option (Row StatusCondition)) (row : Row StatusCondition)
    (s : Tables) :
    (settled before row s).statusConditions =
      if row.value.initial ∧ ¬ before.any (·.value.initial) then
        (s.statusConditions.modifyScope row.value.statusId (clearInitial row.value.id)).2
      else s.statusConditions := by
  unfold settled
  split_ifs <;> rfl

theorem oneInitial_step {ctx : Context} {s s' : Tables}
    {r : Request Int Unit ChildKey StatusConditionInput}
    {out : Except ServiceError (Reply StatusCondition)} (hstep : desk.Step ctx s r out s')
    (hk : s.statusConditions.Keyed) (h : (flags s.statusConditions).OneInitial) :
    (flags s'.statusConditions).OneInitial := by
  cases hstep with
  | refused | listed | located => exact h
  | created _ hdraft new hnew =>
    have hfirst := draft_eq_ok hdraft
    change (flags (settled _ _ _).statusConditions).OneInitial
    rw [get_settled]
    by_cases hinitial : new.initial = true
    -- also the first condition of a status, though there is no flag to take from others
    · rw [if_pos ⟨hinitial, by simp⟩]
      refine oneInitial_clearInitial h (hk.step (.inserted new)) (Table.row?_insert_self _ new)
        hinitial (fun old hold => ?_) fun id hne => ?_
      · cases (Table.row?_next s.statusConditions).symm.trans hold
      · rw [Table.row?_insert, if_neg hne]
    · rw [if_neg fun hand => hinitial hand.1]
      refine oneInitial_insert h (Bool.eq_false_iff.2 hinitial) fun hnone => hinitial ?_
      subst hnew
      exact hfirst hnone
  | @updated r caller key revise old value _ hrevision hfind hrevise row hrow =>
    obtain ⟨hstatus, hkept⟩ := revision_eq_ok hrevision hrevise
    have hold : s.statusConditions.row? key.id = some old := Table.row?_of_find hfind
    have hk' : (s.statusConditions.put key.id (some row)).Keyed :=
      hrow ▸ hk.step (.updated _ hfind)
    have hrowstatus : row.value.statusId = old.value.statusId := by rw [hrow]; exact hstatus
    have hrowinitial : row.value.initial = value.initial := by rw [hrow]; rfl
    change (flags (settled _ _ _).statusConditions).OneInitial
    rw [get_settled]
    split_ifs with hbecomes
    -- the condition was promoted; otherwise its flag is what it was, as it cannot be given up
    · refine oneInitial_clearInitial h hk' (Table.row?_put_self hold _) hbecomes.1
        (fun old' hold' => ?_) fun id hne => ?_
      · cases hold.symm.trans hold'
        exact hrowstatus.symm
      · exact (Table.row?_put hold _ id).trans (if_neg hne)
    · change (flags (s.statusConditions.put key.id (some row))).OneInitial
      have hsame : row.value.initial = old.value.initial := by
        rw [hrowinitial] at hbecomes ⊢
        refine Bool.eq_iff_iff.2 ⟨fun hnew => ?_, hkept⟩
        exact Decidable.byContradiction fun hno => hbecomes ⟨hnew, hno⟩
      rw [flags_put hold hrowstatus hsame]
      exact h
  | @deleted r caller key allow old _ hremoval hfind hallow =>
    obtain ⟨status, hscope, hlast⟩ := removal_eq_ok hremoval
    have hstatus := inScope_iff.1 (Table.inScope_of_find hfind hscope)
    refine oneInitial_remove h hk (Table.row?_of_find hfind) fun hinitial => ?_
    rw [hstatus]
    exact hlast caller old.value hallow hinitial

end StatusConditions

/-- No other desk touches the conditions, except that removing a status removes its own. -/
theorem Call.Step.oneInitial {call : Call} {ctx : Context} {s s' : Tables}
    {out : Except ServiceError Answer} (hstep : call.Step ctx s out s') (hk : s.Keyed)
    (h : (StatusConditions.flags s.statusConditions).OneInitial) :
    (StatusConditions.flags s'.statusConditions).OneInitial := by
  have hleft : s'.statusConditions = s.statusConditions →
      (StatusConditions.flags s'.statusConditions).OneInitial := fun he => he ▸ h
  cases hstep with
  | slas hstep | slaConditions hstep | closeReasons hstep | reasons hstep | sources hstep
  | caseComments hstep | caseLinks hstep =>
    exact hleft (hstep.part_eq ({} : Desk.Leaves _ (·.statusConditions)))
  | priorities hstep =>
    have hleaves : Priorities.desk.Leaves (·.statusConditions) := Priorities.leaves
    exact hleft (hstep.part_eq hleaves)
  | statuses hstep =>
    cases hstep with
    | refused | listed | located | created | updated => exact h
    | deleted => exact h.filter (· != _) (StatusConditions.flags_removeScope s.statusConditions _)
  | statusConditions hstep => exact StatusConditions.oneInitial_step hstep hk.statusConditions h

theorem Reachable.oneInitial {s : Tables} (h : Reachable s) :
    (StatusConditions.flags s.statusConditions).OneInitial := by
  induction h with
  | start =>
    have hnone : ∀ {id p}, StatusConditions.flags {} id ≠ some p := by
      intro id p hid
      cases (Table.view_empty id).symm.trans hid
    exact ⟨fun hid => absurd hid hnone, fun hi => absurd hi hnone⟩
  | @call s hs ctx call ih => exact (call.step_run ctx s).oneInitial hs.keyed ih

/-- **Of the conditions of a status exactly one is initial.** -/
theorem Reachable.unique_initial {s : Tables} (h : Reachable s) {status id : Int}
    {row : Row StatusCondition} (hrow : s.statusConditions.row? id = some row)
    (hstatus : row.value.statusId = status) :
    ∃! i, ∃ row, s.statusConditions.row? i = some row ∧ row.value.statusId = status ∧
      row.value.initial = true := by
  obtain ⟨i, hi⟩ := h.oneInitial.holder (Table.view_of_row? hrow)
  rw [hstatus] at hi
  refine ⟨i, StatusConditions.flags_eq_some.1 hi, fun j hj => ?_⟩
  exact h.oneInitial.unique (StatusConditions.flags_eq_some.2 hj) hi

/-- A status has two conditions, of which the second has taken the flag from the first. -/
def twoConditions : Run :=
  [.bySuperuser (.statuses (.create ⟨(), some ⟨"open", ""⟩⟩)),
    .bySuperuser (.statusConditions (.create ⟨1, some ⟨"new", "", false, false⟩⟩)),
    .bySuperuser (.statusConditions (.create ⟨1, some ⟨"known", "", true, false⟩⟩))]

theorem twoConditions_unique_initial :
    ∃! i, ∃ row, (twoConditions.before 3).statusConditions.row? i = some row ∧
      row.value.statusId = 1 ∧ row.value.initial = true := by
  have hfirst : ((twoConditions.before 3).statusConditions.row? 1).map (·.value.statusId) =
      some 1 := by decide +kernel
  obtain ⟨row, hrow, hstatus⟩ := Option.map_eq_some_iff.1 hfirst
  exact Reachable.unique_initial (twoConditions.reachable_before 3) hrow hstatus

end CaseDesk
