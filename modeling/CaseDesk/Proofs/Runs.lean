/-
  Tables over runs of calls.

  * `Run`: calls one after another, from empty tables; `Run.before` gives the
    tables before each of them, and `Run.after` those after a run from any
    tables.
  * `Tables.Steps`: every table went through writes of its own.  That is all
    that a call can do (`Call.steps_run`), and so all that the calls of a run
    can do (`Run.steps_after`).
  * `Tables.Keyed`: in reachable tables every row holds its own id
    (`Reachable.keyed`).
-/
import CaseDesk.Proofs.Calls
import CaseDesk.Proofs.Steps

namespace CaseDesk

/-! ## Runs -/

/-- A call with what it comes with besides its request. -/
structure Visit where
  ctx : Context
  call : Call

/-- What a visit is answered with, and the tables after it. -/
def Visit.outcome (v : Visit) (s : Tables) : Except ServiceError Answer × Tables :=
  v.call.run v.ctx s

theorem Visit.step (v : Visit) (s : Tables) :
    v.call.Step v.ctx s (v.outcome s).1 (v.outcome s).2 := v.call.step_run v.ctx s

/-- A call by the superuser at time zero. -/
def Visit.bySuperuser (call : Call) : Visit := ⟨⟨some .anonymous, 0, .standard⟩, call⟩

/-- Calls one after another. -/
abbrev Run := List Visit

namespace Run

/-- The tables before the call at a position, when the run starts from empty tables. -/
def before (run : Run) (n : Nat) : Tables := (run.take n).foldl (fun s v => (v.outcome s).2) {}

theorem before_succ {run : Run} {n : Nat} {v : Visit} (h : run[n]? = some v) :
    run.before (n + 1) = (v.outcome (run.before n)).2 := by
  rw [before, List.take_add_one, h, List.foldl_append]
  rfl

theorem before_succ_of_none {run : Run} {n : Nat} (h : run[n]? = none) :
    run.before (n + 1) = run.before n := by
  rw [before, before, List.take_add_one, h, Option.toList_none, List.append_nil]

/-- Whatever stands before a call of a run is reachable. -/
theorem reachable_before (run : Run) (n : Nat) : Reachable (run.before n) := by
  induction n with
  | zero => exact .start
  | succ n ih =>
    rcases hv : run[n]? with _ | v
    · rw [before_succ_of_none hv]; exact ih
    · rw [before_succ hv]; exact .call ih v.ctx v.call

/-- The tables after the calls of a run, when it starts from given tables. -/
def after (run : Run) (s : Tables) : Tables := run.foldl (fun s v => (v.outcome s).2) s

theorem before_length (run : Run) : run.before run.length = run.after {} := by
  rw [before, List.take_length, after]

theorem after_append (run run' : Run) (s : Tables) :
    after (run ++ run') s = run'.after (run.after s) := List.foldl_append

/-- A call that only counts a version up counts it up by the number of its repetitions. -/
theorem after_replicate {v : Visit} {state : Int32 → Tables}
    (h : ∀ ver, (v.outcome (state ver)).2 = state (ver + 1)) (ver : Int32) (n : Nat) :
    after (List.replicate n v) (state ver) = state (ver + Int32.ofNat n) := by
  induction n generalizing ver with
  | zero => exact congrArg state (Int32.add_zero ver).symm
  | succ n ih =>
    have hcounted : ver + 1 + Int32.ofNat n = ver + Int32.ofNat (n + 1) := by
      rw [Int32.ofNat_add, Int32.add_assoc, Int32.add_comm 1]
      rfl
    rw [List.replicate_succ, after, List.foldl_cons, h, ← hcounted]
    exact ih (ver + 1)

end Run

/-! ## Steps of all tables -/

/-- Every table went through writes of its own. -/
structure Tables.Steps (s s' : Tables) : Prop where
  slas : Table.Steps s.slas s'.slas
  slaConditions : Table.Steps s.slaConditions s'.slaConditions
  closeReasons : Table.Steps s.closeReasons s'.closeReasons
  reasons : Table.Steps s.reasons s'.reasons
  sources : Table.Steps s.sources s'.sources
  statuses : Table.Steps s.statuses s'.statuses
  statusConditions : Table.Steps s.statusConditions s'.statusConditions
  priorities : Table.Steps s.priorities s'.priorities
  comments : Table.Steps s.comments s'.comments
  links : Table.Steps s.links s'.links

theorem Tables.Steps.refl (s : Tables) : s.Steps s :=
  ⟨.refl, .refl, .refl, .refl, .refl, .refl, .refl, .refl, .refl, .refl⟩

theorem Tables.Steps.trans {s s' s'' : Tables} (h : s.Steps s') (h' : s'.Steps s'') :
    s.Steps s'' where
  slas := h.slas.trans h'.slas
  slaConditions := h.slaConditions.trans h'.slaConditions
  closeReasons := h.closeReasons.trans h'.closeReasons
  reasons := h.reasons.trans h'.reasons
  sources := h.sources.trans h'.sources
  statuses := h.statuses.trans h'.statuses
  statusConditions := h.statusConditions.trans h'.statusConditions
  priorities := h.priorities.trans h'.priorities
  comments := h.comments.trans h'.comments
  links := h.links.trans h'.links

namespace Desk

variable {P F K I ρ : Type} [Record ρ]

/-- A desk whose writes are writes of the tables, each of its own. -/
structure Steady (d : Desk P F K I ρ) : Prop where
  own : ∀ s t, Table.Step (d.shelf.get s) t → s.Steps (d.shelf.set t s)
  settled : ∀ before row (s : Tables), s.Steps (d.settled before row s) := by
    intros; exact .refl _
  cleared : ∀ key (s : Tables), s.Steps (d.cleared key s) := by
    intros; exact .refl _

theorem Step.steps {d : Desk P F K I ρ} {ctx : Context} {s s' : Tables} {r : Request P F K I}
    {out : Except ServiceError (Reply ρ)} (h : d.Step ctx s r out s') (hd : d.Steady) :
    s.Steps s' := by
  cases h with
  | refused | listed | located => exact .refl s
  | created _ _ new => exact (hd.own s _ (.inserted new)).trans (hd.settled ..)
  | updated _ _ hfind _ row hrow =>
    subst hrow
    exact (hd.own s _ (.updated _ hfind)).trans (hd.settled ..)
  | deleted _ _ hfind _ => exact (hd.own s _ (.removed hfind)).trans (hd.cleared ..)

end Desk

/-! ## The desks are steady -/

theorem StatusConditions.honest_clearInitial (keep : Int) : Table.Honest (clearInitial keep) where
  id r := by
    unfold clearInitial
    split_ifs <;> rfl
  same r h := by
    unfold clearInitial at h ⊢
    split_ifs with hclear
    · rw [if_pos hclear] at h
      cases h
    · rfl

theorem Priorities.honest_rename (id : Int) (name : String) : Table.Honest (rename id name) where
  id _ := rfl
  same r h := by
    have hmap : r.priorities.map (fun p => if p.id = id then { p with name } else p) =
        r.priorities := by
      refine (List.map_congr_left fun p hp => ?_).trans (List.map_id _)
      have := List.any_eq_false.1 h p hp
      by_cases he : p.id = id
      · have hn : p.name = name := by simpa [he] using this
        rw [if_pos he, ← hn]; rfl
      · rw [if_neg he]; rfl
    exact congrArg (fun priorities => { r with priorities }) hmap

theorem Priorities.honest_detach (id : Int) : Table.Honest (detach id) where
  id _ := rfl
  same r h := by
    have hfilter : r.priorities.filter (·.id != id) = r.priorities :=
      List.filter_eq_self.2 fun p hp => by simpa using List.any_eq_false.1 h p hp
    exact congrArg (fun priorities => { r with priorities }) hfilter

theorem Slas.steady : desk.Steady where
  own s _ h := { Tables.Steps.refl s with slas := .single h }
  cleared key s := { Tables.Steps.refl s with slaConditions := .single (.scopeRemoved key.id) }

theorem SlaConditions.steady : desk.Steady where
  own s _ h := { Tables.Steps.refl s with slaConditions := .single h }

theorem CloseReasons.steady : desk.Steady where
  own s _ h := { Tables.Steps.refl s with closeReasons := .single h }
  cleared key s := { Tables.Steps.refl s with reasons := .single (.scopeRemoved key.id) }

theorem Reasons.steady : desk.Steady where
  own s _ h := { Tables.Steps.refl s with reasons := .single h }

theorem Sources.steady : desk.Steady where
  own s _ h := { Tables.Steps.refl s with sources := .single h }

theorem Statuses.steady : desk.Steady where
  own s _ h := { Tables.Steps.refl s with statuses := .single h }
  cleared key s := { Tables.Steps.refl s with statusConditions := .single (.scopeRemoved key.id) }

theorem StatusConditions.steady : desk.Steady where
  own s _ h := { Tables.Steps.refl s with statusConditions := .single h }
  settled before row s := by
    change s.Steps (settled before row s)
    unfold settled
    split_ifs
    · exact { Tables.Steps.refl s with
        statusConditions := .single (.modified _ (honest_clearInitial row.value.id)) }
    · exact .refl s

theorem Priorities.steady : desk.Steady where
  own s _ h := { Tables.Steps.refl s with priorities := .single h }
  settled before row s := by
    change s.Steps (settled before row s)
    unfold settled
    split
    · exact .refl s
    · exact { Tables.Steps.refl s with
        slaConditions :=
          .single (.modified (fun _ => true) (honest_rename row.value.id row.value.name)) }
  cleared key s := { Tables.Steps.refl s with
    slaConditions := .single (.modified (fun _ => true) (honest_detach key.id)) }

theorem CaseComments.steady : desk.Steady where
  own s _ h := { Tables.Steps.refl s with comments := .single h }

theorem CaseLinks.steady : desk.Steady where
  own s _ h := { Tables.Steps.refl s with links := .single h }

theorem Call.Step.steps {call : Call} {ctx : Context} {s s' : Tables}
    {out : Except ServiceError Answer} (h : call.Step ctx s out s') : s.Steps s' := by
  cases h with
  | slas h => exact h.steps Slas.steady
  | slaConditions h => exact h.steps SlaConditions.steady
  | closeReasons h => exact h.steps CloseReasons.steady
  | reasons h => exact h.steps Reasons.steady
  | sources h => exact h.steps Sources.steady
  | statuses h => exact h.steps Statuses.steady
  | statusConditions h => exact h.steps StatusConditions.steady
  | priorities h => exact h.steps Priorities.steady
  | caseComments h => exact h.steps CaseComments.steady
  | caseLinks h => exact h.steps CaseLinks.steady

/-- **All that a call does to a table is writes of that table.** -/
theorem Call.steps_run (call : Call) (ctx : Context) (s : Tables) : s.Steps (call.run ctx s).2 :=
  (call.step_run ctx s).steps

theorem Run.steps_succ (run : Run) (n : Nat) : (run.before n).Steps (run.before (n + 1)) := by
  rcases hv : run[n]? with _ | v
  · rw [before_succ_of_none hv]; exact .refl _
  · rw [before_succ hv]; exact v.call.steps_run v.ctx _

theorem Run.steps_after (run : Run) (s : Tables) : s.Steps (run.after s) := by
  induction run generalizing s with
  | nil => exact .refl s
  | cons v run ih => exact (v.call.steps_run v.ctx s).trans (ih _)

/-! ## Ids -/

/-- In every table each row holds the id that it stands under. -/
structure Tables.Keyed (s : Tables) : Prop where
  slas : s.slas.Keyed
  slaConditions : s.slaConditions.Keyed
  closeReasons : s.closeReasons.Keyed
  reasons : s.reasons.Keyed
  sources : s.sources.Keyed
  statuses : s.statuses.Keyed
  statusConditions : s.statusConditions.Keyed
  priorities : s.priorities.Keyed
  comments : s.comments.Keyed
  links : s.links.Keyed

theorem Tables.Keyed.empty : ({} : Tables).Keyed :=
  ⟨.empty, .empty, .empty, .empty, .empty, .empty, .empty, .empty, .empty, .empty⟩

theorem Tables.Keyed.steps {s s' : Tables} (hk : s.Keyed) (h : s.Steps s') : s'.Keyed where
  slas := hk.slas.steps h.slas
  slaConditions := hk.slaConditions.steps h.slaConditions
  closeReasons := hk.closeReasons.steps h.closeReasons
  reasons := hk.reasons.steps h.reasons
  sources := hk.sources.steps h.sources
  statuses := hk.statuses.steps h.statuses
  statusConditions := hk.statusConditions.steps h.statusConditions
  priorities := hk.priorities.steps h.priorities
  comments := hk.comments.steps h.comments
  links := hk.links.steps h.links

theorem Reachable.keyed {s : Tables} (h : Reachable s) : s.Keyed := by
  induction h with
  | start => exact .empty
  | call _ ctx call ih => exact ih.steps (call.steps_run ctx _)

end CaseDesk
