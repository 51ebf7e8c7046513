/-
  Parents of records.

  The conditions of an agreement, the reasons of a group and the conditions of
  a status belong to a record of another table.  A new record gets a parent
  that is there, no change of a record gives it another one, and a parent that
  goes takes its records along.

  * `Table.BelongTo`: every record of a table has its parent in another table.
  * `Desk.Below`: the desk of such records; it changes no parent.
  * `Desk.Above`: the desk of their parents; it leaves no record behind.
  * `Reachable.parents_exist`: in reachable tables every parent is there.
-/
import CaseDesk.Proofs.Holdings
import CaseDesk.Proofs.Initial

namespace CaseDesk

namespace Table

variable {π ρ : Type}

theorem contains_iff {t : Table π} {id : Int} :
    t.contains id = true ↔ ∃ row, t.row? id = some row := Option.isSome_iff_exists

theorem contains_put_some {t : Table π} {key : Int} {old : Row π} (hold : t.row? key = some old)
    (new : Row π) {id : Int} (h : t.contains id = true) :
    (t.put key (some new)).contains id = true := by
  rw [contains, row?_put hold]
  split_ifs
  · rfl
  · exact h

theorem contains_insert [Record π] (t : Table π) (r : π) {id : Int} (h : t.contains id = true) :
    (t.insert r).2.contains id = true := by
  rw [contains, row?_insert]
  split_ifs
  · rfl
  · exact h

/-- A bulk change that a function does not see. -/
theorem view_modifyWhere {α : Type} {f : ρ → α} (t : Table ρ) (select : ρ → Bool)
    {change : ρ → Bool × ρ} (h : ∀ r, f (change r).2 = f r) :
    (t.modifyWhere select change).2.view f = t.view f := by
  funext id
  rw [view, view, row?_modifyWhere, Option.map_map]
  refine congrArg (Option.map · _) (funext fun row => ?_)
  dsimp only [Function.comp]
  split_ifs
  · exact h row.value
  · rfl

variable [Record ρ]

/-! ## Tables of records with parents -/

/-- Every record of a table has a parent, and the parent is in another table. -/
def BelongTo (t : Table ρ) (parents : Table π) : Prop :=
  ∀ id scope, t.view Record.scope id = some scope →
    ∃ parent, scope = some parent ∧ parents.contains parent = true

namespace BelongTo

variable {t : Table ρ} {parents parents' : Table π}

theorem empty (parents : Table π) : ({} : Table ρ).BelongTo parents := fun id _ h => by
  cases (view_empty id).symm.trans h

/-- Parents come, or change. -/
theorem mono (h : t.BelongTo parents)
    (hparents : ∀ {id}, parents.contains id = true → parents'.contains id = true) :
    t.BelongTo parents' := fun id scope hid =>
  (h id scope hid).imp fun _ hparent => ⟨hparent.1, hparents hparent.2⟩

/-- A record of a parent that is there is added. -/
theorem insert (h : t.BelongTo parents) {r : ρ} {parent : Int}
    (hscope : Record.scope (t.insert r).1.value = some parent)
    (hparent : parents.contains parent = true) : (t.insert r).2.BelongTo parents := by
  intro id scope hid
  rw [view_insert] at hid
  split_ifs at hid
  · cases hid
    exact ⟨parent, hscope, hparent⟩
  · exact h id scope hid

/-- A record is removed, or replaced by one of the same parent. -/
theorem put (h : t.BelongTo parents) {key : Int} {old : Row ρ} (hold : t.row? key = some old)
    {new : Option (Row ρ)}
    (hnew : ∀ row, new = some row → Record.scope row.value = Record.scope old.value) :
    (t.put key new).BelongTo parents := by
  intro id scope hid
  rw [view_put hold] at hid
  split_ifs at hid
  · obtain ⟨row, hrow, rfl⟩ := Option.map_eq_some_iff.1 hid
    rw [hnew row hrow]
    exact h key _ (view_of_row? hold)
  · exact h id scope hid

/-- A parent goes together with its records. -/
theorem leave (h : t.BelongTo parents) {key : Int} {old : Row π}
    (hold : parents.row? key = some old) :
    (t.removeScope key).2.BelongTo (parents.put key none) := by
  intro id scope hid
  obtain ⟨row, hrow, rfl⟩ := view_eq_some.1 hid
  rw [row?_removeScope, Option.filter_eq_some_iff] at hrow
  obtain ⟨hrow, hstays⟩ := hrow
  obtain ⟨parent, hscope, hparent⟩ := h id _ (view_of_row? hrow)
  have hne : parent ≠ key := by
    rintro rfl
    simp [inScope_iff.2 hscope] at hstays
  exact ⟨parent, hscope, by rw [contains, row?_put hold, if_neg hne]; exact hparent⟩

end BelongTo

end Table

/-! ## Desks of records with parents -/

namespace Desk

variable {P F K I π ρ : Type} [Record ρ]

/-- A desk of records that belong to the records of a shelf. -/
structure Below (d : Desk P F K I ρ) (parents : Shelf π) : Prop where
  draft : ∀ {s caller place input new}, d.draft s caller place input = .ok new →
    ∃ parent, Record.scope new = some parent ∧ (parents.get s).contains parent = true
  revision : ∀ {s key input mask row revise}, d.revision s key input mask = .ok (row, revise) →
    ∀ {caller old new}, revise caller old = .ok new → Record.scope new = Record.scope old
  scope_stamped : ∀ id audit (r : ρ),
    Record.scope (Record.withId id (Record.audit.set audit r)) = Record.scope r := by intros; rfl
  own : ∀ t s, parents.get (d.shelf.set t s) = parents.get s := by intros; rfl
  settled : ∀ before row s, parents.get (d.settled before row s) = parents.get s ∧
    (d.shelf.get (d.settled before row s)).view Record.scope =
      (d.shelf.get s).view Record.scope := by intros; exact ⟨rfl, rfl⟩
  cleared : ∀ key s, d.cleared key s = s := by intros; rfl

/-- A desk whose records have records of a shelf belong to them. -/
structure Above [Record π] (d : Desk P F K I π) (children : Shelf ρ) : Prop where
  own : ∀ t s, children.get (d.shelf.set t s) = children.get s := by intros; rfl
  settled : ∀ before row s, d.settled before row s = s := by intros; rfl
  cleared : ∀ key s, d.shelf.get (d.cleared key s) = d.shelf.get s ∧
    children.get (d.cleared key s) = ((children.get s).removeScope key.id).2 := by
      intros; exact ⟨rfl, rfl⟩

variable {ctx : Context} {s s' : Tables}

theorem Below.belongTo_step {d : Desk P F K I ρ} {parents : Shelf π} (hd : d.Below parents)
    {r : Request P F K I} {out : Except ServiceError (Reply ρ)} (hstep : d.Step ctx s r out s')
    (h : (d.shelf.get s).BelongTo (parents.get s)) :
    (d.shelf.get s').BelongTo (parents.get s') := by
  -- what follows from a write moves no record to another parent
  have hsettled : ∀ {before row t}, t.BelongTo (parents.get s) →
      (d.shelf.get (d.settled before row (d.shelf.set t s))).BelongTo
        (parents.get (d.settled before row (d.shelf.set t s))) := by
    intro before row t ht
    obtain ⟨hparents, hscopes⟩ := hd.settled before row (d.shelf.set t s)
    rw [Table.BelongTo, hscopes, d.shelf.get_set, hparents, hd.own]
    exact ht
  cases hstep with
  | refused | listed | located => exact h
  | created _ hdraft new hnew =>
    obtain ⟨parent, hscope, hparent⟩ := hd.draft hdraft
    refine hsettled (h.insert ?_ hparent)
    rw [hnew]
    exact (hd.scope_stamped _ _ _).trans hscope
  | updated _ hrevision hfind hrevise row hrow =>
    refine hsettled (h.put (Table.row?_of_find hfind) fun new hnew => ?_)
    cases hnew
    rw [hrow]
    exact (hd.scope_stamped _ _ _).trans (hd.revision hrevision hrevise)
  | deleted _ _ hfind _ =>
    rw [hd.cleared, d.shelf.get_set, hd.own]
    exact h.put (Table.row?_of_find hfind) fun row hrow => by cases hrow

theorem Above.belongTo_step [Record π] {d : Desk P F K I π} {children : Shelf ρ}
    (hd : d.Above children) {r : Request P F K I} {out : Except ServiceError (Reply π)}
    (hstep : d.Step ctx s r out s')
    (h : (children.get s).BelongTo (d.shelf.get s)) :
    (children.get s').BelongTo (d.shelf.get s') := by
  cases hstep with
  | refused | listed | located => exact h
  | created _ _ new =>
    rw [hd.settled, hd.own, d.shelf.get_set]
    exact h.mono (Table.contains_insert _ new)
  | updated _ _ hfind _ row _ =>
    rw [hd.settled, hd.own, d.shelf.get_set]
    exact h.mono (Table.contains_put_some (Table.row?_of_find hfind) row)
  | deleted _ _ hfind _ =>
    obtain ⟨hparents, hchildren⟩ := hd.cleared _ (d.shelf.set _ s)
    rw [hparents, hchildren, hd.own, d.shelf.get_set]
    exact h.leave (Table.row?_of_find hfind)

/-- A desk that touches neither the records nor their parents. -/
theorem Step.belongTo_of_leaves {ρ' : Type} [Record ρ'] {d : Desk P F K I ρ'}
    {r : Request P F K I} {out : Except ServiceError (Reply ρ')} (hstep : d.Step ctx s r out s')
    (children : Shelf ρ) (parents : Shelf π)
    (hd : d.Leaves fun s => (children.get s, parents.get s))
    (h : (children.get s).BelongTo (parents.get s)) :
    (children.get s').BelongTo (parents.get s') := by
  have hpair : (children.get s', parents.get s') = (children.get s, parents.get s) :=
    hstep.part_eq hd
  rw [(Prod.mk.inj hpair).1, (Prod.mk.inj hpair).2]
  exact h

end Desk

/-! ## The desks -/

theorem Parent.contains_of_require {π : Type} [Record π] {p : Parent π} {s : Tables}
    {id found : Int} (h : p.require s id = .ok found) :
    (p.shelf.get s).contains found = true := by
  obtain ⟨id, -, h⟩ := bind_eq_ok.1 h
  split at h <;> cases h
  assumption

/-- A child dictionary whose inputs say nothing about parents. -/
theorem Desk.below_child {I π ρ : Type} [Record ρ] [Record π] {service : String}
    {method : Operation → String} {shelf : Shelf ρ} {parent : Parent π} {empty : Int → ρ}
    {prepare : Tables → Int → Int → FieldMask → I → Except ServiceError I}
    {revise : FieldMask → I → ρ → Except ServiceError ρ}
    (hempty : ∀ id, Record.scope (empty id) = some id)
    (hrevise : ∀ {mask input old new}, revise mask input old = .ok new →
      Record.scope new = Record.scope old)
    (hstamped : ∀ id audit (r : ρ),
      Record.scope (Record.withId id (Record.audit.set audit r)) = Record.scope r := by intros; rfl)
    (hown : ∀ t s, parent.shelf.get (shelf.set t s) = parent.shelf.get s := by intros; rfl) :
    (child service method shelf parent empty prepare revise).Below parent.shelf where
  draft h := by
    obtain ⟨_, -, h⟩ := bind_eq_ok.1 h
    obtain ⟨id, hid, h⟩ := bind_eq_ok.1 h
    obtain ⟨_, -, h⟩ := bind_eq_ok.1 h
    exact ⟨id, (hrevise h).trans (hempty id), Parent.contains_of_require hid⟩
  revision h := by
    obtain ⟨_, -, h⟩ := bind_eq_ok.1 h
    obtain ⟨_, -, h⟩ := bind_eq_ok.1 h
    obtain ⟨_, -, h⟩ := bind_eq_ok.1 h
    cases h
    exact hrevise
  scope_stamped := hstamped
  own := hown

theorem SlaConditions.below : desk.Below Shelf.slas :=
  Desk.below_child (fun _ => rfl) fun h => congrArg some (revise_eq_ok h).1

theorem Reasons.revise_eq_ok {mask : FieldMask} {input : ReasonInput} {old new : Reason}
    (h : revise mask input old = .ok new) : new.closeReasonId = old.closeReasonId := by
  obtain ⟨_, -, h⟩ := bind_eq_ok.1 h
  cases h
  rfl

theorem Reasons.below : desk.Below Shelf.closeReasons :=
  Desk.below_child (fun _ => rfl) fun h => congrArg some (revise_eq_ok h)

theorem StatusConditions.below : desk.Below Shelf.statuses where
  draft h := by
    obtain ⟨_, -, h⟩ := bind_eq_ok.1 h
    obtain ⟨id, hid, h⟩ := bind_eq_ok.1 h
    obtain ⟨new, hnew, h⟩ := bind_eq_ok.1 h
    refine ⟨id, ?_, Parent.contains_of_require hid⟩
    have hstatus : new.statusId = id := apply_eq_ok hnew
    cases h
    split_ifs <;> exact congrArg some hstatus
  revision h _ _ _ hnew := congrArg some (revision_eq_ok h hnew).1
  settled before row s := by
    refine ⟨?_, ?_⟩
    · change (settled before row s).statuses = s.statuses
      unfold settled
      split_ifs <;> rfl
    · change (settled before row s).statusConditions.view Record.scope =
        s.statusConditions.view Record.scope
      rw [get_settled]
      split_ifs
      · exact Table.view_modifyWhere _ _ fun r => congrArg some (statusId_clearInitial _ r)
      · rfl

theorem Slas.above : desk.Above Shelf.slaConditions := {}

theorem CloseReasons.above : desk.Above Shelf.reasons := {}

theorem Statuses.above : desk.Above Shelf.statusConditions := {}

/-- Priorities are renamed and removed within the conditions of agreements, which stay where they
    are. -/
theorem Priorities.scopes_step {ctx : Context} {s s' : Tables}
    {r : Request Unit Unit Int PriorityInput} {out : Except ServiceError (Reply Priority)}
    (hstep : desk.Step ctx s r out s') :
    s'.slaConditions.view Record.scope = s.slaConditions.view Record.scope := by
  cases hstep with
  | refused | listed | located | created => rfl
  | updated _ _ _ _ row _ =>
    have hkept : ∀ c, Record.scope (rename row.value.id row.value.name c).2 = Record.scope c :=
      fun _ => rfl
    exact Table.view_modifyWhere s.slaConditions (fun _ => true) hkept
  | @deleted _ _ key _ _ _ _ _ _ =>
    have hkept : ∀ c, Record.scope (detach key.id c).2 = Record.scope c := fun _ => rfl
    exact Table.view_modifyWhere s.slaConditions (fun _ => true) hkept

/-! ## Calls -/

/-- Every condition and every reason belongs to a parent that is there. -/
structure Tables.Rooted (s : Tables) : Prop where
  slaConditions : s.slaConditions.BelongTo s.slas
  reasons : s.reasons.BelongTo s.closeReasons
  statusConditions : s.statusConditions.BelongTo s.statuses

theorem Call.Step.rooted {call : Call} {ctx : Context} {s s' : Tables}
    {out : Except ServiceError Answer} (hstep : call.Step ctx s out s') (h : s.Rooted) :
    s'.Rooted := by
  constructor
  case slaConditions =>
    cases hstep with
    | slas hstep => exact Slas.above.belongTo_step hstep h.slaConditions
    | slaConditions hstep => exact SlaConditions.below.belongTo_step hstep h.slaConditions
    | priorities hstep =>
      have hslas : s'.slas = s.slas := hstep.part_eq Priorities.leaves
      rw [Table.BelongTo, Priorities.scopes_step hstep, hslas]
      exact h.slaConditions
    | statusConditions hstep =>
      exact hstep.belongTo_of_leaves .slaConditions .slas StatusConditions.leaves h.slaConditions
    | closeReasons hstep | reasons hstep | sources hstep | statuses hstep | caseComments hstep
    | caseLinks hstep =>
      exact hstep.belongTo_of_leaves .slaConditions .slas {} h.slaConditions
  case reasons =>
    cases hstep with
    | closeReasons hstep => exact CloseReasons.above.belongTo_step hstep h.reasons
    | reasons hstep => exact Reasons.below.belongTo_step hstep h.reasons
    | priorities hstep =>
      exact hstep.belongTo_of_leaves .reasons .closeReasons Priorities.leaves h.reasons
    | statusConditions hstep =>
      exact hstep.belongTo_of_leaves .reasons .closeReasons StatusConditions.leaves h.reasons
    | slas hstep | slaConditions hstep | sources hstep | statuses hstep | caseComments hstep
    | caseLinks hstep =>
      exact hstep.belongTo_of_leaves .reasons .closeReasons {} h.reasons
  case statusConditions =>
    cases hstep with
    | statuses hstep => exact Statuses.above.belongTo_step hstep h.statusConditions
    | statusConditions hstep =>
      exact StatusConditions.below.belongTo_step hstep h.statusConditions
    | priorities hstep =>
      exact hstep.belongTo_of_leaves .statusConditions .statuses Priorities.leaves
        h.statusConditions
    | slas hstep | slaConditions hstep | closeReasons hstep | reasons hstep | sources hstep
    | caseComments hstep | caseLinks hstep =>
      exact hstep.belongTo_of_leaves .statusConditions .statuses {} h.statusConditions

theorem Reachable.rooted {s : Tables} (h : Reachable s) : s.Rooted := by
  induction h with
  | start => exact ⟨.empty _, .empty _, .empty _⟩
  | @call s _ ctx call ih => exact (call.step_run ctx s).rooted ih

theorem Table.BelongTo.parent {π ρ : Type} [Record π] [Record ρ] {t : Table ρ} {parents : Table π}
    (h : t.BelongTo parents) (hk : parents.Keyed) {id parent : Int} {row : Row ρ}
    (hrow : t.row? id = some row) (hscope : Record.scope row.value = some parent) :
    ∃ above, parents.row? parent = some above ∧ Record.idOf above.value = parent := by
  obtain ⟨_, hparent, hthere⟩ := h id _ (view_of_row? hrow)
  cases hscope.symm.trans hparent
  obtain ⟨above, habove⟩ := contains_iff.1 hthere
  exact ⟨above, habove, hk parent above habove⟩

/-- **Whatever belongs to a parent belongs to one that is there.**  Every condition of an agreement
    names an agreement of the table, every reason a group of the table, and every condition of a
    status a status of the table. -/
theorem Reachable.parents_exist {s : Tables} (h : Reachable s) :
    (∀ id row, s.slaConditions.row? id = some row →
      ∃ sla, s.slas.row? row.value.slaId = some sla ∧ sla.value.id = row.value.slaId) ∧
    (∀ id row, s.reasons.row? id = some row →
      ∃ group, s.closeReasons.row? row.value.closeReasonId = some group ∧
        group.value.id = row.value.closeReasonId) ∧
    ∀ id row, s.statusConditions.row? id = some row →
      ∃ status, s.statuses.row? row.value.statusId = some status ∧
        status.value.id = row.value.statusId :=
  ⟨fun _ _ hrow => h.rooted.slaConditions.parent h.keyed.slas hrow rfl,
    fun _ _ hrow => h.rooted.reasons.parent h.keyed.closeReasons hrow rfl,
    fun _ _ hrow => h.rooted.statusConditions.parent h.keyed.statuses hrow rfl⟩

/-- Of two agreements with a condition each the first is removed, and another one is made. -/
def removedAgreement : Run :=
  [.bySuperuser (.slas (.create ⟨(), some ⟨"gold", "", 0, 0, none, 1, 1⟩⟩)),
    .bySuperuser (.slas (.create ⟨(), some ⟨"silver", "", 0, 0, none, 1, 1⟩⟩)),
    .bySuperuser (.slaConditions (.create ⟨1, some ⟨"day", [], 1, 1⟩⟩)),
    .bySuperuser (.slaConditions (.create ⟨2, some ⟨"night", [], 1, 1⟩⟩)),
    .bySuperuser (.slas (.delete ⟨1⟩)),
    .bySuperuser (.slas (.create ⟨(), some ⟨"bronze", "", 0, 0, none, 1, 1⟩⟩))]

theorem removedAgreement_parents :
    (removedAgreement.before 6).slaConditions.row? 1 = none ∧
      ∃ row sla, (removedAgreement.before 6).slaConditions.row? 2 = some row ∧
        (removedAgreement.before 6).slas.row? row.value.slaId = some sla ∧ sla.value.id = 2 := by
  have hsecond : ((removedAgreement.before 6).slaConditions.row? 2).map (·.value.slaId) =
      some 2 := by decide +kernel
  obtain ⟨row, hrow, hsla⟩ := Option.map_eq_some_iff.1 hsecond
  obtain ⟨sla, hsla', hid⟩ :=
    (Reachable.parents_exist (removedAgreement.reachable_before 6)).1 2 row hrow
  exact ⟨by decide +kernel, row, sla, hrow, hsla', hid.trans hsla⟩

end CaseDesk
