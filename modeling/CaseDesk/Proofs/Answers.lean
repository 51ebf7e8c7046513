/-
  Answers tell the truth about the tables.

  A call that creates or changes a record is answered with the record that the
  tables then hold, whatever else the call had to change, and a call that
  removes a record with the one that they held.  No id is used twice, so that a
  removed record does not come back.

  * `ServiceName.written_cases`: where the row comes from that a request writes.
  * `ServiceName.step_record`: the row that an answer shows stands in the
    tables.
  * `ServiceName.Recalls`: whoever asks for a record is answered with it.
  * `ServiceName.Gone`: no request finds a record, and no list shows it.
  * `Reachable.answers_hold`: both, after calls that succeed.
-/
import CaseDesk.Proofs.Limits
import CaseDesk.Proofs.Services

namespace CaseDesk

/-! ## Rows that answers show -/

/-- The key by which a request names a record. -/
def Request.key? {P F K I : Type} : Request P F K I → Option K
  | .list _ | .create _ => none
  | .update r => some r.key
  | .delete r => some r.key
  | .locate r => some r.key

namespace ServiceName

variable {service : ServiceName} {ctx : Context} {s s' : Tables} {r : service.Request}

/-- What follows from a write does not touch the row that was written. -/
theorem row?_settled_self (before : Option (Row service.Kept)) {t : Table service.Kept} {id : Int}
    {row : Row service.Kept} (hrow : t.row? id = some row) (s : Tables) :
    (service.shelf.get (service.desk.settled before row (service.desk.shelf.set t s))).row? id =
      some row := by
  cases service with
  | statusConditions => exact StatusConditions.row?_settled_self before hrow s
  | priorities => cases before <;> exact hrow
  | slas | slaConditions | closeReasons | reasons | sources | statuses | caseComments
  | caseLinks => exact hrow

/-- What follows from a removal does not touch the table of the record. -/
theorem get_cleared (key : RowKey) (t : Table service.Kept) (s : Tables) :
    service.shelf.get (service.desk.cleared key (service.desk.shelf.set t s)) = t := by
  cases service <;> rfl

/-- A row that stands under the id that a request writes is that of a new record, or the row that
    was there, revised. -/
theorem written_cases {reply : Reply service.Kept}
    (hstep : service.desk.Step ctx s r (.ok reply) s') {id : Int}
    (hid : r.written? (service.desk.shelf.get s).nextId service.recordId? = some id)
    {row : Row service.Kept} (hrow : (service.shelf.get s').row? id = some row) :
    (∃ caller place input draft, r.operation = .create ∧ ctx.caller = some caller ∧
      service.desk.draft s caller place input = .ok draft ∧
      (service.shelf.get s).row? id = none ∧
      row.value = Record.withId id (Record.touchCreated caller.user ctx.now draft)) ∨
    ∃ caller key input mask k revise old value, r.operation = .update ∧
      ctx.caller = some caller ∧ service.desk.revision s key input mask = .ok (k, revise) ∧
      (service.shelf.get s).row? id = some old ∧ revise caller old.value = .ok value ∧
      row.value = Record.withId id (Record.touchUpdated caller.user ctx.now value) := by
  cases hstep with
  | listed | located => cases hid
  | @created r caller draft hcaller hdraft new hnew =>
    cases hid
    have hself := row?_settled_self none (Table.row?_insert_self (service.desk.shelf.get s) new) s
    cases hself.symm.trans hrow
    have hfree := Table.row?_next (service.desk.shelf.get s)
    rw [shelf_desk] at hfree
    refine Or.inl ⟨caller, r.place, r.input, draft, rfl, (authorize_eq_ok.1 hcaller).1, hdraft, ?_,
      hnew ▸ rfl⟩
    rw [shelf_desk]
    exact hfree
  | @updated r caller k revise old value hcaller hrevision hfind hrevise new hnew =>
    cases hid.symm.trans (service.names.revision hrevision)
    have hold := Table.row?_of_find hfind
    have hself := row?_settled_self (some old) (Table.row?_put_self hold (some new)) s
    cases hself.symm.trans hrow
    rw [shelf_desk] at hold
    exact Or.inr ⟨caller, r.key, r.input, _, k, revise, old, value, rfl,
      (authorize_eq_ok.1 hcaller).1, hrevision, hold, hrevise, congrArg Row.value hnew⟩
  | @deleted r caller k allow old _ hremoval hfind _ =>
    cases hid.symm.trans (service.names.removal hremoval)
    rw [get_cleared, Table.row?_put_self (Table.row?_of_find hfind)] at hrow
    cases hrow

/-- A revised record that has its id is stamped and gets the next version. -/
theorem edited_eq {k : RowKey} {value : service.Kept} (hid : Record.idOf value = k.id)
    (old : Row service.Kept) (who : Lookup) (time : Int) :
    Table.edited k old (Record.touchUpdated who time value) =
      { ver := old.ver + 1, value := Record.touchUpdated who time value } := by
  have hstamped : Record.idOf (Record.touchUpdated who time value) = k.id := by
    refine Eq.trans ?_ hid
    cases service <;> rfl
  rw [Table.edited, ← hstamped, Record.withId, Record.idOf, Record.id.set_get]

/-- The row that an answer shows stands in the tables, after the request or, when it was removed,
    before it. -/
theorem step_record (hk : s.Keyed) {record : service.Kept}
    (hstep : service.desk.Step ctx s r (.ok (.record record)) s') :
    ∃ caller row, ctx.caller = some caller ∧ record = service.desk.present caller [] row ∧
      if r.operation = .delete then
        (service.shelf.get s).row? (Record.idOf row.value) = some row ∧
          (service.shelf.get s').row? (Record.idOf row.value) = none
      else (service.shelf.get s').row? (Record.idOf row.value) = some row := by
  cases hstep with
  | @created r caller draft hcaller _ new _ =>
    refine ⟨caller, _, (authorize_eq_ok.1 hcaller).1, rfl, ?_⟩
    refine row?_settled_self none ?_ s
    have hid := Record.idOf_withId ((service.desk.shelf.get s).slots.length + 1) new
    exact (congrArg _ hid).trans (Table.row?_insert_self _ new)
  | @updated r caller key _ old value hcaller _ hfind _ row hrow =>
    refine ⟨caller, row, (authorize_eq_ok.1 hcaller).1, rfl, ?_⟩
    refine row?_settled_self (some old) ?_ s
    have hid : Record.idOf row.value = key.id := by
      rw [hrow]
      exact Record.idOf_withId _ _
    rw [hid]
    exact Table.row?_put_self (Table.row?_of_find hfind) (some row)
  | @deleted r caller key _ old hcaller _ hfind _ =>
    refine ⟨caller, old, (authorize_eq_ok.1 hcaller).1, rfl, ?_⟩
    have hold := Table.row?_of_find hfind
    have hid : Record.idOf old.value = key.id :=
      hk.shelf service key.id old (service.shelf_desk ▸ hold)
    have hdelete : (CaseDesk.Request.delete r : service.Request).operation = .delete := rfl
    rw [if_pos hdelete, get_cleared, ← shelf_desk, hid]
    exact ⟨hold, Table.row?_put_self hold none⟩

/-- A request that names a record succeeds only where there is one. -/
theorem exists_row_of_key {reply : Reply service.Kept}
    (hstep : service.desk.Step ctx s r (.ok reply) s') {key : service.Key}
    (hkey : r.key? = some key) {id : Int} (hid : service.recordId? key = some id) :
    ∃ row, (service.shelf.get s).row? id = some row := by
  have hfound {k : RowKey} {row : Row service.Kept} (hk : service.recordId? key = some k.id)
      (hfind : (service.desk.shelf.get s).find k = .ok row) :
      ∃ row, (service.shelf.get s).row? id = some row := by
    rw [shelf_desk] at hfind
    cases hid.symm.trans hk
    exact ⟨row, Table.row?_of_find hfind⟩
  cases hstep with
  | listed | created => cases hkey
  | updated _ hrevision hfind _ _ _ =>
    cases hkey
    exact hfound (service.names.revision hrevision) hfind
  | deleted _ hremoval hfind _ =>
    cases hkey
    exact hfound (service.names.removal hremoval) hfind
  | located _ haddress hfind =>
    cases hkey
    exact hfound (names_address haddress) hfind

/-- What a list shows are rows of the tables, each under its id. -/
theorem exists_row_of_item (hk : s.Keyed) {page : ListReply service.Kept}
    (hstep : service.desk.Step ctx s r (.ok (.page page)) s') {item : service.Kept}
    (hitem : item ∈ page.items) :
    ∃ row, (service.shelf.get s).row? (Record.idOf item) = some row := by
  cases hstep with
  | @listed r caller scope query _ _ hquery page hpage =>
    subst hpage
    obtain ⟨shown, hshown, rfl⟩ := List.mem_map.1 hitem
    obtain ⟨id, row, hrow, rfl⟩ := Table.exists_of_mem_items hshown
    rw [shelf_desk] at hrow
    refine ⟨row, ?_⟩
    rw [service.agrees.item hquery, idOf_present, hk.shelf service id row hrow]
    exact hrow

/-! ## What answers promise -/

/-- A caller who may read is answered with the record, by whatever key the record is asked for. -/
def Recalls (service : ServiceName) (ctx : Context) (s : Tables) (record : service.Kept) : Prop :=
  ∀ (ctx' : Context) (key : service.Key), ctx'.caller = ctx.caller → ctx'.Holds .read service →
    service.Leads key record →
      ((service.call (.locate ⟨key, []⟩)).run ctx' s).1 = .ok (service.answer (.located record))

/-- No request that names a record by the id succeeds, and no list shows it. -/
structure Gone (service : ServiceName) (s : Tables) (id : Int) : Prop where
  named : ∀ (ctx : Context) (r : service.Request) (key : service.Key), r.key? = some key →
    service.recordId? key = some id → ∃ e, ((service.call r).run ctx s).1 = .error e
  listed : ∀ (ctx : Context) (r : service.Request) (page : ListReply service.Kept),
    ((service.call r).run ctx s).1 = .ok (service.answer (.page page)) →
      ∀ item ∈ page.items, Record.idOf item ≠ id

/-- A row that stands under its id is recalled. -/
theorem recalls_of_row? (hs : s.Rooted) (hk : s.Keyed) {caller : Caller}
    (hcaller : ctx.caller = some caller) {row : Row service.Kept}
    (hrow : (service.shelf.get s).row? (Record.idOf row.value) = some row) :
    service.Recalls ctx s (service.desk.present caller [] row) := by
  intro ctx' key hsame hholds hkey
  obtain ⟨caller', hcaller'⟩ := (holds_iff .locate).1 hholds
  cases hcaller.symm.trans (hsame.symm.trans (authorize_eq_ok.1 hcaller').1)
  have hscope : Record.scope (service.desk.present caller [] row) = Record.scope row.value := by
    cases service <;> rfl
  have hleads : service.Leads key row.value :=
    ⟨idOf_present caller [] row ▸ hkey.id, hscope ▸ hkey.place⟩
  rw [run_locate hs hk hcaller' hrow hleads]
  rfl

/-- An id that is used and has no row is gone. -/
theorem gone_of_row? (hk : s.Keyed) {id : Int} (hnone : (service.shelf.get s).row? id = none) :
    service.Gone s id where
  named ctx r key hkey hid := by
    rcases hout : ((service.call r).run ctx s).1 with e | answer
    · exact ⟨e, rfl⟩
    · obtain ⟨reply, rfl⟩ := exists_reply hout
      obtain ⟨row, hrow⟩ := exists_row_of_key (step_of_ok hout) hkey hid
      cases hnone.symm.trans hrow
  listed ctx r page hout item hitem hid := by
    obtain ⟨row, hrow⟩ := exists_row_of_item hk (step_of_ok hout) hitem
    rw [hid, hnone] at hrow
    cases hrow

end ServiceName

/-- **Answers tell the truth about the tables.**  When a call creates or changes a record, the same
    caller is answered with the very record that the call was answered with, by every key that leads
    to it.  When a call removes a record, that is what the caller would have been answered with just
    before, and however the run goes on, no request ever finds a record under that id again and no
    list shows one. -/
theorem Reachable.answers_hold {s : Tables} (h : Reachable s) {service : ServiceName}
    {ctx : Context} {r : service.Request} {record : service.Kept}
    (hok : ((service.call r).run ctx s).1 = .ok (service.answer (.record record))) :
    (r.operation ≠ .delete → service.Recalls ctx ((service.call r).run ctx s).2 record) ∧
    (r.operation = .delete → service.Recalls ctx s record ∧
      ∀ run : Run, service.Gone (run.after ((service.call r).run ctx s).2) (Record.idOf record)) := by
  have h' : Reachable ((service.call r).run ctx s).2 := .call h ctx (service.call r)
  obtain ⟨caller, row, hcaller, rfl, hstands⟩ :=
    ServiceName.step_record h.keyed (ServiceName.step_of_ok hok)
  refine ⟨fun hop => ?_, fun hop => ?_⟩
  · rw [if_neg hop] at hstands
    exact ServiceName.recalls_of_row? h'.rooted h'.keyed hcaller hstands
  · rw [if_pos hop] at hstands
    obtain ⟨hbefore, hafter⟩ := hstands
    refine ⟨ServiceName.recalls_of_row? h.rooted h.keyed hcaller hbefore, fun run => ?_⟩
    rw [ServiceName.idOf_present]
    have hused := (Table.bounds_of_row? hbefore).2
    have hcall := ((service.call r).steps_run ctx s).evolves service
    have hrun := run.steps_after ((service.call r).run ctx s).2
    refine ServiceName.gone_of_row? (h'.keyed.steps hrun)
      ((hrun.evolves service).row?_eq_none ?_ hafter)
    have := hcall.length_le
    omega

/-- The condition of `lostFlag` that takes the flag, as its creation is answered. -/
def knownCondition : StatusCondition :=
  { id := 2, name := "known", initial := true, statusId := 1, audit := .creation ⟨0, "anonymous"⟩ 0 }

/-- The condition of `lostFlag` that loses the flag, as its removal is answered. -/
def newCondition : StatusCondition :=
  { id := 1, name := "new", statusId := 1, audit := .creation ⟨0, "anonymous"⟩ 0 }

/-- The call of `lostFlag` that takes the flag from the first condition, which is then removed. -/
theorem lostFlag_answers :
    (ServiceName.Leads .statusConditions ⟨1, 2⟩ knownCondition ∧
      ServiceName.Recalls .statusConditions .superuser
        ((ServiceName.call .statusConditions (.create ⟨1, some ⟨"known", "", true, false⟩⟩)).run
          .superuser (lostFlag.before 2)).2 knownCondition) ∧
    ∀ run : Run, ServiceName.Gone .statusConditions
      (run.after ((ServiceName.call .statusConditions (.delete ⟨⟨1, 1⟩⟩)).run
        .superuser (lostFlag.before 3)).2) 1 := by
  have hcreated : ((ServiceName.call .statusConditions
      (.create ⟨1, some ⟨"known", "", true, false⟩⟩)).run .superuser (lostFlag.before 2)).1 =
        .ok (.statusConditions (.record knownCondition)) := by rfl
  have hdeleted : ((ServiceName.call .statusConditions (.delete ⟨⟨1, 1⟩⟩)).run
      .superuser (lostFlag.before 3)).1 = .ok (.statusConditions (.record newCondition)) := by rfl
  obtain ⟨hrecalls, -⟩ := Reachable.answers_hold (lostFlag.reachable_before 2) hcreated
  obtain ⟨-, hgone⟩ := Reachable.answers_hold (lostFlag.reachable_before 3) hdeleted
  exact ⟨⟨⟨rfl, fun _ => rfl⟩, hrecalls nofun⟩, (hgone rfl).2⟩

end CaseDesk
