/-
  The stamps of a record over a run of calls.

  A call that creates or updates a record stamps it with its caller and its
  time.  Other calls may change the record as well, when it follows a priority
  or yields the flag to another condition, but they leave its stamps alone.

  * `Origin`, `ServiceName.origin`: what stays of a record as long as it is
    there.
  * `Visit.Stamps`: a call that creates or updates a record.
  * `Visit.brings`: what a call makes of the stamps of each record.
  * `Run.StampedLast`: the last call of a run that stamps a record.
  * `Run.audit_trail`: the stamps of a record are those of that call, and the
    rest stays as it was.
-/
import CaseDesk.Proofs.Masks

namespace CaseDesk

/-! ## Origins -/

/-- What stays of a record as long as it is there: when and by whom it was created, its parent or
    its case, and its author. -/
structure Origin where
  createdAt : Int
  createdBy : Option Lookup
  place : Option Int
  author : Option Lookup

namespace ServiceName

/-- The author of a comment or a link. -/
def author : (service : ServiceName) → service.Kept → Option Lookup
  | caseComments => (·.author)
  | caseLinks => (·.author)
  | _ => fun _ => none

/-- The origin of a record. -/
def origin (service : ServiceName) (r : service.Kept) : Origin where
  createdAt := (Record.audit.get r).createdAt
  createdBy := (Record.audit.get r).createdBy
  place := Record.scope r
  author := service.author r

variable {service : ServiceName} {ctx : Context} {s s' : Tables}

theorem origin_merge (mask : FieldMask) (given old : service.Kept) :
    service.origin (service.merge mask given old) = service.origin old := by
  cases service <;> rfl

theorem origin_touchUpdated (id : Int) (who : Lookup) (time : Int) (r : service.Kept) :
    service.origin (Record.withId id (Record.touchUpdated who time r)) = service.origin r := by
  cases service <;> rfl

theorem audit_stamped (id : Int) (audit : Audit) (r : service.Kept) :
    Record.audit.get (Record.withId id (Record.audit.set audit r)) = audit := by
  cases service <;> rfl

/-- An input says nothing about the stamps and the origin of a record. -/
theorem revision_keeps (hk : s.Keyed) {key : service.Key} {input : Option service.Input}
    {mask : FieldMask} {k : RowKey}
    {revise : Caller → service.Kept → Except ServiceError service.Kept}
    (h : service.desk.revision s key input mask = .ok (k, revise)) {caller : Caller}
    {old new : service.Kept} (hold : service.Tidy old) (hnew : revise caller old = .ok new) :
    Record.audit.get new = Record.audit.get old ∧ service.origin new = service.origin old := by
  by_cases hservice : service = .caseComments
  · subst hservice
    obtain ⟨-, text, rfl⟩ := CaseComments.revision_eq_ok h hnew
    exact ⟨rfl, rfl⟩
  · obtain ⟨input, -, hmerge⟩ := revision_eq_merge hservice hk h
    rw [hmerge hold hnew]
    exact ⟨audit_merge .., origin_merge ..⟩

/-- What happens beside a write leaves the stamps and the origin of a record alone. -/
theorem beside_keeps {call : Call} {id : Int} {row row' : Row service.Kept}
    (h : call.beside s s' id service row = some row') :
    service.origin row'.value = service.origin row.value ∧
      Record.audit.get row'.value = Record.audit.get row.value := by
  have hkept : Unswayed fun other r => other.origin r = service.origin row.value ∧
      Record.audit.get r = Record.audit.get row.value :=
    ⟨fun h _ => h, fun h => h⟩
  exact hkept.beside h ⟨rfl, rfl⟩

end ServiceName

/-! ## Calls that stamp -/

/-- The call creates or updates the record of a service with an id, and succeeds. -/
structure Visit.Stamps (v : Visit) (s : Tables) (service : ServiceName) (id : Int) : Prop where
  made : v.call.service = service
  writes : v.call.operation = .create ∨ v.call.operation = .update
  written : v.call.written? s = some id
  succeeds : (v.outcome s).1.isOk = true

/-- How the record with an id comes out of a call: as new, updated, or with the stamps that it
    had. -/
inductive Visit.Brings (v : Visit) (s : Tables) (service : ServiceName) (id : Int)
    (r : service.Kept) : Prop
  | created {caller : Caller} (hstamps : v.Stamps s service id)
      (hcaller : v.ctx.caller = some caller) (hnew : (service.shelf.get s).row? id = none)
      (haudit : Record.audit.get r = .creation caller.user v.ctx.now)
  | updated {caller : Caller} {old : Row service.Kept} (hstamps : v.Stamps s service id)
      (hcaller : v.ctx.caller = some caller) (hold : (service.shelf.get s).row? id = some old)
      (haudit : Record.audit.get r =
        .modification caller.user v.ctx.now (Record.audit.get old.value))
      (horigin : service.origin r = service.origin old.value)
  | kept {old : Row service.Kept} (hnone : ¬ v.Stamps s service id)
      (hold : (service.shelf.get s).row? id = some old)
      (haudit : Record.audit.get r = Record.audit.get old.value)
      (horigin : service.origin r = service.origin old.value)

namespace Visit

variable {s : Tables} {service : ServiceName} {id : Int} {row : Row service.Kept}

/-- The record that a call writes. -/
theorem brings_written {v : Visit} (h : Reachable s) {r : service.Request}
    (hr : service.call r = v.call) {answer : Answer} (hok : (v.outcome s).1 = .ok answer)
    (hid : v.call.written? s = some id)
    (hrow : (service.shelf.get (v.outcome s).2).row? id = some row) :
    v.Brings s service id row.value := by
  have hstamps (hwrites : v.call.operation = .create ∨ v.call.operation = .update) :
      v.Stamps s service id :=
    ⟨hr ▸ service.service_call r, hwrites, hid, by rw [hok]; rfl⟩
  obtain ⟨ctx, call⟩ := v
  subst hr
  obtain ⟨reply, rfl⟩ := ServiceName.exists_reply hok
  have hstep := ServiceName.step_of_ok hok
  rw [ServiceName.written?_call] at hid
  rcases ServiceName.written_cases hstep hid hrow with
    ⟨caller, _, _, draft, hcreate, hcaller, -, hnew, hvalue⟩ |
    ⟨caller, _, _, _, _, _, old, value, hupdate, hcaller, hrevision, hold, hrevise, hvalue⟩
  · refine .created (hstamps (Or.inl ((service.operation_call r).trans hcreate))) hcaller hnew ?_
    rw [hvalue]
    exact ServiceName.audit_stamped _ _ _
  · obtain ⟨haudit, horigin⟩ :=
      ServiceName.revision_keeps h.keyed hrevision (h.tidy service _ _ hold) hrevise
    refine .updated (hstamps (Or.inr ((service.operation_call r).trans hupdate))) hcaller hold ?_ ?_
    · rw [hvalue, ← haudit]
      exact ServiceName.audit_stamped _ _ _
    · rw [hvalue, ← horigin]
      exact ServiceName.origin_touchUpdated _ _ _ _

/-- **What a call makes of the stamps of a record.** -/
theorem brings (v : Visit) (h : Reachable s)
    (hrow : (service.shelf.get (v.outcome s).2).row? id = some row) :
    v.Brings s service id row.value := by
  have hstep := v.step s
  have hsame (hnone : ¬ v.Stamps s service id) (hunchanged : (v.outcome s).2 = s) :
      v.Brings s service id row.value :=
    .kept hnone (hunchanged ▸ hrow) rfl rfl
  rcases hout : (v.outcome s).1 with e | answer
  · refine hsame (fun hstamps => ?_) (hstep.unchanged_of_error hout)
    have hsucceeds := hstamps.succeeds
    rw [hout] at hsucceeds
    cases hsucceeds
  by_cases hread : v.call.operation = .list ∨ v.call.operation = .locate
  · refine hsame (fun hstamps => ?_) (hstep.unchanged_of_read hread)
    rcases hstamps.writes with hwrites | hwrites <;> simp [hwrites] at hread
  rw [hout] at hstep
  obtain ⟨written, hwritten, hframes⟩ := hstep.frames h.keyed (not_or.1 hread)
  obtain ⟨home, r, hr⟩ := v.call.exists_request
  have hservice : v.call.service = home := hr ▸ home.service_call r
  -- only the record that the call writes can get new stamps
  by_cases hself : service = home ∧ id = written
  · obtain ⟨rfl, rfl⟩ := hself
    exact brings_written h hr hout hwritten hrow
  · have hbeside := hframes.beside service id fun hother hid =>
      hself ⟨hother.trans hservice, hid⟩
    obtain ⟨old, hold, hbecomes⟩ := Option.bind_eq_some_iff.1 (hbeside.symm.trans hrow)
    obtain ⟨horigin, haudit⟩ := ServiceName.beside_keeps hbecomes
    refine .kept (fun hstamps => hself ⟨?_, ?_⟩) hold haudit horigin
    · exact hstamps.made.symm.trans hservice
    · exact Option.some.inj (hstamps.written.symm.trans hwritten)

/-- A call keeps the origin of every record that it leaves. -/
theorem origin_keeps (v : Visit) (h : Reachable s) (service : ServiceName) :
    (service.shelf.get s).Keeps service.origin (service.shelf.get (v.outcome s).2) := by
  have hevolves := (v.call.steps_run v.ctx s).evolves service
  refine ⟨hevolves.length_le, fun {id _} hid hview => ?_⟩
  obtain ⟨row, hrow, rfl⟩ := Table.view_eq_some.1 hview
  cases v.brings h hrow with
  | created _ _ hnew =>
    obtain ⟨old, hold⟩ := hevolves.row hid hrow
    cases hnew.symm.trans hold
  | updated _ _ hold _ horigin => exact Table.view_eq_some.2 ⟨_, hold, horigin.symm⟩
  | kept _ hold _ horigin => exact Table.view_eq_some.2 ⟨_, hold, horigin.symm⟩

end Visit

/-! ## Runs -/

namespace Run

/-- The clock of a run does not go back. -/
def Timely (run : Run) : Prop := run.Pairwise (·.ctx.now ≤ ·.ctx.now)

/-- The call at a position is the last one before another position that stamps a record. -/
structure StampedLast (run : Run) (n : Nat) (service : ServiceName) (id : Int) (k : Nat)
    (v : Visit) : Prop where
  before : k < n
  call : run[k]? = some v
  stamps : v.Stamps (run.before k) service id
  last : ∀ j w, k < j → j < n → run[j]? = some w → ¬ w.Stamps (run.before j) service id

variable {run : Run} {service : ServiceName} {m n : Nat} {id : Int}

theorem Timely.now_le (h : run.Timely) {i k : Nat} (hik : i ≤ k) {v w : Visit}
    (hv : run[i]? = some v) (hw : run[k]? = some w) : v.ctx.now ≤ w.ctx.now := by
  obtain ⟨hi, rfl⟩ := List.getElem?_eq_some_iff.1 hv
  obtain ⟨hk, rfl⟩ := List.getElem?_eq_some_iff.1 hw
  rcases Nat.eq_or_lt_of_le hik with rfl | hlt
  · exact Int.le_refl _
  · exact List.pairwise_iff_getElem.1 h i k hi hk hlt

/-- A call that does not stamp a record leaves the last one that did. -/
theorem StampedLast.succ {k : Nat} {v : Visit} (h : run.StampedLast n service id k v)
    (hnone : ∀ w, run[n]? = some w → ¬ w.Stamps (run.before n) service id) :
    run.StampedLast (n + 1) service id k v where
  before := Nat.lt_succ_of_lt h.before
  call := h.call
  stamps := h.stamps
  last j w hkj hj hw := by
    rcases Nat.lt_succ_iff_lt_or_eq.1 hj with hlt | rfl
    · exact h.last j w hkj hlt hw
    · exact hnone w hw

/-- A call that stamps a record is the last one then. -/
theorem StampedLast.now {v : Visit} (hv : run[n]? = some v)
    (hstamps : v.Stamps (run.before n) service id) : run.StampedLast (n + 1) service id n v where
  before := Nat.lt_succ_self n
  call := hv
  stamps := hstamps
  last j _ hnj hj _ := by omega

/-- A record was created by a call of the run, and its last stamp is that of a call at the same
    place or later. -/
theorem exists_stamps {row : Row service.Kept}
    (hrow : (service.shelf.get (run.before n)).row? id = some row) :
    ∃ i v k w caller, i ≤ k ∧ run[i]? = some v ∧
      (Record.audit.get row.value).createdAt = v.ctx.now ∧
      run.StampedLast n service id k w ∧ w.ctx.caller = some caller ∧
      (Record.audit.get row.value).updatedAt = w.ctx.now ∧
      (Record.audit.get row.value).updatedBy = some caller.user := by
  -- the stamp of the creation is carried along: a later call keeps its time, and stamps after it
  induction n generalizing row with
  | zero =>
    have hnone : (service.shelf.get {}).row? id = none := by
      cases service <;> exact Table.row?_empty id
    cases hnone.symm.trans hrow
  | succ n ih =>
    rcases hv : run[n]? with _ | v
    · rw [before_succ_of_none hv] at hrow
      obtain ⟨i, created, k, w, caller, hik, hi, hat, hlast, hstamp⟩ := ih hrow
      exact ⟨i, created, k, w, caller, hik, hi, hat,
        hlast.succ (fun _ hw => nomatch hv.symm.trans hw), hstamp⟩
    rw [before_succ hv] at hrow
    cases v.brings (run.reachable_before n) hrow with
    | @created caller hstamps hcaller _ haudit =>
      rw [haudit]
      exact ⟨n, v, n, v, caller, Nat.le_refl n, hv, rfl, .now hv hstamps, hcaller, rfl, rfl⟩
    | @updated caller old hstamps hcaller hold haudit _ =>
      obtain ⟨i, created, k, _, _, hik, hi, hat, hlast, -⟩ := ih hold
      have hkn := hlast.before
      rw [haudit]
      exact ⟨i, created, n, v, caller, by omega, hi, hat, .now hv hstamps, hcaller, rfl, rfl⟩
    | @kept old hnone hold haudit _ =>
      obtain ⟨i, created, k, w, caller, hik, hi, hat, hlast, hstamp⟩ := ih hold
      rw [haudit]
      exact ⟨i, created, k, w, caller, hik, hi, hat,
        hlast.succ (fun _ hw => Option.some.inj (hv.symm.trans hw) ▸ hnone), hstamp⟩

theorem origin_keeps (run : Run) (service : ServiceName) (h : m ≤ n) :
    (service.shelf.get (run.before m)).Keeps service.origin
      (service.shelf.get (run.before n)) := by
  induction h with
  | refl => exact .refl _
  | @step n _ ih =>
    refine ih.trans ?_
    rcases hv : run[n]? with _ | v
    · rw [before_succ_of_none hv]
      exact .refl _
    · rw [before_succ hv]
      exact v.origin_keeps (run.reachable_before n) service

/-- A record has one origin wherever it stands in a run. -/
theorem origin_eq {row row' : Row service.Kept}
    (hrow : (service.shelf.get (run.before m)).row? id = some row)
    (hrow' : (service.shelf.get (run.before n)).row? id = some row') :
    service.origin row.value = service.origin row'.value := by
  have hle {m n : Nat} {row row' : Row service.Kept} (h : m ≤ n)
      (hrow : (service.shelf.get (run.before m)).row? id = some row)
      (hrow' : (service.shelf.get (run.before n)).row? id = some row') :
      service.origin row.value = service.origin row'.value := by
    have hview := (run.origin_keeps service h).view (Table.bounds_of_row? hrow).2
      (Table.view_of_row? hrow')
    exact Option.some.inj ((Table.view_of_row? hrow).symm.trans hview)
  rcases Nat.le_total m n with h | h
  · exact hle h hrow hrow'
  · exact (hle h hrow' hrow).symm

/-- **The audit trail of a record.**  As long as a record is there, it keeps when and by whom it was
    created, its parent or its case, and its author.  It was last updated by the caller and at the
    time of the last call of the run that succeeded in creating or updating this very record.  If
    the clock does not go back, that is not before its creation. -/
theorem audit_trail (run : Run) (service : ServiceName) {n : Nat} {id : Int}
    {row : Row service.Kept} (hrow : (service.shelf.get (run.before n)).row? id = some row) :
    (∀ m row', (service.shelf.get (run.before m)).row? id = some row' →
      service.origin row'.value = service.origin row.value) ∧
    (∃ k v caller, run.StampedLast n service id k v ∧ v.ctx.caller = some caller ∧
      (Record.audit.get row.value).updatedAt = v.ctx.now ∧
      (Record.audit.get row.value).updatedBy = some caller.user) ∧
    (run.Timely →
      (Record.audit.get row.value).createdAt ≤ (Record.audit.get row.value).updatedAt) := by
  obtain ⟨i, v, k, w, caller, hik, hi, hat, hlast, hcaller, hnow, hby⟩ := exists_stamps hrow
  refine ⟨fun _ _ hrow' => origin_eq hrow' hrow, ⟨k, w, caller, hlast, hcaller, hnow, hby⟩,
    fun htimely => ?_⟩
  rw [hat, hnow]
  exact htimely.now_le hik hi hlast.call

end Run

/-- A condition of an agreement is made by a user.  Then the priority that it holds gets another
    name from somebody else, and so the condition gets another version. -/
def renamedByOther : Run :=
  [⟨⟨some .anonymous, 1, .standard⟩, .slas (.create ⟨(), some ⟨"gold", "", 0, 0, none, 1, 1⟩⟩)⟩,
    ⟨⟨some .anonymous, 2, .standard⟩, .priorities (.create ⟨(), some ⟨"high", "", ""⟩⟩)⟩,
    ⟨⟨some ⟨⟨7, "ann"⟩, .all⟩, 3, .standard⟩,
      .slaConditions (.create ⟨1, some ⟨"day", [⟨1, ""⟩], 1, 1⟩⟩)⟩,
    ⟨⟨some .anonymous, 4, .standard⟩, .priorities (.update ⟨1, some ⟨"top", "", ""⟩, []⟩)⟩]

theorem renamedByOther_trail :
    ∃ row, (renamedByOther.before 4).slaConditions.row? 1 = some row ∧ row.ver = 2 ∧
      row.value.audit.updatedAt = 3 ∧ row.value.audit.updatedBy = some ⟨7, "ann"⟩ ∧
      row.value.audit.createdAt ≤ row.value.audit.updatedAt ∧
      ∀ old, (renamedByOther.before 3).slaConditions.row? 1 = some old →
        ServiceName.slaConditions.origin old.value =
          ServiceName.slaConditions.origin row.value := by
  have hver : ((renamedByOther.before 4).slaConditions.row? 1).map (·.ver) = some 2 := by
    decide +kernel
  obtain ⟨row, hrow, hver⟩ := Option.map_eq_some_iff.1 hver
  obtain ⟨horigin, ⟨k, v, caller, hlast, hcaller, hnow, hby⟩, hle⟩ :=
    Run.audit_trail renamedByOther .slaConditions (n := 4) hrow
  have htimely : renamedByOther.Timely := by
    unfold Run.Timely
    decide
  have hcall := hlast.call
  have hmade := hlast.stamps.made
  have hk := hlast.before
  -- the only call to the service of the conditions is the third one
  rcases k with _ | _ | _ | _ | k
  · cases hcall
    cases hmade
  · cases hcall
    cases hmade
  · cases hcall
    cases hcaller
    exact ⟨row, hrow, hver, hnow, hby, hle htimely, horigin 3⟩
  · cases hcall
    cases hmade
  · omega

end CaseDesk
