/-
  Why a request is refused.

  A caller who may not use a method is refused before anything else is looked
  at.  After that only the rules of the desk object.

  * `Desk.Objection`: what the rules of a desk can have against a request.
  * `Desk.serve_of_refused`, `Desk.objection_of_error`: a request that fails
    was refused at the door or has met with an objection.
-/
import CaseDesk.Proofs.Desks
import CaseDesk.Service.Call

namespace CaseDesk

namespace Table

variable {ρ : Type} [Record ρ] {t : Table ρ} {key : RowKey} {e : ServiceError}

/-- An update fails over its key or over its edit. -/
theorem update_eq_error {edit : Edit ρ} (h : (t.update key edit).1 = .error e) :
    (∃ why, t.find key = .error why ∧ e = .store why) ∨
      ∃ old value, t.find key = .ok old ∧ edit old.value = (.error e, value) := by
  unfold update at h
  rcases hfind : t.find key with why | old
  · rw [hfind] at h
    cases h
    exact Or.inl ⟨why, rfl, rfl⟩
  · rcases hedit : edit old.value with ⟨e' | _, value⟩
    · simp only [hfind, hedit] at h
      cases h
      exact Or.inr ⟨old, value, rfl, hedit⟩
    · simp only [hfind, hedit] at h
      cases h

/-- A removal fails over its key or over its check. -/
theorem removeIf_eq_error {accept : ρ → Except ServiceError Unit}
    (h : (t.removeIf key accept).1 = .error e) :
    (∃ why, t.find key = .error why ∧ e = .store why) ∨
      ∃ old, t.find key = .ok old ∧ accept old.value = .error e := by
  unfold removeIf at h
  rcases hfind : t.find key with why | old
  · rw [hfind] at h
    cases h
    exact Or.inl ⟨why, rfl, rfl⟩
  · rcases haccept : accept old.value with e' | _
    · simp only [hfind, haccept] at h
      cases h
      exact Or.inr ⟨old, rfl, haccept⟩
    · simp only [hfind, haccept] at h
      cases h

omit [Record ρ] in
theorem ofRevision_eq_error {revise : ρ → Except ServiceError ρ} {old value : ρ}
    (h : Edit.ofRevision revise old = (.error e, value)) : revise old = .error e := by
  unfold Edit.ofRevision at h
  cases hr : revise old <;> rw [hr] at h <;> cases h
  rfl

end Table

namespace Desk

variable {P F K I ρ : Type} [Record ρ]

/-! ## Objections -/

/-- What the rules of a desk can have against the request of a caller who may use the method. -/
inductive Objection (d : Desk P F K I ρ) (ctx : Context) (s : Tables) (caller : Caller) :
    Request P F K I → ServiceError → Prop
  | place {r e} (h : d.listScope s r.place = .error e) : Objection d ctx s caller (.list r) e
  | query {r e} (h : d.query ctx r = .error e) : Objection d ctx s caller (.list r) e
  | draft {r e} (h : d.draft s caller r.place r.input = .error e) :
      Objection d ctx s caller (.create r) e
  | revision {r e} (h : d.revision s r.key r.input (.ofTexts r.mask) = .error e) :
      Objection d ctx s caller (.update r) e
  | revise {r key revise old e}
      (hrevision : d.revision s r.key r.input (.ofTexts r.mask) = .ok (key, revise))
      (hfind : (d.shelf.get s).find key = .ok old) (h : revise caller old.value = .error e) :
      Objection d ctx s caller (.update r) e
  | removal {r e} (h : d.removal s r.key = .error e) : Objection d ctx s caller (.delete r) e
  | allow {r key allow old e} (hremoval : d.removal s r.key = .ok (key, allow))
      (hfind : (d.shelf.get s).find key = .ok old) (h : allow caller old.value = .error e) :
      Objection d ctx s caller (.delete r) e
  | address {r e} (h : d.address s r.key = .error e) : Objection d ctx s caller (.locate r) e
  | missing (r) {key why} (h : (d.shelf.get s).find key = .error why) :
      Objection d ctx s caller r (.store why)

variable {d : Desk P F K I ρ} {ctx : Context} {s : Tables} {e : ServiceError}

/-- Who may not use a method is refused, whatever the request and the tables are. -/
theorem serve_of_refused {r : Request P F K I}
    (h : authorize ctx.caller d.service (d.method r.operation) = .error e) :
    (d.serve ctx r).exec s = (.error e, s) := by
  cases r <;> dsimp only [Request.operation] at h <;>
    simp only [serve, list, create, update, delete, locate, enter, Action.exec_map,
      Action.exec_reading_bind, h] <;> rfl

theorem objection_list {r : ListRequest P F} {caller : Caller}
    (hcaller : authorize ctx.caller d.service (d.method .list) = .ok caller)
    (he : ((d.serve ctx (.list r)).exec s).1 = .error e) :
    d.Objection ctx s caller (.list r) e := by
  simp only [serve, list, enter, Action.exec_map, Action.exec_reading_bind, Action.exec_get_bind,
    Action.exec_pure, hcaller, map_eq_error] at he
  rcases hscope : d.listScope s r.place with e' | scope
  · rw [hscope] at he
    cases he
    exact .place hscope
  rcases hquery : d.query ctx r with e' | query
  · simp only [hscope, hquery] at he
    cases he
    exact .query hquery
  simp only [hscope, hquery] at he
  cases he

theorem objection_create {r : CreateRequest P I} {caller : Caller}
    (hcaller : authorize ctx.caller d.service (d.method .create) = .ok caller)
    (he : ((d.serve ctx (.create r)).exec s).1 = .error e) :
    d.Objection ctx s caller (.create r) e := by
  simp only [serve, create, enter, Action.exec_map, Action.exec_reading_bind,
    Action.exec_onShelf_bind, Action.exec_changing_bind, Action.exec_pure, hcaller,
    map_eq_error] at he
  rcases hdraft : d.draft s caller r.place r.input with e' | draft
  · rw [hdraft] at he
    cases he
    exact .draft hdraft
  simp only [hdraft] at he
  cases he

theorem objection_update {r : UpdateRequest K I} {caller : Caller}
    (hcaller : authorize ctx.caller d.service (d.method .update) = .ok caller)
    (he : ((d.serve ctx (.update r)).exec s).1 = .error e) :
    d.Objection ctx s caller (.update r) e := by
  simp only [serve, update, enter, Action.exec_map, Action.exec_reading_bind, Action.exec_get_bind,
    Action.exec_onShelf_bind, Action.exec_changing_bind, Action.exec_pure, hcaller,
    map_eq_error] at he
  rcases hrevision : d.revision s r.key r.input (.ofTexts r.mask) with e' | ⟨key, revise⟩
  · rw [hrevision] at he
    cases he
    exact .revision hrevision
  simp only [hrevision] at he
  rcases hupdate : (d.shelf.get s).update key (.ofRevision fun old => do
    return Record.touchUpdated caller.user ctx.now (← revise caller old)) with ⟨e' | row, table⟩
  · simp only [hupdate] at he
    cases he
    rcases Table.update_eq_error (congrArg Prod.fst hupdate) with
      ⟨why, hfind, rfl⟩ | ⟨old, value, hfind, hedit⟩
    · exact .missing _ hfind
    · rcases bind_eq_error.1 (Table.ofRevision_eq_error hedit) with hrevise | ⟨_, -, hpure⟩
      · exact .revise hrevision hfind hrevise
      · cases hpure
  · simp only [hupdate] at he
    cases he

theorem objection_delete {r : DeleteRequest K} {caller : Caller}
    (hcaller : authorize ctx.caller d.service (d.method .delete) = .ok caller)
    (he : ((d.serve ctx (.delete r)).exec s).1 = .error e) :
    d.Objection ctx s caller (.delete r) e := by
  simp only [serve, delete, enter, Action.exec_map, Action.exec_reading_bind,
    Action.exec_onShelf_bind, Action.exec_changing_bind, Action.exec_pure, hcaller,
    map_eq_error] at he
  rcases hremoval : d.removal s r.key with e' | ⟨key, allow⟩
  · rw [hremoval] at he
    cases he
    exact .removal hremoval
  simp only [hremoval] at he
  rcases hremove : (d.shelf.get s).removeIf key (allow caller) with ⟨e' | row, table⟩
  · simp only [hremove] at he
    cases he
    rcases Table.removeIf_eq_error (congrArg Prod.fst hremove) with
      ⟨why, hfind, rfl⟩ | ⟨old, hfind, hallow⟩
    · exact .missing _ hfind
    · exact .allow hremoval hfind hallow
  · simp only [hremove] at he
    cases he

theorem objection_locate {r : LocateRequest K} {caller : Caller}
    (hcaller : authorize ctx.caller d.service (d.method .locate) = .ok caller)
    (he : ((d.serve ctx (.locate r)).exec s).1 = .error e) :
    d.Objection ctx s caller (.locate r) e := by
  simp only [serve, locate, enter, Action.exec_map, Action.exec_reading_bind, Action.exec_pure,
    hcaller, map_eq_error] at he
  rcases haddress : d.address s r.key with e' | key
  · rw [haddress] at he
    cases he
    exact .address haddress
  simp only [haddress] at he
  rcases hfind : (d.shelf.get s).find key with why | row
  · simp only [hfind] at he
    cases he
    exact .missing _ hfind
  · simp only [hfind] at he
    cases he

/-- **A request that fails though the caller may use the method has met with an objection.** -/
theorem objection_of_error {r : Request P F K I} {caller : Caller}
    (hcaller : authorize ctx.caller d.service (d.method r.operation) = .ok caller)
    (he : ((d.serve ctx r).exec s).1 = .error e) : d.Objection ctx s caller r e := by
  cases r with
  | list r => exact objection_list hcaller he
  | create r => exact objection_create hcaller he
  | update r => exact objection_update hcaller he
  | delete r => exact objection_delete hcaller he
  | locate r => exact objection_locate hcaller he

end Desk

end CaseDesk
