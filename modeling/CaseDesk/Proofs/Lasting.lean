/-
  What holds of all records.

  A property of records lasts if the rules of the services make only records
  that have it, and nothing else that happens to a record breaks it.  Then it
  holds of all stored records, whatever the calls were.

  * `Desk.Ensures`: the rules of a desk make records with a property
    (`Desk.ensures_root`, `Desk.ensures_child`).
  * `Unswayed`: what happens beside a write does not break a property
    (`Unswayed.beside`).
  * `Lasting`: a property of the records of all services that lasts.
  * `Lasting.run`: a call keeps such a property.
  * `Lasting.reachable`: all stored records have it.
-/
import CaseDesk.Proofs.Answers

namespace CaseDesk

namespace Desk

variable {P F K I π ρ : Type}

/-- The rules of a desk make records with a property, of inputs and of records that have it. -/
structure Ensures (d : Desk P F K I ρ) (holds : ρ → Prop) : Prop where
  draft : ∀ {s caller place input new}, d.draft s caller place input = .ok new → holds new
  revision : ∀ {s key input mask k revise}, d.revision s key input mask = .ok (k, revise) →
    ∀ {caller old new}, holds old → revise caller old = .ok new → holds new

variable [Record ρ] {service : String} {method : Operation → String} {shelf : Shelf ρ}
  {keeps : F → ρ → Bool} {parent : Parent π} {empty : Int → ρ}
  {prepare : Tables → Int → Int → FieldMask → I → Except ServiceError I}
  {revise : FieldMask → I → ρ → Except ServiceError ρ}
  {settled : Option (Row ρ) → Row ρ → Tables → Tables} {cleared : RowKey → Tables → Tables}
  {holds : ρ → Prop}

/-- A root dictionary ensures what its revisions do, those under a full mask of any record. -/
theorem ensures_root (hrevise : ∀ {mask input old new}, revise mask input old = .ok new →
      mask = .full ∨ holds old → holds new) :
    { root service method shelf keeps revise with settled, cleared }.Ensures holds where
  draft h := by
    obtain ⟨_, -, h⟩ := bind_eq_ok.1 h
    exact hrevise h (Or.inl rfl)
  revision h _ _ _ hold hnew := by
    obtain ⟨_, -, h⟩ := bind_eq_ok.1 h
    cases h
    exact hrevise hnew (Or.inr hold)

/-- So does a child dictionary. -/
theorem ensures_child [Record π] (hrevise : ∀ {mask input old new},
      revise mask input old = .ok new → mask = .full ∨ holds old → holds new) :
    (child service method shelf parent empty prepare revise).Ensures holds where
  draft h := by
    obtain ⟨_, -, h⟩ := bind_eq_ok.1 h
    obtain ⟨_, -, h⟩ := bind_eq_ok.1 h
    obtain ⟨_, -, h⟩ := bind_eq_ok.1 h
    exact hrevise h (Or.inl rfl)
  revision h _ _ _ hold hnew := by
    obtain ⟨_, -, h⟩ := bind_eq_ok.1 h
    obtain ⟨_, -, h⟩ := bind_eq_ok.1 h
    obtain ⟨_, -, h⟩ := bind_eq_ok.1 h
    cases h
    exact hrevise hnew (Or.inr hold)

end Desk

/-- A property of records that the consequences of writes of other records do not break. -/
structure Unswayed (holds : (service : ServiceName) → service.Kept → Prop) : Prop where
  held : ∀ {r : SlaCondition}, holds .slaConditions r → ∀ priorities,
    holds .slaConditions { r with priorities }
  yielded : ∀ {r : StatusCondition}, holds .statusConditions r →
    holds .statusConditions { r with initial := false }

namespace Unswayed

variable {holds : (service : ServiceName) → service.Kept → Prop} {s s' : Tables}

theorem renamed (hp : Unswayed holds) {row : Row SlaCondition} (h : holds .slaConditions row.value)
    (id : Int) (name : String) : holds .slaConditions (row.renamed id name).value := by
  unfold Row.renamed
  split_ifs
  · exact hp.held h _
  · exact h

theorem released (hp : Unswayed holds) {row : Row SlaCondition} (h : holds .slaConditions row.value)
    (id : Int) : holds .slaConditions (row.released id).value := by
  unfold Row.released
  split_ifs
  · exact hp.held h _
  · exact h

theorem gaveWay (hp : Unswayed holds) {row : Row StatusCondition}
    (h : holds .statusConditions row.value) (status : Int) :
    holds .statusConditions (row.yielded status).value := by
  unfold Row.yielded
  split_ifs
  · exact hp.yielded h
  · exact h

/-- What becomes of a record beside the one that a call writes has the property. -/
theorem beside (hp : Unswayed holds) {call : Call} {id : Int} {other : ServiceName}
    {row row' : Row other.Kept} (h : call.beside s s' id other row = some row')
    (hrow : holds other row.value) : holds other row'.value := by
  cases other with
  | slas | closeReasons | sources | statuses | priorities | caseComments | caseLinks =>
    cases h
    exact hrow
  | reasons =>
    simp only [Call.beside] at h
    split at h
    · split_ifs at h
      cases h
      exact hrow
    · cases h
      exact hrow
  | slaConditions =>
    simp only [Call.beside] at h
    split at h
    · split_ifs at h
      cases h
      exact hrow
    · split at h
      · cases h
        exact hp.renamed hrow _ _
      · cases h
        exact hrow
    · cases h
      exact hp.released hrow _
    · cases h
      exact hrow
  | statusConditions =>
    simp only [Call.beside] at h
    split at h
    · split_ifs at h
      cases h
      exact hrow
    · split at h
      · cases h
        exact hp.gaveWay hrow _
      · cases h
        exact hrow
    · split at h
      · cases h
        exact hp.gaveWay hrow _
      · cases h
        exact hrow
    · cases h
      exact hrow

end Unswayed

/-- A property that the rules of all services ensure, and that neither an id and stamps nor the
    consequences of other writes break. -/
structure Lasting (holds : (service : ServiceName) → service.Kept → Prop) : Prop where
  ensured : ∀ service : ServiceName, service.desk.Ensures (holds service)
  stamped : ∀ {service : ServiceName} {r : service.Kept}, holds service r → ∀ id audit,
    holds service (Record.withId id (Record.audit.set audit r))
  held : ∀ {r : SlaCondition}, holds .slaConditions r → ∀ priorities,
    holds .slaConditions { r with priorities }
  yielded : ∀ {r : StatusCondition}, holds .statusConditions r →
    holds .statusConditions { r with initial := false }

/-- All records of the tables have a property. -/
def Tables.All (holds : (service : ServiceName) → service.Kept → Prop) (s : Tables) : Prop :=
  ∀ (service : ServiceName) (id : Int) (row : Row service.Kept),
    (service.shelf.get s).row? id = some row → holds service row.value

theorem Lasting.unswayed {holds : (service : ServiceName) → service.Kept → Prop}
    (hp : Lasting holds) : Unswayed holds := ⟨hp.held, hp.yielded⟩

namespace Lasting

variable {holds : (service : ServiceName) → service.Kept → Prop} {service : ServiceName}
  {ctx : Context} {s s' : Tables}

/-- The row that a request writes has the property. -/
theorem written (hp : Lasting holds) {r : service.Request} {reply : Reply service.Kept}
    (hstep : service.desk.Step ctx s r (.ok reply) s') (h : s.All holds) {id : Int}
    (hid : r.written? (service.desk.shelf.get s).nextId service.recordId? = some id)
    {row : Row service.Kept} (hrow : (service.shelf.get s').row? id = some row) :
    holds service row.value := by
  rcases ServiceName.written_cases hstep hid hrow with
    ⟨_, _, _, _, -, -, hdraft, -, hvalue⟩ |
    ⟨_, _, _, _, _, _, _, _, -, -, hrevision, hold, hrevise, hvalue⟩
  · rw [hvalue]
    exact hp.stamped ((hp.ensured service).draft hdraft) _ _
  · rw [hvalue]
    exact hp.stamped ((hp.ensured service).revision hrevision (h service _ _ hold) hrevise) _ _

/-- A call keeps the property. -/
theorem run (hp : Lasting holds) (call : Call) (ctx : Context) (hk : s.Keyed) (h : s.All holds) :
    (call.run ctx s).2.All holds := by
  have hstep := call.step_run ctx s
  rcases hout : (call.run ctx s).1 with e | answer
  · rw [hstep.unchanged_of_error hout]
    exact h
  by_cases hread : call.operation = .list ∨ call.operation = .locate
  · rw [hstep.unchanged_of_read hread]
    exact h
  rw [hout] at hstep
  obtain ⟨id, hid, hframes⟩ := hstep.frames hk (not_or.1 hread)
  obtain ⟨service, r, rfl⟩ := call.exists_request
  intro other j row hrow
  -- the row that the call writes comes from the rules, and every other row from one before the call
  by_cases hwritten : other = service ∧ j = id
  · obtain ⟨rfl, rfl⟩ := hwritten
    obtain ⟨reply, rfl⟩ := ServiceName.exists_reply hout
    rw [ServiceName.written?_call] at hid
    exact hp.written (ServiceName.step_of_ok hout) h hid hrow
  · have hbeside := hframes.beside other j fun hother hj =>
      hwritten ⟨hother.trans (service.service_call r), hj⟩
    obtain ⟨old, hold, hbecomes⟩ := Option.bind_eq_some_iff.1 (hbeside.symm.trans hrow)
    exact hp.unswayed.beside hbecomes (h other j old hold)

/-- **All stored records have a property that lasts.** -/
theorem reachable (hp : Lasting holds) (h : Reachable s) : s.All holds := by
  induction h with
  | start =>
    intro service id row hrow
    have hnone : (service.shelf.get {}).row? id = none := by
      cases service <;> exact Table.row?_empty id
    cases hnone.symm.trans hrow
  | call hs ctx call ih => exact hp.run call ctx hs.keyed ih

end Lasting

end CaseDesk
