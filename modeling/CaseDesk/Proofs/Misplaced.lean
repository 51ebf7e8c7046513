/-
  Requests for a record in a place where it does not belong.

  A key names a record together with its parent or its case.  Where the record
  is not of that place, it counts as missing, and that is what the request is
  answered.  There is one exception: what an update of a condition of an
  agreement asks for is checked against the agreement that the key names, and
  that check comes before the condition is looked up.

  * `SlaConditions.Refuses`: why the priorities that are asked for are refused.
  * `ServiceName.RefusesFirst`: why an update is refused whatever the record is.
  * `ServiceName.Misplaces`: a key names a record in a place that is there, but
    not the record's own.
  * `Reachable.misplaced`: what requests with such a key are answered.
-/
import CaseDesk.Proofs.Isolation
import CaseDesk.Proofs.Masks

namespace CaseDesk

/-! ## Priorities that are refused -/

namespace SlaConditions

/-- The priorities asked for the condition `own` of an agreement are refused: one of them does not
    exist, or another condition of the agreement holds it. -/
inductive Refuses (s : Tables) (sla own : Int) (asked : List Lookup) : ServiceError → Prop
  | unknown {p : Lookup} (hp : p ∈ asked) (h : s.priorities.row? p.id = none) :
      Refuses s sla own asked (.priorityUnknown p.id)
  | taken {p held : Lookup} {row : Row SlaCondition} (hp : p ∈ asked)
      (hrow : row ∈ s.slaConditions.scopeRows sla) (hother : row.value.id ≠ own)
      (hheld : held ∈ row.value.priorities) (h : p.id = held.id) :
      Refuses s sla own asked (.priorityTaken p.id row.value.id sla)

theorem resolve_eq_error {t : Table Priority} {id : Int} {e : ServiceError}
    (h : resolve t id = .error e) : t.row? id = none ∧ e = .priorityUnknown id := by
  unfold resolve at h
  split at h
  · cases h
  case h_2 hnone =>
    cases h
    exact ⟨hnone, rfl⟩

/-- The references with distinct ids have the ids of all. -/
theorem exists_mem_distinctIds {rs : List Lookup} {id : Int} :
    (∃ p ∈ distinctIds [] rs, p.id = id) ↔ ∃ p ∈ rs, p.id = id := by
  rw [← List.mem_map, ← List.mem_map, ids_distinctIds]
  simp

/-- A conflict is with another condition, over a priority that is asked for. -/
theorem conflict?_eq_some {own condition : Int} {asked : List Lookup}
    {rows : List (Row SlaCondition)} {held : Lookup}
    (h : conflict? own asked rows = some (held, condition)) :
    ∃ row ∈ rows, row.value.id = condition ∧ condition ≠ own ∧ held ∈ row.value.priorities ∧
      ∃ p ∈ asked, p.id = held.id := by
  induction rows with
  | nil => cases h
  | cons row rest ih =>
    rw [conflict?] at h
    split_ifs at h with hown
    · obtain ⟨other, hother, hconflict⟩ := ih h
      exact ⟨other, List.mem_cons_of_mem _ hother, hconflict⟩
    · split at h
      case h_1 found htaken =>
        cases h
        have hasked := List.find?_some htaken
        simp only [List.any_eq_true, beq_iff_eq] at hasked
        exact ⟨row, List.mem_cons_self, rfl, hown, List.mem_of_find?_eq_some htaken, hasked⟩
      case h_2 =>
        obtain ⟨other, hother, hconflict⟩ := ih h
        exact ⟨other, List.mem_cons_of_mem _ hother, hconflict⟩

/-- Priorities are let through if there is nothing against them, and else refused for what there
    is. -/
theorem prepare_or_refuses {s : Tables} (hk : s.Keyed) {sla own : Int} {mask : FieldMask}
    (hmask : mask.selects "priorities" = true) (input : SlaConditionInput) :
    (∃ input', prepare s sla own mask input = .ok input' ∧
      ∀ e, ¬ Refuses s sla own input.priorities e) ∨
    ∃ e, prepare s sla own mask input = .error e ∧ Refuses s sla own input.priorities e := by
  rw [prepare, if_pos hmask]
  -- the priorities are looked up first, and only then compared with those of other conditions
  rcases hheld : (distinctIds [] input.priorities).mapM (resolve s.priorities ·.id) with e | held
  · obtain ⟨p, hp, hresolve⟩ := exists_of_mapM_eq_error hheld
    obtain ⟨hnone, rfl⟩ := resolve_eq_error hresolve
    obtain ⟨q, hq, hid⟩ := exists_mem_distinctIds.1 ⟨p, hp, rfl⟩
    refine Or.inr ⟨_, bind_eq_error.2 (Or.inl hheld), ?_⟩
    rw [← hid] at hnone ⊢
    exact .unknown hq hnone
  obtain ⟨hids, -⟩ := mapM_resolve hk.priorities hheld
  -- the references that are checked have the ids that are asked for
  have hasked : ∀ id, (∃ p ∈ held, p.id = id) ↔ ∃ p ∈ input.priorities, p.id = id := by
    intro id
    rw [← List.mem_map, hids, List.mem_map, exists_mem_distinctIds]
  rcases hconflict : conflict? own held (s.slaConditions.scopeRows sla) with _ | ⟨found, condition⟩
  · refine Or.inl ⟨{ input with priorities := held }, bind_eq_ok.2 ⟨held, hheld, ?_⟩,
      fun e he => ?_⟩
    · rw [hconflict]
      rfl
    · cases he with
      | unknown hp hnone =>
        obtain ⟨q, hq, hid⟩ := exists_mem_distinctIds.2 ⟨_, hp, rfl⟩
        obtain ⟨_, -, hresolve⟩ := exists_of_mapM_eq_ok hheld hq
        rw [hid, resolve, hnone] at hresolve
        cases hresolve
      | taken hp hrow hother hin hid =>
        obtain ⟨q, hq, hqid⟩ := (hasked _).2 ⟨_, hp, rfl⟩
        exact conflict?_eq_none hconflict hrow hother hq hin (hqid.trans hid)
  · obtain ⟨row, hrow, rfl, hother, hin, hfound⟩ := conflict?_eq_some hconflict
    obtain ⟨p, hp, hid⟩ := (hasked _).1 hfound
    refine Or.inr ⟨.priorityTaken found.id row.value.id sla,
      bind_eq_error.2 (Or.inr ⟨held, hheld, ?_⟩), ?_⟩
    · rw [hconflict]
      rfl
    · rw [← hid]
      exact .taken hp hrow hother hin hid

end SlaConditions

/-! ## Keys that name a record elsewhere -/

/-- A row counts as missing in a place that is not its own. -/
theorem Table.find_of_foreign {ρ : Type} [Record ρ] {t : Table ρ} {key : RowKey} {row : Row ρ}
    (hrow : t.row? key.id = some row) {place : Int} (hplace : key.scope = some place)
    (hforeign : Record.scope row.value ≠ some place) :
    t.find key = .error (.notFound (Record.kind ρ) key.id) := by
  have hout : inScope place row.value = false :=
    Bool.eq_false_iff.2 fun h => hforeign (inScope_iff.1 h)
  rw [find, hrow]
  simp only [check, hplace, Option.any_some, hout, Bool.not_false, if_true]
  rfl

namespace ServiceName

variable {service : ServiceName} {ctx : Context} {s : Tables} {key : service.Key} {id place : Int}

/-- Why an update of the record with an id, in a place, is refused before the record is looked up,
    though the place is there and there is an input. -/
def RefusesFirst : (service : ServiceName) → Tables → (place id : Int) → (mask : List String) →
    service.Input → ServiceError → Prop
  | slaConditions => fun s sla id mask input e =>
    FieldMask.Chooses mask "priorities" ∧ SlaConditions.Refuses s sla id input.priorities e
  | _ => fun _ _ _ _ _ _ => False

/-- A key names a record that is there, in a parent or a case that is there as well, but to which
    the record does not belong. -/
structure Misplaces (service : ServiceName) (s : Tables) (key : service.Key) (id place : Int) :
    Prop where
  named : service.recordId? key = some id
  placed : service.keyPlaceId? key = some place
  there : service.hasParent s place = true
  foreign : ∃ row, (service.shelf.get s).row? id = some row ∧ Record.scope row.value ≠ some place

/-- The rules turn such a key into the key of a row. -/
theorem Misplaces.rules (h : service.Misplaces s key id place) :
    (∃ k, service.desk.address s key = .ok k) ∧
      ∃ k allow, service.desk.removal s key = .ok (k, allow) := by
  obtain ⟨hnamed, hplace, hthere, -⟩ := h
  cases service with
  | slas | closeReasons | sources | statuses | priorities | caseComments => cases hplace
  | slaConditions =>
    cases hplace
    have hparent := Parent.require_of_contains ⟨"sla_id", .slas⟩ hthere
    exact ⟨⟨_, bind_eq_ok.2 ⟨_, hparent, rfl⟩⟩, _, _, bind_eq_ok.2 ⟨_, hparent, rfl⟩⟩
  | reasons =>
    cases hplace
    have hparent := Parent.require_of_contains ⟨"close_reason_id", .closeReasons⟩ hthere
    exact ⟨⟨_, bind_eq_ok.2 ⟨_, hparent, rfl⟩⟩, _, _, bind_eq_ok.2 ⟨_, hparent, rfl⟩⟩
  | statusConditions =>
    cases hplace
    have hparent := Parent.require_of_contains StatusConditions.parent hthere
    exact ⟨⟨_, bind_eq_ok.2 ⟨_, hparent, rfl⟩⟩, _, _, bind_eq_ok.2 ⟨_, hparent, rfl⟩⟩
  | caseLinks =>
    have hplace : Etag.id? .wholeCase key.caseTag = some place := hplace
    have hnamed : Etag.id? .link key.linkTag = some id := hnamed
    obtain ⟨caseTag, hcaseTag, -⟩ := Etag.id?_eq_some.1 hplace
    obtain ⟨tag, htag, -⟩ := Etag.id?_eq_some.1 hnamed
    have hrowKey := CaseLinks.rowKey_of_parse hcaseTag htag
    exact ⟨⟨_, bind_eq_ok.2 ⟨_, hrowKey, rfl⟩⟩, _, _, bind_eq_ok.2 ⟨_, hrowKey, rfl⟩⟩

/-- So they do for an update, unless they refuse it first. -/
theorem Misplaces.revision_or_refusesFirst (h : service.Misplaces s key id place) (hk : s.Keyed)
    (input : service.Input) (mask : List String) :
    (∃ k revise, service.desk.revision s key (some input) (.ofTexts mask) = .ok (k, revise) ∧
      ∀ e, ¬ service.RefusesFirst s place id mask input e) ∨
    ∃ e, service.desk.revision s key (some input) (.ofTexts mask) = .error e ∧
      service.RefusesFirst s place id mask input e := by
  obtain ⟨hnamed, hplace, hthere, -⟩ := h
  cases service with
  | slas | closeReasons | sources | statuses | priorities | caseComments => cases hplace
  | slaConditions =>
    cases hplace
    cases hnamed
    have hparent := Parent.require_of_contains ⟨"sla_id", .slas⟩ hthere
    by_cases hmask : (FieldMask.ofTexts mask).selects "priorities" = true
    · have hchosen := FieldMask.selects_ofTexts.1 hmask
      rcases SlaConditions.prepare_or_refuses hk hmask input with
        ⟨input', hprepare, hnone⟩ | ⟨e, hprepare, hrefuses⟩
      · exact Or.inl ⟨_, _, bind_eq_ok.2 ⟨input, rfl, bind_eq_ok.2 ⟨_, hparent,
          bind_eq_ok.2 ⟨input', hprepare, rfl⟩⟩⟩, fun e he => hnone e he.2⟩
      · exact Or.inr ⟨e, bind_eq_error.2 (Or.inr ⟨input, rfl, bind_eq_error.2 (Or.inr ⟨_, hparent,
          bind_eq_error.2 (Or.inl hprepare)⟩)⟩), hchosen, hrefuses⟩
    · exact Or.inl ⟨_, _, bind_eq_ok.2 ⟨input, rfl, bind_eq_ok.2 ⟨_, hparent,
        bind_eq_ok.2 ⟨input, if_neg hmask, rfl⟩⟩⟩,
        fun e he => hmask (FieldMask.selects_ofTexts.2 he.1)⟩
  | reasons =>
    cases hplace
    have hparent := Parent.require_of_contains ⟨"close_reason_id", .closeReasons⟩ hthere
    exact Or.inl ⟨_, _, bind_eq_ok.2 ⟨input, rfl, bind_eq_ok.2 ⟨_, hparent, rfl⟩⟩,
      fun _ => not_false⟩
  | statusConditions =>
    cases hplace
    have hparent := Parent.require_of_contains StatusConditions.parent hthere
    exact Or.inl ⟨_, _, bind_eq_ok.2 ⟨input, rfl, bind_eq_ok.2 ⟨_, hparent, rfl⟩⟩,
      fun _ => not_false⟩
  | caseLinks =>
    have hplace : Etag.id? .wholeCase key.caseTag = some place := hplace
    have hnamed : Etag.id? .link key.linkTag = some id := hnamed
    obtain ⟨caseTag, hcaseTag, -⟩ := Etag.id?_eq_some.1 hplace
    obtain ⟨tag, htag, -⟩ := Etag.id?_eq_some.1 hnamed
    exact Or.inl ⟨_, _, bind_eq_ok.2 ⟨_, CaseLinks.rowKey_of_parse hcaseTag htag,
      bind_eq_ok.2 ⟨input, rfl, rfl⟩⟩, fun _ => not_false⟩

/-- The key of a row that the rules make of such a key addresses no row. -/
theorem Misplaces.find (h : service.Misplaces s key id place) {k : RowKey}
    (hid : service.recordId? key = some k.id) (hscope : k.scope = some place) :
    (service.desk.shelf.get s).find k = .error (.notFound (Record.kind service.Kept) id) := by
  obtain ⟨row, hrow, hforeign⟩ := h.foreign
  cases h.named.symm.trans hid
  rw [shelf_desk]
  exact Table.find_of_foreign hrow hscope hforeign

/-! ## Answers -/

/-- The answer to a request for a record that is missing. -/
abbrev missing (service : ServiceName) (id : Int) : Except ServiceError Answer :=
  .error (.store (.notFound (Record.kind service.Kept) id))

theorem Misplaces.run_locate (h : service.Misplaces s key id place)
    (hholds : ctx.Holds .read service) (fields : List String) :
    ((service.call (.locate ⟨key, fields⟩)).run ctx s).1 = service.missing id := by
  obtain ⟨caller, hcaller⟩ := (holds_iff .locate).1 hholds
  obtain ⟨⟨k, haddress⟩, -⟩ := h.rules
  have hfind := h.find (names_address haddress)
    ((service.isolated place).address_ok h.placed haddress)
  rw [run_call]
  simp only [Desk.serve, Desk.locate, Desk.enter, Action.exec_map, Action.exec_reading_bind,
    hcaller, haddress, hfind]
  rfl

theorem Misplaces.run_delete (h : service.Misplaces s key id place)
    (hholds : ctx.Holds .delete service) :
    ((service.call (.delete ⟨key⟩)).run ctx s).1 = service.missing id := by
  obtain ⟨caller, hcaller⟩ := (holds_iff .delete).1 hholds
  obtain ⟨-, k, allow, hremoval⟩ := h.rules
  have hfind := h.find (service.names.removal hremoval)
    ((service.isolated place).removal_ok h.placed hremoval).1
  rw [run_call]
  simp only [Desk.serve, Desk.delete, Desk.enter, Action.exec_map, Action.exec_reading_bind,
    Action.exec_onShelf_bind, Table.removeIf, hcaller, hremoval, hfind]
  rfl

/-- An update may be refused first. -/
theorem Misplaces.run_update (h : service.Misplaces s key id place) (hk : s.Keyed)
    (hholds : ctx.Holds .update service) (input : service.Input) (mask : List String) :
    (((service.call (.update ⟨key, some input, mask⟩)).run ctx s).1 = service.missing id ∧
      ∀ e, ¬ service.RefusesFirst s place id mask input e) ∨
    ∃ e, ((service.call (.update ⟨key, some input, mask⟩)).run ctx s).1 = .error e ∧
      service.RefusesFirst s place id mask input e := by
  obtain ⟨caller, hcaller⟩ := (holds_iff .update).1 hholds
  rw [run_call]
  simp only [Desk.serve, Desk.update, Desk.enter, Action.exec_map, Action.exec_reading_bind,
    Action.exec_get_bind, Action.exec_onShelf_bind, Table.update, hcaller]
  rcases h.revision_or_refusesFirst hk input mask with
    ⟨k, revise, hrevision, hnone⟩ | ⟨e, hrevision, hrefuses⟩
  · have hfind := h.find (service.names.revision hrevision)
      ((service.isolated place).revision_ok h.placed hrevision).1
    simp only [hrevision, hfind]
    exact Or.inl ⟨rfl, hnone⟩
  · simp only [hrevision]
    exact Or.inr ⟨e, rfl, hrefuses⟩

end ServiceName

/-- **A record is not found in another place.**  A caller who may use the method and names a record
    in a parent or a case that is there, but not the record's own, is answered that the record does
    not exist, whatever fields, input, mask and version the request holds.  An update of a condition
    of an agreement may be refused first, for the priorities that it asks for in that other
    agreement; where there is nothing against these, it is answered like the rest. -/
theorem Reachable.misplaced {s : Tables} (h : Reachable s) {service : ServiceName}
    {key : service.Key} {id place : Int} (hkey : service.Misplaces s key id place)
    (ctx : Context) :
    (ctx.Holds .read service → ∀ fields,
      ((service.call (.locate ⟨key, fields⟩)).run ctx s).1 = service.missing id) ∧
    (ctx.Holds .delete service →
      ((service.call (.delete ⟨key⟩)).run ctx s).1 = service.missing id) ∧
    (ctx.Holds .update service → ∀ input mask,
      (((service.call (.update ⟨key, some input, mask⟩)).run ctx s).1 = service.missing id ∧
        ∀ e, ¬ service.RefusesFirst s place id mask input e) ∨
      ∃ e, ((service.call (.update ⟨key, some input, mask⟩)).run ctx s).1 = .error e ∧
        service.RefusesFirst s place id mask input e) :=
  ⟨hkey.run_locate, hkey.run_delete, hkey.run_update h.keyed⟩

/-- Two agreements, of which the first has a condition. -/
def twoAgreements : Run :=
  [.bySuperuser (.slas (.create ⟨(), some ⟨"gold", "", 0, 0, none, 0, 0⟩⟩)),
    .bySuperuser (.slas (.create ⟨(), some ⟨"silver", "", 0, 0, none, 0, 0⟩⟩)),
    .bySuperuser (.slaConditions (.create ⟨1, some ⟨"day", [], 0, 0⟩⟩))]

/-- An update of the condition as if it were one of the second agreement.  It asks for a priority
    that does not exist. -/
def foreignUpdate : ServiceName.slaConditions.Request :=
  .update ⟨⟨2, 1⟩, some ⟨"night", [⟨9, ""⟩], 0, 0⟩, []⟩

theorem twoAgreements_misplaces :
    ServiceName.slaConditions.Misplaces (twoAgreements.before 3) ⟨2, 1⟩ 1 2 := by
  have hfirst : ((twoAgreements.before 3).slaConditions.row? 1).map (·.value.slaId) = some 1 := by
    decide +kernel
  obtain ⟨row, hrow, hsla⟩ := Option.map_eq_some_iff.1 hfirst
  refine ⟨rfl, rfl, by decide +kernel, row, hrow, fun h => ?_⟩
  cases (congrArg some hsla).symm.trans h

theorem twoAgreements_misplaced :
    ((ServiceName.slaConditions.call (.locate ⟨⟨2, 1⟩, []⟩)).run .superuser
        (twoAgreements.before 3)).1 = ServiceName.slaConditions.missing 1 ∧
    ((ServiceName.slaConditions.call (.delete ⟨⟨2, 1⟩⟩)).run .superuser
        (twoAgreements.before 3)).1 = ServiceName.slaConditions.missing 1 ∧
    ∃ e, ((ServiceName.slaConditions.call foreignUpdate).run .superuser
        (twoAgreements.before 3)).1 = .error e ∧
      ServiceName.slaConditions.RefusesFirst (twoAgreements.before 3) 2 1 []
        ⟨"night", [⟨9, ""⟩], 0, 0⟩ e := by
  obtain ⟨hlocate, hdelete, hupdate⟩ :=
    Reachable.misplaced (twoAgreements.reachable_before 3) twoAgreements_misplaces .superuser
  refine ⟨hlocate (Context.superuser_holds ..) [], hdelete (Context.superuser_holds ..), ?_⟩
  have hunknown : (twoAgreements.before 3).priorities.row? 9 = none := by decide +kernel
  have hchosen : FieldMask.Chooses [] "priorities" := FieldMask.selects_ofTexts.1 rfl
  rcases hupdate (Context.superuser_holds ..) ⟨"night", [⟨9, ""⟩], 0, 0⟩ [] with
    ⟨-, hnone⟩ | hrefused
  · exact absurd ⟨hchosen, .unknown List.mem_cons_self hunknown⟩ (hnone _)
  · exact hrefused

/-- The update is refused for its priority, and nothing is said of the missing condition. -/
theorem foreignUpdate_refused :
    Reachable (twoAgreements.before 3) ∧
    ServiceName.slaConditions.Misplaces (twoAgreements.before 3) ⟨2, 1⟩ 1 2 ∧
    Context.superuser.Holds .update .slaConditions ∧
    ((ServiceName.slaConditions.call foreignUpdate).run .superuser (twoAgreements.before 3)).1 =
      .error (.priorityUnknown 9) ∧
    (ServiceError.priorityUnknown 9).status.code ≠ .notFound :=
  ⟨twoAgreements.reachable_before 3, twoAgreements_misplaces, Context.superuser_holds ..,
    by decide +kernel, by decide⟩

end CaseDesk
