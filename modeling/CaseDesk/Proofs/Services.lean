/-
  The services as one family.

  All services offer the same operations.  They differ in what names a place
  and a record, and in what a request may set of a record.

  * `ServiceName.Place`, `ServiceName.Filter`, `ServiceName.Key`,
    `ServiceName.Input`: the parts of the requests to a service.
  * `ServiceName.desk`, `ServiceName.call`, `ServiceName.answer`: its rules, a
    call to it and its reply.  A call that succeeds is a step of the desk
    (`ServiceName.step_of_ok`).
  * `ServiceName.placeId?`, `ServiceName.keyPlaceId?`, `ServiceName.recordId?`:
    the parent or case and the record that a request names.
  * `ServiceName.Leads`: a key names a record; such a key finds the record
    (`ServiceName.run_locate`).
  * `ServiceName.run_create`, `ServiceName.run_update`, `ServiceName.run_delete`:
    what becomes of a request that the rules of the desk let through.
-/
import CaseDesk.Proofs.Frame
import CaseDesk.Proofs.Parents

namespace CaseDesk

namespace ServiceName

/-! ## Requests -/

/-- What names a place for the records of a service. -/
abbrev Place : ServiceName → Type
  | slas | closeReasons | sources | statuses | priorities => Unit
  | slaConditions | reasons | statusConditions => Int
  | caseComments | caseLinks => String

/-- What the lists of a service may be filtered by. -/
abbrev Filter : ServiceName → Type
  | sources => List Int
  | _ => Unit

/-- What names a record of a service. -/
abbrev Key : ServiceName → Type
  | slas | closeReasons | sources | statuses | priorities => Int
  | slaConditions | reasons | statusConditions => ChildKey
  | caseComments => String
  | caseLinks => CaseLinks.LinkKey

/-- What a request may set of a record of a service. -/
abbrev Input : ServiceName → Type
  | slas => SlaInput
  | slaConditions => SlaConditionInput
  | closeReasons => CloseReasonInput
  | reasons => ReasonInput
  | sources => SourceInput
  | statuses => CaseStatusInput
  | statusConditions => StatusConditionInput
  | priorities => PriorityInput
  | caseComments => CaseCommentInput
  | caseLinks => CaseLinkInput

/-- A request to a service. -/
abbrev Request (service : ServiceName) : Type :=
  CaseDesk.Request service.Place service.Filter service.Key service.Input

/-- The rules of a service. -/
def desk : (service : ServiceName) →
    Desk service.Place service.Filter service.Key service.Input service.Kept
  | slas => Slas.desk
  | slaConditions => SlaConditions.desk
  | closeReasons => CloseReasons.desk
  | reasons => Reasons.desk
  | sources => Sources.desk
  | statuses => Statuses.desk
  | statusConditions => StatusConditions.desk
  | priorities => Priorities.desk
  | caseComments => CaseComments.desk
  | caseLinks => CaseLinks.desk

/-- A request to a service, as a call. -/
def call : (service : ServiceName) → service.Request → Call
  | slas => .slas
  | slaConditions => .slaConditions
  | closeReasons => .closeReasons
  | reasons => .reasons
  | sources => .sources
  | statuses => .statuses
  | statusConditions => .statusConditions
  | priorities => .priorities
  | caseComments => .caseComments
  | caseLinks => .caseLinks

/-- A reply of a service, as an answer. -/
def answer : (service : ServiceName) → Reply service.Kept → Answer
  | slas => .slas
  | slaConditions => .slaConditions
  | closeReasons => .closeReasons
  | reasons => .reasons
  | sources => .sources
  | statuses => .statuses
  | statusConditions => .statusConditions
  | priorities => .priorities
  | caseComments => .caseComments
  | caseLinks => .caseLinks

variable (service : ServiceName)

theorem answer_injective {r r' : Reply service.Kept} (h : service.answer r = service.answer r') :
    r = r' := by
  cases service <;> exact (by injection h)

theorem service_call (r : service.Request) : (service.call r).service = service := by
  cases service <;> rfl

theorem operation_call (r : service.Request) : (service.call r).operation = r.operation := by
  cases service <;> rfl

theorem shelf_desk : service.desk.shelf = service.shelf := by
  cases service <;> rfl

theorem word_eq : service.desk.service = service.word := by
  cases service <;> rfl

theorem methodWord_eq : service.desk.method = service.methodWord := by
  cases service <;> rfl

/-- A call is served at the desk of its service. -/
theorem run_call (r : service.Request) (ctx : Context) (s : Tables) :
    (service.call r).run ctx s =
      (service.answer <$> ((service.desk.serve ctx r).exec s).1,
        ((service.desk.serve ctx r).exec s).2) := by
  cases service <;> exact Action.exec_map _ _ _

variable {service} {ctx : Context} {s : Tables}

/-- A call that succeeds is answered by its service. -/
theorem exists_reply {r : service.Request} {a : Answer}
    (h : ((service.call r).run ctx s).1 = .ok a) : ∃ reply, a = service.answer reply := by
  rw [run_call] at h
  obtain ⟨reply, -, hanswer⟩ := map_eq_ok.1 h
  exact ⟨reply, hanswer.symm⟩

/-- A call that succeeds is a step of the desk of its service. -/
theorem step_of_ok {r : service.Request} {reply : Reply service.Kept}
    (h : ((service.call r).run ctx s).1 = .ok (service.answer reply)) :
    service.desk.Step ctx s r (.ok reply) ((service.call r).run ctx s).2 := by
  have hstep := service.desk.step_serve ctx s r
  rw [run_call] at h ⊢
  obtain ⟨reply', hreply, hanswer⟩ := map_eq_ok.1 h
  rw [hreply, service.answer_injective hanswer] at hstep
  exact hstep

end ServiceName

/-- A call is a request to a service. -/
theorem Call.exists_request (call : Call) :
    ∃ (service : ServiceName) (r : service.Request), service.call r = call := by
  refine ⟨call.service, ?_⟩
  cases call <;> exact ⟨_, rfl⟩

/-! ## Callers -/

/-- The superuser at time zero. -/
def Context.superuser : Context := ⟨some .anonymous, 0, .standard⟩

/-- The caller holds an access on the records of a service. -/
def Context.Holds (ctx : Context) (access : Access) (service : ServiceName) : Prop :=
  ∃ caller, ctx.caller = some caller ∧ caller.grants.allows service.objclass access = true

theorem Context.superuser_holds (access : Access) (service : ServiceName) :
    Context.superuser.Holds access service := ⟨.anonymous, rfl, rfl⟩

namespace ServiceName

variable {service : ServiceName} {ctx : Context} {s : Tables}

/-- A caller may use a method who holds the access that its operation needs. -/
theorem authorize_eq_ok {op : Operation} {caller : Caller} :
    authorize ctx.caller service.desk.service (service.desk.method op) = .ok caller ↔
      ctx.caller = some caller ∧ caller.grants.allows service.objclass op.access = true := by
  obtain ⟨entry, m, hm, hclass, haccess, -⟩ := service.registered op
  rw [CaseDesk.authorize_eq_ok, Caller.authorize_eq_ok, word_eq, methodWord_eq, hm, ← hclass,
    ← haccess]
  refine and_congr_right fun _ => ⟨?_, fun h => ⟨entry, m, rfl, h⟩⟩
  rintro ⟨_, _, he, hallows⟩
  cases he
  exact hallows

theorem holds_iff (op : Operation) : ctx.Holds op.access service ↔
    ∃ caller, authorize ctx.caller service.desk.service (service.desk.method op) = .ok caller := by
  simp only [Context.Holds, authorize_eq_ok]

/-! ## Answers -/

/-- A row is answered under its id. -/
theorem idOf_present (caller : Caller) (fields : List String) (row : Row service.Kept) :
    Record.idOf (service.desk.present caller fields row) = Record.idOf row.value := by
  have hid := idOf_project fields row.value
  cases service <;> exact hid

/-- Lists and look-ups show the same of a row. -/
theorem agrees (service : ServiceName) : service.desk.Agrees := by
  cases service with
  | slas | slaConditions | closeReasons | reasons | sources | statuses | statusConditions
  | priorities => exact fun _ _ _ _ _ => rfl
  | caseComments => exact (Desk.agrees_of_present : CaseComments.desk.Agrees)
  | caseLinks => exact (Desk.agrees_of_present : CaseLinks.desk.Agrees)

/-! ## Names -/

/-- The parent or the case that a place names. -/
def placeId? : (service : ServiceName) → service.Place → Option Int
  | slas | closeReasons | sources | statuses | priorities => fun _ => none
  | slaConditions | reasons | statusConditions => some
  | caseComments | caseLinks => Etag.id? .wholeCase

/-- The parent or the case within which a key names a record; a comment is named by its tag
    alone. -/
def keyPlaceId? : (service : ServiceName) → service.Key → Option Int
  | slas | closeReasons | sources | statuses | priorities | caseComments => fun _ => none
  | slaConditions | reasons | statusConditions => (some ·.parent)
  | caseLinks => (Etag.id? .wholeCase ·.caseTag)

/-- The id of the record that a key names. -/
def recordId? : (service : ServiceName) → service.Key → Option Int
  | slas | closeReasons | sources | statuses | priorities => some
  | slaConditions | reasons | statusConditions => (some ·.id)
  | caseComments => Etag.id? .comment
  | caseLinks => (Etag.id? .link ·.linkTag)

theorem written?_call (service : ServiceName) (r : service.Request) (s : Tables) :
    (service.call r).written? s =
      r.written? (service.desk.shelf.get s).nextId service.recordId? := by
  cases service <;> rfl

/-- A key names a record, in its place. -/
structure Leads (service : ServiceName) (key : service.Key) (r : service.Kept) : Prop where
  id : service.recordId? key = some (Record.idOf r)
  place : service ≠ caseComments → service.keyPlaceId? key = Record.scope r

end ServiceName

theorem Etag.id?_eq_some {kind : EtagKind} {raw : String} {id : Int} :
    Etag.id? kind raw = some id ↔ ∃ tag, Etag.parse kind raw = .ok tag ∧ tag.id = id := by
  unfold Etag.id?
  cases Etag.parse kind raw <;> simp

/-- A parent that is there may be required. -/
theorem Parent.require_of_contains {π : Type} [Record π] (p : Parent π) {s : Tables} {id : Int}
    (h : (p.shelf.get s).contains id = true) : p.require s id = .ok id := by
  obtain ⟨row, hrow⟩ := Table.contains_iff.1 h
  have hpos : 0 < id := (Table.bounds_of_row? hrow).1
  rw [Parent.require, Require.id, if_pos hpos]
  exact if_pos h

/-- So may the parent that a record belongs to. -/
theorem Parent.require_of_row? {π ρ : Type} [Record π] [Record ρ] (p : Parent π) {s : Tables}
    {t : Table ρ} (h : t.BelongTo (p.shelf.get s)) {id : Int} {row : Row ρ}
    (hrow : t.row? id = some row) {parent : Int} (hparent : some parent = Record.scope row.value) :
    p.require s parent = .ok parent := by
  obtain ⟨_, hfound, hthere⟩ := h id _ (Table.view_of_row? hrow)
  cases hparent.trans hfound
  exact p.require_of_contains hthere

/-- A row is found by its id and, where it has one, its parent. -/
theorem Table.find_of_row? {ρ : Type} [Record ρ] {t : Table ρ} {id : Int} {row : Row ρ}
    (hrow : t.row? id = some row) {scope : Option Int}
    (hscope : ∀ parent, scope = some parent → Record.scope row.value = some parent) :
    t.find { id, scope } = .ok row :=
  find_eq_ok.2 ⟨hrow, check_eq_ok.2 ⟨fun parent h => inScope_iff.2 (hscope parent h), nofun⟩⟩

theorem Parent.eq_of_require {π : Type} [Record π] {p : Parent π} {s : Tables} {id found : Int}
    (h : p.require s id = .ok found) : found = id := by
  obtain ⟨_, hid, h⟩ := bind_eq_ok.1 h
  unfold Require.id at hid
  split at hid
  · cases hid
    split at h <;> cases h
    rfl
  · cases hid

theorem CaseLinks.rowKey_of_parse {key : LinkKey} {caseTag tag : Etag}
    (hcase : Etag.parse .wholeCase key.caseTag = .ok caseTag)
    (htag : Etag.parse .link key.linkTag = .ok tag) :
    rowKey key = .ok { id := tag.id, scope := some caseTag.id, ver := tag.ver } :=
  bind_eq_ok.2 ⟨caseTag, Require.tag_eq_ok.2 hcase,
    bind_eq_ok.2 ⟨tag, Require.tag_eq_ok.2 htag, rfl⟩⟩

namespace ServiceName

variable {service : ServiceName} {ctx : Context} {s : Tables}

/-- The keys of a service name the rows that requests with them are about. -/
theorem names (service : ServiceName) : service.desk.Names service.recordId? := by
  cases service with
  | slas => exact (Desk.names_root : Slas.desk.Names some)
  | closeReasons => exact (Desk.names_root : CloseReasons.desk.Names some)
  | sources => exact (Desk.names_root : Sources.desk.Names some)
  | statuses => exact (Desk.names_root : Statuses.desk.Names some)
  | priorities => exact (Desk.names_root : Priorities.desk.Names some)
  | slaConditions => exact (Desk.names_child : SlaConditions.desk.Names (some ·.id))
  | reasons => exact (Desk.names_child : Reasons.desk.Names (some ·.id))
  | statusConditions => exact StatusConditions.names
  | caseComments => exact CaseComments.names
  | caseLinks => exact CaseLinks.names

theorem names_address {key : service.Key} {k : RowKey} (h : service.desk.address s key = .ok k) :
    service.recordId? key = some k.id := by
  cases service with
  | slas | closeReasons | sources | statuses | priorities =>
    cases h
    rfl
  | slaConditions | reasons | statusConditions =>
    obtain ⟨_, -, h⟩ := bind_eq_ok.1 h
    cases h
    rfl
  | caseComments =>
    obtain ⟨tag, htag, h⟩ := bind_eq_ok.1 h
    cases h
    change Etag.id? .comment key = _
    exact Etag.id?_of_parse (Require.tag_eq_ok.1 htag)
  | caseLinks =>
    obtain ⟨row, hrow, h⟩ := bind_eq_ok.1 h
    have hid : k.id = row.id := by
      cases h
      rfl
    rw [hid]
    change Etag.id? .link key.linkTag = _
    exact CaseLinks.id?_of_rowKey hrow

/-- A key that leads to a row of the tables addresses it. -/
theorem find_of_leads (hs : s.Rooted) {id : Int} {row : Row service.Kept}
    (hrow : (service.shelf.get s).row? id = some row) (hid : Record.idOf row.value = id)
    {key : service.Key} (hkey : service.Leads key row.value) :
    ∃ k, service.desk.address s key = .ok k ∧ (service.desk.shelf.get s).find k = .ok row := by
  obtain ⟨hnamed, hplace⟩ := hkey
  rw [hid] at hnamed
  cases service with
  | slas | closeReasons | sources | statuses | priorities =>
    cases hnamed
    exact ⟨_, rfl, Table.find_of_row? hrow nofun⟩
  | slaConditions =>
    cases hnamed
    have hparent := Parent.require_of_row? ⟨"sla_id", .slas⟩ hs.slaConditions hrow (hplace nofun)
    exact ⟨_, bind_eq_ok.2 ⟨_, hparent, rfl⟩,
      Table.find_of_row? hrow fun _ h => (hplace nofun).symm.trans h⟩
  | reasons =>
    cases hnamed
    have hparent :=
      Parent.require_of_row? ⟨"close_reason_id", .closeReasons⟩ hs.reasons hrow (hplace nofun)
    exact ⟨_, bind_eq_ok.2 ⟨_, hparent, rfl⟩,
      Table.find_of_row? hrow fun _ h => (hplace nofun).symm.trans h⟩
  | statusConditions =>
    cases hnamed
    have hparent :=
      Parent.require_of_row? StatusConditions.parent hs.statusConditions hrow (hplace nofun)
    exact ⟨_, bind_eq_ok.2 ⟨_, hparent, rfl⟩,
      Table.find_of_row? hrow fun _ h => (hplace nofun).symm.trans h⟩
  | caseComments =>
    have hnamed : Etag.id? .comment key = some id := hnamed
    obtain ⟨tag, htag, rfl⟩ := Etag.id?_eq_some.1 hnamed
    exact ⟨_, bind_eq_ok.2 ⟨tag, Require.tag_eq_ok.2 htag, rfl⟩, Table.find_of_row? hrow nofun⟩
  | caseLinks =>
    have hnamed : Etag.id? .link key.linkTag = some id := hnamed
    have hplace : Etag.id? .wholeCase key.caseTag = Record.scope row.value := hplace nofun
    obtain ⟨tag, htag, rfl⟩ := Etag.id?_eq_some.1 hnamed
    obtain ⟨caseTag, hcaseTag, hcase⟩ := Etag.id?_eq_some.1 hplace
    exact ⟨_, bind_eq_ok.2 ⟨_, CaseLinks.rowKey_of_parse hcaseTag htag, rfl⟩,
      Table.find_of_row? hrow fun _ h => (congrArg some hcase).symm.trans h⟩

/-- A caller who may read is answered with the record that a key leads to. -/
theorem run_locate (hs : s.Rooted) (hk : s.Keyed) {caller : Caller} (hcaller :
      authorize ctx.caller service.desk.service (service.desk.method .locate) = .ok caller)
    {id : Int} {row : Row service.Kept} (hrow : (service.shelf.get s).row? id = some row)
    {key : service.Key} (hkey : service.Leads key row.value) (fields : List String) :
    (service.call (.locate ⟨key, fields⟩)).run ctx s =
      (.ok (service.answer (.located (service.desk.present caller (fieldNames fields) row))), s) := by
  obtain ⟨k, haddress, hfind⟩ := find_of_leads hs hrow (hk.shelf service id row hrow) hkey
  rw [run_call]
  simp only [Desk.serve, Desk.locate, Desk.enter, Action.exec_map, Action.exec_reading_bind,
    Action.exec_pure, hcaller, haddress, hfind]
  rfl

/-! ## Requests that the rules let through -/

section
variable {caller : Caller}

/-- A creation that the rules let through. -/
theorem run_create (hcaller :
      authorize ctx.caller service.desk.service (service.desk.method .create) = .ok caller)
    {r : CreateRequest service.Place service.Input} {draft : service.Kept}
    (hdraft : service.desk.draft s caller r.place r.input = .ok draft)
    {inserted : Row service.Kept × Table service.Kept}
    (hinserted : (service.desk.shelf.get s).insert (Record.touchCreated caller.user ctx.now draft) =
      inserted) :
    (service.call (.create r)).run ctx s =
      (.ok (service.answer (.record (service.desk.present caller [] inserted.1))),
        service.desk.settled none inserted.1 (service.desk.shelf.set inserted.2 s)) := by
  subst hinserted
  rw [run_call]
  simp only [Desk.serve, Desk.create, Desk.enter, Action.exec_map, Action.exec_reading_bind,
    Action.exec_onShelf_bind, Action.exec_changing_bind, Action.exec_pure, hcaller, hdraft]
  rfl

/-- An update that the rules let through. -/
theorem run_update (hcaller :
      authorize ctx.caller service.desk.service (service.desk.method .update) = .ok caller)
    {r : UpdateRequest service.Key service.Input} {k : RowKey}
    {revise : Caller → service.Kept → Except ServiceError service.Kept}
    (hrevision : service.desk.revision s r.key r.input (.ofTexts r.mask) = .ok (k, revise))
    {old : Row service.Kept} (hfind : (service.desk.shelf.get s).find k = .ok old)
    {value : service.Kept} (hrevise : revise caller old.value = .ok value) {row : Row service.Kept}
    (hrow : Table.edited k old (Record.touchUpdated caller.user ctx.now value) = row) :
    (service.call (.update r)).run ctx s =
      (.ok (service.answer (.record (service.desk.present caller [] row))),
        service.desk.settled (some old) row
          (service.desk.shelf.set ((service.desk.shelf.get s).put k.id (some row)) s)) := by
  have hedit : Edit.ofRevision (fun old => do
      return Record.touchUpdated caller.user ctx.now (← revise caller old)) old.value =
      (.ok (), Record.touchUpdated caller.user ctx.now value) :=
    Table.ofRevision_eq_ok.2 (bind_eq_ok.2 ⟨value, hrevise, rfl⟩)
  have hupdate : (service.desk.shelf.get s).update k (.ofRevision fun old => do
      return Record.touchUpdated caller.user ctx.now (← revise caller old)) =
      (.ok row, (service.desk.shelf.get s).put k.id (some row)) := by
    subst hrow
    simp only [Table.update, hfind, hedit]
    rfl
  rw [run_call]
  simp only [Desk.serve, Desk.update, Desk.enter, Action.exec_map, Action.exec_reading_bind,
    Action.exec_get_bind, Action.exec_onShelf_bind, Action.exec_changing_bind, Action.exec_pure,
    hcaller, hrevision, hupdate, Table.row?_of_find hfind]
  rfl

/-- A removal that the rules let through. -/
theorem run_delete (hcaller :
      authorize ctx.caller service.desk.service (service.desk.method .delete) = .ok caller)
    {r : DeleteRequest service.Key} {k : RowKey}
    {allow : Caller → service.Kept → Except ServiceError Unit}
    (hremoval : service.desk.removal s r.key = .ok (k, allow)) {old : Row service.Kept}
    (hfind : (service.desk.shelf.get s).find k = .ok old)
    (hallow : allow caller old.value = .ok ()) :
    (service.call (.delete r)).run ctx s =
      (.ok (service.answer (.record (service.desk.present caller [] old))),
        service.desk.cleared k
          (service.desk.shelf.set ((service.desk.shelf.get s).put k.id none) s)) := by
  have hremove : (service.desk.shelf.get s).removeIf k (allow caller) =
      (.ok old, (service.desk.shelf.get s).put k.id none) := by
    simp only [Table.removeIf, hfind, hallow]
  rw [run_call]
  simp only [Desk.serve, Desk.delete, Desk.enter, Action.exec_map, Action.exec_reading_bind,
    Action.exec_onShelf_bind, Action.exec_changing_bind, Action.exec_pure, hcaller, hremoval,
    hremove]
  rfl

end

/-- A creation succeeds exactly when the caller may make it and the rules let it through. -/
theorem create_ok_iff {r : CreateRequest service.Place service.Input} :
    ((service.call (.create r)).run ctx s).1.isOk = true ↔
      ∃ caller draft,
        authorize ctx.caller service.desk.service (service.desk.method .create) = .ok caller ∧
        service.desk.draft s caller r.place r.input = .ok draft := by
  constructor
  · intro hok
    obtain ⟨answer, hanswer⟩ := exists_of_isOk hok
    obtain ⟨reply, rfl⟩ := exists_reply hanswer
    have hstep := step_of_ok hanswer
    generalize ((service.call _).run ctx s).2 = s' at hstep
    cases hstep with
    | created hcaller hdraft _ _ => exact ⟨_, _, hcaller, hdraft⟩
  · rintro ⟨caller, draft, hcaller, hdraft⟩
    rw [run_create hcaller hdraft rfl]
    rfl

/-- So does an update. -/
theorem update_ok_iff {r : UpdateRequest service.Key service.Input} :
    ((service.call (.update r)).run ctx s).1.isOk = true ↔
      ∃ caller k revise old value,
        authorize ctx.caller service.desk.service (service.desk.method .update) = .ok caller ∧
        service.desk.revision s r.key r.input (.ofTexts r.mask) = .ok (k, revise) ∧
        (service.shelf.get s).find k = .ok old ∧ revise caller old.value = .ok value := by
  constructor
  · intro hok
    obtain ⟨answer, hanswer⟩ := exists_of_isOk hok
    obtain ⟨reply, rfl⟩ := exists_reply hanswer
    have hstep := step_of_ok hanswer
    generalize ((service.call _).run ctx s).2 = s' at hstep
    cases hstep with
    | updated hcaller hrevision hfind hrevise _ _ =>
      rw [shelf_desk] at hfind
      exact ⟨_, _, _, _, _, hcaller, hrevision, hfind, hrevise⟩
  · rintro ⟨caller, k, revise, old, value, hcaller, hrevision, hfind, hrevise⟩
    rw [← shelf_desk] at hfind
    rw [run_update hcaller hrevision hfind hrevise rfl]
    rfl

/-- So does a removal. -/
theorem delete_ok_iff {r : DeleteRequest service.Key} :
    ((service.call (.delete r)).run ctx s).1.isOk = true ↔
      ∃ caller k allow old,
        authorize ctx.caller service.desk.service (service.desk.method .delete) = .ok caller ∧
        service.desk.removal s r.key = .ok (k, allow) ∧
        (service.shelf.get s).find k = .ok old ∧ allow caller old.value = .ok () := by
  constructor
  · intro hok
    obtain ⟨answer, hanswer⟩ := exists_of_isOk hok
    obtain ⟨reply, rfl⟩ := exists_reply hanswer
    have hstep := step_of_ok hanswer
    generalize ((service.call _).run ctx s).2 = s' at hstep
    cases hstep with
    | deleted hcaller hremoval hfind hallow =>
      rw [shelf_desk] at hfind
      exact ⟨_, _, _, _, hcaller, hremoval, hfind, hallow⟩
  · rintro ⟨caller, k, allow, old, hcaller, hremoval, hfind, hallow⟩
    rw [← shelf_desk] at hfind
    rw [run_delete hcaller hremoval hfind hallow]
    rfl

end ServiceName

end CaseDesk
