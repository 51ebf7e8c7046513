/-
  Records of one parent are isolated from those of others.

  A request within a parent sees only the records of that parent: a record of
  another parent is to it as if it were not there.

  * `Action.Agrees`: an action has the same outcome on two states.
  * `Desk.Isolated`: the rules of a desk look at nothing beyond a parent.  Then
    two runs of a request within the parent agree (`Desk.Isolated.serve`), and
    the rest of the table stays as it is (`Desk.Isolated.beyond_step`).
  * `ServiceName.AgreeWithin`: the tables agree on all that concerns a parent.
  * `ServiceName.scope_isolated`: a request within a parent is answered alike
    in tables that agree on it, and changes nothing beyond it.
-/
import CaseDesk.Proofs.Services
import CaseDesk.Proofs.Within

namespace CaseDesk

/-! ## Actions -/

namespace Action

variable {α β : Type} {alike : Tables → Tables → Prop} {a : Action α} {s s' : Tables}

/-- An action has the same outcome on two states of the tables, and leaves them alike. -/
def Agrees (alike : Tables → Tables → Prop) (a : Action α) (s s' : Tables) : Prop :=
  (a.exec s).1 = (a.exec s').1 ∧ alike (a.exec s).2 (a.exec s').2

theorem Agrees.map (h : a.Agrees alike s s') (f : α → β) : (f <$> a).Agrees alike s s' := by
  rw [Agrees, exec_map, exec_map]
  exact ⟨congrArg (f <$> ·) h.1, h.2⟩

end Action

/-! ## Desks -/

namespace Desk

variable {P F K I ρ : Type} [Record ρ]

/-- The rules of a desk look at nothing beyond a parent: they are the same in tables that are
    `alike`, and what they let a request write is within the parent.  `place` and `under` are the
    parents that places and keys name. -/
structure Isolated (d : Desk P F K I ρ) (place : P → Option Int) (under : K → Option Int)
    (parent : Int) (alike : Tables → Tables → Prop) : Prop where
  rows : ∀ {s s'}, alike s s' → (d.shelf.get s).AgreeWithin parent (d.shelf.get s')
  own : ∀ {s s' t t'}, alike s s' → Table.AgreeWithin parent t t' →
    alike (d.shelf.set t s) (d.shelf.set t' s')
  listScope : ∀ {s s' p}, place p = some parent → alike s s' → d.listScope s p = d.listScope s' p
  listScope_ok : ∀ {s p scope}, place p = some parent → d.listScope s p = .ok scope →
    scope = some parent
  address : ∀ {s s' key}, under key = some parent → alike s s' → d.address s key = d.address s' key
  address_ok : ∀ {s key k}, under key = some parent → d.address s key = .ok k →
    k.scope = some parent
  revision : ∀ {s s' key input mask}, under key = some parent → alike s s' →
    d.revision s key input mask = d.revision s' key input mask
  revision_ok : ∀ {s key input mask k revise}, under key = some parent →
    d.revision s key input mask = .ok (k, revise) → k.scope = some parent ∧
      ∀ {caller old new}, revise caller old = .ok new → Record.scope new = Record.scope old
  removal : ∀ {s s' key}, under key = some parent → alike s s' → d.removal s key = d.removal s' key
  removal_ok : ∀ {s key k allow}, under key = some parent → d.removal s key = .ok (k, allow) →
    k.scope = some parent ∧ ∀ s, d.cleared k s = s
  scope_stamped : ∀ id audit (r : ρ),
    Record.scope (Record.withId id (Record.audit.set audit r)) = Record.scope r := by intros; rfl
  settled : ∀ {s s' before row}, Record.scope row.value = some parent → alike s s' →
    alike (d.settled before row s) (d.settled before row s') := by intros; assumption
  settled_beyond : ∀ {s before row}, Record.scope row.value = some parent → ∀ id,
    (d.shelf.get (d.settled before row s)).beyond parent id =
      (d.shelf.get s).beyond parent id := by intros; rfl

namespace Isolated

variable {d : Desk P F K I ρ} {place : P → Option Int} {under : K → Option Int} {parent : Int}
  {alike : Tables → Tables → Prop} {ctx : Context} {s s' : Tables}

/-- The row that an update within a parent writes is of that parent. -/
theorem scope_edited (hd : d.Isolated place under parent alike) {key : RowKey} {old : Row ρ}
    (hscope : key.scope = some parent) (hfind : (d.shelf.get s).find key = .ok old) {value : ρ}
    (hvalue : Record.scope value = Record.scope old.value) (who : Lookup) (time : Int) :
    Record.scope (Table.edited key old (Record.touchUpdated who time value)).value =
      some parent :=
  (hd.scope_stamped _ _ _).trans
    (hvalue.trans (Table.inScope_iff.1 (Table.inScope_of_find hfind hscope)))

theorem list (hd : d.Isolated place under parent alike) (h : alike s s') {r : ListRequest P F}
    (hr : place r.place = some parent) : (d.list ctx r).Agrees alike s s' := by
  simp only [Action.Agrees, Desk.list, enter, Action.exec_reading_bind, Action.exec_get_bind,
    Action.exec_pure, ← hd.listScope hr h]
  rcases authorize ctx.caller d.service (d.method .list) with e | caller
  · exact ⟨rfl, h⟩
  rcases hscope : d.listScope s r.place with e | scope
  · exact ⟨rfl, h⟩
  rcases d.query ctx r with e | query
  · exact ⟨rfl, h⟩
  cases hd.listScope_ok hr hscope
  simp only [(hd.rows h).listWhere_eq]
  exact ⟨trivial, h⟩

theorem locate (hd : d.Isolated place under parent alike) (h : alike s s') {r : LocateRequest K}
    (hr : under r.key = some parent) : (d.locate ctx r).Agrees alike s s' := by
  simp only [Action.Agrees, Desk.locate, enter, Action.exec_reading_bind, Action.exec_pure,
    ← hd.address hr h]
  rcases authorize ctx.caller d.service (d.method .locate) with e | caller
  · exact ⟨rfl, h⟩
  rcases haddress : d.address s r.key with e | key
  · exact ⟨rfl, h⟩
  simp only [← (hd.rows h).find_eq (hd.address_ok hr haddress)]
  rcases (d.shelf.get s).find key with e | row
  · exact ⟨rfl, h⟩
  · exact ⟨rfl, h⟩

theorem update (hd : d.Isolated place under parent alike) (h : alike s s')
    {r : UpdateRequest K I} (hr : under r.key = some parent) : (d.update ctx r).Agrees alike s s' := by
  simp only [Action.Agrees, Desk.update, enter, Action.exec_reading_bind, Action.exec_get_bind,
    Action.exec_onShelf_bind, Action.exec_changing_bind, Action.exec_pure, ← hd.revision hr h]
  rcases authorize ctx.caller d.service (d.method .update) with e | caller
  · exact ⟨rfl, h⟩
  rcases hrevision : d.revision s r.key r.input (.ofTexts r.mask) with e | ⟨key, revise⟩
  · exact ⟨rfl, h⟩
  obtain ⟨hscope, hkept⟩ := hd.revision_ok hr hrevision
  rcases (hd.rows h).update_cases hscope (.ofRevision fun old => do
    return Record.touchUpdated caller.user ctx.now (← revise caller old)) with
    ⟨e, hrefused, hrefused'⟩ | ⟨old, value, hfind, hfind', hedit, hdone, hdone'⟩
  · simp only [hrefused, hrefused', d.shelf.set_get]
    exact ⟨trivial, h⟩
  · simp only [hdone, hdone', Table.row?_of_find hfind, Table.row?_of_find hfind']
    obtain ⟨new, hnew, hvalue⟩ := bind_eq_ok.1 (Table.ofRevision_eq_ok.1 hedit)
    cases hvalue
    have hput := (hd.rows h).put (Table.row?_of_find hfind) (Table.row?_of_find hfind')
    exact ⟨trivial, hd.settled (hd.scope_edited hscope hfind (hkept hnew) _ _) (hd.own h (hput _))⟩

theorem delete (hd : d.Isolated place under parent alike) (h : alike s s') {r : DeleteRequest K}
    (hr : under r.key = some parent) : (d.delete ctx r).Agrees alike s s' := by
  simp only [Action.Agrees, Desk.delete, enter, Action.exec_reading_bind, Action.exec_onShelf_bind,
    Action.exec_changing_bind, Action.exec_pure, ← hd.removal hr h]
  rcases authorize ctx.caller d.service (d.method .delete) with e | caller
  · exact ⟨rfl, h⟩
  rcases hremoval : d.removal s r.key with e | ⟨key, allow⟩
  · exact ⟨rfl, h⟩
  obtain ⟨hscope, hcleared⟩ := hd.removal_ok hr hremoval
  rcases (hd.rows h).removeIf_cases hscope (allow caller) with
    ⟨e, hrefused, hrefused'⟩ | ⟨old, hfind, hfind', hdone, hdone'⟩
  · simp only [hrefused, hrefused', d.shelf.set_get]
    exact ⟨trivial, h⟩
  · simp only [hdone, hdone', hcleared]
    have hput := (hd.rows h).put (Table.row?_of_find hfind) (Table.row?_of_find hfind')
    exact ⟨trivial, hd.own h (hput none)⟩

end Isolated

/-- The parent that a request names, other than one for a new record. -/
def aim (place : P → Option Int) (under : K → Option Int) : Request P F K I → Option Int
  | .list r => place r.place
  | .create _ => none
  | .update r => under r.key
  | .delete r => under r.key
  | .locate r => under r.key

namespace Isolated

variable {d : Desk P F K I ρ} {place : P → Option Int} {under : K → Option Int} {parent : Int}
  {alike : Tables → Tables → Prop} {ctx : Context} {s s' : Tables} {r : Request P F K I}

/-- **A request within a parent is served alike in tables that are alike.** -/
theorem serve (hd : d.Isolated place under parent alike) (h : alike s s')
    (hr : aim place under r = some parent) : (d.serve ctx r).Agrees alike s s' := by
  cases r with
  | list r => exact (hd.list h hr).map _
  | create r => cases hr
  | update r => exact (hd.update h hr).map _
  | delete r => exact (hd.delete h hr).map _
  | locate r => exact (hd.locate h hr).map _

/-- **A request within a parent leaves the rows of others.** -/
theorem beyond_step (hd : d.Isolated place under parent alike)
    (hr : aim place under r = some parent) {out : Except ServiceError (Reply ρ)}
    (hstep : d.Step ctx s r out s') (id : Int) :
    (d.shelf.get s').beyond parent id = (d.shelf.get s).beyond parent id := by
  cases hstep with
  | refused | listed | located => rfl
  | created => cases hr
  | updated _ hrevision hfind hrevise row hrow =>
    obtain ⟨hscope, hkept⟩ := hd.revision_ok hr hrevision
    have hnew : Record.scope row.value = some parent :=
      hrow ▸ hd.scope_edited hscope hfind (hkept hrevise) _ _
    rw [hd.settled_beyond hnew, d.shelf.get_set]
    refine Table.beyond_put (Table.row?_of_find hfind) (Table.inScope_of_find hfind hscope) ?_ id
    rintro _ ⟨⟩
    exact Table.inScope_iff.2 hnew
  | deleted _ hremoval hfind _ =>
    obtain ⟨hscope, hcleared⟩ := hd.removal_ok hr hremoval
    rw [hcleared, d.shelf.get_set]
    exact Table.beyond_put (Table.row?_of_find hfind) (Table.inScope_of_find hfind hscope)
      (fun _ h => by cases h) id

end Isolated

end Desk

/-! ## Child dictionaries -/

/-- A parent is required alike where it is there alike. -/
theorem Parent.require_congr {π : Type} [Record π] {p : Parent π} {s s' : Tables} {id : Int}
    (h : (p.shelf.get s).contains id = (p.shelf.get s').contains id) :
    p.require s id = p.require s' id := by
  unfold Parent.require Require.id
  split_ifs
  · simp only [bind, Except.bind, h]
  · rfl

theorem Parent.scope_of_list {π : Type} [Record π] {p : Parent π} {s : Tables} {id : Int}
    {scope : Option Int} (h : some <$> p.require s id = .ok scope) : scope = some id := by
  obtain ⟨found, hfound, rfl⟩ := map_eq_ok.1 h
  exact congrArg some (Parent.eq_of_require hfound)

theorem Parent.scope_of_address {π : Type} [Record π] {p : Parent π} {s : Tables} {key : ChildKey}
    {k : RowKey} (h : (do
      let scope ← p.require s key.parent
      return ({ id := key.id, scope := some scope } : RowKey)) = .ok k) :
    k.scope = some key.parent := by
  obtain ⟨found, hfound, h⟩ := bind_eq_ok.1 h
  cases h
  exact congrArg some (Parent.eq_of_require hfound)

/-- A child dictionary whose inputs are prepared alike and say nothing about parents. -/
theorem Desk.isolated_child {I π ρ : Type} [Record ρ] [Record π] {service : String}
    {method : Operation → String} {shelf : Shelf ρ} {p : Parent π} {empty : Int → ρ}
    {prepare : Tables → Int → Int → FieldMask → I → Except ServiceError I}
    {revise : FieldMask → I → ρ → Except ServiceError ρ} {parent : Int}
    {alike : Tables → Tables → Prop}
    (hrows : ∀ {s s'}, alike s s' → (shelf.get s).AgreeWithin parent (shelf.get s'))
    (hown : ∀ {s s' t t'}, alike s s' → Table.AgreeWithin parent t t' →
      alike (shelf.set t s) (shelf.set t' s'))
    (hthere : ∀ {s s'}, alike s s' →
      (p.shelf.get s).contains parent = (p.shelf.get s').contains parent)
    (hprepare : ∀ {s s' own mask input}, alike s s' →
      prepare s parent own mask input = prepare s' parent own mask input)
    (hrevise : ∀ {mask input old new}, revise mask input old = .ok new →
      Record.scope new = Record.scope old)
    (hstamped : ∀ id audit (r : ρ),
      Record.scope (Record.withId id (Record.audit.set audit r)) = Record.scope r := by
        intros; rfl) :
    (child service method shelf p empty prepare revise).Isolated some (some ·.parent) parent
      alike where
  rows := hrows
  own := hown
  listScope hp h := by
    cases hp
    exact congrArg (some <$> ·) (Parent.require_congr (hthere h))
  listScope_ok hp hscope := by
    cases hp
    exact Parent.scope_of_list hscope
  address hkey h := by
    cases hkey
    exact congrArg (· >>= _) (Parent.require_congr (hthere h))
  address_ok hkey haddress := by
    cases hkey
    exact Parent.scope_of_address haddress
  revision {s s' key input mask} hkey h := by
    cases hkey
    simp only [child, Parent.require_congr (hthere h)]
    rcases hfound : p.require s' key.parent with e | found
    · rfl
    · cases Parent.eq_of_require hfound
      simp only [bind, Except.bind, hprepare h]
  revision_ok hkey hrevision := by
    cases hkey
    obtain ⟨_, -, hrevision⟩ := bind_eq_ok.1 hrevision
    obtain ⟨id, hid, hrevision⟩ := bind_eq_ok.1 hrevision
    obtain ⟨_, -, hrevision⟩ := bind_eq_ok.1 hrevision
    cases hrevision
    exact ⟨congrArg some (Parent.eq_of_require hid), hrevise⟩
  removal hkey h := by
    cases hkey
    exact congrArg (· >>= _) (Parent.require_congr (hthere h))
  removal_ok hkey hremoval := by
    cases hkey
    obtain ⟨id, hid, hremoval⟩ := bind_eq_ok.1 hremoval
    cases hremoval
    exact ⟨congrArg some (Parent.eq_of_require hid), fun _ => rfl⟩
  scope_stamped := hstamped

/-! ## The services -/

namespace ServiceName

/-- Whether a parent is there; of cases nothing is known here. -/
def hasParent : ServiceName → Tables → Int → Bool
  | slaConditions => fun s => s.slas.contains
  | reasons => fun s => s.closeReasons.contains
  | statusConditions => fun s => s.statuses.contains
  | _ => fun _ _ => true

/-- The tables agree on all that concerns the records of a parent: on its rows, on whether it is
    there, and on the priorities that conditions of agreements refer to. -/
structure AgreeWithin (service : ServiceName) (parent : Int) (s s' : Tables) : Prop where
  rows : (service.shelf.get s).AgreeWithin parent (service.shelf.get s')
  parent : service.hasParent s parent = service.hasParent s' parent
  priorities : service = slaConditions → ∀ id, s.priorities.row? id = s'.priorities.row? id

/-- The parent or case that a request is about, unless it makes a new record or names a record by
    its tag alone. -/
def aim (service : ServiceName) : service.Request → Option Int :=
  Desk.aim service.placeId? service.keyPlaceId?

variable {service : ServiceName} {parent : Int} {s s' : Tables}

/-- The tables of a service are replaced by others that agree. -/
theorem AgreeWithin.own (h : service.AgreeWithin parent s s') {t t' : Table service.Kept}
    (ht : t.AgreeWithin parent t') :
    service.AgreeWithin parent (service.shelf.set t s) (service.shelf.set t' s') where
  rows := by
    rw [service.shelf.get_set, service.shelf.get_set]
    exact ht
  parent := by cases service <;> exact h.parent
  priorities hservice := by
    subst hservice
    exact h.priorities rfl

end ServiceName

theorem SlaConditions.prepare_congr {parent : Int} {s s' : Tables}
    (h : ServiceName.slaConditions.AgreeWithin parent s s') {own : Int} {mask : FieldMask}
    {input : SlaConditionInput} :
    prepare s parent own mask input = prepare s' parent own mask input := by
  have hresolve : resolve s.priorities = resolve s'.priorities := funext fun id => by
    rw [resolve, resolve, h.priorities rfl id]
  have hsiblings : s.slaConditions.scopeRows parent = s'.slaConditions.scopeRows parent :=
    h.rows.scopeRows_eq
  simp only [prepare, hresolve, hsiblings]

theorem SlaConditions.isolated (parent : Int) :
    desk.Isolated some (some ·.parent) parent (ServiceName.slaConditions.AgreeWithin parent) :=
  Desk.isolated_child (·.rows) (·.own) (·.parent) (fun h => prepare_congr h)
    fun h => congrArg some (revise_eq_ok h).1

theorem Reasons.isolated (parent : Int) :
    desk.Isolated some (some ·.parent) parent (ServiceName.reasons.AgreeWithin parent) :=
  Desk.isolated_child (·.rows) (·.own) (·.parent) (fun _ => rfl)
    fun h => congrArg some (revise_eq_ok h)

/-- What follows from a change of a condition concerns its own status only. -/
theorem StatusConditions.settled_alike {before : Option (Row StatusCondition)}
    {row : Row StatusCondition} {s s' : Tables}
    (h : ServiceName.statusConditions.AgreeWithin row.value.statusId s s') :
    ServiceName.statusConditions.AgreeWithin row.value.statusId (settled before row s)
      (settled before row s') := by
  unfold settled
  split_ifs
  · exact h.own (h.rows.modifyScope fun c => congrArg some (statusId_clearInitial _ c))
  · exact h

theorem StatusConditions.isolated (status : Int) :
    desk.Isolated some (some ·.parent) status
      (ServiceName.statusConditions.AgreeWithin status) where
  rows := (·.rows)
  own := (·.own)
  listScope hp h := by
    cases hp
    exact congrArg (some <$> ·) (Parent.require_congr (p := parent) h.parent)
  listScope_ok hp hscope := by
    cases hp
    exact Parent.scope_of_list hscope
  address hkey h := by
    cases hkey
    exact congrArg (· >>= _) (Parent.require_congr (p := parent) h.parent)
  address_ok hkey haddress := by
    cases hkey
    exact Parent.scope_of_address haddress
  revision := fun hkey h => by
    cases hkey
    simp only [desk, Parent.require_congr (p := parent) h.parent]
  revision_ok := fun hkey hrevision => by
    refine ⟨?_, fun hnew => congrArg some (revision_eq_ok hrevision hnew).1⟩
    cases hkey
    obtain ⟨_, -, hrevision⟩ := bind_eq_ok.1 hrevision
    obtain ⟨id, hid, hrevision⟩ := bind_eq_ok.1 hrevision
    cases hrevision
    exact congrArg some (Parent.eq_of_require hid)
  removal := fun {s s' key} hkey h => by
    cases hkey
    simp only [desk, removal, Parent.require_congr (p := parent) h.parent]
    rcases hfound : parent.require s' key.parent with e | found
    · rfl
    · cases Parent.eq_of_require hfound
      have hsiblings : s.statusConditions.scopeRows key.parent =
          s'.statusConditions.scopeRows key.parent := h.rows.scopeRows_eq
      simp only [bind, Except.bind, hsiblings]
  removal_ok := fun hkey hremoval => by
    cases hkey
    obtain ⟨id, hid, hremoval⟩ := bind_eq_ok.1 hremoval
    cases hremoval
    exact ⟨congrArg some (Parent.eq_of_require hid), fun _ => rfl⟩
  settled := fun hrow h => by
    cases hrow
    exact settled_alike h
  settled_beyond := fun {s before row} hrow id => by
    cases hrow
    change (settled before row s).statusConditions.beyond _ id = s.statusConditions.beyond _ id
    rw [get_settled]
    split_ifs
    · exact Table.beyond_modifyScope (fun c => congrArg some (statusId_clearInitial _ c)) id
    · rfl

theorem Require.scope_of_tag {raw : String} {id : Int} {scope : Option Int}
    (h : (do return some (← Require.tag .wholeCase raw).id) = .ok scope)
    (hraw : Etag.id? .wholeCase raw = some id) : scope = some id := by
  obtain ⟨tag, htag, h⟩ := bind_eq_ok.1 h
  cases h
  exact (Etag.id?_of_parse (Require.tag_eq_ok.1 htag)).symm.trans hraw

/-- Lists of comments are about one case; a key of a comment names no case. -/
theorem CaseComments.isolated (caseId : Int) :
    desk.Isolated (Etag.id? .wholeCase) (fun _ => none) caseId
      (ServiceName.caseComments.AgreeWithin caseId) where
  rows := (·.rows)
  own := (·.own)
  listScope _ _ := rfl
  listScope_ok hp hscope := Require.scope_of_tag hscope hp
  address := nofun
  address_ok := nofun
  revision := nofun
  revision_ok := nofun
  removal := nofun
  removal_ok := nofun

/-- A key of a link addresses a row in the case that it names. -/
theorem CaseLinks.scope_of_rowKey {key : LinkKey} {row : RowKey} {caseId : Int}
    (h : rowKey key = .ok row) (hcase : Etag.id? .wholeCase key.caseTag = some caseId) :
    row.scope = some caseId := by
  obtain ⟨caseTag, hcaseTag, h⟩ := bind_eq_ok.1 h
  obtain ⟨_, -, h⟩ := bind_eq_ok.1 h
  cases h
  exact (Etag.id?_of_parse (Require.tag_eq_ok.1 hcaseTag)).symm.trans hcase

theorem CaseLinks.revise_eq_ok {mask : FieldMask} {input : CaseLinkInput} {old new : CaseLink}
    (h : revise mask input old = .ok new) : new.caseId = old.caseId := by
  obtain ⟨_, -, h⟩ := bind_eq_ok.1 h
  cases h
  rfl

theorem CaseLinks.isolated (caseId : Int) :
    desk.Isolated (Etag.id? .wholeCase) (Etag.id? .wholeCase ·.caseTag) caseId
      (ServiceName.caseLinks.AgreeWithin caseId) where
  rows := (·.rows)
  own := (·.own)
  listScope _ _ := rfl
  listScope_ok hp hscope := Require.scope_of_tag hscope hp
  address _ _ := rfl
  address_ok hkey haddress := by
    obtain ⟨row, hrow, haddress⟩ := bind_eq_ok.1 haddress
    have hscope : row.scope = some caseId := scope_of_rowKey hrow hkey
    cases haddress
    exact hscope
  revision _ _ := rfl
  revision_ok hkey hrevision := by
    obtain ⟨row, hrow, hrevision⟩ := bind_eq_ok.1 hrevision
    obtain ⟨_, -, hrevision⟩ := bind_eq_ok.1 hrevision
    cases hrevision
    exact ⟨scope_of_rowKey hrow hkey, fun hnew => congrArg some (revise_eq_ok hnew)⟩
  removal _ _ := rfl
  removal_ok hkey hremoval := by
    obtain ⟨row, hrow, hremoval⟩ := bind_eq_ok.1 hremoval
    cases hremoval
    exact ⟨scope_of_rowKey hrow hkey, fun _ => rfl⟩

/-- Nothing is within a parent where nothing has one. -/
theorem Desk.isolated_root {P F K I ρ : Type} [Record ρ] {d : Desk P F K I ρ} {parent : Int}
    {alike : Tables → Tables → Prop}
    (hrows : ∀ {s s'}, alike s s' → (d.shelf.get s).AgreeWithin parent (d.shelf.get s'))
    (hown : ∀ {s s' t t'}, alike s s' → Table.AgreeWithin parent t t' →
      alike (d.shelf.set t s) (d.shelf.set t' s'))
    (hscope : ∀ r : ρ, Record.scope r = none := by intros; rfl)
    (hstamped : ∀ id audit (r : ρ),
      Record.scope (Record.withId id (Record.audit.set audit r)) = Record.scope r := by
        intros; rfl) :
    d.Isolated (fun _ => none) (fun _ => none) parent alike where
  rows := hrows
  own := hown
  listScope := nofun
  listScope_ok := nofun
  address := nofun
  address_ok := nofun
  revision := nofun
  revision_ok := nofun
  removal := nofun
  removal_ok := nofun
  scope_stamped := hstamped
  settled hrow := by cases (hscope _).symm.trans hrow
  settled_beyond hrow := by cases (hscope _).symm.trans hrow

namespace ServiceName

variable {service : ServiceName} {parent : Int} {ctx : Context} {s s' : Tables}

theorem isolated (service : ServiceName) (parent : Int) :
    service.desk.Isolated service.placeId? service.keyPlaceId? parent
      (service.AgreeWithin parent) := by
  cases service with
  | slas =>
    exact Desk.isolated_root (fun h : slas.AgreeWithin .. => h.rows) fun h ht => h.own ht
  | closeReasons =>
    exact Desk.isolated_root (fun h : closeReasons.AgreeWithin .. => h.rows) fun h ht => h.own ht
  | sources =>
    exact Desk.isolated_root (fun h : sources.AgreeWithin .. => h.rows) fun h ht => h.own ht
  | statuses =>
    exact Desk.isolated_root (fun h : statuses.AgreeWithin .. => h.rows) fun h ht => h.own ht
  | priorities =>
    exact Desk.isolated_root (fun h : priorities.AgreeWithin .. => h.rows) fun h ht => h.own ht
  | slaConditions => exact SlaConditions.isolated parent
  | reasons => exact Reasons.isolated parent
  | statusConditions => exact StatusConditions.isolated parent
  | caseComments => exact CaseComments.isolated parent
  | caseLinks => exact CaseLinks.isolated parent

/-- A call within a parent is served alike in tables that agree on it. -/
theorem run_congr (h : service.AgreeWithin parent s s') {r : service.Request}
    (hr : service.aim r = some parent) (ctx : Context) :
    ((service.call r).run ctx s).1 = ((service.call r).run ctx s').1 ∧
      service.AgreeWithin parent ((service.call r).run ctx s).2
        ((service.call r).run ctx s').2 := by
  rw [run_call, run_call]
  exact ((service.isolated parent).serve h hr).imp (congrArg (service.answer <$> ·)) id

/-- A row of another parent is not looked at, so it may be missing. -/
theorem agreeWithin_without {id : Int} {row : Row service.Kept}
    (hrow : (service.shelf.get s).row? id = some row)
    (hforeign : Record.scope row.value ≠ some parent) :
    service.AgreeWithin parent s (service.shelf.modify (·.put id none) s) where
  rows i := by
    rw [Lens.modify, service.shelf.get_set, Table.within_put hrow]
    split_ifs with hid
    · have hout : Table.inScope parent row.value = false :=
        Bool.eq_false_iff.2 fun h => hforeign (Table.inScope_iff.1 h)
      rw [hid, Table.within, hrow, Option.filter_some, hout]
      rfl
    · rfl
  parent := by cases service <;> rfl
  priorities hservice _ := by
    subst hservice
    rfl

/-- **Records of one parent are isolated from those of others.**  A request within a parent, or a
    case, has the same answer, which may be an error, in all tables that agree on that parent, and
    they agree on it afterwards.  It leaves the records of other parents as they are.  To it a
    record of another parent is as good as missing. -/
theorem scope_isolated {r : service.Request} (hr : service.aim r = some parent) (ctx : Context)
    (s : Tables) :
    (∀ s', service.AgreeWithin parent s s' →
      ((service.call r).run ctx s).1 = ((service.call r).run ctx s').1 ∧
        service.AgreeWithin parent ((service.call r).run ctx s).2
          ((service.call r).run ctx s').2) ∧
    (∀ id, (service.shelf.get ((service.call r).run ctx s).2).beyond parent id =
      (service.shelf.get s).beyond parent id) ∧
    ∀ id row, (service.shelf.get s).row? id = some row → Record.scope row.value ≠ some parent →
      ((service.call r).run ctx (service.shelf.modify (·.put id none) s)).1 =
        ((service.call r).run ctx s).1 := by
  refine ⟨fun s' h => run_congr h hr ctx, fun id => ?_, fun id row hrow hforeign => ?_⟩
  · have hstep := service.desk.step_serve ctx s r
    have hbeyond := (service.isolated parent).beyond_step hr hstep id
    rw [shelf_desk] at hbeyond
    rw [run_call]
    exact hbeyond
  · exact (run_congr (agreeWithin_without hrow hforeign) hr ctx).1.symm

end ServiceName

/-- Two statuses with conditions, the second of the three belonging to the second status. -/
def twoStatuses : Run :=
  [.bySuperuser (.statuses (.create ⟨(), some ⟨"open", ""⟩⟩)),
    .bySuperuser (.statuses (.create ⟨(), some ⟨"closed", ""⟩⟩)),
    .bySuperuser (.statusConditions (.create ⟨1, some ⟨"new", "", false, false⟩⟩)),
    .bySuperuser (.statusConditions (.create ⟨2, some ⟨"done", "", false, true⟩⟩)),
    .bySuperuser (.statusConditions (.create ⟨1, some ⟨"known", "", false, false⟩⟩))]

/-- The removal of a condition of the second status as if it were one of the first. -/
def foreignRemoval : ServiceName.statusConditions.Request := .delete ⟨⟨1, 2⟩⟩

theorem twoStatuses_isolated :
    ((ServiceName.statusConditions.call foreignRemoval).run .superuser
        (Shelf.statusConditions.modify (·.put 2 none) (twoStatuses.before 5))).1 =
      ((ServiceName.statusConditions.call foreignRemoval).run .superuser
        (twoStatuses.before 5)).1 ∧
    ServiceName.statusConditions.AgreeWithin 1
      ((ServiceName.statusConditions.call foreignRemoval).run .superuser
        (twoStatuses.before 5)).2
      ((ServiceName.statusConditions.call foreignRemoval).run .superuser
        (Shelf.statusConditions.modify (·.put 2 none) (twoStatuses.before 5))).2 ∧
    ((ServiceName.statusConditions.call foreignRemoval).run .superuser
        (twoStatuses.before 5)).2.statusConditions.beyond 1 2 =
      (twoStatuses.before 5).statusConditions.beyond 1 2 := by
  have hsecond : ((twoStatuses.before 5).statusConditions.row? 2).map (·.value.statusId) =
      some 2 := by decide +kernel
  obtain ⟨row, hrow, hstatus⟩ := Option.map_eq_some_iff.1 hsecond
  have hforeign : Record.scope row.value ≠ some 1 := fun h => by
    cases (congrArg some hstatus).symm.trans h
  obtain ⟨hagree, hbeyond, hmissing⟩ := ServiceName.scope_isolated
    (rfl : ServiceName.statusConditions.aim foreignRemoval = some 1) .superuser
    (twoStatuses.before 5)
  have hwithout : ServiceName.statusConditions.AgreeWithin 1 (twoStatuses.before 5)
      (Shelf.statusConditions.modify (·.put 2 none) (twoStatuses.before 5)) :=
    ServiceName.agreeWithin_without hrow hforeign
  exact ⟨hmissing 2 row hrow hforeign, (hagree _ hwithout).2, hbeyond 2⟩

end CaseDesk
