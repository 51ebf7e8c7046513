/-
  What a call leaves alone.

  A call that creates, updates or deletes writes one row of the table of its
  service.  Some writes have consequences in other rows: the records of a
  parent go with it, the conditions of agreements follow the name and the
  removal of a priority, and a condition of a status that becomes initial takes
  the flag from the others.

  * `Call.written?`: the row that a call writes.
  * `Operation.Writes`: what becomes of that row.
  * `Call.beside`: what becomes of each other row.
  * `Tables.Framed`: one row apart, all rows are what they become.
  * `Table.Advances`: a row that is not new is the same or has the next
    version.  Every call lets the tables advance (`Call.Step.advances`).
  * `Reachable.frame`: calls that succeed keep to all of that.
  * `wornCondition`: a run that uses up the versions of a condition.
-/
import CaseDesk.Proofs.Fairness
import CaseDesk.Proofs.Initial
import CaseDesk.Proofs.Shelves

namespace CaseDesk

/-! ## The row that is written -/

/-- The id of the next record of a table. -/
def Table.nextId {ρ : Type} (t : Table ρ) : Int := t.slots.length + 1

/-- The id of the row that a request writes: the next one for a new record, else the one that the
    key names. -/
def Request.written? {P F K I : Type} (next : Int) (named : K → Option Int) :
    Request P F K I → Option Int
  | .create _ => some next
  | .update r => named r.key
  | .delete r => named r.key
  | .list _ | .locate _ => none

/-- The id that a tag of a kind names. -/
def Etag.id? (kind : EtagKind) (raw : String) : Option Int :=
  match Etag.parse kind raw with
  | .ok tag => some tag.id
  | .error _ => none

/-- The id of the row that a call writes in the table of its service. -/
def Call.written? (s : Tables) : Call → Option Int
  | slas r => r.written? s.slas.nextId some
  | slaConditions r => r.written? s.slaConditions.nextId (some ·.id)
  | closeReasons r => r.written? s.closeReasons.nextId some
  | reasons r => r.written? s.reasons.nextId (some ·.id)
  | sources r => r.written? s.sources.nextId some
  | statuses r => r.written? s.statuses.nextId some
  | statusConditions r => r.written? s.statusConditions.nextId (some ·.id)
  | priorities r => r.written? s.priorities.nextId some
  | caseComments r => r.written? s.comments.nextId (Etag.id? .comment)
  | caseLinks r => r.written? s.links.nextId (Etag.id? .link ·.linkTag)

/-- What an operation makes of the row that it writes. -/
inductive Operation.Writes {ρ : Type} : Operation → Option (Row ρ) → Option (Row ρ) → Prop
  | create {row : Row ρ} (hver : row.ver = 1) : Writes .create none (some row)
  | update {old row : Row ρ} (hver : row.ver = old.ver + 1) : Writes .update (some old) (some row)
  | delete {old : Row ρ} : Writes .delete (some old) none

theorem Operation.Writes.before_of_create {ρ : Type} {before after : Option (Row ρ)}
    (h : Operation.create.Writes before after) : before = none := by
  cases h
  rfl

theorem Operation.Writes.before_of_update {ρ : Type} {before after : Option (Row ρ)}
    (h : Operation.update.Writes before after) : ∃ old, before = some old := by
  cases h
  exact ⟨_, rfl⟩

theorem Operation.Writes.ver_eq {ρ : Type} {op : Operation} {before : Option (Row ρ)} {row : Row ρ}
    (h : op.Writes before (some row)) :
    (before = none ∧ row.ver = 1) ∨ ∃ old, before = some old ∧ row.ver = old.ver + 1 := by
  cases h with
  | create hver => exact .inl ⟨rfl, hver⟩
  | update hver => exact .inr ⟨_, rfl, hver⟩

/-- A table before and after an operation that writes the row with an id. -/
structure Table.Written {ρ : Type} (t : Table ρ) (op : Operation) (id : Int) (t' : Table ρ) :
    Prop where
  row : op.Writes (t.row? id) (t'.row? id)
  rest : ∀ j, j ≠ id → t'.row? j = t.row? j

/-! ## The other rows -/

/-- A condition of an agreement under the name that a priority has now: if it holds the priority
    under another one, it takes the name over and gets a new version. -/
def Row.renamed (id : Int) (name : String) (row : Row SlaCondition) : Row SlaCondition :=
  if ∃ p ∈ row.value.priorities, p.id = id ∧ p.name ≠ name then
    { ver := row.ver + 1
      value := { row.value with
        priorities := row.value.priorities.map fun p => if p.id = id then ⟨id, name⟩ else p } }
  else row

/-- A condition of an agreement without a priority: if it holds the priority, it loses it and gets
    a new version. -/
def Row.released (id : Int) (row : Row SlaCondition) : Row SlaCondition :=
  if ∃ p ∈ row.value.priorities, p.id = id then
    { ver := row.ver + 1
      value := { row.value with priorities := row.value.priorities.filter (·.id != id) } }
  else row

/-- A condition beside one of a status that becomes initial: if it is of the same status and
    initial, it loses the flag and gets a new version. -/
def Row.yielded (status : Int) (row : Row StatusCondition) : Row StatusCondition :=
  if row.value.statusId = status ∧ row.value.initial = true then
    { ver := row.ver + 1, value := { row.value with initial := false } }
  else row

/-- The status within which the condition with an id has become initial. -/
def Tables.promoted? (s s' : Tables) (id : Int) : Option Int :=
  match s'.statusConditions.row? id with
  | some row =>
    if row.value.initial ∧ ¬ (s.statusConditions.row? id).any (·.value.initial) then
      some row.value.statusId
    else none
  | none => none

/-- What becomes of a row that a call does not write itself, where the call writes the row with an
    id and leads from `s` to `s'`. -/
def Call.beside (call : Call) (s s' : Tables) (id : Int) :
    (service : ServiceName) → Row service.Kept → Option (Row service.Kept)
  | .slaConditions => fun row =>
    match call with
    | .slas (.delete _) => if row.value.slaId = id then none else some row
    | .priorities (.update _) =>
      match s'.priorities.row? id with
      | some priority => some (row.renamed id priority.value.name)
      | none => some row
    | .priorities (.delete _) => some (row.released id)
    | _ => some row
  | .reasons => fun row =>
    match call with
    | .closeReasons (.delete _) => if row.value.closeReasonId = id then none else some row
    | _ => some row
  | .statusConditions => fun row =>
    match call with
    | .statuses (.delete _) => if row.value.statusId = id then none else some row
    | .statusConditions (.create _) | .statusConditions (.update _) =>
      match s.promoted? s' id with
      | some status => some (row.yielded status)
      | none => some row
    | _ => some row
  | .slas | .closeReasons | .sources | .statuses | .priorities | .caseComments | .caseLinks => some

/-- The service of which a call may change records beside the one that it writes. -/
def Call.reach : Call → Option ServiceName
  | slas _ | priorities _ => some .slaConditions
  | closeReasons _ => some .reasons
  | statuses _ | statusConditions _ => some .statusConditions
  | slaConditions _ | reasons _ | sources _ | caseComments _ | caseLinks _ => none

theorem Call.beside_of_not_reach {call : Call} {other : ServiceName}
    (h : ∀ child, call.reach = some child → other ≠ child) (s s' : Tables) (id : Int) :
    call.beside s s' id other = some := by
  cases call <;> cases other <;> first | rfl | exact absurd rfl (h _ rfl)

theorem Call.beside_of_ne_reach {call : Call} {other child : ServiceName}
    (hreach : call.reach = some child) (hother : other ≠ child) (s s' : Tables) (id : Int) :
    call.beside s s' id other = some :=
  beside_of_not_reach (fun _ h => Option.some.inj (hreach.symm.trans h) ▸ hother) s s' id

/-! ## Frames -/

/-- One row apart, every row of the tables is what `beside` makes of it. -/
def Tables.Framed (service : ServiceName) (id : Int)
    (beside : (other : ServiceName) → Row other.Kept → Option (Row other.Kept)) (s s' : Tables) :
    Prop :=
  ∀ (other : ServiceName) (j : Int), (other = service → j ≠ id) →
    (other.shelf.get s').row? j = ((other.shelf.get s).row? j).bind (beside other)

/-- The tables of two services are apart. -/
theorem ServiceName.get_set_of_ne {a b : ServiceName} (h : a ≠ b) (t : Table b.Kept) (s : Tables) :
    a.shelf.get (b.shelf.set t s) = a.shelf.get s := by
  cases a <;> cases b <;> first | rfl | exact absurd rfl h

namespace Tables.Framed

variable {service child : ServiceName} {id : Int} {s s' : Tables}

/-- A write of one row. -/
theorem set {t : Table service.Kept} {op : Operation} (h : (service.shelf.get s).Written op id t) :
    Framed service id (fun _ => some) s (service.shelf.set t s) := by
  intro other j hj
  refine Eq.trans ?_ (Option.bind_fun_some _).symm
  by_cases hother : other = service
  · subst hother
    rw [other.shelf.get_set]
    exact h.rest j (hj rfl)
  · rw [ServiceName.get_set_of_ne hother]

/-- A change of all rows of one table follows. -/
theorem modify (h : Framed service id (fun _ => some) s s')
    {f : Table child.Kept → Table child.Kept}
    {beside : (other : ServiceName) → Row other.Kept → Option (Row other.Kept)}
    (hchild : ∀ j, (child = service → j ≠ id) →
      (f (child.shelf.get s')).row? j = ((child.shelf.get s').row? j).bind (beside child))
    (hothers : ∀ other, other ≠ child → beside other = some) :
    Framed service id beside s (child.shelf.modify f s') := by
  intro other j hj
  have hsame := (h other j hj).trans (Option.bind_fun_some _)
  rw [Lens.modify]
  by_cases hother : other = child
  · subst hother
    rw [other.shelf.get_set, hchild j hj, hsame]
  · rw [ServiceName.get_set_of_ne hother, hsame, hothers other hother, Option.bind_fun_some]

end Tables.Framed

/-! ## Writes -/

namespace Desk

variable {P F K I ρ : Type} [Record ρ]

/-- The keys of a desk name the rows that it writes. -/
structure Names (d : Desk P F K I ρ) (named : K → Option Int) : Prop where
  revision : ∀ {s key input mask row revise}, d.revision s key input mask = .ok (row, revise) →
    named key = some row.id
  removal : ∀ {s key row allow}, d.removal s key = .ok (row, allow) → named key = some row.id

/-- What follows when a request has written the row with an id and left the table `t`. -/
inductive Follows (d : Desk P F K I ρ) (s : Tables) (id : Int) (t : Table ρ) :
    Operation → Tables → Prop
  | settled {op : Operation} {row : Row ρ} (hop : op ≠ .delete) (hrow : t.row? id = some row)
      (hid : Record.idOf row.value = id) :
      Follows d s id t op (d.settled ((d.shelf.get s).row? id) row (d.shelf.set t s))
  | cleared {key : RowKey} (hkey : key.id = id) :
      Follows d s id t .delete (d.cleared key (d.shelf.set t s))

variable {d : Desk P F K I ρ} {ctx : Context} {s s' : Tables} {r : Request P F K I}
  {reply : Reply ρ}

/-- A request that succeeds and not only reads writes the row that it names. -/
theorem Step.write (hstep : d.Step ctx s r (.ok reply) s') {named : K → Option Int}
    (hd : d.Names named) (hwrites : r.operation ≠ .list ∧ r.operation ≠ .locate) :
    ∃ id t, r.written? (d.shelf.get s).nextId named = some id ∧
      (d.shelf.get s).Written r.operation id t ∧ d.Follows s id t r.operation s' := by
  have hput : ∀ {key : RowKey} {old}, (d.shelf.get s).find key = .ok old → ∀ new j, j ≠ key.id →
      ((d.shelf.get s).put key.id new).row? j = (d.shelf.get s).row? j := by
    intro key old hfind new j hj
    rw [Table.row?_put (Table.row?_of_find hfind), if_neg hj]
  cases hstep with
  | listed => exact absurd rfl hwrites.1
  | located => exact absurd rfl hwrites.2
  | created _ _ new =>
    have hrow := Table.row?_insert_self (d.shelf.get s) new
    have hfree := Table.row?_next (d.shelf.get s)
    refine ⟨_, ((d.shelf.get s).insert new).2, rfl, ⟨?_, fun j hj => ?_⟩, ?_⟩
    · change Operation.create.Writes ((d.shelf.get s).row? (d.shelf.get s).nextId) _
      rw [Table.nextId, hfree, hrow]
      exact .create rfl
    · rw [Table.row?_insert]
      exact if_neg hj
    · have hsettled : d.Follows s (d.shelf.get s).nextId _ .create _ :=
        .settled nofun hrow (Record.idOf_withId _ _)
      rwa [Table.nextId, hfree] at hsettled
  | @updated r caller key revise old value _ hrevision hfind _ row hrow =>
    have hold := Table.row?_of_find hfind
    have hnew := Table.row?_put_self hold (some row)
    refine ⟨key.id, _, hd.revision hrevision, ⟨?_, hput hfind (some row)⟩, ?_⟩
    · rw [hold, hnew]
      exact .update (congrArg Row.ver hrow)
    · rw [← hold]
      refine .settled nofun hnew ?_
      rw [hrow]
      exact Record.idOf_withId _ _
  | @deleted r caller key allow old _ hremoval hfind _ =>
    have hold := Table.row?_of_find hfind
    refine ⟨key.id, _, hd.removal hremoval, ⟨?_, hput hfind _⟩, .cleared rfl⟩
    rw [hold, Table.row?_put_self hold]
    exact .delete

variable {id : Int} {t : Table ρ} {op : Operation}

/-- A desk that changes nothing beyond its own record. -/
theorem Follows.alone (h : d.Follows s id t op s')
    (hsettled : ∀ before row s, op ≠ .delete → d.settled before row s = s)
    (hcleared : ∀ key s, op = .delete → d.cleared key s = s) : s' = d.shelf.set t s := by
  cases h with
  | settled hop => exact hsettled _ _ _ hop
  | cleared => exact hcleared _ _ rfl

theorem Follows.of_ne_delete (h : d.Follows s id t op s') (hop : op ≠ .delete) :
    ∃ row, t.row? id = some row ∧ Record.idOf row.value = id ∧
      s' = d.settled ((d.shelf.get s).row? id) row (d.shelf.set t s) := by
  cases h with
  | settled _ hrow hid => exact ⟨_, hrow, hid, rfl⟩
  | cleared => exact absurd rfl hop

theorem Follows.of_delete (h : d.Follows s id t .delete s') :
    ∃ key : RowKey, key.id = id ∧ s' = d.cleared key (d.shelf.set t s) := by
  cases h with
  | settled hop => exact absurd rfl hop
  | cleared hkey => exact ⟨_, hkey, rfl⟩

end Desk

/-! ## The desks -/

section
variable {F I π ρ : Type} [Record ρ] [Record π] {service : String} {method : Operation → String}
  {shelf : Shelf ρ} {keeps : F → ρ → Bool} {parent : Parent π} {empty : Int → ρ}
  {prepare : Tables → Int → Int → FieldMask → I → Except ServiceError I}
  {revise : FieldMask → I → ρ → Except ServiceError ρ}
  {settled : Option (Row ρ) → Row ρ → Tables → Tables} {cleared : RowKey → Tables → Tables}

theorem Desk.names_root :
    { root service method shelf keeps revise with settled, cleared }.Names some where
  revision h := by
    obtain ⟨_, -, h⟩ := bind_eq_ok.1 h
    cases h
    rfl
  removal h := by
    cases h
    rfl

theorem Desk.names_child :
    (child service method shelf parent empty prepare revise).Names (some ·.id) where
  revision h := by
    obtain ⟨_, -, h⟩ := bind_eq_ok.1 h
    obtain ⟨_, -, h⟩ := bind_eq_ok.1 h
    obtain ⟨_, -, h⟩ := bind_eq_ok.1 h
    cases h
    rfl
  removal h := by
    obtain ⟨_, -, h⟩ := bind_eq_ok.1 h
    cases h
    rfl

end

theorem StatusConditions.names : desk.Names (some ·.id) where
  revision h := by
    obtain ⟨_, -, h⟩ := bind_eq_ok.1 h
    obtain ⟨_, -, h⟩ := bind_eq_ok.1 h
    cases h
    rfl
  removal h := by
    obtain ⟨_, -, h⟩ := bind_eq_ok.1 h
    cases h
    rfl

theorem Etag.id?_of_parse {kind : EtagKind} {raw : String} {tag : Etag}
    (h : Etag.parse kind raw = .ok tag) : id? kind raw = some tag.id := by
  rw [id?, h]

theorem CaseComments.names : desk.Names (Etag.id? .comment) where
  revision h := by
    obtain ⟨⟨tag, htag, rfl⟩, -⟩ := revision_rule h
    exact Etag.id?_of_parse htag
  removal h := by
    obtain ⟨⟨tag, htag, rfl⟩, -⟩ := removal_rule h
    exact Etag.id?_of_parse htag

theorem CaseLinks.id?_of_rowKey {key : LinkKey} {row : RowKey} (h : rowKey key = .ok row) :
    Etag.id? .link key.linkTag = some row.id := by
  obtain ⟨_, -, h⟩ := bind_eq_ok.1 h
  obtain ⟨tag, htag, h⟩ := bind_eq_ok.1 h
  cases h
  exact Etag.id?_of_parse (Require.tag_eq_ok.1 htag)

theorem CaseLinks.names : desk.Names (Etag.id? .link ·.linkTag) where
  revision h := by
    obtain ⟨row, hrow, h⟩ := bind_eq_ok.1 h
    obtain ⟨_, -, h⟩ := bind_eq_ok.1 h
    cases h
    exact id?_of_rowKey hrow
  removal h := by
    obtain ⟨row, hrow, h⟩ := bind_eq_ok.1 h
    cases h
    exact id?_of_rowKey hrow

/-! ## Consequences -/

/-- An honest change gives the rows that it changes a new version. -/
theorem Table.Honest.changeRow_eq {ρ : Type} [Record ρ] {change : ρ → Bool × ρ} (h : Honest change)
    (row : Row ρ) : changeRow change row =
      if (change row.value).1 = true then { ver := row.ver + 1, value := (change row.value).2 }
      else row := by
  split_ifs with hc
  · simp only [changeRow, hc, if_true]
  · have hsame := h.same row.value (Bool.eq_false_iff.2 hc)
    simp only [changeRow, hc, hsame, Bool.false_eq_true, if_false]

theorem Priorities.changeRow_rename (id : Int) (name : String) (row : Row SlaCondition) :
    Table.changeRow (rename id name) row = row.renamed id name := by
  have hiff : (rename id name row.value).1 = true ↔
      ∃ p ∈ row.value.priorities, p.id = id ∧ p.name ≠ name := by simp [rename]
  have hheld : (rename id name row.value).2.priorities =
      row.value.priorities.map fun p => if p.id = id then ⟨id, name⟩ else p := by
    refine List.map_congr_left fun p _ => ?_
    split_ifs with hid
    · rw [← hid]
    · rfl
  rw [(honest_rename id name).changeRow_eq, Row.renamed, ← hheld]
  simp only [hiff]
  rfl

theorem Priorities.changeRow_detach (id : Int) (row : Row SlaCondition) :
    Table.changeRow (detach id) row = row.released id := by
  have hiff : (detach id row.value).1 = true ↔ ∃ p ∈ row.value.priorities, p.id = id := by
    simp [detach]
  rw [(honest_detach id).changeRow_eq, Row.released]
  simp only [hiff]
  rfl

/-- A condition that is not to keep the flag loses it to one of its status. -/
theorem StatusConditions.changeRow_clearInitial {status keep : Int} {row : Row StatusCondition}
    (hne : row.value.id ≠ keep) :
    (if Table.inScope status row.value then Table.changeRow (clearInitial keep) row else row) =
      row.yielded status := by
  rw [(honest_clearInitial keep).changeRow_eq, Row.yielded]
  by_cases hstatus : row.value.statusId = status
  · by_cases hinitial : row.value.initial = true
    · simp [inScope_iff.2 hstatus, clearInitial, hne, hstatus, hinitial]
    · simp [clearInitial, hinitial]
  · have hout : ¬ Table.inScope status row.value = true := fun h => hstatus (inScope_iff.1 h)
    simp [hout, hstatus]

/-- Where every record has a parent, the records of a parent leave and the others stay. -/
theorem Table.row?_removeScope_bind {ρ : Type} [Record ρ] {parent : ρ → Int}
    (hparent : ∀ r, Record.scope r = some (parent r)) (t : Table ρ) (scope id : Int) :
    (t.removeScope scope).2.row? id =
      (t.row? id).bind fun row => if parent row.value = scope then none else some row := by
  rw [row?_removeScope]
  rcases t.row? id with _ | row
  · rfl
  · by_cases h : parent row.value = scope <;> simp [Option.filter, inScope, hparent, h]

theorem Table.row?_modifyAll_bind {ρ : Type} {change : ρ → Bool × ρ} {after : Row ρ → Row ρ}
    (h : ∀ row, changeRow change row = after row) (t : Table ρ) (id : Int) :
    (t.modifyAll change).2.row? id = (t.row? id).bind fun row => some (after row) := by
  rw [← funext h]
  exact (row?_modifyWhere t _ change id).trans Option.map_eq_bind

/-! ## Calls -/

/-- A change of a priority gives the conditions that hold it the name that it has then. -/
theorem Call.beside_rename (r : UpdateRequest Int PriorityInput) (s : Tables) {s' : Tables}
    {id : Int} {row : Row Priority} (h : s'.priorities.row? id = some row) :
    (Call.priorities (.update r)).beside s s' id .slaConditions =
      fun condition => some (condition.renamed id row.value.name) := by
  funext condition
  simp only [beside, h]

/-- A creation or change of a condition lets the others of a status yield to it if it becomes
    initial. -/
theorem Call.beside_promote {r : Request Int Unit ChildKey StatusConditionInput}
    (hr : r.operation = .create ∨ r.operation = .update) (s s' : Tables) (id : Int) :
    (Call.statusConditions r).beside s s' id .statusConditions = fun condition =>
      match s.promoted? s' id with
      | some status => some (condition.yielded status)
      | none => some condition := by
  cases r with
  | create | update => rfl
  | list | delete | locate => simp [Request.operation] at hr

/-- A call that writes the row with an id, and others as far as `beside` says. -/
structure Call.Frames (call : Call) (s s' : Tables) (id : Int) : Prop where
  written : call.operation.Writes ((call.service.shelf.get s).row? id)
    ((call.service.shelf.get s').row? id)
  beside : s.Framed call.service id (call.beside s s' id) s'

namespace Call.Frames

variable {s : Tables} {id : Int}

/-- A call without consequences. -/
theorem alone (call : Call) {t : Table call.service.Kept}
    (hwritten : (call.service.shelf.get s).Written call.operation id t)
    (hbeside : ∀ other, call.beside s (call.service.shelf.set t s) id other = some) :
    call.Frames s (call.service.shelf.set t s) id where
  written := by
    rw [call.service.shelf.get_set]
    exact hwritten.row
  beside := by
    rw [show call.beside s (call.service.shelf.set t s) id = fun _ => some from funext hbeside]
    exact .set hwritten

/-- A call that changes another table afterwards. -/
theorem following (call : Call) (child : ServiceName) (f : Table child.Kept → Table child.Kept)
    (hchild : child ≠ call.service) (hreach : call.reach = some child)
    {t : Table call.service.Kept}
    (hwritten : (call.service.shelf.get s).Written call.operation id t)
    (hbeside : ∀ j, (f (child.shelf.get s)).row? j = ((child.shelf.get s).row? j).bind
      (call.beside s (child.shelf.modify f (call.service.shelf.set t s)) id child)) :
    call.Frames s (child.shelf.modify f (call.service.shelf.set t s)) id where
  written := by
    rw [Lens.modify, ServiceName.get_set_of_ne hchild.symm, call.service.shelf.get_set]
    exact hwritten.row
  beside := by
    refine (Tables.Framed.set hwritten).modify (fun j _ => ?_) fun other hother =>
      Call.beside_of_ne_reach hreach hother _ _ _
    rw [ServiceName.get_set_of_ne hchild]
    exact hbeside j

end Call.Frames

section
variable {P F K I : Type} {ctx : Context} {s s' : Tables} (call : Call)
  {_ : Record call.service.Kept} {d : Desk P F K I call.service.Kept} {r : Request P F K I}
  {reply : Reply call.service.Kept} {named : K → Option Int}

/-- A call to a desk that changes nothing beyond its own record. -/
theorem Desk.Step.frames_alone (hstep : d.Step ctx s r (.ok reply) s') (hd : d.Names named)
    (hwrites : call.operation ≠ .list ∧ call.operation ≠ .locate)
    (hreach : call.reach = none := by rfl) (hshelf : d.shelf = call.service.shelf := by rfl)
    (hop : r.operation = call.operation := by rfl)
    (hid : r.written? (d.shelf.get s).nextId named = call.written? s := by rfl)
    (hsettled : ∀ before row s, d.settled before row s = s := by intros; rfl)
    (hcleared : ∀ key s, d.cleared key s = s := by intros; rfl) :
    ∃ id, call.written? s = some id ∧ call.Frames s s' id := by
  obtain ⟨id, t, hwritten?, hwritten, hfollows⟩ := hstep.write hd (hop ▸ hwrites)
  rw [hfollows.alone (fun _ _ _ _ => hsettled _ _ _) fun _ _ _ => hcleared _ _, hshelf]
  rw [hop, hshelf] at hwritten
  refine ⟨id, hid.symm.trans hwritten?, .alone call hwritten fun other => ?_⟩
  exact Call.beside_of_not_reach (fun _ h => nomatch hreach.symm.trans h) _ _ _

/-- A call to a desk of parents, whose records go with them. -/
theorem Desk.Step.frames_parent (hstep : d.Step ctx s r (.ok reply) s') (hd : d.Names named)
    (hwrites : call.operation ≠ .list ∧ call.operation ≠ .locate)
    (child : ServiceName) {_ : Record child.Kept} {parent : child.Kept → Int}
    (hchild : child ≠ call.service) (hparent : ∀ r, Record.scope r = some (parent r))
    (hchildren : ∀ s' id, call.beside s s' id child = fun row =>
      if call.operation = .delete ∧ parent row.value = id then none else some row)
    (hreach : call.reach = some child := by rfl) (hshelf : d.shelf = call.service.shelf := by rfl)
    (hop : r.operation = call.operation := by rfl)
    (hid : r.written? (d.shelf.get s).nextId named = call.written? s := by rfl)
    (hsettled : ∀ before row s, d.settled before row s = s := by intros; rfl)
    (hcleared : ∀ key, d.cleared key = child.shelf.modify fun t => (t.removeScope key.id).2 := by
      intros; rfl) :
    ∃ id, call.written? s = some id ∧ call.Frames s s' id := by
  obtain ⟨id, t, hwritten?, hwritten, hfollows⟩ := hstep.write hd (hop ▸ hwrites)
  refine ⟨id, hid.symm.trans hwritten?, ?_⟩
  rw [hop] at hfollows
  rw [hop, hshelf] at hwritten
  by_cases hdelete : call.operation = .delete
  · rw [hdelete] at hfollows
    obtain ⟨key, rfl, rfl⟩ := hfollows.of_delete
    rw [hcleared, hshelf]
    refine .following call child _ hchild hreach hwritten fun j => ?_
    simp only [hchildren, hdelete, true_and]
    exact Table.row?_removeScope_bind hparent _ _ _
  · rw [hfollows.alone (fun _ _ _ _ => hsettled _ _ _) fun _ _ h => absurd h hdelete, hshelf]
    refine .alone call hwritten fun other => ?_
    by_cases hother : other = child
    · subst hother
      simp only [hchildren, hdelete, false_and, if_false]
    · exact Call.beside_of_ne_reach hreach hother _ _ _

end

variable {ctx : Context} {s s' : Tables}

theorem Priorities.frames {r : Request Unit Unit Int PriorityInput} {reply : Reply Priority}
    (hstep : desk.Step ctx s r (.ok reply) s')
    (hwrites : r.operation ≠ .list ∧ r.operation ≠ .locate) :
    ∃ id, (Call.priorities r).written? s = some id ∧ (Call.priorities r).Frames s s' id := by
  obtain ⟨id, t, hid, hwritten, hfollows⟩ := hstep.write Desk.names_root hwrites
  refine ⟨id, hid, ?_⟩
  cases r with
  | list => exact absurd rfl hwrites.1
  | locate => exact absurd rfl hwrites.2
  | create r =>
    have hold := hwritten.row.before_of_create
    obtain ⟨row, -, -, rfl⟩ := hfollows.of_ne_delete nofun
    rw [hold]
    exact .alone (.priorities (.create r)) hwritten fun other => by cases other <;> rfl
  | update r =>
    obtain ⟨old, hold⟩ := hwritten.row.before_of_update
    obtain ⟨row, hrow, rfl, rfl⟩ := hfollows.of_ne_delete nofun
    rw [hold]
    refine .following (.priorities (.update r)) .slaConditions
      (fun t => (t.modifyAll (rename row.value.id row.value.name)).2) nofun rfl hwritten
      fun j => ?_
    exact (Table.row?_modifyAll_bind (changeRow_rename _ _) _ j).trans
      (congrArg (Option.bind _) (Call.beside_rename r s hrow).symm)
  | delete r =>
    obtain ⟨key, rfl, rfl⟩ := hfollows.of_delete
    exact .following (.priorities (.delete r)) .slaConditions
      (fun t => (t.modifyAll (detach key.id)).2) nofun rfl hwritten
      (Table.row?_modifyAll_bind (changeRow_detach key.id) _)

namespace StatusConditions

/-- A condition that is written keeps its row, also when it has become initial. -/
theorem row?_settled_self (before : Option (Row StatusCondition)) {t : Table StatusCondition}
    {id : Int} {row : Row StatusCondition} (hrow : t.row? id = some row) (s : Tables) :
    (settled before row (Shelf.statusConditions.set t s)).statusConditions.row? id = some row := by
  have hsame : (clearInitial row.value.id row.value).1 = false := by simp [clearInitial]
  have hkept : Table.changeRow (clearInitial row.value.id) row = row := by
    rw [(honest_clearInitial _).changeRow_eq, hsame]
    rfl
  rw [get_settled]
  split_ifs
  · refine (Table.row?_modifyWhere t _ _ id).trans ?_
    rw [hrow, Option.map_some, hkept, ite_self]
  · exact hrow

/-- A condition that has become initial keeps the flag, and the others of its status lose it. -/
theorem row?_settled {id : Int} {t : Table StatusCondition} {row : Row StatusCondition}
    (hk : s.statusConditions.Keyed) {op : Operation} (hwritten : s.statusConditions.Written op id t)
    (hrow : t.row? id = some row) (hid : row.value.id = id) (j : Int) :
    (settled (s.statusConditions.row? id) row
        (Shelf.statusConditions.set t s)).statusConditions.row? j =
      if j = id then some row
      else (s.statusConditions.row? j).map fun other =>
        if row.value.initial ∧ ¬ (s.statusConditions.row? id).any (·.value.initial) then
          other.yielded row.value.statusId
        else other := by
  by_cases hj : j = id
  · rw [hj, if_pos rfl]
    exact row?_settled_self _ hrow s
  · rw [if_neg hj, get_settled]
    have hother : ∀ {other}, s.statusConditions.row? j = some other →
        other.value.id ≠ row.value.id :=
      fun h he => hj ((hk _ _ h).symm.trans (he.trans hid))
    split_ifs with hbecomes
    · refine (Table.row?_modifyWhere t _ _ j).trans ?_
      rw [hwritten.rest j hj]
      exact Option.map_congr fun other h => changeRow_clearInitial (hother h)
    · exact (hwritten.rest j hj).trans Option.map_id'.symm

/-- A call that creates or changes a condition. -/
theorem frames_settled {r : Request Int Unit ChildKey StatusConditionInput}
    (hr : r.operation = .create ∨ r.operation = .update) {id : Int} {t : Table StatusCondition}
    {row : Row StatusCondition} (hk : s.statusConditions.Keyed)
    (hwritten : s.statusConditions.Written r.operation id t) (hrow : t.row? id = some row)
    (hid : row.value.id = id) :
    (Call.statusConditions r).Frames s
      (settled (s.statusConditions.row? id) row (Shelf.statusConditions.set t s)) id := by
  have hrows := row?_settled hk hwritten hrow hid
  generalize hs' : settled _ row (Shelf.statusConditions.set t s) = s' at hrows ⊢
  have hself : s'.statusConditions.row? id = some row := (hrows id).trans (if_pos rfl)
  refine ⟨?_, fun other j hj => ?_⟩
  · change r.operation.Writes (s.statusConditions.row? id) (s'.statusConditions.row? id)
    rw [hself, ← hrow]
    exact hwritten.row
  by_cases hother : other = .statusConditions
  · subst hother
    refine (hrows j).trans ?_
    rw [if_neg (hj rfl), Call.beside_promote hr, Tables.promoted?, hself]
    by_cases hbecomes : row.value.initial ∧
        ¬ (s.statusConditions.row? id).any (·.value.initial)
    · simp only [if_pos hbecomes]
      exact Option.map_eq_bind
    · simp only [if_neg hbecomes]
      exact Option.map_id'.trans (Option.bind_fun_some _).symm
  · have hleaves : desk.Leaves other.shelf.get :=
      leaves fun t s => ServiceName.get_set_of_ne hother t s
    have hsame : other.shelf.get s' = other.shelf.get s := by
      rw [← hs']
      exact (hleaves.settled _ _ _).trans (hleaves.own _ _)
    have hbeside : (Call.statusConditions r).beside s s' id other = some :=
      Call.beside_of_ne_reach rfl hother s s' id
    rw [hsame, hbeside, Option.bind_fun_some]

theorem frames {r : Request Int Unit ChildKey StatusConditionInput} {reply : Reply StatusCondition}
    (hk : s.statusConditions.Keyed) (hstep : desk.Step ctx s r (.ok reply) s')
    (hwrites : r.operation ≠ .list ∧ r.operation ≠ .locate) :
    ∃ id, (Call.statusConditions r).written? s = some id ∧
      (Call.statusConditions r).Frames s s' id := by
  obtain ⟨id, t, hid, hwritten, hfollows⟩ := hstep.write names hwrites
  refine ⟨id, hid, ?_⟩
  cases r with
  | list => exact absurd rfl hwrites.1
  | locate => exact absurd rfl hwrites.2
  | create r =>
    obtain ⟨row, hrow, hrowId, rfl⟩ := hfollows.of_ne_delete nofun
    exact frames_settled (Or.inl rfl) hk hwritten hrow hrowId
  | update r =>
    obtain ⟨row, hrow, hrowId, rfl⟩ := hfollows.of_ne_delete nofun
    exact frames_settled (Or.inr rfl) hk hwritten hrow hrowId
  | delete r =>
    rw [hfollows.alone (fun _ _ _ hop => absurd rfl hop) fun _ _ _ => rfl]
    exact .alone (.statusConditions (.delete r)) hwritten fun other => by cases other <;> rfl

end StatusConditions

/-- A call that succeeds and not only reads keeps to its frame. -/
theorem Call.Step.frames {call : Call} {answer : Answer} (hstep : call.Step ctx s (.ok answer) s')
    (hk : s.Keyed) (hwrites : call.operation ≠ .list ∧ call.operation ≠ .locate) :
    ∃ id, call.written? s = some id ∧ call.Frames s s' id := by
  generalize hout : (Except.ok answer : Except ServiceError Answer) = out at hstep
  cases hstep with
  | @slas r out s' h =>
    obtain ⟨reply, rfl, -⟩ := map_eq_ok.1 hout.symm
    have hd : Slas.desk.Names some := Desk.names_root
    refine h.frames_parent (.slas r) hd hwrites .slaConditions nofun (fun _ => rfl) fun _ _ => ?_
    cases r <;> simp [beside, operation, Request.operation]
  | @closeReasons r out s' h =>
    obtain ⟨reply, rfl, -⟩ := map_eq_ok.1 hout.symm
    have hd : CloseReasons.desk.Names some := Desk.names_root
    refine h.frames_parent (.closeReasons r) hd hwrites .reasons nofun (fun _ => rfl) fun _ _ => ?_
    cases r <;> simp [beside, operation, Request.operation]
  | @statuses r out s' h =>
    obtain ⟨reply, rfl, -⟩ := map_eq_ok.1 hout.symm
    have hd : Statuses.desk.Names some := Desk.names_root
    refine h.frames_parent (.statuses r) hd hwrites .statusConditions nofun (fun _ => rfl) fun _ _ => ?_
    cases r <;> simp [beside, operation, Request.operation]
  | @slaConditions r out s' h =>
    obtain ⟨reply, rfl, -⟩ := map_eq_ok.1 hout.symm
    have hd : SlaConditions.desk.Names (some ·.id) := Desk.names_child
    exact h.frames_alone (.slaConditions r) hd hwrites
  | @reasons r out s' h =>
    obtain ⟨reply, rfl, -⟩ := map_eq_ok.1 hout.symm
    have hd : Reasons.desk.Names (some ·.id) := Desk.names_child
    exact h.frames_alone (.reasons r) hd hwrites
  | @sources r out s' h =>
    obtain ⟨reply, rfl, -⟩ := map_eq_ok.1 hout.symm
    have hd : Sources.desk.Names some := Desk.names_root
    exact h.frames_alone (.sources r) hd hwrites
  | @caseComments r out s' h =>
    obtain ⟨reply, rfl, -⟩ := map_eq_ok.1 hout.symm
    exact h.frames_alone (.caseComments r) CaseComments.names hwrites
  | @caseLinks r out s' h =>
    obtain ⟨reply, rfl, -⟩ := map_eq_ok.1 hout.symm
    exact h.frames_alone (.caseLinks r) CaseLinks.names hwrites
  | statusConditions h =>
    obtain ⟨reply, rfl, -⟩ := map_eq_ok.1 hout.symm
    exact StatusConditions.frames hk.statusConditions h hwrites
  | priorities h =>
    obtain ⟨reply, rfl, -⟩ := map_eq_ok.1 hout.symm
    exact Priorities.frames h hwrites

/-! ## Versions -/

/-- A row is new and at version 1, or it is the row that was there, or has the next version. -/
def Table.Advances {ρ : Type} (t t' : Table ρ) : Prop :=
  ∀ (id : Int) (row' : Row ρ), t'.row? id = some row' →
    (t.row? id = none ∧ row'.ver = 1) ∨
      ∃ row, t.row? id = some row ∧ (row' = row ∨ row'.ver = row.ver + 1)

theorem Table.Advances.refl {ρ : Type} (t : Table ρ) : t.Advances t := fun _ row h =>
  Or.inr ⟨row, h, Or.inl rfl⟩

section
variable {ρ : Type} {p : Prop} [Decidable p] {row row' : Row ρ}

/-- A row that stays. -/
theorem Row.cases_of_stays (h : some row = some row') : row' = row ∨ row'.ver = row.ver + 1 :=
  Or.inl (Option.some.inj h).symm

/-- A row that leaves under a condition. -/
theorem Row.cases_of_leaves (h : (if p then none else some row) = some row') :
    row' = row ∨ row'.ver = row.ver + 1 := by
  split_ifs at h
  exact cases_of_stays h

/-- A row that changes under a condition. -/
theorem Row.cases_of_follows {value : ρ}
    (h : some (if p then { ver := row.ver + 1, value } else row) = some row') :
    row' = row ∨ row'.ver = row.ver + 1 := by
  cases h
  split_ifs
  · exact .inr rfl
  · exact .inl rfl

end

/-- A row beside the one that a call writes leaves, stays or gets the next version. -/
theorem Call.beside_cases {call : Call} {s s' : Tables} {id : Int} {other : ServiceName}
    {row row' : Row other.Kept} (h : call.beside s s' id other row = some row') :
    row' = row ∨ row'.ver = row.ver + 1 := by
  cases other with
  | slaConditions =>
    simp only [beside] at h
    split at h
    · exact Row.cases_of_leaves h
    · split at h
      · exact Row.cases_of_follows h
      · exact Row.cases_of_stays h
    · exact Row.cases_of_follows h
    · exact Row.cases_of_stays h
  | reasons =>
    simp only [beside] at h
    split at h
    · exact Row.cases_of_leaves h
    · exact Row.cases_of_stays h
  | statusConditions =>
    simp only [beside] at h
    split at h
    · exact Row.cases_of_leaves h
    · split at h
      · exact Row.cases_of_follows h
      · exact Row.cases_of_stays h
    · split at h
      · exact Row.cases_of_follows h
      · exact Row.cases_of_stays h
    · exact Row.cases_of_stays h
  | slas | closeReasons | sources | statuses | priorities | caseComments | caseLinks =>
    exact Row.cases_of_stays h

theorem Call.Frames.advances {call : Call} {id : Int} (h : call.Frames s s' id)
    (service : ServiceName) : (service.shelf.get s).Advances (service.shelf.get s') := by
  intro j row' hrow'
  by_cases hself : service = call.service ∧ j = id
  · obtain ⟨rfl, rfl⟩ := hself
    have hwritten := h.written
    rw [hrow'] at hwritten
    rcases hwritten.ver_eq with hnew | ⟨row, hrow, hver⟩
    · exact .inl hnew
    · exact .inr ⟨row, hrow, .inr hver⟩
  · have hbeside := h.beside service j fun hservice hj => hself ⟨hservice, hj⟩
    rw [hrow'] at hbeside
    obtain ⟨row, hrow, hrow'⟩ := Option.bind_eq_some_iff.1 hbeside.symm
    exact .inr ⟨row, hrow, Call.beside_cases hrow'⟩

/-- **Whatever is called, rows keep their versions or get the next ones.** -/
theorem Call.Step.advances {call : Call} {out : Except ServiceError Answer}
    (hstep : call.Step ctx s out s') (hk : s.Keyed) (service : ServiceName) :
    (service.shelf.get s).Advances (service.shelf.get s') := by
  by_cases hwrites : call.operation ≠ .list ∧ call.operation ≠ .locate
  · cases out with
    | error e =>
      rw [hstep.unchanged_of_error rfl]
      exact .refl _
    | ok answer =>
      obtain ⟨id, -, hframes⟩ := hstep.frames hk hwrites
      exact hframes.advances service
  · rw [hstep.unchanged_of_read (by grind)]
    exact .refl _

/-- **Calls keep to their frame.**  A call that succeeds and not only reads writes one row in the
    table of its service, and every other row of all tables becomes what `Call.beside` says: it
    leaves with its parent, follows a change or the removal of a priority that it holds, yields the
    flag to a condition that has become initial, or stays as it is.  A row that changes and stays
    has a version one higher than before, unless that was the last. -/
theorem Reachable.frame {s : Tables} (h : Reachable s) {call : Call} {ctx : Context}
    {answer : Answer} (hok : (call.run ctx s).1 = .ok answer)
    (hwrites : call.operation ≠ .list ∧ call.operation ≠ .locate) :
    ∃ id, call.written? s = some id ∧
      call.operation.Writes ((call.service.shelf.get s).row? id)
        ((call.service.shelf.get (call.run ctx s).2).row? id) ∧
      s.Framed call.service id (call.beside s (call.run ctx s).2 id) (call.run ctx s).2 ∧
      ∀ (service : ServiceName) (j : Int) (row row' : Row service.Kept),
        (service.shelf.get s).row? j = some row →
        (service.shelf.get (call.run ctx s).2).row? j = some row' → row' ≠ row →
        row.ver < Int32.maxValue → (row'.ver : Int) = row.ver + 1 := by
  have hstep := call.step_run ctx s
  rw [hok] at hstep
  obtain ⟨id, hid, hframes⟩ := hstep.frames h.keyed hwrites
  refine ⟨id, hid, hframes.written, hframes.beside, ?_⟩
  intro service j row row' hrow hrow' hchanged hlimit
  rcases hframes.advances service j row' hrow' with ⟨hnone, -⟩ | ⟨old, hold, hnext⟩
  · cases hrow.symm.trans hnone
  · cases hrow.symm.trans hold
    rw [hnext.resolve_left hchanged, Version.toInt_add_one hlimit]

/-- An agreement with two conditions, of which the first holds a priority. -/
def heldPriority : Run :=
  [.bySuperuser (.slas (.create ⟨(), some ⟨"gold", "", 0, 0, none, 1, 1⟩⟩)),
    .bySuperuser (.priorities (.create ⟨(), some ⟨"high", "", ""⟩⟩)),
    .bySuperuser (.slaConditions (.create ⟨1, some ⟨"day", [⟨1, ""⟩], 1, 1⟩⟩)),
    .bySuperuser (.slaConditions (.create ⟨1, some ⟨"night", [], 1, 1⟩⟩))]

/-- The change of the name of the priority in `heldPriority`. -/
def newName : Visit := .bySuperuser (.priorities (.update ⟨1, some ⟨"top", "", ""⟩, []⟩))

/-- The condition that holds the priority takes the new name over and gets one version. -/
theorem newName_frame :
    ∃ answer, (newName.outcome (heldPriority.before 4)).1 = .ok answer ∧
      ((heldPriority.before 4).priorities.row? 1).map (·.ver) = some 1 ∧
      (heldPriority.before 4).Framed .priorities 1
        (newName.call.beside (heldPriority.before 4) (newName.outcome (heldPriority.before 4)).2 1)
        (newName.outcome (heldPriority.before 4)).2 ∧
      ∃ row row', (heldPriority.before 4).slaConditions.row? 1 = some row ∧
        (newName.outcome (heldPriority.before 4)).2.slaConditions.row? 1 = some row' ∧
        row.value.priorities = [⟨1, "high"⟩] ∧ row'.value.priorities = [⟨1, "top"⟩] ∧
        (row'.ver : Int) = row.ver + 1 := by
  have hsucceeds : (newName.outcome (heldPriority.before 4)).1.toOption.isSome = true := by
    decide +kernel
  rcases hok : (newName.outcome (heldPriority.before 4)).1 with e | answer
  · rw [hok] at hsucceeds
    cases hsucceeds
  · obtain ⟨id, hid, -, hframed, hnext⟩ :=
      Reachable.frame (heldPriority.reachable_before 4) hok ⟨nofun, nofun⟩
    cases hid
    have hfirst : ((heldPriority.before 4).slaConditions.row? 1).map
        (fun row => (row.value.priorities, row.ver)) = some ([⟨1, "high"⟩], 1) := by decide +kernel
    have hlast : ((newName.outcome (heldPriority.before 4)).2.slaConditions.row? 1).map
        (fun row => row.value.priorities) = some [⟨1, "top"⟩] := by decide +kernel
    obtain ⟨row, hrow, hparts⟩ := Option.map_eq_some_iff.1 hfirst
    obtain ⟨row', hrow', hheld'⟩ := Option.map_eq_some_iff.1 hlast
    obtain ⟨hheld, hver⟩ := Prod.mk.inj hparts
    have hchanged : row' ≠ row := by
      rintro rfl
      exact absurd (hheld.symm.trans hheld') (by decide)
    have hlimit : row.ver < Int32.maxValue := by
      rw [hver]
      decide
    exact ⟨answer, rfl, by decide +kernel, hframed, row, row', hrow, hrow', hheld, hheld',
      hnext .slaConditions 1 row row' hrow hrow' hchanged hlimit⟩

/-- A status with an initial condition at a version is all there is. -/
def initialAt (ver : Int32) : Tables where
  statuses := ⟨[some ⟨1, { id := 1, name := "open", audit := .creation ⟨0, "anonymous"⟩ 0 }⟩]⟩
  statusConditions := ⟨[some ⟨ver, {
    id := 1, name := "new", initial := true, statusId := 1
    audit := .creation ⟨0, "anonymous"⟩ 0 }⟩]⟩

/-- The superuser saves the first condition as it is. -/
def keepingInitial : Visit :=
  .bySuperuser (.statusConditions (.update ⟨⟨1, 1⟩, some ⟨"new", "", true, false⟩, []⟩))

theorem keepingInitial_initialAt (ver : Int32) :
    (keepingInitial.outcome (initialAt ver)).2 = initialAt (ver + 1) := rfl

/-- The superuser creates a condition and saves it as often as there are versions left. -/
def wornCondition : Run :=
  [.bySuperuser (.statuses (.create ⟨(), some ⟨"open", ""⟩⟩)),
    .bySuperuser (.statusConditions (.create ⟨1, some ⟨"new", "", true, false⟩⟩))] ++
    List.replicate 2147483646 keepingInitial

theorem wornCondition_last :
    wornCondition.before wornCondition.length = initialAt Int32.maxValue := by
  have hfirst : Run.after [.bySuperuser (.statuses (.create ⟨(), some ⟨"open", ""⟩⟩)),
      .bySuperuser (.statusConditions (.create ⟨1, some ⟨"new", "", true, false⟩⟩))] {} =
      initialAt 1 := rfl
  rw [Run.before_length, wornCondition, Run.after_append, hfirst]
  exact Run.after_replicate keepingInitial_initialAt 1 2147483646

/-- The superuser creates another initial condition. -/
def secondInitial : Visit :=
  .bySuperuser (.statusConditions (.create ⟨1, some ⟨"known", "", true, false⟩⟩))

/-- Without a limit for the versions a condition that yields may get a lower one. -/
theorem secondInitial_version :
    let s := wornCondition.before wornCondition.length
    (∃ answer, (secondInitial.outcome s).1 = .ok answer) ∧
    ∃ row row', s.statusConditions.row? 1 = some row ∧
      (secondInitial.outcome s).2.statusConditions.row? 1 = some row' ∧
      row.value.initial = true ∧ row'.value.initial = false ∧ (row'.ver : Int) ≠ row.ver + 1 := by
  rw [wornCondition_last]
  exact ⟨⟨_, rfl⟩, _, _, rfl, rfl, rfl, rfl, by decide⟩

end CaseDesk
