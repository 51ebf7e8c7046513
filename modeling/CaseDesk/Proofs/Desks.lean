/-
  What a request to a desk can do.

  * `Action.exec`: the outcome of an action and the tables after it, with one
    law for each action.
  * `Desk.Agrees`: lists show of a row what look-ups show of it.
  * `Desk.Step`: everything that serving a request can come to: it is refused
    and the tables stay as they were, it reads, or it writes its own row and
    what follows from that.  Each case carries the rules of the desk that let
    the request through.
  * `Desk.step_serve`: serving a request is such a step.
  * `Desk.Leaves`: a desk that never touches a part of the tables leaves it as
    it is.
-/
import CaseDesk.Proofs.Outcomes
import CaseDesk.Proofs.Rows
import CaseDesk.Service.Desk

namespace CaseDesk

/-! ## Actions -/

namespace Action

variable {α β ρ : Type}

/-- The outcome of an action, and the tables after it. -/
def exec (a : Action α) (s : Tables) : Except ServiceError α × Tables := a.run.run s

@[simp]
theorem exec_pure (a : α) (s : Tables) : (pure a : Action α).exec s = (.ok a, s) := rfl

@[simp]
theorem exec_get (s : Tables) : (get : Action Tables).exec s = (.ok s, s) := rfl

@[simp]
theorem exec_reading (look : Tables → Except ServiceError α) (s : Tables) :
    (reading look).exec s = (look s, s) := rfl

@[simp]
theorem exec_onShelf (shelf : Shelf ρ) (work : Table ρ → Except ServiceError α × Table ρ)
    (s : Tables) : (onShelf shelf work).exec s =
      ((work (shelf.get s)).1, shelf.set (work (shelf.get s)).2 s) := rfl

@[simp]
theorem exec_changing (change : Tables → Tables) (s : Tables) :
    (changing change).exec s = (.ok (), change s) := rfl

theorem exec_bind (a : Action α) (f : α → Action β) (s : Tables) :
    (a >>= f).exec s = match a.exec s with
      | (.ok x, s') => (f x).exec s'
      | (.error e, s') => (.error e, s') := by
  change ExceptT.bindCont f (a.exec s).1 (a.exec s).2 = _
  rcases a.exec s with ⟨e | x, s'⟩ <;> rfl

theorem exec_map (f : α → β) (a : Action α) (s : Tables) :
    (f <$> a).exec s = (f <$> (a.exec s).1, (a.exec s).2) := by
  change (a >>= fun x => pure (f x)).exec s = _
  rw [exec_bind]
  rcases a.exec s with ⟨e | x, s'⟩ <;> rfl

theorem exec_reading_bind (look : Tables → Except ServiceError α) (f : α → Action β) (s : Tables) :
    (reading look >>= f).exec s = match look s with
      | .ok x => (f x).exec s
      | .error e => (.error e, s) := by
  rw [exec_bind, exec_reading]
  cases look s <;> rfl

theorem exec_onShelf_bind (shelf : Shelf ρ) (work : Table ρ → Except ServiceError α × Table ρ)
    (f : α → Action β) (s : Tables) :
    (onShelf shelf work >>= f).exec s = match work (shelf.get s) with
      | (.ok x, table) => (f x).exec (shelf.set table s)
      | (.error e, table) => (.error e, shelf.set table s) := by
  rw [exec_bind, exec_onShelf]
  rcases work (shelf.get s) with ⟨_ | _, table⟩ <;> rfl

theorem exec_get_bind (f : Tables → Action β) (s : Tables) : (get >>= f).exec s = (f s).exec s := by
  rw [exec_bind, exec_get]

theorem exec_changing_bind (change : Tables → Tables) (f : Unit → Action β) (s : Tables) :
    (changing change >>= f).exec s = (f ()).exec (change s) := by
  rw [exec_bind, exec_changing]

end Action

namespace Desk

variable {P F K I ρ α : Type} [Record ρ]

omit [Record ρ] in
/-- What the query of a list asks for is narrowed, by the desk, from a query for whole records. -/
theorem query_eq_ok {d : Desk P F K I ρ} {ctx : Context} {r : ListRequest P F} {query : ListQuery}
    (h : d.query ctx r = .ok query) : ∃ whole : ListQuery, whole.fields = [] ∧
      query = (d.narrowed r.fields whole).among r.ids := by
  unfold Desk.query ListQuery.searching at h
  split at h
  · next hsearch =>
    split at hsearch
    · cases h
      cases hsearch
      exact ⟨_, rfl, rfl⟩
    · cases hsearch
  · cases h

/-- The lists of a desk show of a row what look-ups show of it: a list of dictionary records cuts
    them down in the table, a list of comments or links when they are answered. -/
def Agrees (d : Desk P F K I ρ) : Prop :=
  ∀ (caller : Caller) (fields : List String) (whole : ListQuery) (row : Row ρ), whole.fields = [] →
    d.listed caller fields
        { row with value := Record.project (d.narrowed fields whole).fields row.value } =
      d.present caller (fieldNames fields) row

/-- A desk that cuts records down only when they are answered, on a page as by themselves. -/
theorem agrees_of_present {d : Desk P F K I ρ}
    (hnarrowed : ∀ fields query, d.narrowed fields query = query := by intros; rfl)
    (hlisted : ∀ caller fields row,
      d.listed caller fields row = d.present caller (fieldNames fields) row := by intros; rfl) :
    d.Agrees := by
  intro caller fields whole row hwhole
  rw [hnarrowed, hwhole, hlisted]
  rfl

theorem Agrees.item {d : Desk P F K I ρ} (hd : d.Agrees) {ctx : Context} {r : ListRequest P F}
    {query : ListQuery} (hquery : d.query ctx r = .ok query) (caller : Caller) (row : Row ρ) :
    d.listed caller r.fields { row with value := Record.project query.fields row.value } =
      d.present caller (fieldNames r.fields) row := by
  obtain ⟨whole, hwhole, rfl⟩ := query_eq_ok hquery
  exact hd caller r.fields whole row hwhole

/-! ## Steps -/

/-- What serving a request can come to, with what has to hold for it. -/
inductive Step (d : Desk P F K I ρ) (ctx : Context) (s : Tables) :
    Request P F K I → Except ServiceError (Reply ρ) → Tables → Prop
  | refused (r : Request P F K I) (e : ServiceError) : Step d ctx s r (.error e) s
  | listed {r : ListRequest P F} {caller : Caller} {scope : Option Int} {query : ListQuery}
      (hcaller : authorize ctx.caller d.service (d.method .list) = .ok caller)
      (hscope : d.listScope s r.place = .ok scope) (hquery : d.query ctx r = .ok query)
      (page : Page (Row ρ))
      (hpage : page = (d.shelf.get s).listWhere scope query (d.keeps r.filter)) :
      Step d ctx s (.list r) (.ok (.page ⟨page.page, page.next,
        page.items.map (d.listed caller r.fields)⟩)) s
  | located {r : LocateRequest K} {caller : Caller} {key : RowKey} {row : Row ρ}
      (hcaller : authorize ctx.caller d.service (d.method .locate) = .ok caller)
      (haddress : d.address s r.key = .ok key) (hfind : (d.shelf.get s).find key = .ok row) :
      Step d ctx s (.locate r) (.ok (.located (d.present caller (fieldNames r.fields) row))) s
  | created {r : CreateRequest P I} {caller : Caller} {draft : ρ}
      (hcaller : authorize ctx.caller d.service (d.method .create) = .ok caller)
      (hdraft : d.draft s caller r.place r.input = .ok draft)
      (new : ρ) (hnew : new = Record.touchCreated caller.user ctx.now draft) :
      Step d ctx s (.create r)
        (.ok (.record (d.present caller [] ((d.shelf.get s).insert new).1)))
        (d.settled none ((d.shelf.get s).insert new).1
          (d.shelf.set ((d.shelf.get s).insert new).2 s))
  | updated {r : UpdateRequest K I} {caller : Caller} {key : RowKey}
      {revise : Caller → ρ → Except ServiceError ρ} {old : Row ρ} {value : ρ}
      (hcaller : authorize ctx.caller d.service (d.method .update) = .ok caller)
      (hrevision : d.revision s r.key r.input (.ofTexts r.mask) = .ok (key, revise))
      (hfind : (d.shelf.get s).find key = .ok old) (hrevise : revise caller old.value = .ok value)
      (row : Row ρ)
      (hrow : row = Table.edited key old (Record.touchUpdated caller.user ctx.now value)) :
      Step d ctx s (.update r) (.ok (.record (d.present caller [] row)))
        (d.settled (some old) row (d.shelf.set ((d.shelf.get s).put key.id (some row)) s))
  | deleted {r : DeleteRequest K} {caller : Caller} {key : RowKey}
      {allow : Caller → ρ → Except ServiceError Unit} {old : Row ρ}
      (hcaller : authorize ctx.caller d.service (d.method .delete) = .ok caller)
      (hremoval : d.removal s r.key = .ok (key, allow))
      (hfind : (d.shelf.get s).find key = .ok old) (hallow : allow caller old.value = .ok ()) :
      Step d ctx s (.delete r) (.ok (.record (d.present caller [] old)))
        (d.cleared key (d.shelf.set ((d.shelf.get s).put key.id none) s))

variable (d : Desk P F K I ρ) (ctx : Context) (s : Tables)

theorem step_list (r : ListRequest P F) :
    d.Step ctx s (.list r) ((d.serve ctx (.list r)).exec s).1
      ((d.serve ctx (.list r)).exec s).2 := by
  simp only [serve, list, enter, Action.exec_map, Action.exec_reading_bind, Action.exec_get_bind,
    Action.exec_pure]
  rcases hcaller : authorize ctx.caller d.service (d.method .list) with e | caller
  · exact .refused _ e
  rcases hscope : d.listScope s r.place with e | scope
  · exact .refused _ e
  rcases hquery : d.query ctx r with e | query
  · exact .refused _ e
  exact .listed hcaller hscope hquery _ rfl

theorem step_create (r : CreateRequest P I) :
    d.Step ctx s (.create r) ((d.serve ctx (.create r)).exec s).1
      ((d.serve ctx (.create r)).exec s).2 := by
  simp only [serve, create, enter, Action.exec_map, Action.exec_reading_bind,
    Action.exec_onShelf_bind, Action.exec_changing_bind, Action.exec_pure]
  rcases hcaller : authorize ctx.caller d.service (d.method .create) with e | caller
  · exact .refused _ e
  rcases hdraft : d.draft s caller r.place r.input with e | draft
  · simp only [hdraft]; exact .refused _ e
  simp only [hdraft]
  exact .created hcaller hdraft _ rfl

theorem step_update (r : UpdateRequest K I) :
    d.Step ctx s (.update r) ((d.serve ctx (.update r)).exec s).1
      ((d.serve ctx (.update r)).exec s).2 := by
  simp only [serve, update, enter, Action.exec_map, Action.exec_reading_bind, Action.exec_get_bind,
    Action.exec_onShelf_bind, Action.exec_changing_bind, Action.exec_pure]
  rcases hcaller : authorize ctx.caller d.service (d.method .update) with e | caller
  · exact .refused _ e
  rcases hrevision : d.revision s r.key r.input (.ofTexts r.mask) with e | ⟨key, revise⟩
  · exact .refused _ e
  rcases Table.update_cases (d.shelf.get s) key (.ofRevision fun old => do
    return Record.touchUpdated caller.user ctx.now (← revise caller old)) with
    ⟨e, hupdate⟩ | ⟨old, value, hfind, hedit, hupdate⟩
  · simp only [hupdate, d.shelf.set_get]; exact .refused _ e
  · simp only [hupdate, Table.row?_of_find hfind]
    obtain ⟨new, hrevise, hnew⟩ := bind_eq_ok.1 (Table.ofRevision_eq_ok.1 hedit)
    cases hnew
    exact .updated hcaller hrevision hfind hrevise _ rfl

theorem step_delete (r : DeleteRequest K) :
    d.Step ctx s (.delete r) ((d.serve ctx (.delete r)).exec s).1
      ((d.serve ctx (.delete r)).exec s).2 := by
  simp only [serve, delete, enter, Action.exec_map, Action.exec_reading_bind,
    Action.exec_onShelf_bind, Action.exec_changing_bind, Action.exec_pure]
  rcases hcaller : authorize ctx.caller d.service (d.method .delete) with e | caller
  · exact .refused _ e
  rcases hremoval : d.removal s r.key with e | ⟨key, allow⟩
  · exact .refused _ e
  rcases Table.removeIf_cases (d.shelf.get s) key (allow caller) with
    ⟨e, hremove⟩ | ⟨old, hfind, hallow, hremove⟩
  · simp only [hremove, d.shelf.set_get]; exact .refused _ e
  · simp only [hremove]
    exact .deleted hcaller hremoval hfind hallow

theorem step_locate (r : LocateRequest K) :
    d.Step ctx s (.locate r) ((d.serve ctx (.locate r)).exec s).1
      ((d.serve ctx (.locate r)).exec s).2 := by
  simp only [serve, locate, enter, Action.exec_map, Action.exec_reading_bind, Action.exec_pure]
  rcases hcaller : authorize ctx.caller d.service (d.method .locate) with e | caller
  · exact .refused _ e
  rcases haddress : d.address s r.key with e | key
  · exact .refused _ e
  rcases hfind : (d.shelf.get s).find key with e | row
  · simp only [hfind]; exact .refused _ _
  · simp only [hfind]; exact .located hcaller haddress hfind

/-- **Serving a request is a step.** -/
theorem step_serve (r : Request P F K I) :
    d.Step ctx s r ((d.serve ctx r).exec s).1 ((d.serve ctx r).exec s).2 := by
  cases r with
  | list r => exact d.step_list ctx s r
  | create r => exact d.step_create ctx s r
  | update r => exact d.step_update ctx s r
  | delete r => exact d.step_delete ctx s r
  | locate r => exact d.step_locate ctx s r

variable {d ctx s}

/-! ## What does not change -/

/-- A refused request changes nothing. -/
theorem Step.unchanged_of_error {r : Request P F K I} {out : Except ServiceError (Reply ρ)}
    {s' : Tables} (h : d.Step ctx s r out s') {e : ServiceError} (he : out = .error e) :
    s' = s := by
  cases h with
  | refused => rfl
  | _ => cases he

/-- A request that only reads changes nothing. -/
theorem Step.unchanged_of_read {r : Request P F K I} {out : Except ServiceError (Reply ρ)}
    {s' : Tables} (h : d.Step ctx s r out s')
    (hr : r.operation = .list ∨ r.operation = .locate) : s' = s := by
  cases h with
  | refused | listed | located => rfl
  | _ => rcases hr with hr | hr <;> cases hr

/-- A desk that never touches a part of the tables. -/
structure Leaves (d : Desk P F K I ρ) (part : Tables → α) : Prop where
  own : ∀ t s, part (d.shelf.set t s) = part s := by intros; rfl
  settled : ∀ before row s, part (d.settled before row s) = part s := by intros; rfl
  cleared : ∀ key s, part (d.cleared key s) = part s := by intros; rfl

theorem Step.part_eq {r : Request P F K I} {out : Except ServiceError (Reply ρ)} {s' : Tables}
    (h : d.Step ctx s r out s') {part : Tables → α} (hd : d.Leaves part) : part s' = part s := by
  cases h with
  | refused | listed | located => rfl
  | created | updated => rw [hd.settled, hd.own]
  | deleted => rw [hd.cleared, hd.own]

end Desk

end CaseDesk
