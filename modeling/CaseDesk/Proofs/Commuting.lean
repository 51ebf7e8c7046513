/-
  Writes of different records commute.

  A request that changes or removes a record looks at the rules and at the row
  that its key names.  What it then does, to that row and to others as a
  consequence, does not get in the way of the same done for another record.
  The conditions of agreements and of statuses are left out: there it matters
  who asks first for a priority or for the flag.

  * `Table.put_comm`, `Table.removeScope_comm`, `Table.modifyAll_commute`:
    writes of a table that commute.
  * `Priorities.About`: a change of the references to one priority; changes
    about different ones commute.
  * `Desk.Write`, `Desk.write`: what a request writes, as a change of the
    tables.  Two states that are the same for a key lead to the same answer and
    the same write (`Desk.edit_cases`).
  * `Desk.Commuting`: writes at a desk keep the rules, and what follows from
    them commutes.
  * `ServiceName.edits_commute`: requests about different records commute.
-/
import CaseDesk.Proofs.Services
import CaseDesk.Proofs.Versions
import Mathlib.Logic.Function.Conjugate

namespace CaseDesk

/-! ## Lenses -/

namespace Lens

variable {α β : Type}

/-- Changes of a part that commute do so as changes of the whole. -/
theorem modify_commute (l : Lens α β) {f g : β → β} (h : Function.Commute f g) :
    Function.Commute (l.modify f) (l.modify g) := fun a => by
  simp only [modify, l.get_set, l.set_set, h (l.get a)]

end Lens

/-! ## Tables -/

namespace Table

variable {ρ : Type}

/-- Rows under different ids may be put in either order. -/
theorem put_comm {i j : Int} (hi : 1 ≤ i) (hj : 1 ≤ j) (h : i ≠ j) (x y : Option (Row ρ)) :
    Function.Commute (fun t : Table ρ => t.put i x) (fun t => t.put j y) := fun t => by
  have hslot : (j - 1).toNat ≠ (i - 1).toNat := by omega
  exact congrArg Table.mk (List.set_comm _ _ hslot)

/-- The rows of two parents may be removed in either order. -/
theorem removeScope_comm [Record ρ] (i j : Int) :
    Function.Commute (fun t : Table ρ => (t.removeScope i).2) (fun t => (t.removeScope j).2) := by
  intro t
  simp only [removeScope, List.map_map]
  refine congrArg Table.mk (List.map_congr_left fun slot _ => ?_)
  simp only [Function.comp, Option.filter_filter, Bool.and_comm]

/-- Bulk changes that commute row by row do so as changes of the table. -/
theorem modifyAll_commute {f g : ρ → Bool × ρ}
    (h : Function.Commute (changeRow f) (changeRow g)) :
    Function.Commute (fun t : Table ρ => (t.modifyAll f).2) (fun t => (t.modifyAll g).2) := by
  intro t
  simp only [modifyAll, modifyWhere, if_true, List.map_map]
  refine congrArg Table.mk (List.map_congr_left fun slot _ => ?_)
  simp only [Function.comp, Option.map_map]
  exact congrArg (Option.map · slot) h.comp_eq

/-- Bulk changes commute on a row if each says the same of what the other makes of the record, and
    both orders make the same record. -/
theorem changeRow_commute {f g : ρ → Bool × ρ} (hf : ∀ r, (f (g r).2).1 = (f r).1)
    (hg : ∀ r, (g (f r).2).1 = (g r).1) (h : ∀ r, (f (g r).2).2 = (g (f r).2).2) :
    Function.Commute (changeRow f) (changeRow g) := fun row => by
  simp only [changeRow, hf, hg, h]
  split_ifs <;> rfl

/-- What a key addresses depends on the row under its id. -/
theorem find_congr [Record ρ] {t t' : Table ρ} {key : RowKey}
    (h : t.row? key.id = t'.row? key.id) : t.find key = t'.find key := by
  rw [find, find, h]

end Table

/-! ## References to priorities -/

namespace Priorities

/-- A change of the references to the priority with an id: it tells by `hit` whether there are some
    to be changed, makes of each what `act` says, and leaves all others alone. -/
structure About (id : Int) (change : SlaCondition → Bool × SlaCondition) (hit : Lookup → Bool)
    (act : Lookup → Option Lookup) : Prop where
  eq : ∀ c, change c =
    (c.priorities.any hit, { c with priorities := c.priorities.filterMap act })
  others : ∀ p, p.id ≠ id → hit p = false ∧ act p = some p
  ids : ∀ p q, act p = some q → q.id = p.id

theorem about_rename (id : Int) (name : String) :
    About id (rename id name) (fun p => p.id == id && p.name != name)
      (fun p => some (if p.id = id then { p with name } else p)) where
  eq c := by rw [List.filterMap_eq_map']; rfl
  others p hp := by simp [hp]
  ids p q h := by
    cases h
    split_ifs <;> rfl

theorem about_detach (id : Int) :
    About id (detach id) (·.id == id) (fun p => if p.id = id then none else some p) where
  eq c := by
    rw [detach, ← List.filterMap_eq_filter]
    congr 3
    funext p
    by_cases hp : p.id = id <;> simp [Option.guard, hp]
  others p hp := by simp [hp]
  ids p q h := by
    split_ifs at h
    cases h
    rfl

variable {id id' : Int} {change change' : SlaCondition → Bool × SlaCondition}
  {hit hit' : Lookup → Bool} {act act' : Lookup → Option Lookup}

/-- A change does not see what another one makes of the references to another priority. -/
theorem About.any_filterMap (h : About id change hit act) (h' : About id' change' hit' act')
    (hid : id ≠ id') (held : List Lookup) : (held.filterMap act').any hit = held.any hit := by
  induction held with
  | nil => rfl
  | cons p held ih =>
    by_cases hp : p.id = id'
    · have hmiss : hit p = false := (h.others p (hp ▸ hid.symm)).1
      rw [List.any_cons, hmiss, Bool.false_or, ← ih, List.filterMap_cons]
      rcases hact : act' p with _ | q
      · rfl
      · have hq : q.id ≠ id := h'.ids p q hact ▸ hp ▸ hid.symm
        rw [List.any_cons, (h.others q hq).1, Bool.false_or]
    · rw [List.filterMap_cons, (h'.others p hp).2, List.any_cons, List.any_cons, ih]

theorem About.act_comm (h : About id change hit act) (h' : About id' change' hit' act')
    (hid : id ≠ id') (p : Lookup) : (act' p).bind act = (act p).bind act' := by
  by_cases hp : p.id = id
  · have hother : p.id ≠ id' := hp ▸ hid
    rw [(h'.others p hother).2]
    rcases hact : act p with _ | q
    · exact hact
    · have hq : q.id ≠ id' := h.ids p q hact ▸ hother
      exact hact.trans (h'.others q hq).2.symm
  · rw [(h.others p hp).2]
    rcases hact : act' p with _ | q
    · exact hact.symm
    · have hq : q.id ≠ id := h'.ids p q hact ▸ hp
      exact (h.others q hq).2.trans hact.symm

/-- Changes of the references to two priorities commute. -/
theorem About.changeRow_commute (h : About id change hit act) (h' : About id' change' hit' act')
    (hid : id ≠ id') : Function.Commute (Table.changeRow change) (Table.changeRow change') := by
  refine Table.changeRow_commute (fun c => ?_) (fun c => ?_) fun c => ?_
  · rw [h.eq, h.eq, h'.eq]
    exact h.any_filterMap h' hid _
  · rw [h'.eq, h'.eq, h.eq]
    exact h'.any_filterMap h hid.symm _
  · rw [h.eq, h'.eq, h'.eq, h.eq]
    simp only [List.filterMap_filterMap, h.act_comm h' hid]

end Priorities

/-! ## Writes at a desk -/

namespace Desk

variable {P F K I ρ : Type} [Record ρ]

/-- What a request writes that changes or removes a record: the row that its key leads to, and what
    stands there afterwards. -/
structure Write (ρ : Type) where
  key : RowKey
  old : Row ρ
  new : Option (Row ρ)

/-- The write is one of a row that is there, and the new row holds its id. -/
structure Write.Fits (w : Write ρ) (t : Table ρ) : Prop where
  row : t.row? w.key.id = some w.old
  keyed : ∀ row, w.new = some row → Record.idOf row.value = w.key.id

/-- What follows from a write. -/
def follow (d : Desk P F K I ρ) (w : Write ρ) : Tables → Tables :=
  match w.new with
  | some row => d.settled (some w.old) row
  | none => d.cleared w.key

/-- A write, as a change of the tables. -/
def write (d : Desk P F K I ρ) (w : Write ρ) : Tables → Tables :=
  d.follow w ∘ d.shelf.modify (·.put w.key.id w.new)

/-- Two states are the same to a request that changes or removes what a key names. -/
structure SameFor (d : Desk P F K I ρ) (named : K → Option Int) (key : K) (s s' : Tables) :
    Prop where
  revision : d.revision s key = d.revision s' key
  removal : d.removal s key = d.removal s' key
  row : ∀ id, named key = some id → (d.shelf.get s).row? id = (d.shelf.get s').row? id

variable {d : Desk P F K I ρ} {named : K → Option Int} {ctx : Context} {s s' : Tables}

omit [Record ρ] in
theorem SameFor.refl (d : Desk P F K I ρ) (named : K → Option Int) (key : K) (s : Tables) :
    d.SameFor named key s s := ⟨rfl, rfl, fun _ _ => rfl⟩

/-- An update has the same answer in states that are the same to it, and writes the same. -/
theorem update_cases (hd : d.Names named) {r : UpdateRequest K I}
    (h : d.SameFor named r.key s s') :
    (∃ e, (d.serve ctx (.update r)).exec s = (.error e, s) ∧
      (d.serve ctx (.update r)).exec s' = (.error e, s')) ∨
    ∃ w reply, named r.key = some w.key.id ∧ w.Fits (d.shelf.get s) ∧
      (d.serve ctx (.update r)).exec s = (.ok reply, d.write w s) ∧
      (d.serve ctx (.update r)).exec s' = (.ok reply, d.write w s') := by
  simp only [serve, update, enter, Action.exec_map, Action.exec_reading_bind,
    Action.exec_get_bind, Action.exec_onShelf_bind, Action.exec_changing_bind, Action.exec_pure,
    ← h.revision]
  rcases authorize ctx.caller d.service (d.method .update) with e | caller
  · exact Or.inl ⟨e, rfl, rfl⟩
  rcases hrevision : d.revision s r.key r.input (.ofTexts r.mask) with e | ⟨key, revise⟩
  · exact Or.inl ⟨e, rfl, rfl⟩
  have hnamed := hd.revision hrevision
  have hfind := Table.find_congr (h.row _ hnamed)
  simp only [Table.update, ← hfind, ← h.row _ hnamed]
  rcases hold : (d.shelf.get s).find key with e | old
  · simp only [d.shelf.set_get]
    exact Or.inl ⟨.store e, rfl, rfl⟩
  rcases hedit : Edit.ofRevision (fun old => do
      return Record.touchUpdated caller.user ctx.now (← revise caller old)) old.value with
    ⟨e | _, value⟩
  · simp only [hedit, d.shelf.set_get]
    exact Or.inl ⟨e, rfl, rfl⟩
  · have hrow := Table.row?_of_find hold
    simp only [hedit, hrow]
    refine Or.inr ⟨⟨key, old, some (Table.edited key old value)⟩, _, hnamed, ⟨hrow, ?_⟩, rfl, rfl⟩
    rintro _ ⟨⟩
    exact Record.idOf_withId _ _

/-- So has a removal. -/
theorem delete_cases (hd : d.Names named) {r : DeleteRequest K}
    (h : d.SameFor named r.key s s') :
    (∃ e, (d.serve ctx (.delete r)).exec s = (.error e, s) ∧
      (d.serve ctx (.delete r)).exec s' = (.error e, s')) ∨
    ∃ w reply, named r.key = some w.key.id ∧ w.Fits (d.shelf.get s) ∧
      (d.serve ctx (.delete r)).exec s = (.ok reply, d.write w s) ∧
      (d.serve ctx (.delete r)).exec s' = (.ok reply, d.write w s') := by
  simp only [serve, delete, enter, Action.exec_map, Action.exec_reading_bind,
    Action.exec_onShelf_bind, Action.exec_changing_bind, Action.exec_pure, ← h.removal]
  rcases authorize ctx.caller d.service (d.method .delete) with e | caller
  · exact Or.inl ⟨e, rfl, rfl⟩
  rcases hremoval : d.removal s r.key with e | ⟨key, allow⟩
  · exact Or.inl ⟨e, rfl, rfl⟩
  have hnamed := hd.removal hremoval
  have hfind := Table.find_congr (h.row _ hnamed)
  simp only [Table.removeIf, ← hfind]
  rcases hold : (d.shelf.get s).find key with e | old
  · simp only [d.shelf.set_get]
    exact Or.inl ⟨.store e, rfl, rfl⟩
  rcases hallow : allow caller old.value with e | _
  · simp only [hallow, d.shelf.set_get]
    exact Or.inl ⟨e, rfl, rfl⟩
  · simp only [hallow]
    refine Or.inr ⟨⟨key, old, none⟩, _, hnamed, ⟨Table.row?_of_find hold, ?_⟩, rfl, rfl⟩
    rintro _ ⟨⟩

/-- **A request to change or to remove a record fails alike in states that are the same to it, or
    writes the same there.** -/
theorem edit_cases (hd : d.Names named) {r : Request P F K I} {key : K} (hr : r.edited? = some key)
    (h : d.SameFor named key s s') :
    (∃ e, (d.serve ctx r).exec s = (.error e, s) ∧ (d.serve ctx r).exec s' = (.error e, s')) ∨
    ∃ w reply, named key = some w.key.id ∧ w.Fits (d.shelf.get s) ∧
      (d.serve ctx r).exec s = (.ok reply, d.write w s) ∧
      (d.serve ctx r).exec s' = (.ok reply, d.write w s') := by
  cases r with
  | list | create | locate => cases hr
  | update r =>
    cases hr
    exact update_cases hd h
  | delete r =>
    cases hr
    exact delete_cases hd h

/-! ## Writes that commute -/

/-- What follows from a write leaves the rules and the table of the desk alone, and it does not
    matter which of two writes of different rows comes first. -/
structure Commuting (d : Desk P F K I ρ) : Prop where
  revision : ∀ w s, d.revision (d.write w s) = d.revision s
  removal : ∀ w s, d.removal (d.write w s) = d.removal s
  get : ∀ w s, d.shelf.get (d.follow w s) = d.shelf.get s
  apart : ∀ w f, Function.Commute (d.follow w) (d.shelf.modify f)
  follow : ∀ {w w' : Write ρ}, w.key.id ≠ w'.key.id →
    (∀ row, w.new = some row → Record.idOf row.value = w.key.id) →
    (∀ row, w'.new = some row → Record.idOf row.value = w'.key.id) →
    Function.Commute (d.follow w) (d.follow w')

namespace Commuting

variable {w w' : Write ρ} {t : Table ρ}

/-- A write leaves a state that is the same to requests about other records. -/
theorem sameFor (hd : d.Commuting) (hw : w.Fits (d.shelf.get s)) {key : K}
    (hkey : named key ≠ some w.key.id) : d.SameFor named key s (d.write w s) where
  revision := congrFun (hd.revision w s).symm key
  removal := congrFun (hd.removal w s).symm key
  row id hid := by
    have hother : id ≠ w.key.id := fun h => hkey (h ▸ hid)
    rw [write, Function.comp_apply, hd.get, Lens.modify, d.shelf.get_set,
      Table.row?_put hw.row, if_neg hother]

/-- Writes of different rows commute. -/
theorem write_commute (hd : d.Commuting) (hw : w.Fits t) (hw' : w'.Fits t)
    (h : w.key.id ≠ w'.key.id) : Function.Commute (d.write w) (d.write w') := by
  have hpos := (Table.bounds_of_row? hw.row).1
  have hpos' := (Table.bounds_of_row? hw'.row).1
  have hputs := d.shelf.modify_commute (Table.put_comm hpos hpos' h w.new w'.new)
  exact ((hd.follow h hw.keyed hw'.keyed).comp_right (hd.apart w _)).comp_left
    (((hd.apart w' _).symm).comp_right hputs)

variable {r r' : Request P F K I} {key key' : K}

/-- A request leaves a state that is the same to requests about other records. -/
theorem sameFor_after (hd : d.Commuting) (hnames : d.Names named) (hr : r.edited? = some key)
    (h : ∀ id, named key = some id → named key' ≠ some id) (ctx : Context) (s : Tables) :
    d.SameFor named key' s ((d.serve ctx r).exec s).2 := by
  rcases edit_cases hnames hr (.refl d named key s) with
    ⟨e, hserve, -⟩ | ⟨w, reply, hkey, hfits, hserve, -⟩
  · rw [hserve]
    exact .refl d named key' s
  · rw [hserve]
    exact hd.sameFor hfits (h _ hkey)

/-- **Requests that change or remove different records commute**: each has the same answer before
    and after the other, and both orders lead to the same tables. -/
theorem serve (hd : d.Commuting) (hnames : d.Names named) (hr : r.edited? = some key)
    (hr' : r'.edited? = some key') (h : ∀ id, named key = some id → named key' ≠ some id)
    (ctx ctx' : Context) (s : Tables) :
    ((d.serve ctx r).exec ((d.serve ctx' r').exec s).2).1 = ((d.serve ctx r).exec s).1 ∧
    ((d.serve ctx' r').exec ((d.serve ctx r).exec s).2).1 = ((d.serve ctx' r').exec s).1 ∧
    ((d.serve ctx r).exec ((d.serve ctx' r').exec s).2).2 =
      ((d.serve ctx' r').exec ((d.serve ctx r).exec s).2).2 := by
  have hother : ∀ id, named key' = some id → named key ≠ some id := fun id hid' hid => h id hid hid'
  rcases edit_cases hnames hr (hd.sameFor_after hnames hr' hother ctx' s) with
    ⟨e, hfirst, hsecond⟩ | ⟨w, reply, hkey, hfits, hfirst, hsecond⟩ <;>
  rcases edit_cases hnames hr' (hd.sameFor_after hnames hr h ctx s) with
    ⟨e', hfirst', hsecond'⟩ | ⟨w', reply', hkey', hfits', hfirst', hsecond'⟩ <;>
  rw [hfirst'] at hsecond <;> rw [hfirst] at hsecond' <;>
  simp only [hfirst, hfirst', hsecond, hsecond', true_and]
  -- only two requests that both succeed write twice
  have hid : w.key.id ≠ w'.key.id := fun he => h _ hkey (he ▸ hkey')
  exact hd.write_commute hfits hfits' hid s

end Commuting

/-! ## The desks -/

/-- A desk that changes nothing beyond its own record. -/
theorem commuting_alone
    (hrevision : ∀ t s, d.revision (d.shelf.set t s) = d.revision s := by intros; rfl)
    (hremoval : ∀ t s, d.removal (d.shelf.set t s) = d.removal s := by intros; rfl)
    (hsettled : ∀ before row s, d.settled before row s = s := by intros; rfl)
    (hcleared : ∀ key s, d.cleared key s = s := by intros; rfl) : d.Commuting := by
  have hfollow : ∀ w, d.follow w = id := by
    rintro ⟨key, old, _ | row⟩ <;> funext s
    · exact hcleared key s
    · exact hsettled _ row s
  refine ⟨fun w s => ?_, fun w s => ?_, fun w s => ?_, fun w f => ?_, fun {w w'} _ _ _ => ?_⟩
  · rw [write, hfollow]
    exact hrevision _ s
  · rw [write, hfollow]
    exact hremoval _ s
  · rw [hfollow, id]
  · rw [hfollow]
    exact Function.Commute.id_left
  · rw [hfollow]
    exact Function.Commute.id_left

/-- A desk whose writes have consequences in another table, which commute. -/
theorem commuting_following {ρ' : Type} (child : Shelf ρ') (change : Write ρ → Table ρ' → Table ρ')
    (hfollow : ∀ w, d.follow w = child.modify (change w))
    (hchange : ∀ {w w' : Write ρ}, w.key.id ≠ w'.key.id →
      (∀ row, w.new = some row → Record.idOf row.value = w.key.id) →
      (∀ row, w'.new = some row → Record.idOf row.value = w'.key.id) →
      Function.Commute (change w) (change w'))
    (hrevision : ∀ f g s, d.revision (child.modify f (d.shelf.modify g s)) = d.revision s := by
      intros; rfl)
    (hremoval : ∀ f g s, d.removal (child.modify f (d.shelf.modify g s)) = d.removal s := by
      intros; rfl)
    (hget : ∀ f s, d.shelf.get (child.modify f s) = d.shelf.get s := by intros; rfl)
    (hapart : ∀ f g s, child.modify f (d.shelf.modify g s) = d.shelf.modify g (child.modify f s) :=
      by intros; rfl) : d.Commuting := by
  refine ⟨fun w s => ?_, fun w s => ?_, fun w s => ?_, fun w f => ?_, fun {w w'} h hw hw' => ?_⟩
  · rw [write, hfollow]
    exact hrevision _ _ s
  · rw [write, hfollow]
    exact hremoval _ _ s
  · rw [hfollow, hget]
  · rw [hfollow]
    exact hapart _ f
  · rw [hfollow, hfollow]
    exact child.modify_commute (hchange h hw hw')

/-- What becomes of the records of a parent that is written: they go with it. -/
def Write.orphaned {ρ' : Type} [Record ρ'] (w : Write ρ) (t : Table ρ') : Table ρ' :=
  match w.new with
  | some _ => t
  | none => (t.removeScope w.key.id).2

omit [Record ρ] in
theorem Write.orphaned_commute {ρ' : Type} [Record ρ'] (w w' : Write ρ) :
    Function.Commute (fun t : Table ρ' => w.orphaned t) fun t => w'.orphaned t := by
  intro t
  unfold orphaned
  rcases w.new with _ | row <;> rcases w'.new with _ | row'
  · exact Table.removeScope_comm _ _ t
  · rfl
  · rfl
  · rfl

/-- A desk of parents, whose records go with them. -/
theorem commuting_parent {ρ' : Type} [Record ρ'] {service : String} {method : Operation → String}
    {shelf : Shelf ρ} {keeps : F → ρ → Bool} {revise : FieldMask → I → ρ → Except ServiceError ρ}
    {child : Shelf ρ'} (hget : ∀ f s, shelf.get (child.modify f s) = shelf.get s := by intros; rfl)
    (hapart : ∀ f g s, child.modify f (shelf.modify g s) = shelf.modify g (child.modify f s) :=
      by intros; rfl) :
    { root service method shelf keeps revise with
      cleared := fun key => child.modify fun t => (t.removeScope key.id).2 }.Commuting := by
  refine commuting_following child (fun w => w.orphaned) ?_
    (fun _ _ _ => Write.orphaned_commute _ _) (fun _ _ _ => rfl) (fun _ _ _ => rfl) hget hapart
  rintro ⟨key, old, _ | row⟩ <;> funext s
  · rfl
  · exact (child.set_get s).symm

end Desk

theorem Slas.commuting : desk.Commuting := Desk.commuting_parent

theorem CloseReasons.commuting : desk.Commuting := Desk.commuting_parent

theorem Statuses.commuting : desk.Commuting := Desk.commuting_parent

namespace Priorities

/-- What a write of a priority does to the references of a condition. -/
def change (w : Desk.Write Priority) : SlaCondition → Bool × SlaCondition :=
  match w.new with
  | some row => rename row.value.id row.value.name
  | none => detach w.key.id

theorem exists_about {w : Desk.Write Priority}
    (hw : ∀ row, w.new = some row → Record.idOf row.value = w.key.id) :
    ∃ hit act, About w.key.id (change w) hit act := by
  rcases w with ⟨⟨id, scope, ver⟩, old, _ | row⟩
  · exact ⟨_, _, about_detach id⟩
  · obtain rfl : row.value.id = id := hw row rfl
    exact ⟨_, _, about_rename row.value.id row.value.name⟩

theorem commuting : desk.Commuting := by
  refine Desk.commuting_following .slaConditions (fun w t => (t.modifyAll (change w)).2) ?_ ?_
  · rintro ⟨key, old, _ | row⟩ <;> rfl
  · intro w w' h hw hw'
    obtain ⟨_, _, habout⟩ := exists_about hw
    obtain ⟨_, _, habout'⟩ := exists_about hw'
    exact Table.modifyAll_commute (habout.changeRow_commute habout' h)

end Priorities

theorem Reasons.commuting : desk.Commuting := Desk.commuting_alone

theorem Sources.commuting : desk.Commuting := Desk.commuting_alone

theorem CaseComments.commuting : desk.Commuting := Desk.commuting_alone

theorem CaseLinks.commuting : desk.Commuting := Desk.commuting_alone

/-! ## The services -/

namespace ServiceName

theorem commuting {service : ServiceName}
    (h : service ≠ slaConditions ∧ service ≠ statusConditions) : service.desk.Commuting := by
  cases service with
  | slas => exact Slas.commuting
  | slaConditions => exact absurd rfl h.1
  | closeReasons => exact CloseReasons.commuting
  | reasons => exact Reasons.commuting
  | sources => exact Sources.commuting
  | statuses => exact Statuses.commuting
  | statusConditions => exact absurd rfl h.2
  | priorities => exact Priorities.commuting
  | caseComments => exact CaseComments.commuting
  | caseLinks => exact CaseLinks.commuting

/-- **Requests about different records commute.**  Of two requests to change or to remove records of
    a service, other than conditions, that name different records each has the same answer, which
    may be an error, before and after the other, and both orders lead to the same tables, whoever
    makes them and when. -/
theorem edits_commute {service : ServiceName}
    (hservice : service ≠ slaConditions ∧ service ≠ statusConditions) {r r' : service.Request}
    {key key' : service.Key} (hr : r.edited? = some key) (hr' : r'.edited? = some key')
    (h : ∀ id, service.recordId? key = some id → service.recordId? key' ≠ some id)
    (ctx ctx' : Context) (s : Tables) :
    ((service.call r).run ctx ((service.call r').run ctx' s).2).1 =
      ((service.call r).run ctx s).1 ∧
    ((service.call r').run ctx' ((service.call r).run ctx s).2).1 =
      ((service.call r').run ctx' s).1 ∧
    ((service.call r).run ctx ((service.call r').run ctx' s).2).2 =
      ((service.call r').run ctx' ((service.call r).run ctx s).2).2 := by
  obtain ⟨hanswer, hanswer', htables⟩ :=
    (commuting hservice).serve service.names hr hr' h ctx ctx' s
  simp only [run_call]
  exact ⟨congrArg _ hanswer, congrArg _ hanswer', htables⟩

end ServiceName

/-- Two priorities and a condition of an agreement that holds both. -/
def bothHeld : Run :=
  [.bySuperuser (.slas (.create ⟨(), some ⟨"gold", "", 0, 0, none, 1, 1⟩⟩)),
    .bySuperuser (.priorities (.create ⟨(), some ⟨"high", "", ""⟩⟩)),
    .bySuperuser (.priorities (.create ⟨(), some ⟨"low", "", ""⟩⟩)),
    .bySuperuser (.slaConditions (.create ⟨1, some ⟨"day", [⟨1, ""⟩, ⟨2, ""⟩], 1, 1⟩⟩))]

/-- The first priority gets another name. -/
def newFirst : ServiceName.priorities.Request := .update ⟨1, some ⟨"top", "", ""⟩, []⟩

/-- The second priority is removed. -/
def noSecond : ServiceName.priorities.Request := .delete ⟨2⟩

/-- The user who gives the priority its other name, and when. -/
def annAtFive : Context := ⟨some ⟨⟨7, "ann"⟩, .all⟩, 5, .standard⟩

/-- In either order the condition is left with the one priority, under its other name and two
    versions later. -/
theorem bothHeld_commute :
    let call := ServiceName.priorities.call
    let s := bothHeld.before 4
    let after := ((call noSecond).run .superuser ((call newFirst).run annAtFive s).2).2
    ((call newFirst).run annAtFive ((call noSecond).run .superuser s).2).1 =
      ((call newFirst).run annAtFive s).1 ∧
    ((call noSecond).run .superuser ((call newFirst).run annAtFive s).2).1 =
      ((call noSecond).run .superuser s).1 ∧
    ((call newFirst).run annAtFive ((call noSecond).run .superuser s).2).2 = after ∧
    (after.slaConditions.row? 1).map (fun row => (row.ver, row.value.priorities)) =
      some (3, [⟨1, "top"⟩]) := by
  have hservice : ServiceName.priorities ≠ .slaConditions ∧
      ServiceName.priorities ≠ .statusConditions := ⟨nofun, nofun⟩
  have hfirst : newFirst.edited? = some 1 := rfl
  have hsecond : noSecond.edited? = some 2 := rfl
  have hdifferent : ∀ id, ServiceName.priorities.recordId? (1 : Int) = some id →
      ServiceName.priorities.recordId? (2 : Int) ≠ some id := by
    rintro _ ⟨⟩
    decide
  obtain ⟨hrenamed, hremoved, htables⟩ := ServiceName.edits_commute hservice hfirst hsecond
    hdifferent annAtFive .superuser (bothHeld.before 4)
  exact ⟨hrenamed, hremoved, htables, by decide +kernel⟩

end CaseDesk
