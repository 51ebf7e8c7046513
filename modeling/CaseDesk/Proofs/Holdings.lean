/-
  The priorities that conditions of agreements hold.

  What matters is the agreement of each condition with the priorities that it
  holds, and the name of each priority.  They are valid together
  (`Holdings.Valid`) if each condition holds each priority once and under its
  name, and no two conditions of an agreement hold the same.  The priorities
  that an update or a creation lets through are those that may be held
  (`Holdings.Admits`).

  * `SlaConditions.valid_step`, `Priorities.valid_step`: the desks of
    conditions and of priorities keep them valid.
  * `Reachable.held_priorities`: they are valid in all reachable tables.
-/
import CaseDesk.Proofs.Runs

namespace CaseDesk

namespace SlaConditions

/-! ## Holdings -/

/-- The agreement of the condition with each id, and the priorities that the condition holds. -/
abbrev Holdings : Type := Int → Option (Int × List Lookup)

/-- The name of the priority with each id. -/
abbrev Names : Type := Int → Option String

namespace Holdings

variable {f g : Holdings} {names names' : Names}

/-- Each condition holds each priority once and under its name, and no two conditions of an
    agreement hold the same one. -/
structure Valid (f : Holdings) (names : Names) : Prop where
  nodup : ∀ {id sla held}, f id = some (sla, held) → (held.map (·.id)).Nodup
  apart : ∀ {i j sla held held'}, f i = some (sla, held) → f j = some (sla, held') →
    ∀ {p q}, p ∈ held → q ∈ held' → p.id = q.id → i = j
  named : ∀ {id sla held}, f id = some (sla, held) → ∀ p ∈ held, names p.id = some p.name

/-- The condition `own` of an agreement may hold these priorities beside what the others hold. -/
structure Admits (f : Holdings) (names : Names) (sla own : Int) (held : List Lookup) : Prop where
  nodup : (held.map (·.id)).Nodup
  free : ∀ {i held'}, f i = some (sla, held') → i ≠ own → ∀ {p q}, p ∈ held → q ∈ held' →
    p.id ≠ q.id
  named : ∀ p ∈ held, names p.id = some p.name

/-- A condition may hold what it holds. -/
theorem Valid.admits (h : f.Valid names) {own sla : Int} {held : List Lookup}
    (hown : f own = some (sla, held)) : f.Admits names sla own held where
  nodup := h.nodup hown
  free hi hne _ _ hp hq he := hne (h.apart hown hi hp hq he).symm
  named := h.named hown

/-- What may be held under an id that is not in use may be held under every id. -/
theorem Admits.elsewhere {sla own : Int} {held : List Lookup} (h : f.Admits names sla own held)
    (hown : f own = none) (own' : Int) : f.Admits names sla own' held where
  nodup := h.nodup
  free {i _} hi _ := by
    refine h.free hi ?_
    rintro rfl
    cases hown.symm.trans hi
  named := h.named

/-- A condition comes to hold what it may hold. -/
theorem Valid.place (h : f.Valid names) {sla own : Int} {held : List Lookup}
    (hheld : f.Admits names sla own held)
    (hg : ∀ id, g id = if id = own then some (sla, held) else f id) : g.Valid names := by
  have hcases : ∀ {id p}, g id = some p →
      id = own ∧ p = (sla, held) ∨ id ≠ own ∧ f id = some p := by
    intro id p hid
    rw [hg] at hid
    split_ifs at hid with he
    · exact Or.inl ⟨he, (Option.some.inj hid).symm⟩
    · exact Or.inr ⟨he, hid⟩
  constructor
  · intro id st ps hid
    rcases hcases hid with ⟨-, he⟩ | ⟨-, hf⟩
    · cases he
      exact hheld.nodup
    · exact h.nodup hf
  · intro i j st ps qs hi hj p q hp hq he
    -- of two conditions at most one is the new one, and that is admitted beside the other
    rcases hcases hi with ⟨rfl, hpi⟩ | ⟨hni, hfi⟩ <;>
      rcases hcases hj with ⟨rfl, hpj⟩ | ⟨hnj, hfj⟩
    · rfl
    · cases hpi
      exact absurd he (hheld.free hfj hnj hp hq)
    · cases hpj
      exact absurd he.symm (hheld.free hfi hni hq hp)
    · exact h.apart hfi hfj hp hq he
  · intro id st ps hid
    rcases hcases hid with ⟨-, he⟩ | ⟨-, hf⟩
    · cases he
      exact hheld.named
    · exact h.named hf

/-- Some conditions leave. -/
theorem Valid.leave (h : f.Valid names) (hg : ∀ {id p}, g id = some p → f id = some p) :
    g.Valid names where
  nodup hid := h.nodup (hg hid)
  apart hi hj := h.apart (hg hi) (hg hj)
  named hid := h.named (hg hid)

/-- All conditions keep to a part of what they hold, and the names follow. -/
theorem Valid.edit (h : f.Valid names) {change : List Lookup → List Lookup}
    (hg : ∀ id, g id = (f id).map fun p => (p.1, change p.2))
    (hids : ∀ held, ((change held).map (·.id)).Sublist (held.map (·.id)))
    (hnames : ∀ held, (∀ p ∈ held, names p.id = some p.name) →
      ∀ p ∈ change held, names' p.id = some p.name) : g.Valid names' := by
  have hback : ∀ {id sla held}, g id = some (sla, held) →
      ∃ old, f id = some (sla, old) ∧ held = change old := by
    intro id sla held hid
    rw [hg, Option.map_eq_some_iff] at hid
    obtain ⟨⟨sla', old⟩, hf, he⟩ := hid
    cases he
    exact ⟨old, hf, rfl⟩
  have hmem : ∀ {held p}, p ∈ change held → ∃ q ∈ held, q.id = p.id := by
    intro held p hp
    exact List.mem_map.1 ((hids held).subset (List.mem_map_of_mem hp))
  constructor
  · intro id sla held hid
    obtain ⟨old, hf, rfl⟩ := hback hid
    exact (h.nodup hf).sublist (hids old)
  · intro i j sla held held' hi hj p q hp hq he
    obtain ⟨old, hfi, rfl⟩ := hback hi
    obtain ⟨old', hfj, rfl⟩ := hback hj
    obtain ⟨p', hp', hpid⟩ := hmem hp
    obtain ⟨q', hq', hqid⟩ := hmem hq
    exact h.apart hfi hfj hp' hq' (hpid.trans (he.trans hqid.symm))
  · intro id sla held hid
    obtain ⟨old, hf, rfl⟩ := hback hid
    exact hnames old (h.named hf)

/-- Priorities come, or keep their names. -/
theorem Valid.mono (h : f.Valid names)
    (hnames : ∀ {id name}, names id = some name → names' id = some name) : f.Valid names' where
  nodup := h.nodup
  apart := h.apart
  named hid p hp := hnames (h.named hid p hp)

end Holdings

/-! ## Holdings of tables -/

/-- The holdings of the conditions in a table. -/
def holdings (t : Table SlaCondition) : Holdings := t.view fun c => (c.slaId, c.priorities)

/-- The names of the priorities in a table. -/
def names (t : Table Priority) : Names := t.view (·.name)

theorem holdings_eq_some {t : Table SlaCondition} {id sla : Int} {held : List Lookup} :
    holdings t id = some (sla, held) ↔
      ∃ row, t.row? id = some row ∧ row.value.slaId = sla ∧ row.value.priorities = held := by
  simp only [holdings, Table.view_eq_some, Prod.mk.injEq]

theorem inScope_iff {sla : Int} {condition : SlaCondition} :
    Table.inScope sla condition = true ↔ condition.slaId = sla :=
  Table.inScope_iff.trans Option.some_inj

theorem holdings_modifyAll (t : Table SlaCondition) {change : SlaCondition → Bool × SlaCondition}
    {edit : List Lookup → List Lookup} (hsla : ∀ c, (change c).2.slaId = c.slaId)
    (hheld : ∀ c, (change c).2.priorities = edit c.priorities) (id : Int) :
    holdings (t.modifyAll change).2 id = (holdings t id).map fun p => (p.1, edit p.2) := by
  rw [holdings, holdings, Table.view, Table.view, Table.modifyAll, Table.row?_modifyWhere]
  rcases t.row? id with _ | row
  · rfl
  · simp [Table.changeRow, hsla, hheld]

theorem valid_removeScope {t : Table SlaCondition} {names : Names} (h : (holdings t).Valid names)
    (sla : Int) : (holdings (t.removeScope sla).2).Valid names := by
  refine h.leave fun {id p} hid => ?_
  obtain ⟨row, hrow, hp⟩ := Table.view_eq_some.1 hid
  rw [Table.row?_removeScope, Option.filter_eq_some_iff] at hrow
  exact Table.view_eq_some.2 ⟨row, hrow.1, hp⟩

theorem valid_remove {t : Table SlaCondition} {names : Names} (h : (holdings t).Valid names)
    {key : Int} {old : Row SlaCondition} (hold : t.row? key = some old) :
    (holdings (t.put key none)).Valid names := by
  refine h.leave fun {id p} hid => ?_
  rw [holdings, Table.view_put hold] at hid
  split_ifs at hid
  · cases hid
  · exact hid

/-! ## Rules of the desk -/

theorem not_mem_of_mem_distinctIds {r : Lookup} {rs : List Lookup} :
    ∀ {seen}, r ∈ distinctIds seen rs → r.id ∉ seen := by
  induction rs with
  | nil => intro seen h; cases h
  | cons s rest ih =>
    intro seen h
    rw [distinctIds] at h
    split_ifs at h with hseen
    · exact ih h
    · rcases List.mem_cons.1 h with rfl | h
      · simpa using hseen
      · exact fun hr => ih h (List.mem_cons_of_mem _ hr)

theorem nodup_distinctIds (seen : List Int) (rs : List Lookup) :
    ((distinctIds seen rs).map (·.id)).Nodup := by
  induction rs generalizing seen with
  | nil => exact List.nodup_nil
  | cons r rest ih =>
    rw [distinctIds]
    split_ifs
    · exact ih seen
    · refine List.nodup_cons.2 ⟨fun hr => ?_, ih _⟩
      obtain ⟨r', hr', he⟩ := List.mem_map.1 hr
      exact not_mem_of_mem_distinctIds hr' (he ▸ List.mem_cons_self)

theorem resolve_eq_ok {t : Table Priority} (hk : t.Keyed) {id : Int} {p : Lookup}
    (h : resolve t id = .ok p) : p.id = id ∧ names t p.id = some p.name := by
  unfold resolve at h
  split at h
  case h_1 row hrow =>
    cases h
    have hid : row.value.id = id := hk id row hrow
    exact ⟨hid, by rw [hid]; exact Table.view_of_row? hrow⟩
  case h_2 => cases h

/-- References that are resolved keep their ids and get their current names. -/
theorem mapM_resolve {t : Table Priority} (hk : t.Keyed) {rs ps : List Lookup}
    (h : rs.mapM (resolve t ·.id) = .ok ps) :
    ps.map (·.id) = rs.map (·.id) ∧ ∀ p ∈ ps, names t p.id = some p.name := by
  induction rs generalizing ps with
  | nil =>
    cases h
    exact ⟨rfl, fun _ hp => by cases hp⟩
  | cons r rest ih =>
    rw [List.mapM_cons] at h
    obtain ⟨p, hp, h⟩ := bind_eq_ok.1 h
    obtain ⟨ps', hps, h⟩ := bind_eq_ok.1 h
    cases h
    obtain ⟨hid, hname⟩ := resolve_eq_ok hk hp
    obtain ⟨hids, hnames⟩ := ih hps
    refine ⟨by simp [hid, hids], fun q hq => ?_⟩
    rcases List.mem_cons.1 hq with rfl | hq
    · exact hname
    · exact hnames q hq

/-- Without a conflict the other conditions hold nothing that is asked for. -/
theorem conflict?_eq_none {own : Int} {asked : List Lookup} {rows : List (Row SlaCondition)}
    (h : conflict? own asked rows = none) {row : Row SlaCondition} (hrow : row ∈ rows)
    (hne : row.value.id ≠ own) {p q : Lookup} (hp : p ∈ asked) (hq : q ∈ row.value.priorities) :
    p.id ≠ q.id := by
  induction rows with
  | nil => cases hrow
  | cons first rest ih =>
    rw [conflict?] at h
    split_ifs at h with hown
    · rcases List.mem_cons.1 hrow with rfl | hrow
      · exact absurd hown hne
      · exact ih h hrow
    · split at h
      · cases h
      case h_2 hfree =>
        rcases List.mem_cons.1 hrow with rfl | hrow
        · have hnone := List.find?_eq_none.1 hfree q hq
          simp only [List.any_eq_true, beq_iff_eq, not_exists, not_and] at hnone
          exact hnone p hp
        · exact ih h hrow

/-- A prepared input asks for priorities that the condition may hold. -/
theorem prepare_eq_ok {s : Tables} (hk : s.Keyed) {sla own : Int} {mask : FieldMask}
    {input input' : SlaConditionInput} (h : prepare s sla own mask input = .ok input')
    (hmask : mask.selects "priorities" = true) :
    (holdings s.slaConditions).Admits (names s.priorities) sla own input'.priorities := by
  rw [prepare, if_pos hmask] at h
  obtain ⟨held, hheld, h⟩ := bind_eq_ok.1 h
  obtain ⟨hids, hnames⟩ := mapM_resolve hk.priorities hheld
  split at h
  case h_1 => cases h
  case h_2 hfree =>
    cases h
    refine ⟨hids ▸ nodup_distinctIds [] _, fun {i _} hi hne {p q} hp hq => ?_, hnames⟩
    obtain ⟨row, hrow, hsla, rfl⟩ := holdings_eq_some.1 hi
    have hid : row.value.id = i := hk.slaConditions i row hrow
    have hmem := Table.mem_scopeRows.2 ⟨⟨i, hrow⟩, inScope_iff.2 hsla⟩
    exact conflict?_eq_none hfree hmem (by rw [hid]; exact hne) hp hq

theorem revise_eq_ok {mask : FieldMask} {input : SlaConditionInput} {old new : SlaCondition}
    (h : revise mask input old = .ok new) : new.slaId = old.slaId ∧
      new.priorities = Require.replaced mask "priorities" input.priorities old.priorities := by
  obtain ⟨_, -, h⟩ := bind_eq_ok.1 h
  obtain ⟨_, -, h⟩ := bind_eq_ok.1 h
  obtain ⟨_, -, h⟩ := bind_eq_ok.1 h
  cases h
  exact ⟨rfl, rfl⟩

/-- A new condition holds what it may hold. -/
theorem draft_eq_ok {s : Tables} (hk : s.Keyed) {caller : Caller} {sla : Int}
    {input : Option SlaConditionInput} {new : SlaCondition}
    (h : desk.draft s caller sla input = .ok new) (own : Int) :
    (holdings s.slaConditions).Admits (names s.priorities) new.slaId own new.priorities := by
  obtain ⟨input, -, h⟩ := bind_eq_ok.1 h
  obtain ⟨sla, -, h⟩ := bind_eq_ok.1 h
  obtain ⟨input', hprepare, h⟩ := bind_eq_ok.1 h
  obtain ⟨hsla, hheld⟩ := revise_eq_ok h
  have hunused : holdings s.slaConditions 0 = none := by
    rcases hrow : holdings s.slaConditions 0 with _ | p
    · rfl
    · obtain ⟨row, hrow, -⟩ := Table.view_eq_some.1 hrow
      have := (Table.bounds_of_row? hrow).1
      omega
  rw [hsla, hheld]
  exact (prepare_eq_ok hk hprepare rfl).elsewhere hunused own

/-- A revised condition holds what it may hold: what it is prepared for, or what it held. -/
theorem revision_eq_ok {s : Tables} (hk : s.Keyed)
    (hvalid : (holdings s.slaConditions).Valid (names s.priorities)) {key : ChildKey}
    {input : Option SlaConditionInput} {mask : FieldMask} {row : RowKey}
    {change : Caller → SlaCondition → Except ServiceError SlaCondition}
    (h : desk.revision s key input mask = .ok (row, change)) {old : Row SlaCondition}
    (hfind : s.slaConditions.find row = .ok old) {caller : Caller} {new : SlaCondition}
    (hnew : change caller old.value = .ok new) :
    (holdings s.slaConditions).Admits (names s.priorities) new.slaId row.id new.priorities := by
  obtain ⟨input, -, h⟩ := bind_eq_ok.1 h
  obtain ⟨sla, -, h⟩ := bind_eq_ok.1 h
  obtain ⟨input', hprepare, h⟩ := bind_eq_ok.1 h
  cases h
  obtain ⟨hsla, hheld⟩ := revise_eq_ok hnew
  have hscope : old.value.slaId = sla := inScope_iff.1 (Table.inScope_of_find hfind rfl)
  rw [hsla, hheld, hscope, Require.replaced]
  split_ifs with hmask
  · exact prepare_eq_ok hk hprepare hmask
  · exact hvalid.admits (holdings_eq_some.2 ⟨old, Table.row?_of_find hfind, hscope, rfl⟩)

/-! ## Steps -/

theorem valid_step {ctx : Context} {s s' : Tables} {r : Request Int Unit ChildKey SlaConditionInput}
    {out : Except ServiceError (Reply SlaCondition)} (hstep : desk.Step ctx s r out s')
    (hk : s.Keyed) (h : (holdings s.slaConditions).Valid (names s.priorities)) :
    (holdings s'.slaConditions).Valid (names s'.priorities) := by
  cases hstep with
  | refused | listed | located => exact h
  | created _ hdraft new hnew =>
    subst hnew
    exact h.place (draft_eq_ok hk hdraft _) (Table.view_insert s.slaConditions _)
  | updated _ hrevision hfind hrevise row hrow =>
    subst hrow
    exact h.place (revision_eq_ok hk h hrevision hfind hrevise)
      (Table.view_put (Table.row?_of_find hfind) _)
  | deleted _ _ hfind _ => exact valid_remove h (Table.row?_of_find hfind)

end SlaConditions

namespace Priorities

open SlaConditions

/-- Renaming a priority renames the references to it. -/
theorem valid_rename {t : Table SlaCondition} {t' : Table Priority} {old : Names}
    (h : (holdings t).Valid old) {id : Int} {name : String}
    (hnames : ∀ i, names t' i = if i = id then some name else old i) :
    (holdings (t.modifyAll (rename id name)).2).Valid (names t') := by
  refine h.edit (holdings_modifyAll t (fun _ => rfl) fun _ => rfl) (fun held => ?_)
    fun held hheld p hp => ?_
  · have hids : (held.map fun p => if p.id = id then { p with name } else p).map (·.id) =
        held.map (·.id) := by
      rw [List.map_map]
      refine List.map_congr_left fun p _ => ?_
      dsimp only [Function.comp]
      split_ifs <;> rfl
    exact hids ▸ .refl _
  · obtain ⟨q, hq, rfl⟩ := List.mem_map.1 hp
    by_cases hid : q.id = id
    · rw [if_pos hid, hnames, if_pos hid]
    · rw [if_neg hid, hnames, if_neg hid]
      exact hheld q hq

/-- Removing a priority removes the references to it. -/
theorem valid_detach {t : Table SlaCondition} {t' : Table Priority} {old : Names}
    (h : (holdings t).Valid old) {id : Int}
    (hnames : ∀ i, names t' i = if i = id then none else old i) :
    (holdings (t.modifyAll (detach id)).2).Valid (names t') := by
  refine h.edit (holdings_modifyAll t (fun _ => rfl) fun _ => rfl)
    (fun held => List.filter_sublist.map _) fun held hheld p hp => ?_
  obtain ⟨hp, hne⟩ := List.mem_filter.1 hp
  rw [hnames, if_neg (by simpa using hne)]
  exact hheld p hp

theorem valid_step {ctx : Context} {s s' : Tables} {r : Request Unit Unit Int PriorityInput}
    {out : Except ServiceError (Reply Priority)} (hstep : desk.Step ctx s r out s')
    (h : (holdings s.slaConditions).Valid (names s.priorities)) :
    (holdings s'.slaConditions).Valid (names s'.priorities) := by
  cases hstep with
  | refused | listed | located => exact h
  | created _ _ new =>
    refine h.mono fun {id name} hname => ?_
    refine (Table.view_insert s.priorities new id).trans ?_
    rw [if_neg, ← hname]
    · rfl
    · rintro rfl
      cases (Table.view_next s.priorities).symm.trans hname
  | updated _ _ hfind _ row hrow =>
    subst hrow
    exact valid_rename h (Table.view_put (Table.row?_of_find hfind) _)
  | deleted _ _ hfind _ => exact valid_detach h (Table.view_put (Table.row?_of_find hfind) none)

end Priorities

/-- The other desks touch neither conditions of agreements nor priorities, except that removing an
    agreement removes its conditions. -/
theorem Call.Step.validHoldings {call : Call} {ctx : Context} {s s' : Tables}
    {out : Except ServiceError Answer} (hstep : call.Step ctx s out s') (hk : s.Keyed)
    (h : (SlaConditions.holdings s.slaConditions).Valid (SlaConditions.names s.priorities)) :
    (SlaConditions.holdings s'.slaConditions).Valid (SlaConditions.names s'.priorities) := by
  have hleft : (s'.slaConditions, s'.priorities) = (s.slaConditions, s.priorities) →
      (SlaConditions.holdings s'.slaConditions).Valid (SlaConditions.names s'.priorities) := by
    intro he
    obtain ⟨hconditions, hpriorities⟩ := Prod.mk.inj he
    rw [hconditions, hpriorities]
    exact h
  cases hstep with
  | closeReasons hstep | reasons hstep | sources hstep | statuses hstep | caseComments hstep
  | caseLinks hstep =>
    exact hleft (hstep.part_eq ({} : Desk.Leaves _ fun s => (s.slaConditions, s.priorities)))
  | statusConditions hstep =>
    have hleaves : StatusConditions.desk.Leaves fun s => (s.slaConditions, s.priorities) :=
      StatusConditions.leaves
    exact hleft (hstep.part_eq hleaves)
  | slas hstep =>
    cases hstep with
    | refused | listed | located | created | updated => exact h
    | deleted => exact SlaConditions.valid_removeScope h _
  | slaConditions hstep => exact SlaConditions.valid_step hstep hk h
  | priorities hstep => exact Priorities.valid_step hstep h

theorem Reachable.validHoldings {s : Tables} (h : Reachable s) :
    (SlaConditions.holdings s.slaConditions).Valid (SlaConditions.names s.priorities) := by
  induction h with
  | start =>
    have hnone : ∀ {id p}, SlaConditions.holdings {} id ≠ some p := by
      intro id p hid
      cases (Table.view_empty id).symm.trans hid
    exact ⟨fun hid => absurd hid hnone, fun hi => absurd hi hnone, fun hid => absurd hid hnone⟩
  | @call s hs ctx call ih => exact (call.step_run ctx s).validHoldings hs.keyed ih

/-- **Each condition of an agreement holds priorities that exist, each once and under its current
    name, and none that another condition of the agreement holds.** -/
theorem Reachable.held_priorities {s : Tables} (h : Reachable s) {i : Int} {c : Row SlaCondition}
    (hc : s.slaConditions.row? i = some c) :
    (c.value.priorities.map (·.id)).Nodup ∧
      (∀ p ∈ c.value.priorities, ∃ priority, s.priorities.row? p.id = some priority ∧
        priority.value.name = p.name) ∧
      ∀ j c', s.slaConditions.row? j = some c' → j ≠ i → c'.value.slaId = c.value.slaId →
        ∀ p ∈ c.value.priorities, ∀ q ∈ c'.value.priorities, p.id ≠ q.id := by
  have hvalid := h.validHoldings
  have hi := SlaConditions.holdings_eq_some.2 ⟨c, hc, rfl, rfl⟩
  refine ⟨hvalid.nodup hi, fun p hp => Table.view_eq_some.1 (hvalid.named hi p hp), ?_⟩
  intro j c' hc' hne hsla p hp q hq he
  have hj := SlaConditions.holdings_eq_some.2 ⟨c', hc', hsla, rfl⟩
  exact hne (hvalid.apart hi hj hp hq he).symm

/-- Of two conditions of an agreement the first holds a priority that was renamed since. -/
def renamedPriority : Run :=
  [.bySuperuser (.slas (.create ⟨(), some ⟨"gold", "", 0, 0, none, 1, 1⟩⟩)),
    .bySuperuser (.priorities (.create ⟨(), some ⟨"high", "", ""⟩⟩)),
    .bySuperuser (.slaConditions (.create ⟨1, some ⟨"day", [⟨1, ""⟩], 1, 1⟩⟩)),
    .bySuperuser (.slaConditions (.create ⟨1, some ⟨"night", [], 1, 1⟩⟩)),
    .bySuperuser (.priorities (.update ⟨1, some ⟨"top", "", ""⟩, []⟩))]

theorem renamedPriority_held :
    ∃ c, (renamedPriority.before 5).slaConditions.row? 1 = some c ∧
      c.value.priorities = [⟨1, "top"⟩] ∧
      ∀ p ∈ c.value.priorities, ∃ priority,
        (renamedPriority.before 5).priorities.row? p.id = some priority ∧
          priority.value.name = p.name := by
  have hfirst : ((renamedPriority.before 5).slaConditions.row? 1).map (·.value.priorities) =
      some [⟨1, "top"⟩] := by decide +kernel
  obtain ⟨c, hc, hheld⟩ := Option.map_eq_some_iff.1 hfirst
  exact ⟨c, hc, hheld, (Reachable.held_priorities (renamedPriority.reachable_before 5) hc).2.1⟩

end CaseDesk
