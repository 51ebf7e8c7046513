/-
  Requests for conditions of agreements.

  What it takes to make a condition of an agreement, or to change one, and
  which priorities are stored then.

  * `SlaConditions.Available`: priorities exist and no other condition of the
    agreement holds them.
  * `SlaConditions.Acceptable`: what an input has to be like in the fields that
    it is asked for.  That is what the rules let through
    (`SlaConditions.rules_ok_iff`).
  * `SlaConditions.Stores`: the references that are stored for those asked for.
  * `Reachable.condition_requests`: requests are accepted exactly where they are
    acceptable, and store what they ask for.
-/
import CaseDesk.Proofs.Misplaced

namespace CaseDesk

/-! ## Checks under a mask -/

/-- A check under a mask fails only over a field that is selected. -/
theorem Require.exists_masked_iff {α : Type} {mask : FieldMask} {field : String}
    {check : Except ServiceError α} (old : α) :
    (∃ value, masked mask field check old = .ok value) ↔
      (mask.selects field = true → ∃ value, check = .ok value) := by
  unfold masked
  split_ifs with hmask
  · simp [hmask]
  · simp [hmask]

namespace SlaConditions

/-! ## What is acceptable -/

/-- The priorities asked for exist, and no condition of the agreement, other than the condition
    `own` if there is one, holds any of them. -/
structure Available (s : Tables) (sla : Int) (own : Option Int) (asked : List Lookup) : Prop where
  known : ∀ p ∈ asked, s.priorities.contains p.id = true
  free : ∀ id row, s.slaConditions.row? id = some row → row.value.slaId = sla → own ≠ some id →
    ∀ p ∈ asked, ∀ held ∈ row.value.priorities, p.id ≠ held.id

/-- An input may be given for the fields that are chosen of a condition of an agreement: for the
    condition `own`, or for a new one. -/
structure Acceptable (s : Tables) (sla : Int) (own : Option Int) (chosen : String → Prop)
    (input : SlaConditionInput) : Prop where
  name : chosen "name" → Text.trim input.name ≠ ""
  reactionTime : chosen "reaction_time" → 0 ≤ input.reactionTime
  resolutionTime : chosen "resolution_time" → 0 ≤ input.resolutionTime
  priorities : chosen "priorities" → Available s sla own input.priorities

/-- The references that are held have the ids asked for, each once and in the order in which they
    first occur, and the names that the priorities have. -/
structure Stores (s : Tables) (asked held : List Lookup) : Prop where
  ids : held.map (·.id) = (asked.map (·.id)).eraseDups
  named : ∀ p ∈ held, ∃ row, s.priorities.row? p.id = some row ∧ row.value.name = p.name

variable {s : Tables} {sla id : Int} {own : Option Int} {mask : FieldMask}
  {input input' : SlaConditionInput}

/-- Priorities are available if there is nothing against them; `id` stands for the condition that
    is left out. -/
theorem available_iff (hk : s.Keyed)
    (hown : ∀ i row, s.slaConditions.row? i = some row → (own = some i ↔ i = id))
    {asked : List Lookup} :
    Available s sla own asked ↔ ∀ e, ¬ Refuses s sla id asked e := by
  constructor
  · intro h e he
    cases he with
    | unknown hp hnone =>
      obtain ⟨row, hrow⟩ := Table.contains_iff.1 (h.known _ hp)
      cases hnone.symm.trans hrow
    | @taken p held row hp hrow hother hheld hid =>
      obtain ⟨⟨i, hi⟩, hscope⟩ := Table.mem_scopeRows.1 hrow
      have hne : own ≠ some i := fun he =>
        hother ((hk.slaConditions i row hi).trans ((hown i row hi).1 he))
      exact h.free i row hi (inScope_iff.1 hscope) hne p hp held hheld hid
  · intro h
    refine ⟨fun p hp => ?_, fun i row hi hsla hne p hp held hheld hid => ?_⟩
    · rcases hrow : s.priorities.row? p.id with _ | row
      · exact absurd (.unknown hp hrow) (h _)
      · exact Table.contains_iff.2 ⟨row, hrow⟩
    · have hother : row.value.id ≠ id := fun he =>
        hne ((hown i row hi).2 ((hk.slaConditions i row hi).symm.trans he))
      have hrow := Table.mem_scopeRows.2 ⟨⟨i, hi⟩, inScope_iff.2 hsla⟩
      exact h _ (.taken hp hrow hother hheld hid)

/-- Priorities that are selected have to be available. -/
theorem prepare_ok_iff (hk : s.Keyed)
    (hown : ∀ i row, s.slaConditions.row? i = some row → (own = some i ↔ i = id)) :
    (∃ input', prepare s sla id mask input = .ok input') ↔
      (mask.selects "priorities" = true → Available s sla own input.priorities) := by
  by_cases hmask : mask.selects "priorities" = true
  · rw [available_iff hk hown]
    rcases prepare_or_refuses hk hmask input with ⟨input', hprepare, hnone⟩ | ⟨e, herror, hrefuses⟩
    · exact ⟨fun _ _ => hnone, fun _ => ⟨input', hprepare⟩⟩
    · constructor
      · rintro ⟨input', hprepare⟩
        cases herror.symm.trans hprepare
      · exact fun h => absurd hrefuses (h hmask e)
  · exact ⟨fun _ h => absurd h hmask, fun _ => ⟨input, if_neg hmask⟩⟩

/-- An input revises a condition if its fields that are selected are in order. -/
theorem revise_ok_iff {old : SlaCondition} :
    (∃ new, revise mask input old = .ok new) ↔
      (mask.selects "name" = true → Text.trim input.name ≠ "") ∧
      (mask.selects "reaction_time" = true → 0 ≤ input.reactionTime) ∧
      (mask.selects "resolution_time" = true → 0 ≤ input.resolutionTime) := by
  have htext : (∃ value, Require.text "name" input.name = .ok value) ↔
      Text.trim input.name ≠ "" := by
    simp only [Require.text_eq_ok, exists_eq_left']
  have hduration (field : String) (millis : Int) :
      (∃ value, Require.duration field millis = .ok value) ↔ 0 ≤ millis := by
    simp only [Require.duration_eq_ok, exists_eq_left]
  rw [← htext, ← hduration "reaction_time" input.reactionTime,
    ← hduration "resolution_time" input.resolutionTime,
    ← Require.exists_masked_iff old.name,
    ← Require.exists_masked_iff old.reactionTime,
    ← Require.exists_masked_iff old.resolutionTime]
  constructor
  · rintro ⟨new, h⟩
    obtain ⟨name, hname, h⟩ := bind_eq_ok.1 h
    obtain ⟨reactionTime, hreaction, h⟩ := bind_eq_ok.1 h
    obtain ⟨resolutionTime, hresolution, -⟩ := bind_eq_ok.1 h
    exact ⟨⟨name, hname⟩, ⟨reactionTime, hreaction⟩, resolutionTime, hresolution⟩
  · rintro ⟨⟨name, hname⟩, ⟨reactionTime, hreaction⟩, resolutionTime, hresolution⟩
    exact ⟨_, bind_eq_ok.2 ⟨name, hname, bind_eq_ok.2 ⟨reactionTime, hreaction,
      bind_eq_ok.2 ⟨resolutionTime, hresolution, rfl⟩⟩⟩⟩

/-- The rules let an input through exactly where it is acceptable. -/
theorem rules_ok_iff (hk : s.Keyed)
    (hown : ∀ i row, s.slaConditions.row? i = some row → (own = some i ↔ i = id))
    {chosen : String → Prop} (hchosen : ∀ field, mask.selects field = true ↔ chosen field)
    (old : SlaCondition) :
    (∃ input' new, prepare s sla id mask input = .ok input' ∧ revise mask input' old = .ok new) ↔
      Acceptable s sla own chosen input := by
  have hprepare : (∃ input', prepare s sla id mask input = .ok input') ↔
      (chosen "priorities" → Available s sla own input.priorities) := by
    rw [prepare_ok_iff hk hown, hchosen]
  -- preparing an input changes its priorities only, and the checks look at its other fields
  have hrevise {input' : SlaConditionInput} (h : prepare s sla id mask input = .ok input') :
      (∃ new, revise mask input' old = .ok new) ↔
        (chosen "name" → Text.trim input.name ≠ "") ∧
        (chosen "reaction_time" → 0 ≤ input.reactionTime) ∧
        (chosen "resolution_time" → 0 ≤ input.resolutionTime) := by
    rw [revise_ok_iff, prepare_fields h, hchosen, hchosen, hchosen]
  constructor
  · rintro ⟨input', new, hinput, hnew⟩
    obtain ⟨hname, hreaction, hresolution⟩ := (hrevise hinput).1 ⟨new, hnew⟩
    exact ⟨hname, hreaction, hresolution, hprepare.1 ⟨input', hinput⟩⟩
  · intro h
    obtain ⟨input', hinput⟩ := hprepare.2 h.priorities
    obtain ⟨new, hnew⟩ := (hrevise hinput).2 ⟨h.name, h.reactionTime, h.resolutionTime⟩
    exact ⟨input', new, hinput, hnew⟩

/-- What the rules make of the priorities that are selected is stored for them. -/
theorem stores_of_rules (hk : s.Keyed) (hmask : mask.selects "priorities" = true)
    (hprepare : prepare s sla id mask input = .ok input') {old new : SlaCondition}
    (hrevise : revise mask input' old = .ok new) : Stores s input.priorities new.priorities := by
  have hheld : new.priorities = input'.priorities := by
    rw [(revise_eq_ok hrevise).2, Require.replaced, if_pos hmask]
  rw [hheld]
  exact ⟨ids_prepared hk hprepare hmask,
    fun p hp => Table.view_eq_some.1 ((prepare_eq_ok hk hprepare hmask).named p hp)⟩

/-! ## Requests -/

variable {ctx : Context}

/-- The parent of a condition. -/
abbrev agreement : Parent Sla := ⟨"sla_id", .slas⟩

/-- A new condition takes an input, an agreement and what is acceptable there. -/
theorem create_ok_iff (hk : s.Keyed) {r : CreateRequest Int SlaConditionInput} :
    ((ServiceName.call .slaConditions (.create r)).run ctx s).1.isOk = true ↔
      ctx.Holds .create .slaConditions ∧ s.slas.contains r.place = true ∧
        ∃ input, r.input = some input ∧ Acceptable s r.place none (fun _ => True) input := by
  -- no condition stands under zero, so no condition is left out
  have hown : ∀ i row, s.slaConditions.row? i = some row → (none = some i ↔ i = 0) := by
    intro i row hrow
    have := (Table.bounds_of_row? hrow).1
    constructor
    · nofun
    · omega
  have hchosen (field : String) : FieldMask.full.selects field = true ↔ True :=
    iff_true_intro (Require.selects_full field)
  rw [ServiceName.create_ok_iff]
  constructor
  · rintro ⟨caller, draft, hcaller, hdraft⟩
    obtain ⟨input, hinput, hdraft⟩ := bind_eq_ok.1 hdraft
    obtain ⟨sla, hsla, hdraft⟩ := bind_eq_ok.1 hdraft
    obtain ⟨input', hprepare, hrevise⟩ := bind_eq_ok.1 hdraft
    cases Parent.eq_of_require hsla
    exact ⟨(ServiceName.holds_iff .create).2 ⟨caller, hcaller⟩, Parent.contains_of_require hsla,
      input, Require.input_eq_ok.1 hinput,
      (rules_ok_iff hk hown hchosen _).1 ⟨input', draft, hprepare, hrevise⟩⟩
  · rintro ⟨hholds, hsla, input, hinput, haccept⟩
    obtain ⟨caller, hcaller⟩ := (ServiceName.holds_iff .create).1 hholds
    obtain ⟨input', new, hprepare, hrevise⟩ :=
      (rules_ok_iff hk hown hchosen { slaId := r.place }).2 haccept
    exact ⟨caller, new, hcaller, bind_eq_ok.2 ⟨input, Require.input_eq_ok.2 hinput,
      bind_eq_ok.2 ⟨r.place, agreement.require_of_contains hsla,
        bind_eq_ok.2 ⟨input', hprepare, hrevise⟩⟩⟩⟩

/-- A new condition is one of its agreement and stores what it is asked for. -/
theorem row?_create (hk : s.Keyed) {r : CreateRequest Int SlaConditionInput}
    (hok : ((ServiceName.call .slaConditions (.create r)).run ctx s).1.isOk = true) :
    ∃ input row, r.input = some input ∧
      ((ServiceName.call .slaConditions (.create r)).run ctx s).2.slaConditions.row?
        s.slaConditions.nextId = some row ∧
      row.value.slaId = r.place ∧ Stores s input.priorities row.value.priorities := by
  obtain ⟨caller, draft, hcaller, hdraft⟩ := ServiceName.create_ok_iff.1 hok
  rw [ServiceName.run_create hcaller hdraft rfl]
  obtain ⟨input, hinput, hdraft⟩ := bind_eq_ok.1 hdraft
  obtain ⟨sla, hsla, hdraft⟩ := bind_eq_ok.1 hdraft
  obtain ⟨input', hprepare, hrevise⟩ := bind_eq_ok.1 hdraft
  have hstores : Stores s input.priorities draft.priorities :=
    stores_of_rules hk (Require.selects_full _) hprepare hrevise
  exact ⟨input, _, Require.input_eq_ok.1 hinput, Table.row?_insert_self _ _,
    (revise_eq_ok hrevise).1.trans (Parent.eq_of_require hsla), hstores⟩

/-- A changed condition is one of the agreement that the request names, and takes an input that is
    acceptable in the fields that the mask chooses. -/
theorem update_ok_iff (hs : s.Rooted) (hk : s.Keyed)
    {r : UpdateRequest ChildKey SlaConditionInput} :
    ((ServiceName.call .slaConditions (.update r)).run ctx s).1.isOk = true ↔
      ctx.Holds .update .slaConditions ∧
      (∃ row, s.slaConditions.row? r.key.id = some row ∧ row.value.slaId = r.key.parent) ∧
        ∃ input, r.input = some input ∧
          Acceptable s r.key.parent (some r.key.id) (FieldMask.Chooses r.mask) input := by
  have hown : ∀ i row, s.slaConditions.row? i = some row →
      (some r.key.id = some i ↔ i = r.key.id) := fun i _ _ =>
    ⟨fun h => (Option.some.inj h).symm, fun h => congrArg some h.symm⟩
  have hchosen (field : String) :
      (FieldMask.ofTexts r.mask).selects field = true ↔ FieldMask.Chooses r.mask field :=
    FieldMask.selects_ofTexts
  rw [ServiceName.update_ok_iff]
  constructor
  · rintro ⟨caller, k, change, old, new, hcaller, hrevision, hfind, hrevise⟩
    obtain ⟨input, hinput, hrevision⟩ := bind_eq_ok.1 hrevision
    obtain ⟨sla, hsla, hrevision⟩ := bind_eq_ok.1 hrevision
    obtain ⟨input', hprepare, hrevision⟩ := bind_eq_ok.1 hrevision
    cases hrevision
    cases Parent.eq_of_require hsla
    exact ⟨(ServiceName.holds_iff .update).2 ⟨caller, hcaller⟩,
      ⟨old, Table.row?_of_find hfind, inScope_iff.1 (Table.inScope_of_find hfind rfl)⟩,
      input, Require.input_eq_ok.1 hinput,
      (rules_ok_iff hk hown hchosen _).1 ⟨input', new, hprepare, hrevise⟩⟩
  · rintro ⟨hholds, ⟨row, hrow, hsla⟩, input, hinput, haccept⟩
    obtain ⟨caller, hcaller⟩ := (ServiceName.holds_iff .update).1 hholds
    obtain ⟨input', new, hprepare, hrevise⟩ :=
      (rules_ok_iff hk hown hchosen row.value).2 haccept
    have hscope : some r.key.parent = Record.scope row.value := congrArg some hsla.symm
    have hparent := agreement.require_of_row? hs.slaConditions hrow hscope
    exact ⟨caller, _, _, row, new, hcaller,
      bind_eq_ok.2 ⟨input, Require.input_eq_ok.2 hinput, bind_eq_ok.2 ⟨_, hparent,
        bind_eq_ok.2 ⟨input', hprepare, rfl⟩⟩⟩,
      Table.find_of_row? hrow fun _ h => hscope.symm.trans h, hrevise⟩

/-- A changed condition stores what it is asked for, if that is chosen. -/
theorem row?_update (hk : s.Keyed) {r : UpdateRequest ChildKey SlaConditionInput}
    (hok : ((ServiceName.call .slaConditions (.update r)).run ctx s).1.isOk = true) :
    ∃ input row, r.input = some input ∧
      ((ServiceName.call .slaConditions (.update r)).run ctx s).2.slaConditions.row? r.key.id =
        some row ∧
      (FieldMask.Chooses r.mask "priorities" →
        Stores s input.priorities row.value.priorities) := by
  obtain ⟨caller, k, change, old, new, hcaller, hrevision, hfind, hrevise⟩ :=
    ServiceName.update_ok_iff.1 hok
  have hself := Table.row?_put_self (Table.row?_of_find hfind)
    (some (Table.edited k old (Record.touchUpdated caller.user ctx.now new)))
  rw [← ServiceName.shelf_desk] at hfind
  rw [ServiceName.run_update hcaller hrevision hfind hrevise rfl]
  obtain ⟨input, hinput, hrevision⟩ := bind_eq_ok.1 hrevision
  obtain ⟨sla, -, hrevision⟩ := bind_eq_ok.1 hrevision
  obtain ⟨input', hprepare, hrevision⟩ := bind_eq_ok.1 hrevision
  cases hrevision
  have hstores (hchosen : FieldMask.Chooses r.mask "priorities") :
      Stores s input.priorities new.priorities :=
    stores_of_rules hk (FieldMask.selects_ofTexts.2 hchosen) hprepare hrevise
  exact ⟨input, _, Require.input_eq_ok.1 hinput, hself, hstores⟩

end SlaConditions

open SlaConditions

/-- **Requests for conditions of agreements are accepted exactly where they should be.**  A caller
    who may do so makes a condition of an agreement that exists, or changes one of the agreement
    that the key names, by an input whose fields, as far as the mask chooses them, are in order: the
    name is not blank, the times are not negative, and the priorities exist and are free within the
    agreement.  What the condition holds then are the priorities asked for, each once, in order and
    under its current name. -/
theorem Reachable.condition_requests {s : Tables} (h : Reachable s) (ctx : Context) :
    (∀ r : CreateRequest Int SlaConditionInput,
      (((ServiceName.call .slaConditions (.create r)).run ctx s).1.isOk = true ↔
        ctx.Holds .create .slaConditions ∧ s.slas.contains r.place = true ∧
          ∃ input, r.input = some input ∧ Acceptable s r.place none (fun _ => True) input) ∧
      (((ServiceName.call .slaConditions (.create r)).run ctx s).1.isOk = true →
        ∃ input row, r.input = some input ∧
          ((ServiceName.call .slaConditions (.create r)).run ctx s).2.slaConditions.row?
            s.slaConditions.nextId = some row ∧
          row.value.slaId = r.place ∧ Stores s input.priorities row.value.priorities)) ∧
    ∀ r : UpdateRequest ChildKey SlaConditionInput,
      (((ServiceName.call .slaConditions (.update r)).run ctx s).1.isOk = true ↔
        ctx.Holds .update .slaConditions ∧
        (∃ row, s.slaConditions.row? r.key.id = some row ∧ row.value.slaId = r.key.parent) ∧
          ∃ input, r.input = some input ∧
            Acceptable s r.key.parent (some r.key.id) (FieldMask.Chooses r.mask) input) ∧
      (((ServiceName.call .slaConditions (.update r)).run ctx s).1.isOk = true →
        ∃ input row, r.input = some input ∧
          ((ServiceName.call .slaConditions (.update r)).run ctx s).2.slaConditions.row? r.key.id =
            some row ∧
          (FieldMask.Chooses r.mask "priorities" →
            Stores s input.priorities row.value.priorities)) :=
  ⟨fun _ => ⟨create_ok_iff h.keyed, row?_create h.keyed⟩,
    fun _ => ⟨update_ok_iff h.rooted h.keyed, row?_update h.keyed⟩⟩

/-- An agreement with a condition that holds the first of two priorities. -/
def claimedPriority : Run :=
  [.bySuperuser (.slas (.create ⟨(), some ⟨"gold", "", 0, 0, none, 0, 0⟩⟩)),
    .bySuperuser (.priorities (.create ⟨(), some ⟨"high", "", ""⟩⟩)),
    .bySuperuser (.priorities (.create ⟨(), some ⟨"low", "", ""⟩⟩)),
    .bySuperuser (.slaConditions (.create ⟨1, some ⟨"day", [⟨1, ""⟩], 0, 0⟩⟩))]

/-- The condition may ask for its own priority and for another one, the other twice.  A new
    condition may not ask for the priority that is held. -/
theorem claimedPriority_requests :
    Reachable (claimedPriority.before 4) ∧
    (∃ row, ((ServiceName.call .slaConditions
        (.update ⟨⟨1, 1⟩, some ⟨"", [⟨2, ""⟩, ⟨1, ""⟩, ⟨2, ""⟩], 0, 0⟩, ["priorities"]⟩)).run
          .superuser (claimedPriority.before 4)).2.slaConditions.row? 1 = some row ∧
      row.value.priorities.map (·.id) = [2, 1]) ∧
    ¬ Acceptable (claimedPriority.before 4) 1 none (fun _ => True)
      ⟨"night", [⟨2, ""⟩, ⟨1, ""⟩], 0, 0⟩ := by
  have hreachable := claimedPriority.reachable_before 4
  obtain ⟨hcreate, hupdate⟩ := Reachable.condition_requests hreachable .superuser
  refine ⟨hreachable, ?_, fun haccept => ?_⟩
  · obtain ⟨-, hstores⟩ := hupdate
      ⟨⟨1, 1⟩, some ⟨"", [⟨2, ""⟩, ⟨1, ""⟩, ⟨2, ""⟩], 0, 0⟩, ["priorities"]⟩
    obtain ⟨input, row, hinput, hrow, hstored⟩ := hstores (by decide +kernel)
    cases hinput
    have hchosen : FieldMask.Chooses ["priorities"] "priorities" :=
      FieldMask.selects_ofTexts.1 (by decide +kernel)
    exact ⟨row, hrow, (hstored hchosen).ids.trans (by decide)⟩
  · have hrefused : ((ServiceName.call .slaConditions
        (.create ⟨1, some ⟨"night", [⟨2, ""⟩, ⟨1, ""⟩], 0, 0⟩⟩)).run .superuser
          (claimedPriority.before 4)).1.isOk = false := by decide +kernel
    have hok := (hcreate ⟨1, some ⟨"night", [⟨2, ""⟩, ⟨1, ""⟩], 0, 0⟩⟩).1.2
      ⟨Context.superuser_holds .., by decide +kernel, _, rfl, haccept⟩
    cases hrefused.symm.trans hok

end CaseDesk
