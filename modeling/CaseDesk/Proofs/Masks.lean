/-
  What an update does to a record.

  An update sets the fields that its mask chooses, of those that may be set, to
  what its input gives for them, and stamps the record.  All other fields stay
  as they are.

  * `FieldMask.Chooses`: the texts of a mask choose a field.
  * `ServiceName.given`: what an input gives for the fields of a record.
  * `ServiceName.merge`: the record with what is given for the fields that a
    mask selects.  That is what the rules of every service make of it
    (`ServiceName.revision_eq_merge`).
  * `ServiceName.Stamped`, `ServiceName.Updated`: a row that was changed and
    stamped, and one that was updated, field by field.
  * `Reachable.updated`: an update that succeeds leaves such a row.
-/
import CaseDesk.Proofs.Tidy

namespace CaseDesk

/-! ## Masks -/

namespace FieldMask

/-- The texts of a mask name a path: it is a piece between commas, without the blanks around it and
    in small letters. -/
def Names (texts : List String) (path : String) : Prop :=
  path ≠ "" ∧ ∃ text ∈ texts, ∃ piece ∈ Text.pieces ',' text.toList,
    Text.lowercase (Text.trim (String.ofList piece)) = path

/-- The texts of a mask choose a field: they name no path at all, or they name the field or a path
    below it. -/
def Chooses (texts : List String) (field : String) : Prop :=
  (∀ path, ¬ Names texts path) ∨
    ∃ path, Names texts path ∧ (path = field ∨ (field ++ ".").toList <+: path.toList)

theorem mem_ofTexts {texts : List String} {path : String} :
    path ∈ (ofTexts texts).paths ↔ Names texts path := by
  have hpiece (piece : List Char) :
      Text.lowercase (Text.trim (String.ofList piece)) =
        String.ofList (Text.lowerAfter [] (Text.trimChars piece)) := by
    simp only [Text.lowercase, Text.trim, String.toList_ofList]
  simp only [ofTexts, fieldNames, namesIn, Names, hpiece, List.mem_flatMap, List.mem_filter,
    List.mem_map, exists_exists_and_eq_and, bne_iff_ne]
  constructor
  · rintro ⟨text, htext, hpath, hsome⟩
    exact ⟨hsome, text, htext, hpath⟩
  · rintro ⟨hsome, text, htext, hpath⟩
    exact ⟨text, htext, hpath, hsome⟩

theorem pathBelow_iff {field path : String} :
    pathBelow field.toList path.toList = true ↔
      path = field ∨ (field ++ ".").toList <+: path.toList := by
  simp [pathBelow, String.toList_inj]

/-- A mask selects the fields that its texts choose. -/
theorem selects_ofTexts {texts : List String} {field : String} :
    (ofTexts texts).selects field = true ↔ Chooses texts field := by
  simp only [selects, isFull, Bool.or_eq_true, List.isEmpty_iff, List.any_eq_true, pathBelow_iff,
    mem_ofTexts, Chooses, List.eq_nil_iff_forall_not_mem]

end FieldMask

/-! ## What is given -/

namespace ServiceName

/-- The message for what a request may set of a record. -/
def inputSchema : (service : ServiceName) → Schema service.Input
  | slas => SlaInput.schema
  | slaConditions => SlaConditionInput.schema
  | closeReasons => CloseReasonInput.schema
  | reasons => ReasonInput.schema
  | sources => SourceInput.schema
  | statuses => CaseStatusInput.schema
  | statusConditions => StatusConditionInput.schema
  | priorities => PriorityInput.schema
  | caseComments => CaseCommentInput.schema
  | caseLinks => CaseLinkInput.schema

/-- The names of the fields that a request may set. -/
def editable (service : ServiceName) : List String := service.inputSchema.fields.map (·.name)

/-- What an input gives for the fields that may be set, in a record that is `new` otherwise: texts
    without the blanks around them, colours in capital letters, no calendar without an id, and
    priorities each once and under their current names.  A link that is given no name gets its URL
    as its name. -/
def given : (service : ServiceName) → Tables → service.Input → service.Kept → service.Kept
  | slas => fun _ i new => { new with
      name := Text.trim i.name, description := i.description
      validFrom := i.validFrom, validTo := i.validTo, calendar := i.calendar.filter (0 < ·.id)
      reactionTime := i.reactionTime, resolutionTime := i.resolutionTime }
  | slaConditions => fun s i new => { new with
      name := Text.trim i.name
      priorities := (i.priorities.map (·.id)).eraseDups.filterMap fun id =>
        (s.priorities.row? id).map fun row => ⟨id, row.value.name⟩
      reactionTime := i.reactionTime, resolutionTime := i.resolutionTime }
  | closeReasons => fun _ i new =>
      { new with name := Text.trim i.name, description := i.description }
  | reasons => fun _ i new => { new with name := Text.trim i.name, description := i.description }
  | sources => fun _ i new => { new with
      name := Text.trim i.name, description := i.description, sourceType := i.sourceType }
  | statuses => fun _ i new => { new with name := Text.trim i.name, description := i.description }
  | statusConditions => fun _ i new => { new with
      name := Text.trim i.name, description := i.description
      initial := i.initial, final := i.final }
  | priorities => fun _ i new => { new with
      name := Text.trim i.name, description := i.description
      color := String.ofList ((Text.trim i.color).toList.map Char.toUpper) }
  | caseComments => fun _ i new => { new with text := Text.trim i.text }
  | caseLinks => fun _ i new => { new with
      name := if Text.trim i.name = "" then new.url else Text.trim i.name
      url := Text.trim i.url }

open Require (replaced)

/-- The record with what is given for the fields that may be set and that a mask selects. -/
def merge : (service : ServiceName) → FieldMask → (given old : service.Kept) → service.Kept
  | slas => fun mask given old => { old with
      name := replaced mask "name" given.name old.name
      description := replaced mask "description" given.description old.description
      validFrom := replaced mask "valid_from" given.validFrom old.validFrom
      validTo := replaced mask "valid_to" given.validTo old.validTo
      calendar := replaced mask "calendar" given.calendar old.calendar
      reactionTime := replaced mask "reaction_time" given.reactionTime old.reactionTime
      resolutionTime := replaced mask "resolution_time" given.resolutionTime old.resolutionTime }
  | slaConditions => fun mask given old => { old with
      name := replaced mask "name" given.name old.name
      priorities := replaced mask "priorities" given.priorities old.priorities
      reactionTime := replaced mask "reaction_time" given.reactionTime old.reactionTime
      resolutionTime := replaced mask "resolution_time" given.resolutionTime old.resolutionTime }
  | closeReasons => fun mask given old => { old with
      name := replaced mask "name" given.name old.name
      description := replaced mask "description" given.description old.description }
  | reasons => fun mask given old => { old with
      name := replaced mask "name" given.name old.name
      description := replaced mask "description" given.description old.description }
  | sources => fun mask given old => { old with
      name := replaced mask "name" given.name old.name
      description := replaced mask "description" given.description old.description
      sourceType := replaced mask "type" given.sourceType old.sourceType }
  | statuses => fun mask given old => { old with
      name := replaced mask "name" given.name old.name
      description := replaced mask "description" given.description old.description }
  | statusConditions => fun mask given old => { old with
      name := replaced mask "name" given.name old.name
      description := replaced mask "description" given.description old.description
      initial := replaced mask "initial" given.initial old.initial
      final := replaced mask "final" given.final old.final }
  | priorities => fun mask given old => { old with
      name := replaced mask "name" given.name old.name
      description := replaced mask "description" given.description old.description
      color := replaced mask "color" given.color old.color }
  | caseComments => fun mask given old => { old with
      text := replaced mask "text" given.text old.text }
  | caseLinks => fun mask given old => { old with
      name := replaced mask "name" given.name old.name
      url := replaced mask "url" given.url old.url }

/-- A merged record, field by field. -/
theorem get_merge {service : ServiceName} {f : Field service.Kept}
    (hf : f ∈ (Record.schema (ρ := service.Kept)).fields) (mask : FieldMask)
    (given old : service.Kept) :
    f.lens.get (service.merge mask given old) =
      if (service.editable.contains f.name && mask.selects f.name) = true then f.lens.get given
      else f.lens.get old := by
  -- field by field: whether a field is editable is computed, and the mask decides on both sides
  cases service <;> repeat (rcases hf with _ | ⟨_, hf⟩; · rfl)
  all_goals cases hf

end ServiceName

/-! ## Revisions -/

namespace Require

variable {α : Type} {mask : FieldMask} {field : String}

/-- A field under a mask is replaced by what the check makes of the input. -/
theorem eq_replaced {check : Except ServiceError α} {checked old new : α}
    (h : masked mask field check old = .ok new)
    (hcheck : ∀ value, check = .ok value → value = checked) :
    new = replaced mask field checked old := by
  unfold masked at h
  unfold replaced
  split_ifs at h ⊢
  · exact hcheck new h
  · exact (Except.ok.inj h).symm

theorem text_replaced {raw old new : String}
    (h : masked mask field (text field raw) old = .ok new) :
    new = replaced mask field (Text.trim raw) old :=
  eq_replaced h fun _ htext => (text_eq_ok.1 htext).1.symm

theorem duration_replaced {millis old new : Int}
    (h : masked mask field (duration field millis) old = .ok new) :
    new = replaced mask field millis old :=
  eq_replaced h fun _ hduration => (duration_eq_ok.1 hduration).1

end Require

open Require (replaced text_replaced duration_replaced eq_replaced)

theorem Slas.revise_eq_merge {mask : FieldMask} {input : SlaInput} {old new : Sla}
    (h : revise mask input old = .ok new) (s : Tables) :
    new = ServiceName.slas.merge mask (ServiceName.slas.given s input new) old := by
  obtain ⟨name, hname, h⟩ := bind_eq_ok.1 h
  obtain ⟨reactionTime, hreaction, h⟩ := bind_eq_ok.1 h
  obtain ⟨resolutionTime, hresolution, h⟩ := bind_eq_ok.1 h
  dsimp only at h
  split_ifs at h
  · cases h
  · cases h
    rw [text_replaced hname, duration_replaced hreaction, duration_replaced hresolution]
    rfl

theorem CloseReasons.revise_eq_merge {mask : FieldMask} {input : CloseReasonInput}
    {old new : CloseReason} (h : revise mask input old = .ok new) (s : Tables) :
    new = ServiceName.closeReasons.merge mask (ServiceName.closeReasons.given s input new) old := by
  obtain ⟨name, hname, h⟩ := bind_eq_ok.1 h
  cases h
  rw [text_replaced hname]
  rfl

theorem Reasons.revise_eq_merge {mask : FieldMask} {input : ReasonInput} {old new : Reason}
    (h : revise mask input old = .ok new) (s : Tables) :
    new = ServiceName.reasons.merge mask (ServiceName.reasons.given s input new) old := by
  obtain ⟨name, hname, h⟩ := bind_eq_ok.1 h
  cases h
  rw [text_replaced hname]
  rfl

theorem Sources.revise_eq_merge {mask : FieldMask} {input : SourceInput} {old new : Source}
    (h : revise mask input old = .ok new) (s : Tables) :
    new = ServiceName.sources.merge mask (ServiceName.sources.given s input new) old := by
  obtain ⟨name, hname, h⟩ := bind_eq_ok.1 h
  obtain ⟨sourceType, htype, h⟩ := bind_eq_ok.1 h
  cases h
  rw [text_replaced hname, eq_replaced htype fun _ h => (requireType_eq_ok.1 h).1]
  rfl

theorem Statuses.revise_eq_merge {mask : FieldMask} {input : CaseStatusInput} {old new : CaseStatus}
    (h : revise mask input old = .ok new) (s : Tables) :
    new = ServiceName.statuses.merge mask (ServiceName.statuses.given s input new) old := by
  obtain ⟨name, hname, h⟩ := bind_eq_ok.1 h
  cases h
  rw [text_replaced hname]
  rfl

/-- A condition that is initial stays so; its input then says the same. -/
theorem StatusConditions.revise_eq_merge {id : Int} {mask : FieldMask}
    {input : StatusConditionInput} {old new : StatusCondition}
    (h : revise id mask input old = .ok new) (s : Tables) :
    new = ServiceName.statusConditions.merge mask (ServiceName.statusConditions.given s input new)
      old := by
  obtain ⟨changed, happly, h⟩ := bind_eq_ok.1 h
  obtain ⟨name, hname, happly⟩ := bind_eq_ok.1 happly
  cases happly
  dsimp only at h
  split_ifs at h
  · cases h
  · cases h
    rw [text_replaced hname]
    rfl

theorem Priorities.revise_eq_merge {mask : FieldMask} {input : PriorityInput} {old new : Priority}
    (h : revise mask input old = .ok new) (s : Tables) :
    new = ServiceName.priorities.merge mask (ServiceName.priorities.given s input new) old := by
  obtain ⟨name, hname, h⟩ := bind_eq_ok.1 h
  obtain ⟨color, hcolor, h⟩ := bind_eq_ok.1 h
  cases h
  rw [text_replaced hname, eq_replaced hcolor fun _ h => requireColor_eq_ok h]
  rfl

namespace SlaConditions

/-- Of each id the first reference stays. -/
theorem ids_distinctIds (rs : List Lookup) : ∀ seen : List Int, (distinctIds seen rs).map (·.id) =
    ((rs.map (·.id)).filter (!seen.contains ·)).eraseDups := by
  induction rs with
  | nil => exact fun _ => rfl
  | cons r rest ih =>
    intro seen
    rw [distinctIds, List.map_cons]
    split_ifs with hseen
    · rw [ih, List.filter_cons_of_neg (by simpa using hseen)]
    · rw [List.filter_cons_of_pos (by simpa using hseen), List.eraseDups_cons, List.map_cons, ih,
        List.filter_filter]
      congr 3
      funext id
      rw [List.contains_cons, Bool.not_or]

/-- Under a mask that selects them, the references that a prepared input makes are to the ids asked
    for, each once and in the order in which they first occur. -/
theorem ids_prepared {s : Tables} (hk : s.Keyed) {sla own : Int} {mask : FieldMask}
    {input input' : SlaConditionInput} (h : prepare s sla own mask input = .ok input')
    (hmask : mask.selects "priorities" = true) :
    input'.priorities.map (·.id) = (input.priorities.map (·.id)).eraseDups := by
  rw [prepare, if_pos hmask] at h
  obtain ⟨held, hheld, h⟩ := bind_eq_ok.1 h
  have hids : held.map (·.id) = (input.priorities.map (·.id)).eraseDups := by
    rw [(mapM_resolve hk.priorities hheld).1, ids_distinctIds]
    simp
  split at h
  · cases h
  · cases h
    exact hids

/-- Besides its references, a prepared input is the one that was given. -/
theorem prepare_fields {s : Tables} {sla own : Int} {mask : FieldMask}
    {input input' : SlaConditionInput} (h : prepare s sla own mask input = .ok input') :
    input' = { input with priorities := input'.priorities } := by
  rw [prepare] at h
  split_ifs at h
  · obtain ⟨held, -, h⟩ := bind_eq_ok.1 h
    split at h <;> cases h
    rfl
  · cases h
    rfl

/-- The references that a prepared input makes are those that its ids give. -/
theorem prepare_given {s : Tables} (hk : s.Keyed) {sla own : Int} {mask : FieldMask}
    {input input' : SlaConditionInput} (h : prepare s sla own mask input = .ok input')
    (new : SlaCondition) :
    ∃ held, input' = { input with priorities := held } ∧ (mask.selects "priorities" = true →
      held = (ServiceName.slaConditions.given s input new).priorities) := by
  refine ⟨input'.priorities, prepare_fields h, fun hmask => ?_⟩
  have hname : ∀ p ∈ input'.priorities, (s.priorities.row? p.id).map
      (fun row => (⟨p.id, row.value.name⟩ : Lookup)) = some p := by
    intro p hp
    obtain ⟨row, hrow, hsame⟩ := Table.view_eq_some.1 ((prepare_eq_ok hk h hmask).named p hp)
    rw [hrow, Option.map_some, hsame]
  have hgiven : input'.priorities = (input'.priorities.map (·.id)).filterMap fun id =>
      (s.priorities.row? id).map fun row => (⟨id, row.value.name⟩ : Lookup) := by
    rw [List.filterMap_map]
    exact List.filterMap_some.symm.trans (List.filterMap_congr fun p hp => (hname p hp).symm)
  rw [ids_prepared hk h hmask] at hgiven
  exact hgiven

theorem revise_eq_merge {s : Tables} (hk : s.Keyed) {sla own : Int} {mask : FieldMask}
    {input input' : SlaConditionInput} (hprepare : prepare s sla own mask input = .ok input')
    {old new : SlaCondition} (h : revise mask input' old = .ok new) :
    new =
      ServiceName.slaConditions.merge mask (ServiceName.slaConditions.given s input new) old := by
  obtain ⟨held, rfl, hheld⟩ := prepare_given hk hprepare new
  have hpriorities : replaced mask "priorities" held old.priorities =
      replaced mask "priorities" (ServiceName.slaConditions.given s input new).priorities
        old.priorities := by
    unfold replaced
    split_ifs with hmask
    · exact hheld hmask
    · rfl
  obtain ⟨name, hname, h⟩ := bind_eq_ok.1 h
  obtain ⟨reactionTime, hreaction, h⟩ := bind_eq_ok.1 h
  obtain ⟨resolutionTime, hresolution, h⟩ := bind_eq_ok.1 h
  cases h
  rw [hpriorities, text_replaced hname, duration_replaced hreaction, duration_replaced hresolution]
  rfl

end SlaConditions

/-- A link that keeps its name has one. -/
theorem CaseLinks.revise_eq_merge {mask : FieldMask} {input : CaseLinkInput} {old new : CaseLink}
    (h : revise mask input old = .ok new) (hold : ServiceName.caseLinks.Tidy old) (s : Tables) :
    new = ServiceName.caseLinks.merge mask (ServiceName.caseLinks.given s input new) old := by
  obtain ⟨url, hurl, h⟩ := bind_eq_ok.1 h
  have hurl' : url = replaced mask "url" (Text.trim input.url) old.url :=
    eq_replaced hurl fun _ h => (Require.text_eq_ok.1 (requireUrl_eq_ok.1 h).1).1.symm
  have hnamed : old.name ≠ "" := (Require.text_eq_ok.1 hold.name).2
  -- a blank name can only come from the input, so the URL stands in for a name that is selected
  have hname : (if replaced mask "name" (Text.trim input.name) old.name = "" then url
      else replaced mask "name" (Text.trim input.name) old.name) =
      replaced mask "name" (if Text.trim input.name = "" then url else Text.trim input.name)
        old.name := by
    unfold replaced
    split_ifs <;> rfl
  cases h
  simp only [hname, ServiceName.merge, ServiceName.given, ← hurl']

namespace ServiceName

variable {service : ServiceName} {s : Tables}

/-- An update makes of a record what its mask and its input say. -/
theorem revision_eq_merge (hservice : service ≠ .caseComments) (hk : s.Keyed) {key : service.Key}
    {input : Option service.Input} {mask : FieldMask} {k : RowKey}
    {revise : Caller → service.Kept → Except ServiceError service.Kept}
    (h : service.desk.revision s key input mask = .ok (k, revise)) :
    ∃ i, input = some i ∧ ∀ {caller old new}, service.Tidy old → revise caller old = .ok new →
      new = service.merge mask (service.given s i new) old := by
  cases service with
  | slas =>
    obtain ⟨i, hi, h⟩ := bind_eq_ok.1 h
    cases h
    exact ⟨i, Require.input_eq_ok.1 hi, fun _ hnew => Slas.revise_eq_merge hnew s⟩
  | closeReasons =>
    obtain ⟨i, hi, h⟩ := bind_eq_ok.1 h
    cases h
    exact ⟨i, Require.input_eq_ok.1 hi, fun _ hnew => CloseReasons.revise_eq_merge hnew s⟩
  | sources =>
    obtain ⟨i, hi, h⟩ := bind_eq_ok.1 h
    cases h
    exact ⟨i, Require.input_eq_ok.1 hi, fun _ hnew => Sources.revise_eq_merge hnew s⟩
  | statuses =>
    obtain ⟨i, hi, h⟩ := bind_eq_ok.1 h
    cases h
    exact ⟨i, Require.input_eq_ok.1 hi, fun _ hnew => Statuses.revise_eq_merge hnew s⟩
  | priorities =>
    obtain ⟨i, hi, h⟩ := bind_eq_ok.1 h
    cases h
    exact ⟨i, Require.input_eq_ok.1 hi, fun _ hnew => Priorities.revise_eq_merge hnew s⟩
  | slaConditions =>
    obtain ⟨i, hi, h⟩ := bind_eq_ok.1 h
    obtain ⟨_, -, h⟩ := bind_eq_ok.1 h
    obtain ⟨_, hprepare, h⟩ := bind_eq_ok.1 h
    cases h
    exact ⟨i, Require.input_eq_ok.1 hi,
      fun _ hnew => SlaConditions.revise_eq_merge hk hprepare hnew⟩
  | reasons =>
    obtain ⟨i, hi, h⟩ := bind_eq_ok.1 h
    obtain ⟨_, -, h⟩ := bind_eq_ok.1 h
    obtain ⟨_, hprepare, h⟩ := bind_eq_ok.1 h
    cases hprepare
    cases h
    exact ⟨i, Require.input_eq_ok.1 hi, fun _ hnew => Reasons.revise_eq_merge hnew s⟩
  | statusConditions =>
    obtain ⟨i, hi, h⟩ := bind_eq_ok.1 h
    obtain ⟨_, -, h⟩ := bind_eq_ok.1 h
    cases h
    exact ⟨i, Require.input_eq_ok.1 hi, fun _ hnew => StatusConditions.revise_eq_merge hnew s⟩
  | caseComments => exact absurd rfl hservice
  | caseLinks =>
    obtain ⟨_, -, h⟩ := bind_eq_ok.1 h
    obtain ⟨i, hi, h⟩ := bind_eq_ok.1 h
    cases h
    exact ⟨i, Require.input_eq_ok.1 hi, fun hold hnew => CaseLinks.revise_eq_merge hnew hold s⟩

/-! ## Rows -/

/-- What a request may set neither names a record nor stamps it. -/
theorem idOf_merge (mask : FieldMask) (given old : service.Kept) :
    Record.idOf (service.merge mask given old) = Record.idOf old := by
  cases service <;> rfl

theorem audit_merge (mask : FieldMask) (given old : service.Kept) :
    Record.audit.get (service.merge mask given old) = Record.audit.get old := by
  cases service <;> rfl

/-- The fields that the stamp of an update sets. -/
def updateStamps : List String := ["updated_at", "updated_by"]

theorem get_touchUpdated {f : Field service.Kept}
    (hf : f ∈ (Record.schema (ρ := service.Kept)).fields) (hname : f.name ∉ updateStamps)
    (who : Lookup) (time : Int) (r : service.Kept) :
    f.lens.get (Record.touchUpdated who time r) = f.lens.get r := by
  cases service <;>
    repeat (rcases hf with _ | ⟨_, hf⟩; · first | rfl | exact absurd (by decide) hname)
  all_goals cases hf

theorem not_mem_updateStamps {name : String} (h : name ∈ service.editable) :
    name ∉ updateStamps := by
  have hall : ∀ name ∈ service.editable, name ∉ updateStamps := by
    cases service <;> decide
  exact hall name h

/-- What an input gives does not touch the stamps of the record. -/
theorem given_touchUpdated (i : service.Input) (who : Lookup) (time : Int) (r : service.Kept) :
    service.given s i (Record.touchUpdated who time r) =
      Record.touchUpdated who time (service.given s i r) := by
  cases service with
  | caseLinks =>
    dsimp only [given]
    split_ifs <;> rfl
  | _ => rfl

/-- A row that was changed by a user at a time: it tells both, and has the next version, which is
    one higher unless the versions are used up. -/
structure Stamped (service : ServiceName) (who : Lookup) (time : Int) (old new : Row service.Kept) :
    Prop where
  ver : new.ver = old.ver + 1
  number : old.ver < Int32.maxValue → (new.ver : Int) = old.ver + 1
  stamps : Record.audit.get new.value =
    { Record.audit.get old.value with updatedAt := time, updatedBy := some who }

/-- A record that has the stamps of another, stamped. -/
theorem stamped_touchUpdated {old : Row service.Kept} {value : service.Kept}
    (haudit : Record.audit.get value = Record.audit.get old.value) (who : Lookup) (time : Int) :
    service.Stamped who time old
      { ver := old.ver + 1, value := Record.touchUpdated who time value } where
  ver := rfl
  number := Version.toInt_add_one
  stamps := by
    change Record.audit.get (Record.audit.set _ value) = _
    rw [Record.audit.get_set, haudit]
    rfl

/-- A row that was updated by a user at a time, with what an input gives for the fields that a mask
    chooses. -/
structure Updated (service : ServiceName) (s : Tables) (mask : List String) (input : service.Input)
    (who : Lookup) (time : Int) (old new : Row service.Kept) : Prop extends
    service.Stamped who time old new where
  chosen : ∀ f ∈ (Record.schema (ρ := service.Kept)).fields, f.name ∈ service.editable →
    FieldMask.Chooses mask f.name →
      f.lens.get new.value = f.lens.get (service.given s input new.value)
  kept : ∀ f ∈ (Record.schema (ρ := service.Kept)).fields, f.name ∉ updateStamps →
    ¬ (f.name ∈ service.editable ∧ FieldMask.Chooses mask f.name) →
      f.lens.get new.value = f.lens.get old.value

/-- A record that was merged and stamped is updated. -/
theorem updated_of_merge {texts : List String} {input : service.Input} {old : Row service.Kept}
    {value : service.Kept}
    (hvalue : value = service.merge (.ofTexts texts) (service.given s input value) old.value)
    (who : Lookup) (time : Int) : service.Updated s texts input who time old
      { ver := old.ver + 1, value := Record.touchUpdated who time value } where
  toStamped := stamped_touchUpdated (by rw [hvalue, audit_merge]) who time
  chosen f hf heditable hchosen := by
    have hstamp := not_mem_updateStamps heditable
    have hselected : (service.editable.contains f.name &&
        (FieldMask.ofTexts texts).selects f.name) = true :=
      Bool.and_eq_true_iff.2
        ⟨List.contains_iff_mem.2 heditable, FieldMask.selects_ofTexts.2 hchosen⟩
    dsimp only
    rw [given_touchUpdated, get_touchUpdated hf hstamp, get_touchUpdated hf hstamp]
    -- the right side speaks of the merged record as well, and stays as it is
    conv_lhs => rw [hvalue, get_merge hf, if_pos hselected]
  kept f hf hstamp hkept := by
    have hunselected : ¬ (service.editable.contains f.name &&
        (FieldMask.ofTexts texts).selects f.name) = true := by
      rwa [Bool.and_eq_true_iff, List.contains_iff_mem, FieldMask.selects_ofTexts]
    dsimp only
    rw [get_touchUpdated hf hstamp, hvalue, get_merge hf, if_neg hunselected]

end ServiceName

/-- **An update sets what its mask chooses.**  An update of a record, other than a comment, that
    succeeds sets the fields that its mask chooses, of those that may be set, to what its input
    gives for them.  It stamps the record and counts its version up; all other fields stay as they
    are. -/
theorem Reachable.updated {s : Tables} (h : Reachable s) {service : ServiceName}
    (hservice : service ≠ .caseComments) {ctx : Context}
    {r : UpdateRequest service.Key service.Input} {answer : Answer}
    (hok : ((service.call (.update r)).run ctx s).1 = .ok answer) :
    ∃ caller input id old new, ctx.caller = some caller ∧ r.input = some input ∧
      service.recordId? r.key = some id ∧ (service.shelf.get s).row? id = some old ∧
      (service.shelf.get ((service.call (.update r)).run ctx s).2).row? id = some new ∧
      service.Updated s r.mask input caller.user ctx.now old new := by
  obtain ⟨reply, rfl⟩ := ServiceName.exists_reply hok
  have hstep := ServiceName.step_of_ok hok
  generalize ((service.call (.update r)).run ctx s).2 = s' at hstep ⊢
  cases hstep with
  | @updated r caller k revise old value hcaller hrevision hfind hrevise row hrow =>
    obtain ⟨input, hinput, hmerge⟩ := ServiceName.revision_eq_merge hservice h.keyed hrevision
    have hold := Table.row?_of_find hfind
    have hnew := ServiceName.row?_settled_self (some old) (Table.row?_put_self hold (some row)) s
    rw [ServiceName.shelf_desk] at hold
    have hvalue := hmerge (h.tidy service k.id old hold) hrevise
    refine ⟨caller, input, k.id, old, row, (ServiceName.authorize_eq_ok.1 hcaller).1, hinput,
      service.names.revision hrevision, hold, hnew, ?_⟩
    have hid : Record.idOf value = k.id := by
      rw [hvalue, ServiceName.idOf_merge]
      exact h.keyed.shelf service k.id old hold
    rw [hrow, ServiceName.edited_eq hid]
    exact ServiceName.updated_of_merge hvalue caller.user ctx.now

/-- A link gets another URL and, for want of a new one, that URL as its name. -/
def renamedLink : Run := [
  .bySuperuser (.caseLinks (.create ⟨"1", some ⟨"guide", "git:/a"⟩⟩)),
  .bySuperuser (.caseLinks (.update ⟨⟨"1", "1"⟩, some ⟨" ", " git:/b"⟩,
    ["URL, Name.first", " "]⟩))]

theorem renamedLink_updated :
    ∃ old new, (renamedLink.before 1).links.row? 1 = some old ∧
      (renamedLink.before 2).links.row? 1 = some new ∧
      ServiceName.caseLinks.Updated (renamedLink.before 1) ["URL, Name.first", " "]
        ⟨" ", " git:/b"⟩ Caller.anonymous.user 0 old new ∧
      old.value.name = "guide" ∧ new.value.name = "git:/b" ∧ (new.ver : Int) = 2 := by
  have hok : (renamedLink[1].outcome (renamedLink.before 1)).1.isOk = true := by decide +kernel
  obtain ⟨answer, hanswer⟩ := exists_of_isOk hok
  obtain ⟨caller, input, id, old, new, hcaller, hinput, hid, hold, hnew, hupdated⟩ :=
    Reachable.updated (renamedLink.reachable_before 1)
      (nofun : ServiceName.caseLinks ≠ .caseComments) hanswer
  cases hcaller
  cases hinput
  have hone : ServiceName.caseLinks.recordId? ⟨"1", "1"⟩ = some 1 := by decide +kernel
  cases hone.symm.trans hid
  have hfirst : ((renamedLink.before 1).links.row? 1).map (fun row => (row.value.name, row.ver)) =
      some ("guide", 1) := by decide +kernel
  obtain ⟨old', hold', hparts⟩ := Option.map_eq_some_iff.1 hfirst
  cases hold'.symm.trans hold
  obtain ⟨hguide, hver⟩ := Prod.mk.inj hparts
  have hnumber := hupdated.number (by rw [hver]; decide)
  rw [hver] at hnumber
  have hchosen (field : String) (h : (FieldMask.ofTexts ["URL, Name.first", " "]).selects field) :
      FieldMask.Chooses ["URL, Name.first", " "] field := FieldMask.selects_ofTexts.1 h
  have hname : new.value.name = new.value.url :=
    hupdated.chosen _ (.tail _ (.tail _ (.tail _ (.head _)))) (by decide)
      (hchosen "name" (by decide +kernel))
  have hurl : new.value.url = Text.trim " git:/b" :=
    hupdated.chosen _ (.tail _ (.tail _ (.tail _ (.tail _ (.head _))))) (by decide)
      (hchosen "url" (by decide +kernel))
  exact ⟨old, new, hold, hnew, hupdated, hguide, hname.trans (hurl.trans (by decide +kernel)),
    hnumber⟩

/-- The superuser changes the description of the first condition. -/
def describing : Visit :=
  .bySuperuser (.statusConditions (.update ⟨⟨1, 1⟩, some ⟨"", "first", false, false⟩, ["description"]⟩))

/-- Without a limit for the versions an update may give a record a lower one. -/
theorem wornCondition_updated :
    let s := wornCondition.before wornCondition.length
    (∃ answer, (describing.outcome s).1 = .ok answer) ∧
    ∃ old new, s.statusConditions.row? 1 = some old ∧
      (describing.outcome s).2.statusConditions.row? 1 = some new ∧
      (new.ver : Int) ≠ old.ver + 1 := by
  rw [wornCondition_last]
  exact ⟨⟨_, rfl⟩, _, _, rfl, rfl, by decide⟩

end CaseDesk
