/-
  Stored records are tidy.

  What a check made of an input it leaves as it is.  So whatever the calls were,
  what is stored passes all checks unchanged.

  * `ServiceName.asInput`: what a request would set to get a record.
  * `ServiceName.Tidy`: a record that the checks of its service leave as it is.
  * `ServiceName.ensures_tidy`: the rules of a service turn inputs into tidy
    records.
  * `Reachable.tidy`: all stored records are tidy.
-/
import CaseDesk.Proofs.Checks
import CaseDesk.Proofs.Lasting

namespace CaseDesk

/-! ## Inputs -/

namespace ServiceName

/-- What a request would set to get a record, field by field. -/
def asInput : (service : ServiceName) → service.Kept → service.Input
  | slas => fun r =>
    { name := r.name, description := r.description, validFrom := r.validFrom, validTo := r.validTo
      calendar := r.calendar, reactionTime := r.reactionTime, resolutionTime := r.resolutionTime }
  | slaConditions => fun r =>
    { name := r.name, priorities := r.priorities, reactionTime := r.reactionTime
      resolutionTime := r.resolutionTime }
  | closeReasons => fun r => { name := r.name, description := r.description }
  | reasons => fun r => { name := r.name, description := r.description }
  | sources => fun r =>
    { name := r.name, description := r.description, sourceType := r.sourceType }
  | statuses => fun r => { name := r.name, description := r.description }
  | statusConditions => fun r =>
    { name := r.name, description := r.description, initial := r.initial, final := r.final }
  | priorities => fun r => { name := r.name, description := r.description, color := r.color }
  | caseComments => fun r => { text := r.text }
  | caseLinks => fun r => { name := r.name, url := r.url }

end ServiceName

/-- An input for an agreement that the checks leave as it is. -/
structure SlaInput.Tidy (i : SlaInput) : Prop where
  name : Require.text "name" i.name = .ok i.name
  reactionTime : Require.duration "reaction_time" i.reactionTime = .ok i.reactionTime
  resolutionTime : Require.duration "resolution_time" i.resolutionTime = .ok i.resolutionTime
  window : ¬ (0 < i.validFrom ∧ 0 < i.validTo ∧ i.validTo < i.validFrom)
  calendar : i.calendar.filter (0 < ·.id) = i.calendar

/-- An input for a condition of an agreement that the checks leave as it is; its priorities are a
    matter of the tables. -/
structure SlaConditionInput.Tidy (i : SlaConditionInput) : Prop where
  name : Require.text "name" i.name = .ok i.name
  reactionTime : Require.duration "reaction_time" i.reactionTime = .ok i.reactionTime
  resolutionTime : Require.duration "resolution_time" i.resolutionTime = .ok i.resolutionTime

/-- An input for a source that the checks leave as it is. -/
structure SourceInput.Tidy (i : SourceInput) : Prop where
  name : Require.text "name" i.name = .ok i.name
  sourceType : Sources.requireType i.sourceType = .ok i.sourceType

/-- An input for a priority that the checks leave as it is. -/
structure PriorityInput.Tidy (i : PriorityInput) : Prop where
  name : Require.text "name" i.name = .ok i.name
  color : Priorities.requireColor i.color = .ok i.color

/-- An input for a link that the checks leave as it is. -/
structure CaseLinkInput.Tidy (i : CaseLinkInput) : Prop where
  name : Require.text "name" i.name = .ok i.name
  url : CaseLinks.requireUrl i.url = .ok i.url

namespace ServiceName

/-- An input that the checks of a service leave as it is. -/
def TidyInput : (service : ServiceName) → service.Input → Prop
  | slas => SlaInput.Tidy
  | slaConditions => SlaConditionInput.Tidy
  | sources => SourceInput.Tidy
  | priorities => PriorityInput.Tidy
  | caseLinks => CaseLinkInput.Tidy
  | closeReasons => fun i => Require.text "name" i.name = .ok i.name
  | reasons => fun i => Require.text "name" i.name = .ok i.name
  | statuses => fun i => Require.text "name" i.name = .ok i.name
  | statusConditions => fun i => Require.text "name" i.name = .ok i.name
  | caseComments => fun i => Require.text "text" i.text = .ok i.text

/-- A record that the checks of its service leave as it is. -/
def Tidy (service : ServiceName) (r : service.Kept) : Prop := service.TidyInput (service.asInput r)

end ServiceName

/-! ## Revisions -/

open Require (stable_text stable_duration replaced_tidied masked_full)

theorem Slas.revise_tidy {mask : FieldMask} {input : SlaInput} {old new : Sla}
    (h : revise mask input old = .ok new) (hold : mask = .full ∨ ServiceName.slas.Tidy old) :
    ServiceName.slas.Tidy new := by
  obtain ⟨name, hname, h⟩ := bind_eq_ok.1 h
  obtain ⟨reactionTime, hreaction, h⟩ := bind_eq_ok.1 h
  obtain ⟨resolutionTime, hresolution, h⟩ := bind_eq_ok.1 h
  dsimp only at h
  split_ifs at h with hwindow
  · cases h
  · cases h
    exact ⟨(stable_text _).masked hname (hold.imp_right (·.name)),
      (stable_duration _).masked hreaction (hold.imp_right (·.reactionTime)),
      (stable_duration _).masked hresolution (hold.imp_right (·.resolutionTime)), hwindow,
      replaced_tidied (fun c => by simp) (hold.imp_right (·.calendar))⟩

theorem Slas.revise_asInput {r : Sla} (h : ServiceName.slas.Tidy r) :
    revise .full (ServiceName.slas.asInput r) r = .ok r := by
  have hcalendar : r.calendar.filter (0 < ·.id) = r.calendar := h.calendar
  refine bind_eq_ok.2 ⟨r.name, masked_full h.name _ _,
    bind_eq_ok.2 ⟨r.reactionTime, masked_full h.reactionTime _ _,
      bind_eq_ok.2 ⟨r.resolutionTime, masked_full h.resolutionTime _ _, ?_⟩⟩⟩
  refine (if_neg h.window).trans (congrArg Except.ok ?_)
  change { r with calendar := r.calendar.filter (0 < ·.id) } = r
  rw [hcalendar]

theorem SlaConditions.revise_tidy {mask : FieldMask} {input : SlaConditionInput}
    {old new : SlaCondition} (h : revise mask input old = .ok new)
    (hold : mask = .full ∨ ServiceName.slaConditions.Tidy old) :
    ServiceName.slaConditions.Tidy new := by
  obtain ⟨name, hname, h⟩ := bind_eq_ok.1 h
  obtain ⟨reactionTime, hreaction, h⟩ := bind_eq_ok.1 h
  obtain ⟨resolutionTime, hresolution, h⟩ := bind_eq_ok.1 h
  cases h
  exact ⟨(stable_text _).masked hname (hold.imp_right (·.name)),
    (stable_duration _).masked hreaction (hold.imp_right (·.reactionTime)),
    (stable_duration _).masked hresolution (hold.imp_right (·.resolutionTime))⟩

theorem SlaConditions.revise_asInput {r : SlaCondition} (h : ServiceName.slaConditions.Tidy r) :
    revise .full (ServiceName.slaConditions.asInput r) r = .ok r :=
  bind_eq_ok.2 ⟨r.name, masked_full h.name _ _,
    bind_eq_ok.2 ⟨r.reactionTime, masked_full h.reactionTime _ _,
      bind_eq_ok.2 ⟨r.resolutionTime, masked_full h.resolutionTime _ _, rfl⟩⟩⟩

theorem CloseReasons.revise_tidy {mask : FieldMask} {input : CloseReasonInput}
    {old new : CloseReason} (h : revise mask input old = .ok new)
    (hold : mask = .full ∨ ServiceName.closeReasons.Tidy old) :
    ServiceName.closeReasons.Tidy new := by
  obtain ⟨name, hname, h⟩ := bind_eq_ok.1 h
  cases h
  exact (stable_text _).masked hname hold

theorem CloseReasons.revise_asInput {r : CloseReason} (h : ServiceName.closeReasons.Tidy r) :
    revise .full (ServiceName.closeReasons.asInput r) r = .ok r :=
  bind_eq_ok.2 ⟨r.name, masked_full h _ _, rfl⟩

theorem Reasons.revise_tidy {mask : FieldMask} {input : ReasonInput} {old new : Reason}
    (h : revise mask input old = .ok new) (hold : mask = .full ∨ ServiceName.reasons.Tidy old) :
    ServiceName.reasons.Tidy new := by
  obtain ⟨name, hname, h⟩ := bind_eq_ok.1 h
  cases h
  exact (stable_text _).masked hname hold

theorem Reasons.revise_asInput {r : Reason} (h : ServiceName.reasons.Tidy r) :
    revise .full (ServiceName.reasons.asInput r) r = .ok r :=
  bind_eq_ok.2 ⟨r.name, masked_full h _ _, rfl⟩

theorem Statuses.revise_tidy {mask : FieldMask} {input : CaseStatusInput} {old new : CaseStatus}
    (h : revise mask input old = .ok new) (hold : mask = .full ∨ ServiceName.statuses.Tidy old) :
    ServiceName.statuses.Tidy new := by
  obtain ⟨name, hname, h⟩ := bind_eq_ok.1 h
  cases h
  exact (stable_text _).masked hname hold

theorem Statuses.revise_asInput {r : CaseStatus} (h : ServiceName.statuses.Tidy r) :
    revise .full (ServiceName.statuses.asInput r) r = .ok r :=
  bind_eq_ok.2 ⟨r.name, masked_full h _ _, rfl⟩

theorem Sources.revise_tidy {mask : FieldMask} {input : SourceInput} {old new : Source}
    (h : revise mask input old = .ok new) (hold : mask = .full ∨ ServiceName.sources.Tidy old) :
    ServiceName.sources.Tidy new := by
  obtain ⟨name, hname, h⟩ := bind_eq_ok.1 h
  obtain ⟨sourceType, htype, h⟩ := bind_eq_ok.1 h
  cases h
  exact ⟨(stable_text _).masked hname (hold.imp_right (·.name)),
    stable_requireType.masked htype (hold.imp_right (·.sourceType))⟩

theorem Sources.revise_asInput {r : Source} (h : ServiceName.sources.Tidy r) :
    revise .full (ServiceName.sources.asInput r) r = .ok r :=
  bind_eq_ok.2 ⟨r.name, masked_full h.name _ _,
    bind_eq_ok.2 ⟨r.sourceType, masked_full h.sourceType _ _, rfl⟩⟩

theorem Priorities.revise_tidy {mask : FieldMask} {input : PriorityInput} {old new : Priority}
    (h : revise mask input old = .ok new) (hold : mask = .full ∨ ServiceName.priorities.Tidy old) :
    ServiceName.priorities.Tidy new := by
  obtain ⟨name, hname, h⟩ := bind_eq_ok.1 h
  obtain ⟨color, hcolor, h⟩ := bind_eq_ok.1 h
  cases h
  exact ⟨(stable_text _).masked hname (hold.imp_right (·.name)),
    stable_requireColor.masked hcolor (hold.imp_right (·.color))⟩

theorem Priorities.revise_asInput {r : Priority} (h : ServiceName.priorities.Tidy r) :
    revise .full (ServiceName.priorities.asInput r) r = .ok r :=
  bind_eq_ok.2 ⟨r.name, masked_full h.name _ _,
    bind_eq_ok.2 ⟨r.color, masked_full h.color _ _, rfl⟩⟩

theorem StatusConditions.apply_tidy {mask : FieldMask} {input : StatusConditionInput}
    {old new : StatusCondition} (h : apply mask input old = .ok new)
    (hold : mask = .full ∨ ServiceName.statusConditions.Tidy old) :
    ServiceName.statusConditions.Tidy new := by
  obtain ⟨name, hname, h⟩ := bind_eq_ok.1 h
  cases h
  exact (stable_text _).masked hname hold

/-- The flag of an input copied from a condition is the one that the condition has. -/
theorem StatusConditions.revise_asInput {r : StatusCondition}
    (h : ServiceName.statusConditions.Tidy r) (id : Int) :
    revise id .full (ServiceName.statusConditions.asInput r) r = .ok r := by
  refine bind_eq_ok.2 ⟨r, bind_eq_ok.2 ⟨r.name, masked_full h _ _, rfl⟩, ?_⟩
  exact if_neg fun hgiven => hgiven.2 hgiven.1

namespace CaseLinks

/-- A link without a name of its own goes by its URL, which is a tidy name. -/
theorem revise_tidy {mask : FieldMask} {input : CaseLinkInput} {old new : CaseLink}
    (h : revise mask input old = .ok new) (hold : mask = .full ∨ ServiceName.caseLinks.Tidy old) :
    ServiceName.caseLinks.Tidy new := by
  obtain ⟨url, hurl, h⟩ := bind_eq_ok.1 h
  have hurl' : requireUrl url = .ok url := stable_requireUrl.masked hurl (hold.imp_right (·.url))
  have htrim : Text.trim (Require.replaced mask "name" (Text.trim input.name) old.name) =
      Require.replaced mask "name" (Text.trim input.name) old.name :=
    replaced_tidied Text.trim_trim
      (hold.imp_right fun hold => (Require.text_eq_ok.1 hold.name).1)
  dsimp only at h
  generalize Require.replaced mask "name" (Text.trim input.name) old.name = name at h htrim
  cases h
  refine ⟨Require.text_eq_ok.2 ?_, hurl'⟩
  change Text.trim (if name = "" then url else name) = (if name = "" then url else name) ∧ _
  split_ifs with hnone
  · exact Require.text_eq_ok.1 (requireUrl_eq_ok.1 hurl').1
  · exact ⟨htrim, hnone⟩

theorem revise_asInput {r : CaseLink} (h : ServiceName.caseLinks.Tidy r) :
    revise .full (ServiceName.caseLinks.asInput r) r = .ok r := by
  have hname : Text.trim r.name = r.name ∧ r.name ≠ "" := Require.text_eq_ok.1 h.name
  refine bind_eq_ok.2 ⟨r.url, masked_full h.url _ _, congrArg Except.ok ?_⟩
  change { r with name := if Text.trim r.name = "" then r.url else Text.trim r.name } = r
  rw [hname.1, if_neg hname.2]

end CaseLinks

/-! ## Services -/

theorem Slas.ensures_tidy : desk.Ensures ServiceName.slas.Tidy := Desk.ensures_root revise_tidy

theorem SlaConditions.ensures_tidy : desk.Ensures ServiceName.slaConditions.Tidy :=
  Desk.ensures_child revise_tidy

theorem CloseReasons.ensures_tidy : desk.Ensures ServiceName.closeReasons.Tidy :=
  Desk.ensures_root revise_tidy

theorem Reasons.ensures_tidy : desk.Ensures ServiceName.reasons.Tidy :=
  Desk.ensures_child revise_tidy

theorem Sources.ensures_tidy : desk.Ensures ServiceName.sources.Tidy :=
  Desk.ensures_root revise_tidy

theorem Statuses.ensures_tidy : desk.Ensures ServiceName.statuses.Tidy :=
  Desk.ensures_root revise_tidy

theorem Priorities.ensures_tidy : desk.Ensures ServiceName.priorities.Tidy :=
  Desk.ensures_root revise_tidy

theorem StatusConditions.ensures_tidy : desk.Ensures ServiceName.statusConditions.Tidy where
  draft h := by
    obtain ⟨_, -, h⟩ := bind_eq_ok.1 h
    obtain ⟨_, -, h⟩ := bind_eq_ok.1 h
    obtain ⟨new, hnew, h⟩ := bind_eq_ok.1 h
    have htidy := apply_tidy hnew (Or.inl rfl)
    cases h
    split_ifs <;> exact htidy
  revision h _ old new hold hnew := by
    obtain ⟨_, -, h⟩ := bind_eq_ok.1 h
    obtain ⟨_, -, h⟩ := bind_eq_ok.1 h
    cases h
    obtain ⟨new', hnew', hnew⟩ := bind_eq_ok.1 hnew
    have htidy := apply_tidy hnew' (Or.inr hold)
    dsimp only at hnew
    split_ifs at hnew
    · cases hnew
    · cases hnew
      exact htidy

theorem CaseComments.ensures_tidy : desk.Ensures ServiceName.caseComments.Tidy where
  draft h := by
    obtain ⟨_, -, h⟩ := bind_eq_ok.1 h
    obtain ⟨_, -, h⟩ := bind_eq_ok.1 h
    obtain ⟨text, htext, h⟩ := bind_eq_ok.1 h
    cases h
    exact stable_text _ _ _ htext
  revision h _ _ _ _ hnew := by
    obtain ⟨-, raw, rfl⟩ := revision_rule h
    obtain ⟨_, -, hnew⟩ := bind_eq_ok.1 hnew
    obtain ⟨text, htext, hnew⟩ := bind_eq_ok.1 hnew
    cases hnew
    exact stable_text _ _ _ htext

theorem CaseLinks.ensures_tidy : desk.Ensures ServiceName.caseLinks.Tidy where
  draft h := by
    obtain ⟨_, -, h⟩ := bind_eq_ok.1 h
    obtain ⟨_, -, h⟩ := bind_eq_ok.1 h
    exact revise_tidy h (Or.inl rfl)
  revision h _ _ _ hold hnew := by
    obtain ⟨_, -, h⟩ := bind_eq_ok.1 h
    obtain ⟨_, -, h⟩ := bind_eq_ok.1 h
    cases h
    exact revise_tidy hnew (Or.inr hold)

theorem ServiceName.ensures_tidy (service : ServiceName) : service.desk.Ensures service.Tidy := by
  cases service with
  | slas => exact Slas.ensures_tidy
  | slaConditions => exact SlaConditions.ensures_tidy
  | closeReasons => exact CloseReasons.ensures_tidy
  | reasons => exact Reasons.ensures_tidy
  | sources => exact Sources.ensures_tidy
  | statuses => exact Statuses.ensures_tidy
  | statusConditions => exact StatusConditions.ensures_tidy
  | priorities => exact Priorities.ensures_tidy
  | caseComments => exact CaseComments.ensures_tidy
  | caseLinks => exact CaseLinks.ensures_tidy

/-! ## Tables -/

/-- Ids and stamps, the priorities of a condition and its flag are no matter of checks. -/
theorem ServiceName.lasting_tidy : Lasting fun service => service.Tidy where
  ensured := ensures_tidy
  stamped {service _} h _ _ := by cases service <;> exact h
  held h _ := ⟨h.name, h.reactionTime, h.resolutionTime⟩
  yielded h := h

/-- All records of the tables are tidy. -/
def Tables.Tidy (s : Tables) : Prop :=
  ∀ (service : ServiceName) (id : Int) (row : Row service.Kept),
    (service.shelf.get s).row? id = some row → service.Tidy row.value

/-- **All stored records are tidy.**  Whatever the calls were, the checks of inputs leave what is
    stored as it is. -/
theorem Reachable.tidy {s : Tables} (h : Reachable s) : s.Tidy :=
  ServiceName.lasting_tidy.reachable h

end CaseDesk
