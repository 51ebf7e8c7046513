/-
  Stored records are valid.

  What the checks of inputs are there for holds of what is stored: texts have
  something in them and no blanks around it, times and ids are in range,
  colours and URLs are well-formed, and what is filled in for answers only is
  not stored.

  * `Text.IsTrimmed`: a text with no blanks around it.
  * `ServiceName.Valid`: a valid record of a service.
  * `ServiceName.Attached`: a record of a case names it, and holds nothing that
    is for answers only.  This lasts (`ServiceName.lasting_attached`); the rest
    is read off tidy records and their parents.
  * `Reachable.valid`: all stored records are valid.
-/
import CaseDesk.Proofs.Tidy

namespace CaseDesk

/-! ## Texts -/

namespace Text

/-- A text that is not empty and has no blanks at its ends. -/
structure IsTrimmed (s : String) : Prop where
  ne_empty : s ≠ ""
  head : ∀ c, s.toList.head? = some c → isBlank c = false
  last : ∀ c, s.toList.getLast? = some c → isBlank c = false

theorem isTrimmed_of_trim {s : String} (h : trim s = s) (hs : s ≠ "") : IsTrimmed s := by
  have hself : trimChars s.toList = s.toList := by
    have hlist := congrArg String.toList h
    rwa [trim, String.toList_ofList] at hlist
  have hhead : trimStart s.toList = s.toList := by
    have hstart := trimStart_trimChars s.toList
    rwa [hself] at hstart
  have hlast : s.toList.reverse.dropWhile isBlank = s.toList.reverse := by
    rw [trimChars, hhead, trimEnd] at hself
    rw [← List.reverse_reverse (List.dropWhile isBlank _), hself]
  refine ⟨hs, fun c hc => ?_, fun c hc => ?_⟩
  · have hfirst := List.head?_dropWhile_not isBlank s.toList
    rw [← trimStart, hhead, hc] at hfirst
    exact hfirst
  · have hfirst := List.head?_dropWhile_not isBlank s.toList.reverse
    rw [hlast, List.head?_reverse, hc] at hfirst
    exact hfirst

/-- What the check of a text leaves as it is has no blanks around it. -/
theorem isTrimmed_of_text {field s : String} (h : Require.text field s = .ok s) : IsTrimmed s :=
  isTrimmed_of_trim (Require.text_eq_ok.1 h).1 (Require.text_eq_ok.1 h).2

end Text

/-! ## Colours -/

namespace Priorities

/-- The digits of numbers to base sixteen, those beyond nine as capital letters. -/
def IsCapitalDigit (c : Char) : Prop := ('0' ≤ c ∧ c ≤ '9') ∨ ('A' ≤ c ∧ c ≤ 'F')

instance : DecidablePred IsCapitalDigit := fun c =>
  inferInstanceAs (Decidable (('0' ≤ c ∧ c ≤ '9') ∨ ('A' ≤ c ∧ c ≤ 'F')))

/-- A colour is a number sign with six digits. -/
def IsCapitalColor (color : String) : Prop :=
  ∃ digits, color.toList = '#' :: digits ∧ digits.length = 6 ∧ ∀ c ∈ digits, IsCapitalDigit c

theorem isCapitalDigit_of_upper {c : Char} (h : isHexDigit c = true) (hupper : c.toUpper = c) :
    IsCapitalDigit c := by
  have hall : ∀ n < 128, isHexDigit (Char.ofNat n) = true →
      (Char.ofNat n).toUpper = Char.ofNat n → IsCapitalDigit (Char.ofNat n) := by decide +kernel
  have hc := hall c.toNat (toNat_lt_of_isHexDigit h)
  rw [Char.ofNat_toNat] at hc
  exact hc h hupper

/-- What the check of a colour leaves as it is is no colour, or has capital digits. -/
theorem isCapitalColor_of_requireColor {color : String} (h : requireColor color = .ok color) :
    color = "" ∨ IsCapitalColor color := by
  refine (isColor_of_requireColor h).imp_right fun ⟨hcolor, hupper, _⟩ => ?_
  unfold isColor at hcolor
  split at hcolor
  case h_2 => cases hcolor
  case h_1 digits hdigits =>
    rw [Bool.and_eq_true_iff, List.all_eq_true, beq_iff_eq] at hcolor
    rw [hdigits, List.map_cons] at hupper
    have hsame := List.map_inj_left.1 ((List.cons.inj hupper).2.trans (List.map_id digits).symm)
    exact ⟨digits, hdigits, hcolor.1, fun c hc =>
      isCapitalDigit_of_upper (hcolor.2 c hc) (hsame c hc)⟩

end Priorities

/-! ## Records -/

structure Sla.Valid (r : Sla) : Prop where
  name : Text.IsTrimmed r.name
  reactionTime : 0 ≤ r.reactionTime
  resolutionTime : 0 ≤ r.resolutionTime
  calendar : ∀ c, r.calendar = some c → 0 < c.id

structure SlaCondition.Valid (r : SlaCondition) : Prop where
  name : Text.IsTrimmed r.name
  reactionTime : 0 ≤ r.reactionTime
  resolutionTime : 0 ≤ r.resolutionTime
  slaId : 0 < r.slaId

structure Reason.Valid (r : Reason) : Prop where
  name : Text.IsTrimmed r.name
  closeReasonId : 0 < r.closeReasonId

/-- The types of sources are numbered from one to six. -/
structure Source.Valid (r : Source) : Prop where
  name : Text.IsTrimmed r.name
  sourceType : 1 ≤ r.sourceType ∧ r.sourceType ≤ 6

structure StatusCondition.Valid (r : StatusCondition) : Prop where
  name : Text.IsTrimmed r.name
  statusId : 0 < r.statusId

structure Priority.Valid (r : Priority) : Prop where
  name : Text.IsTrimmed r.name
  color : r.color = "" ∨ Priorities.IsCapitalColor r.color

/-- A comment names its case, and holds nothing that is for answers only. -/
structure CaseComment.Attached (r : CaseComment) : Prop where
  caseId : 0 < r.caseId
  ver : r.ver = 0
  etag : r.etag = ""
  canEdit : r.canEdit = false

structure CaseComment.Valid (r : CaseComment) : Prop extends r.Attached where
  text : Text.IsTrimmed r.text

/-- A link names its case, and holds nothing that is for answers only. -/
structure CaseLink.Attached (r : CaseLink) : Prop where
  caseId : 0 < r.caseId
  ver : r.ver = 0
  etag : r.etag = ""

structure CaseLink.Valid (r : CaseLink) : Prop extends r.Attached where
  name : Text.IsTrimmed r.name
  url : Text.IsTrimmed r.url
  accepted : CaseLinks.requireUrl r.url = .ok r.url

namespace ServiceName

/-- A record of a case names it, and holds nothing that is for answers only. -/
def Attached : (service : ServiceName) → service.Kept → Prop
  | caseComments => CaseComment.Attached
  | caseLinks => CaseLink.Attached
  | _ => fun _ => True

/-- A valid record of a service. -/
def Valid : (service : ServiceName) → service.Kept → Prop
  | slas => Sla.Valid
  | slaConditions => SlaCondition.Valid
  | closeReasons => fun r => Text.IsTrimmed r.name
  | reasons => Reason.Valid
  | sources => Source.Valid
  | statuses => fun r => Text.IsTrimmed r.name
  | statusConditions => StatusCondition.Valid
  | priorities => Priority.Valid
  | caseComments => CaseComment.Valid
  | caseLinks => CaseLink.Valid

end ServiceName

/-! ## Records of cases -/

namespace Etag

theorem pos_of_readId? {cs : List Char} {id : Int} (h : readId? cs = some id) : 0 < id := by
  simpa using (Option.filter_eq_some_iff.1 h).2

theorem pos_of_numbers? {pieces : List (List Char)} {id : Int} {ver : Option Int}
    (h : numbers? pieces = some (id, ver)) : 0 < id := by
  unfold numbers? at h
  split at h
  · obtain ⟨_, hid, h⟩ := Option.bind_eq_some_iff.1 h
    cases h
    exact pos_of_readId? hid
  · obtain ⟨_, hid, h⟩ := Option.bind_eq_some_iff.1 h
    obtain ⟨_, -, h⟩ := Option.bind_eq_some_iff.1 h
    cases h
    exact pos_of_readId? hid
  · cases h

/-- Tags name records by positive ids. -/
theorem id_pos_of_parse {kind : EtagKind} {raw : String} {tag : Etag}
    (h : parse kind raw = .ok tag) : 0 < tag.id := by
  unfold parse at h
  grind [→ pos_of_readId?, → pos_of_numbers?]

end Etag

theorem CaseComments.ensures_attached : desk.Ensures CaseComment.Attached where
  draft h := by
    obtain ⟨tag, htag, h⟩ := bind_eq_ok.1 h
    obtain ⟨_, -, h⟩ := bind_eq_ok.1 h
    obtain ⟨_, -, h⟩ := bind_eq_ok.1 h
    cases h
    exact ⟨Etag.id_pos_of_parse (Require.tag_eq_ok.1 htag), rfl, rfl, rfl⟩
  revision h _ _ _ hold hnew := by
    obtain ⟨-, raw, rfl⟩ := revision_rule h
    obtain ⟨_, -, hnew⟩ := bind_eq_ok.1 hnew
    obtain ⟨_, -, hnew⟩ := bind_eq_ok.1 hnew
    cases hnew
    exact ⟨hold.caseId, hold.ver, hold.etag, hold.canEdit⟩

theorem CaseLinks.revise_attached {mask : FieldMask} {input : CaseLinkInput} {old new : CaseLink}
    (h : revise mask input old = .ok new) (hold : old.Attached) : new.Attached := by
  obtain ⟨_, -, h⟩ := bind_eq_ok.1 h
  cases h
  exact ⟨hold.caseId, hold.ver, hold.etag⟩

theorem CaseLinks.ensures_attached : desk.Ensures CaseLink.Attached where
  draft h := by
    obtain ⟨tag, htag, h⟩ := bind_eq_ok.1 h
    obtain ⟨_, -, h⟩ := bind_eq_ok.1 h
    exact revise_attached h ⟨Etag.id_pos_of_parse (Require.tag_eq_ok.1 htag), rfl, rfl⟩
  revision h _ _ _ hold hnew := by
    obtain ⟨_, -, h⟩ := bind_eq_ok.1 h
    obtain ⟨_, -, h⟩ := bind_eq_ok.1 h
    cases h
    exact revise_attached hnew hold

theorem ServiceName.lasting_attached : Lasting fun service => service.Attached where
  ensured service := by
    cases service with
    | caseComments => exact CaseComments.ensures_attached
    | caseLinks => exact CaseLinks.ensures_attached
    | slas | slaConditions | closeReasons | reasons | sources | statuses | statusConditions
    | priorities => exact ⟨fun _ => trivial, fun _ _ _ _ _ _ => trivial⟩
  stamped {service _} h _ _ := by
    cases service with
    | caseComments => exact ⟨h.caseId, h.ver, h.etag, h.canEdit⟩
    | caseLinks => exact ⟨h.caseId, h.ver, h.etag⟩
    | slas | slaConditions | closeReasons | reasons | sources | statuses | statusConditions
    | priorities => trivial
  held _ _ := trivial
  yielded _ := trivial

/-! ## Tables -/

/-- The parent of a record has a positive id. -/
theorem Table.BelongTo.pos {π ρ : Type} [Record ρ] {t : Table ρ} {parents : Table π}
    (h : t.BelongTo parents) {id : Int} {row : Row ρ} (hrow : t.row? id = some row) {parent : Int}
    (hparent : Record.scope row.value = some parent) : 0 < parent := by
  obtain ⟨_, hfound, hthere⟩ := h id _ (Table.view_of_row? hrow)
  cases hparent.symm.trans hfound
  obtain ⟨above, habove⟩ := Table.contains_iff.1 hthere
  exact (Table.bounds_of_row? habove).1

/-- **Stored records are valid.**  Whatever the calls were, names, texts and URLs of stored records
    have something in them and no blanks around it, times are not negative, types and colours are
    known ones, calendars, parents and cases have positive ids, URLs pass the check of URLs as they
    are, and comments and links hold nothing that is for answers only. -/
theorem Reachable.valid {s : Tables} (h : Reachable s) : s.All fun service => service.Valid := by
  intro service id row hrow
  have htidy := h.tidy service id row hrow
  have hattached := ServiceName.lasting_attached.reachable h service id row hrow
  cases service with
  | slas =>
    refine ⟨Text.isTrimmed_of_text htidy.name, (Require.duration_eq_ok.1 htidy.reactionTime).2,
      (Require.duration_eq_ok.1 htidy.resolutionTime).2, fun c hc => ?_⟩
    have hcalendar : row.value.calendar.filter (0 < ·.id) = row.value.calendar := htidy.calendar
    rw [hc] at hcalendar
    simpa using (Option.filter_eq_some_iff.1 hcalendar).2
  | slaConditions =>
    exact ⟨Text.isTrimmed_of_text htidy.name, (Require.duration_eq_ok.1 htidy.reactionTime).2,
      (Require.duration_eq_ok.1 htidy.resolutionTime).2, h.rooted.slaConditions.pos hrow rfl⟩
  | closeReasons | statuses => exact Text.isTrimmed_of_text htidy
  | reasons => exact ⟨Text.isTrimmed_of_text htidy, h.rooted.reasons.pos hrow rfl⟩
  | sources =>
    exact ⟨Text.isTrimmed_of_text htidy.name, (Sources.requireType_eq_ok.1 htidy.sourceType).2⟩
  | statusConditions =>
    exact ⟨Text.isTrimmed_of_text htidy, h.rooted.statusConditions.pos hrow rfl⟩
  | priorities =>
    exact ⟨Text.isTrimmed_of_text htidy.name,
      Priorities.isCapitalColor_of_requireColor htidy.color⟩
  | caseComments => exact ⟨hattached, Text.isTrimmed_of_text htidy⟩
  | caseLinks =>
    exact ⟨hattached, Text.isTrimmed_of_text htidy.name,
      Text.isTrimmed_of_text (CaseLinks.requireUrl_eq_ok.1 htidy.url).1, htidy.url⟩

/-- A link is attached to a case without a name. -/
def unnamedLink : Run := [.bySuperuser (.caseLinks (.create ⟨"1", some ⟨" ", " git:/a"⟩⟩))]

theorem unnamedLink_valid : ∃ row, (unnamedLink.before 1).links.row? 1 = some row ∧
    row.value.name = "git:/a" ∧ row.value.Valid := by
  have hname : ((unnamedLink.before 1).links.row? 1).map (·.value.name) = some "git:/a" := by
    decide +kernel
  obtain ⟨row, hrow, hname⟩ := Option.map_eq_some_iff.1 hname
  exact ⟨row, hrow, hname, (unnamedLink.reachable_before 1).valid .caseLinks 1 row hrow⟩

end CaseDesk
