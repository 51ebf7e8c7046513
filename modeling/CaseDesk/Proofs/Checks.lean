/-
  Checks leave their own results as they are.

  The checks of inputs tidy up what they accept: blanks around texts go, and
  colours get capital digits.  What a check returns it accepts again, and leaves
  it as it is.

  * `Require.Stable`: a check leaves its own results as they are.
  * `Require.Stable.masked`: so does a check under a mask, if what the mask
    keeps was a result of it.
-/
import CaseDesk.Proofs.Outcomes
import CaseDesk.Proofs.Tags
import CaseDesk.Service.CaseLinks
import CaseDesk.Service.Priorities
import CaseDesk.Service.Sources
import Mathlib.Data.List.DropRight

namespace CaseDesk

/-! ## Texts -/

namespace Text

/-- Cutting blanks off the end leaves the first character alone. -/
theorem trimStart_trimChars (cs : List Char) : trimStart (trimChars cs) = trimChars cs := by
  refine List.dropWhile_eq_self_iff.2 fun hpos => ?_
  have hfront : trimChars cs <+: trimStart cs := List.rdropWhile_prefix isBlank _
  have hfirst := List.dropWhile_get_zero_not isBlank cs (hpos.trans_le hfront.length_le)
  rw [hfront.getElem hpos]
  exact hfirst

/-- What is left of a text has no blanks at its ends. -/
theorem trimChars_trimChars (cs : List Char) : trimChars (trimChars cs) = trimChars cs := by
  have hend : trimEnd (trimChars cs) = trimChars cs := List.rdropWhile_idempotent isBlank _
  rw [trimChars, trimStart_trimChars, hend]

theorem trim_trim (s : String) : trim (trim s) = trim s := by
  simp only [trim, String.toList_ofList, trimChars_trimChars]

end Text

/-! ## Checks -/

namespace Require

variable {α : Type}

/-- What a check returns it accepts again, and leaves it as it is. -/
def Stable (check : α → Except ServiceError α) : Prop :=
  ∀ raw value, check raw = .ok value → check value = .ok value

theorem input_eq_ok {given : Option α} {a : α} : input given = .ok a ↔ given = some a := by
  cases given <;> simp [input]

theorem text_eq_ok {field raw value : String} :
    text field raw = .ok value ↔ Text.trim raw = value ∧ value ≠ "" := by
  by_cases h : Text.trim raw = ""
  · simp only [text, h, if_true, reduceCtorEq, false_iff, not_and, not_not]
    exact fun hv => hv.symm
  · simp only [text, h, if_false, Except.ok.injEq]
    exact ⟨fun hv => ⟨hv, hv ▸ h⟩, And.left⟩

theorem stable_text (field : String) : Stable (text field) := fun raw value h => by
  obtain ⟨rfl, hsome⟩ := text_eq_ok.1 h
  exact text_eq_ok.2 ⟨Text.trim_trim raw, hsome⟩

theorem duration_eq_ok {field : String} {millis value : Int} :
    duration field millis = .ok value ↔ value = millis ∧ 0 ≤ millis := by
  unfold duration
  split_ifs with h <;> simp [h, eq_comm]

theorem stable_duration (field : String) : Stable (duration field) := fun raw value h => by
  obtain ⟨rfl, -⟩ := duration_eq_ok.1 h
  exact h

theorem selects_full (field : String) : FieldMask.full.selects field = true := rfl

/-- A full mask takes all of an input. -/
theorem masked_full {new : Except ServiceError α} {value : α} (h : new = .ok value)
    (field : String) (old : α) : masked .full field new old = .ok value := by
  rw [masked, if_pos (selects_full field), h]

/-- A field under a mask holds what the check leaves as it is, if it did before or is selected. -/
theorem Stable.masked {check : α → Except ServiceError α} (h : Stable check) {mask : FieldMask}
    {field : String} {raw old new : α} (hnew : masked mask field (check raw) old = .ok new)
    (hold : mask = .full ∨ check old = .ok old) : check new = .ok new := by
  unfold Require.masked at hnew
  split_ifs at hnew with hmask
  · exact h _ _ hnew
  · rcases hold with rfl | hold
    · exact absurd rfl hmask
    · cases hnew
      exact hold

/-- The same for a value that is tidied up without a check. -/
theorem replaced_tidied {tidy : α → α} (htidy : ∀ a, tidy (tidy a) = tidy a) {mask : FieldMask}
    {field : String} {raw old : α} (hold : mask = .full ∨ tidy old = old) :
    tidy (replaced mask field (tidy raw) old) = replaced mask field (tidy raw) old := by
  unfold replaced
  split_ifs with hmask
  · exact htidy raw
  · rcases hold with rfl | hold
    · exact absurd rfl hmask
    · exact hold

end Require

namespace Sources

/-- The types that a source can have are numbered from one to six. -/
theorem SourceType.isSome_ofNumber? {number : Int} :
    (SourceType.ofNumber? number).isSome = true ↔ 1 ≤ number ∧ number ≤ 6 := by
  unfold SourceType.ofNumber?
  split
  case h_7 =>
    simp only [imp_false] at *
    exact ⟨nofun, fun h => by omega⟩
  all_goals decide

theorem requireType_eq_ok {number value : Int} :
    requireType number = .ok value ↔ value = number ∧ 1 ≤ number ∧ number ≤ 6 := by
  unfold requireType
  rw [← SourceType.isSome_ofNumber?]
  split_ifs with hnone
  · subst hnone
    exact ⟨nofun, fun h => nomatch h.2⟩
  · cases SourceType.ofNumber? number <;> simp [eq_comm]

theorem stable_requireType : Require.Stable requireType := fun raw value h => by
  obtain ⟨rfl, -⟩ := requireType_eq_ok.1 h
  exact h

end Sources

namespace Priorities

theorem toNat_lt_of_isHexDigit {c : Char} (h : isHexDigit c = true) : c.toNat < 128 := by
  simp only [isHexDigit, Bool.or_eq_true, Bool.and_eq_true, decide_eq_true_eq, Char.le_def,
    UInt32.le_iff_toNat_le] at h
  change c.val.toNat < 128
  rcases h with (h | h) | h <;> exact Nat.lt_of_le_of_lt h.2 (by decide)

/-- Capital letters of hexadecimal digits are such digits, and stay as they are. -/
theorem toUpper_hexDigit {c : Char} (h : isHexDigit c = true) :
    isHexDigit c.toUpper = true ∧ c.toUpper.toUpper = c.toUpper ∧
      Text.isBlank c.toUpper = false := by
  have hall : ∀ n < 128, isHexDigit (Char.ofNat n) = true →
      isHexDigit (Char.ofNat n).toUpper = true ∧
        (Char.ofNat n).toUpper.toUpper = (Char.ofNat n).toUpper ∧
        Text.isBlank (Char.ofNat n).toUpper = false := by decide +kernel
  have hlt := toNat_lt_of_isHexDigit h
  rw [← Char.ofNat_toNat c] at h ⊢
  exact hall c.toNat hlt h

/-- A colour with capital digits is a colour, has no blanks and stays as it is. -/
theorem upper_isColor {cs : List Char} (h : isColor cs = true) :
    isColor (cs.map Char.toUpper) = true ∧
      (cs.map Char.toUpper).map Char.toUpper = cs.map Char.toUpper ∧
      ∀ c ∈ cs.map Char.toUpper, Text.isBlank c = false := by
  unfold isColor at h
  split at h
  case h_2 => cases h
  case h_1 digits =>
    obtain ⟨hlength, hdigits⟩ := Bool.and_eq_true_iff.1 h
    have hdigit : ∀ c ∈ digits, _ := fun c hc => toUpper_hexDigit (List.all_eq_true.1 hdigits c hc)
    have hupper : ∀ c ∈ digits.map Char.toUpper, isHexDigit c = true ∧ c.toUpper = c ∧
        Text.isBlank c = false := by
      intro c hc
      obtain ⟨d, hd, rfl⟩ := List.mem_map.1 hc
      exact hdigit d hd
    refine ⟨?_, ?_, ?_⟩
    · change ((digits.map Char.toUpper).length == 6 && (digits.map Char.toUpper).all isHexDigit) = _
      rw [List.length_map, hlength, List.all_eq_true.2 fun c hc => (hupper c hc).1]
      rfl
    · change '#' :: (digits.map Char.toUpper).map Char.toUpper = '#' :: digits.map Char.toUpper
      rw [List.map_congr_left fun c hc => (hupper c hc).2.1, List.map_id']
    · rintro c (_ | ⟨_, hc⟩)
      · rfl
      · exact (hupper c hc).2.2

theorem requireColor_eq (raw : String) : requireColor raw =
    if Text.trim raw = "" then .ok ""
    else if isColor (Text.trim raw).toList then
      .ok (String.ofList ((Text.trim raw).toList.map Char.toUpper))
    else .error (.colorMalformed (Text.trim raw)) := rfl

theorem requireColor_eq_ok {raw value : String} (h : requireColor raw = .ok value) :
    value = String.ofList ((Text.trim raw).toList.map Char.toUpper) := by
  rw [requireColor_eq] at h
  split_ifs at h with hnone hcolor
  · cases h
    rw [hnone]
    rfl
  · exact (Except.ok.inj h).symm

/-- A colour that is accepted is none at all, or it has capital digits and no blanks. -/
theorem isColor_of_requireColor {raw value : String} (h : requireColor raw = .ok value) :
    value = "" ∨ (isColor value.toList = true ∧ value.toList.map Char.toUpper = value.toList ∧
      ∀ c ∈ value.toList, Text.isBlank c = false) := by
  rw [requireColor_eq] at h
  split_ifs at h with hnone hcolor
  · exact .inl (Except.ok.inj h).symm
  · rw [← Except.ok.inj h, String.toList_ofList]
    exact .inr (upper_isColor hcolor)

theorem stable_requireColor : Require.Stable requireColor := fun raw value h => by
  rw [requireColor_eq]
  rcases isColor_of_requireColor h with rfl | ⟨hcolor, hupper, hblank⟩
  · rfl
  · have htrim : Text.trim value = value := by
      rw [← String.ofList_toList (s := value)]
      exact Text.trim_of_no_blank hblank
    have hsome : value ≠ "" := by
      rintro rfl
      cases hcolor
    rw [htrim, if_neg hsome, if_pos hcolor, hupper, String.ofList_toList]

end Priorities

namespace CaseLinks

theorem requireUrl_eq_ok {raw text : String} :
    requireUrl raw = .ok text ↔ Require.text "url" raw = .ok text ∧
      ∃ url, Url.parse text.toList = .ok url ∧ url.hierarchical = true := by
  unfold requireUrl
  rw [bind_eq_ok]
  constructor
  · rintro ⟨text, htext, h⟩
    split at h
    · cases h
    · next url hurl =>
      split_ifs at h with hhierarchical
      cases h
      exact ⟨htext, url, hurl, hhierarchical⟩
  · rintro ⟨htext, url, hurl, hhierarchical⟩
    exact ⟨text, htext, by rw [hurl]; exact if_pos hhierarchical⟩

theorem stable_requireUrl : Require.Stable requireUrl := fun raw value h => by
  obtain ⟨htext, hurl⟩ := requireUrl_eq_ok.1 h
  exact requireUrl_eq_ok.2 ⟨Require.stable_text _ _ _ htext, hurl⟩

end CaseLinks

end CaseDesk
