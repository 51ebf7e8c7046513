/-
  What is left of a record that is cut down to named fields.

  The id is left, and of the other fields those that are named, unless they are
  filled in for answers only; all others go back to their defaults.

  * `ServiceName.answerOnly`: the fields that are filled in for answers only.
  * `ServiceName.get_copyField`: copying a named field, seen through every field.
  * `ServiceName.get_project`: a record that is cut down, field by field.
  * `ServiceName.projection`: only the set of names matters, a second cut leaves
    what both name, and all names together leave a stored record as it is.
-/
import CaseDesk.Proofs.Authors
import CaseDesk.Proofs.Messages
import CaseDesk.Proofs.Validity
import Mathlib.Data.List.Nodup
import Mathlib.Data.List.Pairwise

namespace CaseDesk

/-! ## Records of services -/

namespace ServiceName

variable (service : ServiceName)

/-- The fields of the records of a service. -/
abbrev fields : List (Field service.Kept) := (Record.schema (ρ := service.Kept)).fields

/-- The names of all fields of the records of a service. -/
abbrev schemaNames : List String := service.fields.map (·.name)

/-- The names of the fields that are filled in for answers only. -/
def answerOnly : ServiceName → List String
  | caseComments => ["ver", "etag", "can_edit"]
  | caseLinks => ["ver", "etag"]
  | _ => []

theorem schemaNames_nodup : service.schemaNames.Nodup := by
  cases service <;> decide

theorem determines :
    Schema.Determines (Record.schema (ρ := service.Kept)).blank service.fields := by
  cases service with
  | slas => exact (Sla.faithful 0).fields
  | slaConditions => exact (SlaCondition.faithful 0).fields
  | closeReasons => exact (CloseReason.faithful 0).fields
  | reasons => exact (Reason.faithful 0).fields
  | sources => exact (Source.faithful 0).fields
  | statuses => exact (CaseStatus.faithful 0).fields
  | statusConditions => exact (StatusCondition.faithful 0).fields
  | priorities => exact (Priority.faithful 0).fields
  | caseComments => exact (CaseComment.faithful 0).fields
  | caseLinks => exact (CaseLink.faithful 0).fields

variable {service} {f : Field service.Kept}

/-- Answers can be cut down to every field but the id, which they hold anyway, and those that are
    filled in for answers. -/
theorem mem_copies_iff (hf : f ∈ service.fields) :
    f.name ∈ (Record.copies service.Kept).map Prod.fst ↔
      f.name ≠ "id" ∧ f.name ∉ service.answerOnly := by
  revert f
  cases service <;> decide

/-! ## Copying fields -/

/-- A name copies the field that it names, if answers can be cut down to it, and no other. -/
theorem get_copyField (hf : f ∈ service.fields) (source target : service.Kept) (name : String) :
    f.lens.get (Record.copyField source target name) =
      if f.name = name ∧ f.name ≠ "id" ∧ f.name ∉ service.answerOnly then f.lens.get source
      else f.lens.get target := by
  rcases copyField_cases source target name with ⟨hnone, hcopy⟩ | ⟨hcopied, g, hg, rfl, hcopy⟩
  · have hother : ¬ (f.name = name ∧ f.name ≠ "id" ∧ f.name ∉ service.answerOnly) := by
      rintro ⟨rfl, hkept⟩
      exact hnone ((mem_copies_iff hf).2 hkept)
    rw [hcopy, if_neg hother]
  rw [hcopy]
  by_cases hname : f.name = g.name
  · cases List.inj_on_of_nodup_map service.schemaNames_nodup hf hg hname
    rw [if_pos ⟨rfl, (mem_copies_iff hf).1 hcopied⟩]
    exact f.lens.get_set _ _
  · have : Std.Symm fun f g : Field service.Kept => f.lens.Apart g.lens := ⟨fun _ _ h => h.symm⟩
    have hne : g ≠ f := fun h => hname (congrArg Field.name h).symm
    have hgf : g.lens.Apart f.lens := List.Pairwise.forall service.determines.apart hg hf hne
    rw [if_neg (not_and_of_not_left _ hname)]
    exact hgf.left _ _

/-- Copying several fields. -/
theorem get_foldl_copyField (hf : f ∈ service.fields) (source target : service.Kept)
    (names : List String) :
    f.lens.get (names.foldl (Record.copyField source) target) =
      if f.name ∈ names ∧ f.name ≠ "id" ∧ f.name ∉ service.answerOnly then f.lens.get source
      else f.lens.get target := by
  induction names generalizing target with
  | nil => simp
  | cons name names ih =>
    rw [List.foldl_cons, ih, get_copyField hf, ← ite_or]
    refine if_congr ?_ rfl rfl
    rw [List.mem_cons]
    tauto

/-! ## Cut records -/

/-- The blank record under the id of another. -/
theorem get_withId_blank (hf : f ∈ service.fields) (r : service.Kept) :
    f.lens.get (Record.withId (Record.idOf r) Record.schema.blank) =
      if f.name = "id" then f.lens.get r else f.form.zero := by
  -- field by field: the name tells the id from the others
  cases service <;> repeat (rcases hf with _ | ⟨_, hf⟩; · rfl)
  all_goals cases hf

/-- A record that is cut down to names, field by field. -/
theorem get_project (hf : f ∈ service.fields) (r : service.Kept) {names : List String}
    (hnames : names ≠ []) :
    f.lens.get (Record.project names r) =
      if f.name = "id" ∨ (f.name ∈ names ∧ f.name ∉ service.answerOnly) then f.lens.get r
      else f.form.zero := by
  rw [Record.project, if_neg (by simpa using hnames), get_foldl_copyField hf, get_withId_blank hf,
    ← ite_or]
  refine if_congr ?_ rfl rfl
  tauto

/-- A record that holds nothing for answers only has the defaults in the fields for them. -/
theorem Attached.get_answerOnly {r : service.Kept} (h : service.Attached r)
    (hf : f ∈ service.fields) (hname : f.name ∈ service.answerOnly) :
    f.lens.get r = f.form.zero := by
  cases service with
  | caseComments =>
    have hall : ∀ f ∈ CaseComment.schema.fields, f.name ∈ ["ver", "etag", "can_edit"] →
        f.lens.get r = f.form.zero := by
      simp [CaseComment.schema, Audit.fields, Field.of, Field.within, h.ver, h.etag, h.canEdit]
    exact hall f hf hname
  | caseLinks =>
    have hall : ∀ f ∈ CaseLink.schema.fields, f.name ∈ ["ver", "etag"] →
        f.lens.get r = f.form.zero := by
      simp [CaseLink.schema, Audit.fields, Field.of, Field.within, h.ver, h.etag]
    exact hall f hf hname
  | slas | slaConditions | closeReasons | reasons | sources | statuses | statusConditions
  | priorities => cases hname

theorem project_congr {F G : List String} (hF : F ≠ []) (hG : G ≠ [])
    (h : ∀ name ∈ service.schemaNames, name ∉ "id" :: service.answerOnly →
      (name ∈ F ↔ name ∈ G)) (r : service.Kept) : Record.project F r = Record.project G r := by
  refine service.determines.ext _ _ fun f hf => ?_
  have hname := h f.name (List.mem_map_of_mem hf)
  have hsame : (f.name = "id" ∨ f.name ∈ F ∧ f.name ∉ service.answerOnly) ↔
      (f.name = "id" ∨ f.name ∈ G ∧ f.name ∉ service.answerOnly) := by
    rw [List.mem_cons] at hname
    tauto
  rw [get_project hf r hF, get_project hf r hG, if_congr hsame rfl rfl]

theorem project_project {F G : List String} (h : ∃ name ∈ F, name ∈ G) (r : service.Kept) :
    Record.project G (Record.project F r) = Record.project (F.filter (· ∈ G)) r := by
  obtain ⟨name, hF, hG⟩ := h
  have hboth : F.filter (· ∈ G) ≠ [] :=
    List.ne_nil_of_mem (List.mem_filter.2 ⟨hF, decide_eq_true hG⟩)
  refine service.determines.ext _ _ fun f hf => ?_
  rw [get_project hf _ (List.ne_nil_of_mem hG), get_project hf _ (List.ne_nil_of_mem hF),
    get_project hf _ hboth, ← ite_and]
  refine if_congr ?_ rfl rfl
  rw [List.mem_filter, decide_eq_true_eq]
  tauto

theorem project_all {r : service.Kept} (h : service.Attached r) :
    Record.project service.schemaNames r = r := by
  have hnames : service.schemaNames ≠ [] := by cases service <;> nofun
  refine service.determines.ext _ _ fun f hf => ?_
  rw [get_project hf r hnames]
  split_ifs with hkept
  · rfl
  · have hanswer : f.name ∈ service.answerOnly := by
      by_contra hstored
      exact hkept (.inr ⟨List.mem_map_of_mem hf, hstored⟩)
    exact (h.get_answerOnly hf hanswer).symm

/-- **What is left of a record that is cut down to names.**  Of the records of all ten services the
    id is left, and each other field that is named and not filled in for answers only; the others
    have their defaults.  So only the set of the names of such fields matters.  A second cut leaves
    what a single cut to the names in both leaves, if there are any.  Named with all its fields, or
    with none, a stored record is left as it is. -/
theorem projection (service : ServiceName) :
    (∀ (r : service.Kept) (F : List String), F ≠ [] → ∀ f ∈ service.fields,
      f.lens.get (Record.project F r) =
        if f.name = "id" ∨ (f.name ∈ F ∧ f.name ∉ service.answerOnly) then f.lens.get r
        else f.form.zero) ∧
    (∀ (r : service.Kept) (F G : List String), F ≠ [] → G ≠ [] →
      (∀ name ∈ service.schemaNames, name ∉ "id" :: service.answerOnly →
        (name ∈ F ↔ name ∈ G)) → Record.project F r = Record.project G r) ∧
    (∀ (r : service.Kept) (F G : List String), (∃ name ∈ F, name ∈ G) →
      Record.project G (Record.project F r) = Record.project (F.filter (· ∈ G)) r) ∧
    ∀ s : Tables, Reachable s → ∀ (id : Int) (row : Row service.Kept),
      (service.shelf.get s).row? id = some row →
        Record.project service.schemaNames row.value = row.value ∧
          Record.project [] row.value = row.value :=
  ⟨fun r _ hF _ hf => get_project hf r hF, fun r _ _ hF hG h => project_congr hF hG h r,
    fun r _ _ h => project_project h r,
    fun _ hs id row hrow => ⟨project_all (lasting_attached.reachable hs service id row hrow), rfl⟩⟩

/-- Named with all its fields, the comment of `publishedComment` is left as it is.  Order, repeats
    and unknown names do not matter, and of two cuts only what both name is left. -/
theorem publishedComment_projection :
    ∃ row : Row CaseComment, (publishedComment.before 1).comments.row? 1 = some row ∧
      Record.project caseComments.schemaNames row.value = row.value ∧
      (∀ f ∈ caseComments.fields, f.name = "text" →
        f.lens.get (Record.project ["text"] row.value) = f.lens.get row.value) ∧
      Record.project ["case_id", "colour", "text"] row.value =
        Record.project ["text", "case_id", "text"] row.value ∧
      Record.project ["text", "author"] (Record.project ["case_id", "text"] row.value) =
        Record.project ["text"] row.value := by
  obtain ⟨row, hrow⟩ : ∃ row, (publishedComment.before 1).comments.row? 1 = some row := ⟨_, rfl⟩
  obtain ⟨hfields, hnames, htwice, hstored⟩ := projection .caseComments
  refine ⟨row, hrow, (hstored _ (publishedComment.reachable_before 1) 1 row hrow).1, ?_,
    hnames _ _ _ nofun nofun (by decide), htwice _ _ _ ⟨"text", by decide, by decide⟩⟩
  intro f hf hname
  rw [hfields _ ["text"] nofun f hf, hname, if_pos (.inr ⟨List.mem_cons_self, by decide⟩)]

-- a name that no field has leaves nothing but the id, where no names at all leave everything
example : Record.project ["colour"] ({ id := 3, name := "gold" } : Sla) = { id := 3 } := by decide

end ServiceName

end CaseDesk
