/-
  Messages survive the wire.

  * `Lookup.faithful`, `Sla.faithful`, …: the schemas of records and inputs.
  * `PartSchema.Faithful`: the parts that requests are put together from.
  * `ListRequest.faithful`, …: the schemas of requests and replies.
  * `MessageType.faithful`: every schema of the catalogue is faithful.
  * `MessageType.read_back`: every message that the format can hold is read
    back from its bytes, and no other message has the same bytes.
-/
import CaseDesk.Proofs.Schemas
import CaseDesk.Service.Catalogue

namespace CaseDesk

open Schema

-- in this module fields open up to their parts, and parts to what they read and replace
attribute [local simp] Field.of Field.labelled Field.within Lens.Apart.iff AllApart

/-! ## Records and inputs -/

theorem Lookup.faithful (depth : Nat) : Lookup.schema.Faithful depth where
  few := by decide
  forms := by simp [Lookup.schema]
  fields := by
    refine ⟨by simp [Lookup.schema], by simp [Lookup.schema], ?_⟩
    rintro ⟨_, _⟩ ⟨_, _⟩
    simp [Lookup.schema]

@[simp] theorem Lookup.single_faithful (depth : Nat) : Lookup.schema.single.Faithful (depth + 1) :=
  (Lookup.faithful depth).single

@[simp] theorem Lookup.many_faithful (depth : Nat) : Lookup.schema.many.Faithful (depth + 1) :=
  (Lookup.faithful depth).many

theorem Audit.determines : Determines {} Audit.fields := by
  refine ⟨by simp [Audit.fields], by simp [Audit.fields], ?_⟩
  rintro ⟨_, _⟩ ⟨_, _⟩
  simp [Audit.fields]

theorem Sla.faithful (depth : Nat) : Sla.schema.Faithful (depth + 1) where
  few := by decide
  forms := by simp [Sla.schema, Audit.fields]
  fields := by
    refine Audit.determines.ending (by simp [Sla.schema]) (by simp) (by simp [Sla.auditLens]) ?_
    rintro ⟨_, _⟩ ⟨_, _⟩
    simp +contextual [Sla.auditLens]

theorem SlaInput.faithful (depth : Nat) : SlaInput.schema.Faithful (depth + 1) where
  few := by decide
  forms := by simp [SlaInput.schema]
  fields := by
    refine ⟨by simp [SlaInput.schema], by simp [SlaInput.schema], ?_⟩
    rintro ⟨_, _⟩ ⟨_, _⟩
    simp [SlaInput.schema]

theorem SlaCondition.faithful (depth : Nat) : SlaCondition.schema.Faithful (depth + 1) where
  few := by decide
  forms := by simp [SlaCondition.schema, Audit.fields]
  fields := by
    refine Audit.determines.ending (by simp [SlaCondition.schema]) (by simp)
      (by simp [SlaCondition.auditLens]) ?_
    rintro ⟨_, _⟩ ⟨_, _⟩
    simp +contextual [SlaCondition.auditLens]

theorem SlaConditionInput.faithful (depth : Nat) :
    SlaConditionInput.schema.Faithful (depth + 1) where
  few := by decide
  forms := by simp [SlaConditionInput.schema]
  fields := by
    refine ⟨by simp [SlaConditionInput.schema], by simp [SlaConditionInput.schema], ?_⟩
    rintro ⟨_, _⟩ ⟨_, _⟩
    simp [SlaConditionInput.schema]

theorem CloseReason.faithful (depth : Nat) : CloseReason.schema.Faithful (depth + 1) where
  few := by decide
  forms := by simp [CloseReason.schema, Audit.fields]
  fields := by
    refine Audit.determines.ending (by simp [CloseReason.schema]) (by simp)
      (by simp [CloseReason.auditLens]) ?_
    rintro ⟨_, _⟩ ⟨_, _⟩
    simp +contextual [CloseReason.auditLens]

theorem CloseReasonInput.faithful (depth : Nat) : CloseReasonInput.schema.Faithful (depth + 1) where
  few := by decide
  forms := by simp [CloseReasonInput.schema]
  fields := by
    refine ⟨by simp [CloseReasonInput.schema], by simp [CloseReasonInput.schema], ?_⟩
    rintro ⟨_, _⟩ ⟨_, _⟩
    simp [CloseReasonInput.schema]

theorem Reason.faithful (depth : Nat) : Reason.schema.Faithful (depth + 1) where
  few := by decide
  forms := by simp [Reason.schema, Audit.fields]
  fields := by
    refine Audit.determines.ending (by simp [Reason.schema]) (by simp)
      (by simp [Reason.auditLens]) ?_
    rintro ⟨_, _⟩ ⟨_, _⟩
    simp +contextual [Reason.auditLens]

theorem ReasonInput.faithful (depth : Nat) : ReasonInput.schema.Faithful (depth + 1) where
  few := by decide
  forms := by simp [ReasonInput.schema]
  fields := by
    refine ⟨by simp [ReasonInput.schema], by simp [ReasonInput.schema], ?_⟩
    rintro ⟨_, _⟩ ⟨_, _⟩
    simp [ReasonInput.schema]

theorem Source.faithful (depth : Nat) : Source.schema.Faithful (depth + 1) where
  few := by decide
  forms := by simp [Source.schema, Audit.fields]
  fields := by
    refine Audit.determines.ending (by simp [Source.schema]) (by simp)
      (by simp [Source.auditLens]) ?_
    rintro ⟨_, _⟩ ⟨_, _⟩
    simp +contextual [Source.auditLens]

theorem SourceInput.faithful (depth : Nat) : SourceInput.schema.Faithful (depth + 1) where
  few := by decide
  forms := by simp [SourceInput.schema]
  fields := by
    refine ⟨by simp [SourceInput.schema], by simp [SourceInput.schema], ?_⟩
    rintro ⟨_, _⟩ ⟨_, _⟩
    simp [SourceInput.schema]

theorem CaseStatus.faithful (depth : Nat) : CaseStatus.schema.Faithful (depth + 1) where
  few := by decide
  forms := by simp [CaseStatus.schema, Audit.fields]
  fields := by
    refine Audit.determines.ending (by simp [CaseStatus.schema]) (by simp)
      (by simp [CaseStatus.auditLens]) ?_
    rintro ⟨_, _⟩ ⟨_, _⟩
    simp +contextual [CaseStatus.auditLens]

theorem CaseStatusInput.faithful (depth : Nat) : CaseStatusInput.schema.Faithful (depth + 1) where
  few := by decide
  forms := by simp [CaseStatusInput.schema]
  fields := by
    refine ⟨by simp [CaseStatusInput.schema], by simp [CaseStatusInput.schema], ?_⟩
    rintro ⟨_, _⟩ ⟨_, _⟩
    simp [CaseStatusInput.schema]

theorem StatusCondition.faithful (depth : Nat) : StatusCondition.schema.Faithful (depth + 1) where
  few := by decide
  forms := by simp [StatusCondition.schema, Audit.fields]
  fields := by
    refine Audit.determines.ending (by simp [StatusCondition.schema]) (by simp)
      (by simp [StatusCondition.auditLens]) ?_
    rintro ⟨_, _⟩ ⟨_, _⟩
    simp +contextual [StatusCondition.auditLens]

theorem StatusConditionInput.faithful (depth : Nat) :
    StatusConditionInput.schema.Faithful (depth + 1) where
  few := by decide
  forms := by simp [StatusConditionInput.schema]
  fields := by
    refine ⟨by simp [StatusConditionInput.schema], by simp [StatusConditionInput.schema], ?_⟩
    rintro ⟨_, _⟩ ⟨_, _⟩
    simp [StatusConditionInput.schema]

theorem Priority.faithful (depth : Nat) : Priority.schema.Faithful (depth + 1) where
  few := by decide
  forms := by simp [Priority.schema, Audit.fields]
  fields := by
    refine Audit.determines.ending (by simp [Priority.schema]) (by simp)
      (by simp [Priority.auditLens]) ?_
    rintro ⟨_, _⟩ ⟨_, _⟩
    simp +contextual [Priority.auditLens]

theorem PriorityInput.faithful (depth : Nat) : PriorityInput.schema.Faithful (depth + 1) where
  few := by decide
  forms := by simp [PriorityInput.schema]
  fields := by
    refine ⟨by simp [PriorityInput.schema], by simp [PriorityInput.schema], ?_⟩
    rintro ⟨_, _⟩ ⟨_, _⟩
    simp [PriorityInput.schema]

theorem CaseComment.faithful (depth : Nat) : CaseComment.schema.Faithful (depth + 1) where
  few := by decide
  forms := by simp [CaseComment.schema, Audit.fields]
  fields := by
    refine Audit.determines.around (by simp [CaseComment.schema]) (by simp)
      (by simp [CaseComment.auditLens]) ?_
    rintro ⟨_, _⟩ ⟨_, _⟩
    simp +contextual [CaseComment.auditLens]

theorem CaseCommentInput.faithful (depth : Nat) : CaseCommentInput.schema.Faithful (depth + 1) where
  few := by decide
  forms := by simp [CaseCommentInput.schema]
  fields := by
    refine ⟨by simp [CaseCommentInput.schema], by simp [CaseCommentInput.schema], ?_⟩
    rintro ⟨_, _⟩ ⟨_, _⟩
    simp [CaseCommentInput.schema]

theorem CaseLink.faithful (depth : Nat) : CaseLink.schema.Faithful (depth + 1) where
  few := by decide
  forms := by simp [CaseLink.schema, Audit.fields]
  fields := by
    refine Audit.determines.around (by simp [CaseLink.schema]) (by simp)
      (by simp [CaseLink.auditLens]) ?_
    rintro ⟨_, _⟩ ⟨_, _⟩
    simp +contextual [CaseLink.auditLens]

theorem CaseLinkInput.faithful (depth : Nat) : CaseLinkInput.schema.Faithful (depth + 1) where
  few := by decide
  forms := by simp [CaseLinkInput.schema]
  fields := by
    refine ⟨by simp [CaseLinkInput.schema], by simp [CaseLinkInput.schema], ?_⟩
    rintro ⟨_, _⟩ ⟨_, _⟩
    simp [CaseLinkInput.schema]

/-! ## Parts of requests -/

variable {P F K I ρ σ : Type}

/-- What a part of a request needs for the request to be read back. -/
structure PartSchema.Faithful (p : PartSchema σ) : Prop where
  few : p.fields.length ≤ 2
  forms : ∀ f ∈ p.fields, ∀ depth, f.form.Faithful depth
  fields : Determines p.blank p.fields

namespace PartSchema

theorem none_faithful : PartSchema.none.Faithful where
  few := by decide
  forms := nofun
  fields := ⟨nofun, .nil, fun _ _ _ => rfl⟩

/-- A part that is a single value. -/
theorem faithful_of_whole {form : WireForm σ} (hform : ∀ depth, form.Faithful depth)
    (name label : String) :
    PartSchema.Faithful ⟨form.zero, [{ name, lens := .whole, form, label }]⟩ where
  few := by simp
  forms := List.forall_mem_singleton.2 hform
  fields := {
    blank := List.forall_mem_singleton.2 rfl
    apart := List.pairwise_singleton _ _
    ext := fun _ _ h => h _ List.mem_cons_self }

theorem id_faithful (name : String) : (PartSchema.id name).Faithful :=
  faithful_of_whole WireForm.int64_faithful name name

theorem text_faithful (name : String) : (PartSchema.text name).Faithful :=
  faithful_of_whole WireForm.text_faithful name name

end PartSchema

theorem ChildKey.part_faithful (parent : String) : (ChildKey.part parent).Faithful where
  few := by simp [ChildKey.part]
  forms := by simp [ChildKey.part]
  fields := by
    refine ⟨by simp [ChildKey.part], by simp [ChildKey.part], ?_⟩
    rintro ⟨_, _⟩ ⟨_, _⟩
    simp [ChildKey.part]

theorem CaseLinks.part_faithful : CaseLinks.LinkKey.part.Faithful where
  few := by decide
  forms := by simp [CaseLinks.LinkKey.part]
  fields := by
    refine ⟨by simp [CaseLinks.LinkKey.part], by simp [CaseLinks.LinkKey.part], ?_⟩
    rintro ⟨_, _⟩ ⟨_, _⟩
    simp [CaseLinks.LinkKey.part]

theorem Sources.typeFilter_faithful : Sources.typeFilter.Faithful :=
  PartSchema.faithful_of_whole WireForm.int32s_faithful "type" "r#type"

/-! ## Requests and replies -/

variable {place : PartSchema P} {filter : PartSchema F} {key : PartSchema K} {depth : Nat}

theorem ListRequest.faithful (hplace : place.Faithful) (hfilter : filter.Faithful) (name : String)
    (depth : Nat) : (ListRequest.schema name place filter).Faithful depth where
  few := by
    have := hplace.few
    have := hfilter.few
    simp [ListRequest.schema]
    omega
  forms := by
    simp only [ListRequest.schema, List.forall_mem_append, List.forall_mem_map]
    exact ⟨⟨fun f hf => hplace.forms f hf depth, by simp⟩, fun f hf => hfilter.forms f hf depth⟩
  fields := by
    refine hfilter.fields.ending ?_ ?_ ?_ ?_
    · rw [List.forall_mem_append, List.forall_mem_map]
      exact ⟨hplace.fields.blank, by simp [ListRequest.schema]⟩
    · refine List.pairwise_append.2 ⟨hplace.fields.apart.within _, by simp, ?_⟩
      exact fun f hf g hg => apart_within (by revert g; simp) _ f hf
    · rw [List.forall_mem_append]
      exact ⟨fun f hf => (apart_within (by simp) _ f hf).symm, by simp⟩
    · rintro ⟨_, _⟩ ⟨_, _⟩ hlast hfields
      rw [List.forall_mem_append, List.forall_mem_map] at hfields
      have hfirst := hplace.fields.ext _ _ hfields.1
      simp_all

/-- A request that starts with a part. -/
theorem PartSchema.Faithful.starting {p : PartSchema σ} (h : p.Faithful) (name : String) {blank : ρ}
    {part : Lens ρ σ} (hpart : part.get blank = p.blank) {after : List (Field ρ)}
    (hfew : after.length ≤ 2) (hforms : ∀ f ∈ after, f.form.Faithful depth)
    (hblank : ∀ f ∈ after, f.lens.get blank = f.form.zero) (hothers : AllApart after)
    (hapart : ∀ f ∈ after, part.Apart f.lens)
    (hext : ∀ a b, part.get a = part.get b → (∀ f ∈ after, f.lens.get a = f.lens.get b) → a = b) :
    Schema.Faithful depth ⟨name, blank, p.fields.map (·.within part) ++ after⟩ where
  few := by
    have := h.few
    simp only [List.length_append, List.length_map]
    omega
  forms := by
    simp only [List.forall_mem_append, List.forall_mem_map]
    exact ⟨fun f hf => h.forms f hf depth, hforms⟩
  fields := (hpart ▸ h.fields : Determines (part.get blank) p.fields).starting
    hblank hothers hapart hext

theorem CreateRequest.faithful {input : Schema I} (hplace : place.Faithful)
    (hinput : input.Faithful depth) (name : String) :
    (CreateRequest.schema name place input).Faithful (depth + 1) := by
  refine hplace.starting name rfl (by simp) (by simp [hinput.single]) (by simp) (by simp) (by simp) ?_
  rintro ⟨_, _⟩ ⟨_, _⟩
  simp +contextual

theorem UpdateRequest.faithful {input : Schema I} (hkey : key.Faithful)
    (hinput : input.Faithful depth) (name : String) :
    (UpdateRequest.schema name key input).Faithful (depth + 1) := by
  refine hkey.starting name rfl (by simp) (by simp [hinput.single]) (by simp) (by simp) (by simp) ?_
  rintro ⟨_, _⟩ ⟨_, _⟩
  simp +contextual

theorem LocateRequest.faithful (hkey : key.Faithful) (name : String) (depth : Nat) :
    (LocateRequest.schema name key).Faithful depth := by
  refine hkey.starting name rfl (by simp) (by simp) (by simp) (by simp) (by simp) ?_
  rintro ⟨_, _⟩ ⟨_, _⟩
  simp +contextual

theorem DeleteRequest.faithful (hkey : key.Faithful) (name : String) (depth : Nat) :
    (DeleteRequest.schema name key).Faithful depth := by
  have hparts : Schema.Faithful depth ⟨name, ({ key := key.blank } : DeleteRequest K),
      key.fields.map (·.within { get := (·.key), set := fun v _ => { key := v } }) ++ []⟩ := by
    refine hkey.starting name rfl (by simp) nofun nofun .nil nofun ?_
    rintro ⟨_⟩ ⟨_⟩
    simp
  rwa [List.append_nil] at hparts

theorem ListReply.faithful {record : Schema ρ} (hrecord : record.Faithful depth) (name : String) :
    (ListReply.schema name record).Faithful (depth + 1) where
  few := by simp [ListReply.schema]
  forms := by simp [ListReply.schema, hrecord.many]
  fields := by
    refine ⟨by simp [ListReply.schema], by simp [ListReply.schema], ?_⟩
    rintro ⟨_, _⟩ ⟨_, _⟩
    simp [ListReply.schema]

theorem LocateReply.faithful {record : Schema ρ} (hrecord : record.Faithful depth)
    (name field : String) : (LocateReply.schema name field record).Faithful (depth + 1) where
  few := by simp [LocateReply.schema]
  forms := by simp [LocateReply.schema, hrecord.single]
  fields := by
    refine ⟨by simp [LocateReply.schema], by simp [LocateReply.schema], ?_⟩
    rintro ⟨_⟩ ⟨_⟩
    simp [LocateReply.schema]

/-! ## All messages -/

namespace MessageType

theorem ofMessages_faithful {record : Schema ρ} {input : Schema I}
    (hrecord : ∀ depth, record.Faithful (depth + 1)) (hinput : ∀ depth, input.Faithful (depth + 1))
    (hplace : place.Faithful) (hfilter : filter.Faithful) (hkey : key.Faithful)
    (method : Operation → String) (located : Option String) :
    ∀ m ∈ ofMessages (Messages.of method record input place filter key located),
      m.schema.Faithful maxDepth := by
  rw [ofMessages, List.forall_mem_append]
  -- a request or reply nests a record or an input, and these nest references
  constructor
  · simp only [List.forall_mem_cons]
    exact ⟨hrecord _, hinput _, ListReply.faithful (hrecord 98) _,
      ListRequest.faithful hplace hfilter _ _, CreateRequest.faithful hplace (hinput 98) _,
      UpdateRequest.faithful hkey (hinput 98) _, DeleteRequest.faithful hkey _ _,
      LocateRequest.faithful hkey _ _, nofun⟩
  · cases located with
    | none => nofun
    | some field =>
      exact List.forall_mem_singleton.2 (LocateReply.faithful (hrecord 98) _ field)

/-- Every message type of the catalogue is faithful. -/
theorem faithful : ∀ m ∈ all, m.schema.Faithful maxDepth := by
  simp only [all, List.forall_mem_append]
  refine ⟨⟨⟨⟨⟨⟨⟨⟨⟨⟨?_, ?_⟩, ?_⟩, ?_⟩, ?_⟩, ?_⟩, ?_⟩, ?_⟩, ?_⟩, ?_⟩, ?_⟩
  · exact List.forall_mem_singleton.2 (Lookup.faithful maxDepth)
  · exact ofMessages_faithful Sla.faithful SlaInput.faithful PartSchema.none_faithful
      PartSchema.none_faithful (PartSchema.id_faithful _) _ _
  · exact ofMessages_faithful SlaCondition.faithful SlaConditionInput.faithful
      (PartSchema.id_faithful _) PartSchema.none_faithful (ChildKey.part_faithful _) _ _
  · exact ofMessages_faithful CloseReason.faithful CloseReasonInput.faithful
      PartSchema.none_faithful PartSchema.none_faithful (PartSchema.id_faithful _) _ _
  · exact ofMessages_faithful Reason.faithful ReasonInput.faithful
      (PartSchema.id_faithful _) PartSchema.none_faithful (ChildKey.part_faithful _) _ _
  · exact ofMessages_faithful Source.faithful SourceInput.faithful PartSchema.none_faithful
      Sources.typeFilter_faithful (PartSchema.id_faithful _) _ _
  · exact ofMessages_faithful CaseStatus.faithful CaseStatusInput.faithful
      PartSchema.none_faithful PartSchema.none_faithful (PartSchema.id_faithful _) _ _
  · exact ofMessages_faithful StatusCondition.faithful StatusConditionInput.faithful
      (PartSchema.id_faithful _) PartSchema.none_faithful (ChildKey.part_faithful _) _ _
  · exact ofMessages_faithful Priority.faithful PriorityInput.faithful PartSchema.none_faithful
      PartSchema.none_faithful (PartSchema.id_faithful _) _ _
  · exact ofMessages_faithful CaseComment.faithful CaseCommentInput.faithful
      (PartSchema.text_faithful _) PartSchema.none_faithful (PartSchema.text_faithful _) _ _
  · exact ofMessages_faithful CaseLink.faithful CaseLinkInput.faithful
      (PartSchema.text_faithful _) PartSchema.none_faithful CaseLinks.part_faithful _ _

/-- **Messages survive the wire.**  A message of any type, whose numbers fit their words and whose
    bytes fit into memory, is read back from its bytes, and no other message has the same bytes. -/
theorem read_back {m : MessageType} (hm : m ∈ all) {r : m.α} (hfits : m.schema.fits r = true)
    (hlength : (m.schema.encode r).length < 2 ^ 64) :
    m.schema.decode (m.schema.encode r) = .ok r ∧
      ∀ other, m.schema.fits other = true → m.schema.encode other = m.schema.encode r →
        other = r := by
  have hback := (faithful m hm).decode_encode hfits hlength
  refine ⟨hback, fun other hother hsame => ?_⟩
  have hotherBack := (faithful m hm).decode_encode hother (hsame ▸ hlength)
  rw [hsame, hback] at hotherBack
  exact (Except.ok.inj hotherBack).symm

/-- A source with numbers at the limits of their words, an unknown type and an empty author. -/
def limitedSource : Source :=
  { id := -9223372036854775808, name := "ünïcode", sourceType := -7
    audit := { createdAt := 9223372036854775807, createdBy := some {} } }

theorem limitedSource_read_back :
    Source.schema.decode (Source.schema.encode limitedSource) = .ok limitedSource := by
  have hm : ⟨Source.schema⟩ ∈ all := by simp [all, ofMessages, Sources.messages, Messages.of]
  exact (read_back hm (by decide) (by decide +kernel)).1

end MessageType

end CaseDesk
