/-
  Grants decide whether a caller may use a method, and nothing else.

  * `Desk.Fair`: the rules of a desk do not object to who asks, other than over
    a record that is not for the caller.  Every desk is fair, and only that of
    comments has records that are not for everyone.
  * `Desk.Blind`: the rules of a desk look at the user and not at the grants.
    Every desk is blind.
  * `Call.authorize_some`: what the grants of a caller decide.
  * `Call.run_of_refused`, `Call.error_cases`, `Call.run_congr_grants`: a call
    that is refused, a call that fails after that, and calls of one user with
    different grants.
  * `Call.access_decided`: all of this about one call.
-/
import CaseDesk.Proofs.Authors
import CaseDesk.Proofs.Refusals

namespace CaseDesk

namespace Desk

variable {P F K I ρ : Type} [Record ρ]

/-! ## Fair desks -/

/-- A desk whose rules do not object to who asks, other than over a record that is `foreign` to the
    caller. -/
structure Fair (d : Desk P F K I ρ) (foreign : Caller → ρ → ServiceError → Prop) : Prop where
  place : ∀ s place, Impartial (d.listScope s place)
  draft : ∀ s caller place input, Impartial (d.draft s caller place input)
  revision : ∀ s key input mask, Impartial (d.revision s key input mask)
  revise : ∀ {s key input mask row revise}, d.revision s key input mask = .ok (row, revise) →
    ∀ caller old e, revise caller old = .error e → e.OfRequest ∨ foreign caller old e
  removal : ∀ s key, Impartial (d.removal s key)
  allow : ∀ {s key row allow}, d.removal s key = .ok (row, allow) →
    ∀ caller old e, allow caller old = .error e → e.OfRequest ∨ foreign caller old e
  address : ∀ s key, Impartial (d.address s key)

/-- The row that a request wants to change or remove. -/
inductive Targets (d : Desk P F K I ρ) (s : Tables) : Request P F K I → RowKey → Prop
  | update {r row revise} (h : d.revision s r.key r.input (.ofTexts r.mask) = .ok (row, revise)) :
      Targets d s (.update r) row
  | delete {r row allow} (h : d.removal s r.key = .ok (row, allow)) : Targets d s (.delete r) row

omit [Record ρ] in
theorem impartial_query (d : Desk P F K I ρ) (ctx : Context) (r : ListRequest P F) :
    Impartial (d.query ctx r) := by
  unfold query
  split
  · exact .ok _
  · exact .error trivial

/-- A fair desk objects to what is asked, or to a caller to whom the record is foreign. -/
theorem Objection.cases_of_fair {d : Desk P F K I ρ} {ctx : Context} {s : Tables} {caller : Caller}
    {r : Request P F K I} {e : ServiceError} (h : d.Objection ctx s caller r e)
    {foreign : Caller → ρ → ServiceError → Prop} (hd : d.Fair foreign) :
    e.OfRequest ∨ ∃ key row, d.Targets s r key ∧ (d.shelf.get s).find key = .ok row ∧
      foreign caller row.value e := by
  cases h with
  | place h => exact Or.inl (hd.place _ _ e h)
  | query h => exact Or.inl (impartial_query d _ _ e h)
  | draft h => exact Or.inl (hd.draft _ _ _ _ e h)
  | revision h => exact Or.inl (hd.revision _ _ _ _ e h)
  | @revise r key revise old _ hrevision hfind h =>
    exact (hd.revise hrevision caller _ e h).imp_right fun hforeign =>
      ⟨key, old, .update hrevision, hfind, hforeign⟩
  | removal h => exact Or.inl (hd.removal _ _ e h)
  | @allow r key allow old _ hremoval hfind h =>
    exact (hd.allow hremoval caller _ e h).imp_right fun hforeign =>
      ⟨key, old, .delete hremoval, hfind, hforeign⟩
  | address h => exact Or.inl (hd.address _ _ e h)
  | missing => exact Or.inl trivial

/-- Where no record is foreign to anyone, a request that is let in fails over what it asks. -/
theorem ofRequest_of_error {d : Desk P F K I ρ} (hd : d.Fair fun _ _ _ => False) {ctx : Context}
    {s : Tables} {caller : Caller} {r : Request P F K I} {e : ServiceError}
    (hcaller : authorize ctx.caller d.service (d.method r.operation) = .ok caller)
    (he : ((d.serve ctx r).exec s).1 = .error e) : e.OfRequest := by
  rcases (objection_of_error hcaller he).cases_of_fair hd with h | ⟨_, _, -, -, h⟩
  · exact h
  · exact h.elim

/-! ## Blind desks -/

/-- A desk whose rules look at who the caller is and not at what is granted. -/
structure Blind (d : Desk P F K I ρ) : Prop where
  draft : ∀ {c c' : Caller}, c.user = c'.user → ∀ s place input,
    d.draft s c place input = d.draft s c' place input
  revise : ∀ {s key input mask row revise}, d.revision s key input mask = .ok (row, revise) →
    ∀ {c c' : Caller}, c.user = c'.user → revise c = revise c'
  allow : ∀ {s key row allow}, d.removal s key = .ok (row, allow) →
    ∀ {c c' : Caller}, c.user = c'.user → allow c = allow c'
  listed : ∀ {c c' : Caller}, c.user = c'.user → d.listed c = d.listed c'
  present : ∀ {c c' : Caller}, c.user = c'.user → d.present c = d.present c'

/-- A blind desk serves a user alike under all grants that let the request pass. -/
theorem serve_congr_grants {d : Desk P F K I ρ} (hd : d.Blind) {ctx : Context} {c c' : Caller}
    (huser : c.user = c'.user) {r : Request P F K I}
    (hc : authorize (some c) d.service (d.method r.operation) = .ok c)
    (hc' : authorize (some c') d.service (d.method r.operation) = .ok c') (s : Tables) :
    (d.serve { ctx with caller := some c } r).exec s =
      (d.serve { ctx with caller := some c' } r).exec s := by
  have hlisted := hd.listed huser
  have hpresent := hd.present huser
  cases r with
  | list r =>
    dsimp only [Request.operation] at hc hc'
    simp only [serve, list, enter, Action.exec_map, Action.exec_reading_bind, hc, hc', hlisted]
    rfl
  | create r =>
    dsimp only [Request.operation] at hc hc'
    simp only [serve, create, enter, Action.exec_map, Action.exec_reading_bind, hc, hc', hpresent,
      hd.draft huser, huser]
  | update r =>
    dsimp only [Request.operation] at hc hc'
    simp only [serve, update, enter, Action.exec_map, Action.exec_reading_bind, hc, hc', hpresent,
      huser]
    rcases hrevision : d.revision s r.key r.input (.ofTexts r.mask) with e | ⟨key, revise⟩
    · rfl
    · simp only [hd.revise hrevision huser]
  | delete r =>
    dsimp only [Request.operation] at hc hc'
    simp only [serve, delete, enter, Action.exec_map, Action.exec_reading_bind, hc, hc', hpresent]
    rcases hremoval : d.removal s r.key with e | ⟨key, allow⟩
    · rfl
    · simp only [hd.allow hremoval huser]
  | locate r =>
    dsimp only [Request.operation] at hc hc'
    simp only [serve, locate, enter, Action.exec_map, Action.exec_reading_bind, hc, hc', hpresent]

end Desk

/-! ## Dictionaries -/

theorem Parent.impartial_require {π : Type} [Record π] (p : Parent π) (s : Tables) (id : Int) :
    Impartial (p.require s id) :=
  (Require.impartial_id _ _).bind fun _ => .ite (.ok _) (.error trivial)

namespace Desk

variable {F I π ρ : Type} [Record ρ] [Record π] {service : String} {method : Operation → String}
  {shelf : Shelf ρ} {keeps : F → ρ → Bool} {parent : Parent π} {empty : Int → ρ}
  {prepare : Tables → Int → Int → FieldMask → I → Except ServiceError I}
  {revise : FieldMask → I → ρ → Except ServiceError ρ}
  {settled : Option (Row ρ) → Row ρ → Tables → Tables} {cleared : RowKey → Tables → Tables}

theorem fair_root (hrevise : ∀ mask input old, Impartial (revise mask input old)) :
    { root service method shelf keeps revise with settled, cleared }.Fair fun _ _ _ => False where
  place _ _ := .ok _
  draft _ _ _ input := (Require.impartial_input input).bind fun _ => hrevise _ _ _
  revision _ _ input _ := (Require.impartial_input input).bind fun _ => .ok _
  revise h _ _ e he := by
    obtain ⟨_, -, h⟩ := bind_eq_ok.1 h
    cases h
    exact Or.inl (hrevise _ _ _ e he)
  removal _ _ := .ok _
  allow h _ _ _ he := by
    cases h
    cases he
  address _ _ := .ok _

theorem blind_root : { root service method shelf keeps revise with settled, cleared }.Blind where
  draft _ _ _ _ := rfl
  revise h _ _ _ := by
    obtain ⟨_, -, h⟩ := bind_eq_ok.1 h
    cases h
    rfl
  allow h _ _ _ := by
    cases h
    rfl
  listed _ := rfl
  present _ := rfl

theorem fair_child (hprepare : ∀ s id own mask input, Impartial (prepare s id own mask input))
    (hrevise : ∀ mask input old, Impartial (revise mask input old)) :
    (child service method shelf parent empty prepare revise).Fair fun _ _ _ => False where
  place s id := (parent.impartial_require s id).map
  draft s _ id input := (Require.impartial_input input).bind fun _ =>
    (parent.impartial_require s id).bind fun _ => (hprepare _ _ _ _ _).bind fun _ => hrevise _ _ _
  revision s key input _ := (Require.impartial_input input).bind fun _ =>
    (parent.impartial_require s key.parent).bind fun _ => (hprepare _ _ _ _ _).bind fun _ => .ok _
  revise h _ _ e he := by
    obtain ⟨_, -, h⟩ := bind_eq_ok.1 h
    obtain ⟨_, -, h⟩ := bind_eq_ok.1 h
    obtain ⟨_, -, h⟩ := bind_eq_ok.1 h
    cases h
    exact Or.inl (hrevise _ _ _ e he)
  removal s key := (parent.impartial_require s key.parent).bind fun _ => .ok _
  allow h _ _ _ he := by
    obtain ⟨_, -, h⟩ := bind_eq_ok.1 h
    cases h
    cases he
  address s key := (parent.impartial_require s key.parent).bind fun _ => .ok _

theorem blind_child : (child service method shelf parent empty prepare revise).Blind where
  draft _ _ _ _ := rfl
  revise h _ _ _ := by
    obtain ⟨_, -, h⟩ := bind_eq_ok.1 h
    obtain ⟨_, -, h⟩ := bind_eq_ok.1 h
    obtain ⟨_, -, h⟩ := bind_eq_ok.1 h
    cases h
    rfl
  allow h _ _ _ := by
    obtain ⟨_, -, h⟩ := bind_eq_ok.1 h
    cases h
    rfl
  listed _ := rfl
  present _ := rfl

end Desk

/-! ## The desks are fair and blind -/

theorem Slas.fair : desk.Fair fun _ _ _ => False :=
  Desk.fair_root fun _ _ _ =>
    (Require.impartial_masked _ _ (Require.impartial_text _ _) _).bind fun _ =>
    (Require.impartial_masked _ _ (Require.impartial_duration _ _) _).bind fun _ =>
    (Require.impartial_masked _ _ (Require.impartial_duration _ _) _).bind fun _ =>
    .ite (.error trivial) (.ok _)

theorem Slas.blind : desk.Blind := Desk.blind_root

theorem SlaConditions.impartial_prepare (s : Tables) (sla own : Int) (mask : FieldMask)
    (input : SlaConditionInput) : Impartial (prepare s sla own mask input) := by
  have hresolve : ∀ r : Lookup, Impartial (resolve s.priorities r.id) := by
    intro r
    unfold resolve
    split
    · exact .ok _
    · exact .error trivial
  refine .ite (.bind (.mapM hresolve _) fun priorities => ?_) (.ok _)
  split
  · exact .error trivial
  · exact .ok _

theorem SlaConditions.fair : desk.Fair fun _ _ _ => False :=
  Desk.fair_child impartial_prepare fun _ _ _ =>
    (Require.impartial_masked _ _ (Require.impartial_text _ _) _).bind fun _ =>
    (Require.impartial_masked _ _ (Require.impartial_duration _ _) _).bind fun _ =>
    (Require.impartial_masked _ _ (Require.impartial_duration _ _) _).bind fun _ => .ok _

theorem SlaConditions.blind : desk.Blind := Desk.blind_child

theorem CloseReasons.fair : desk.Fair fun _ _ _ => False :=
  Desk.fair_root fun _ _ _ =>
    (Require.impartial_masked _ _ (Require.impartial_text _ _) _).bind fun _ => .ok _

theorem CloseReasons.blind : desk.Blind := Desk.blind_root

theorem Reasons.fair : desk.Fair fun _ _ _ => False :=
  Desk.fair_child (fun _ _ _ _ _ => .ok _) fun _ _ _ =>
    (Require.impartial_masked _ _ (Require.impartial_text _ _) _).bind fun _ => .ok _

theorem Reasons.blind : desk.Blind := Desk.blind_child

theorem Sources.impartial_requireType (number : Int) : Impartial (requireType number) := by
  refine .ite (.error trivial) ?_
  split
  · exact .ok _
  · exact .error trivial

theorem Sources.fair : desk.Fair fun _ _ _ => False :=
  Desk.fair_root fun _ _ _ =>
    (Require.impartial_masked _ _ (Require.impartial_text _ _) _).bind fun _ =>
    (Require.impartial_masked _ _ (impartial_requireType _) _).bind fun _ => .ok _

theorem Sources.blind : desk.Blind := Desk.blind_root

theorem Statuses.fair : desk.Fair fun _ _ _ => False :=
  Desk.fair_root fun _ _ _ =>
    (Require.impartial_masked _ _ (Require.impartial_text _ _) _).bind fun _ => .ok _

theorem Statuses.blind : desk.Blind := Desk.blind_root

theorem Priorities.impartial_requireColor (raw : String) : Impartial (requireColor raw) :=
  .ite (.ok _) (.ite (.ok _) (.error trivial))

theorem Priorities.fair : desk.Fair fun _ _ _ => False :=
  Desk.fair_root fun _ _ _ =>
    (Require.impartial_masked _ _ (Require.impartial_text _ _) _).bind fun _ =>
    (Require.impartial_masked _ _ (impartial_requireColor _) _).bind fun _ => .ok _

theorem Priorities.blind : desk.Blind := Desk.blind_root

namespace StatusConditions

theorem impartial_apply (mask : FieldMask) (input : StatusConditionInput) (old : StatusCondition) :
    Impartial (apply mask input old) :=
  (Require.impartial_masked _ _ (Require.impartial_text _ _) _).bind fun _ => .ok _

theorem impartial_revise (id : Int) (mask : FieldMask) (input : StatusConditionInput)
    (old : StatusCondition) : Impartial (revise id mask input old) :=
  (impartial_apply mask input old).bind fun _ => .ite (.error trivial) (.ok _)

theorem revision_rule {s : Tables} {key : ChildKey} {input : Option StatusConditionInput}
    {mask : FieldMask} {row : RowKey}
    {rule : Caller → StatusCondition → Except ServiceError StatusCondition}
    (h : desk.revision s key input mask = .ok (row, rule)) :
    ∃ input, rule = fun _ old => revise key.id mask input old := by
  obtain ⟨input, -, h⟩ := bind_eq_ok.1 h
  obtain ⟨_, -, h⟩ := bind_eq_ok.1 h
  cases h
  exact ⟨input, rfl⟩

theorem fair : desk.Fair fun _ _ _ => False where
  place s id := (parent.impartial_require s id).map
  draft s _ id input := (Require.impartial_input input).bind fun _ =>
    (parent.impartial_require s id).bind fun _ => (impartial_apply _ _ _).bind fun _ => .ok _
  revision s key input _ := (Require.impartial_input input).bind fun _ =>
    (parent.impartial_require s key.parent).bind fun _ => .ok _
  revise h _ _ e he := by
    obtain ⟨_, rfl⟩ := revision_rule h
    exact Or.inl (impartial_revise _ _ _ _ e he)
  removal s key := (parent.impartial_require s key.parent).bind fun _ => .ok _
  allow h caller old e he := by
    obtain ⟨_, -, h⟩ := bind_eq_ok.1 h
    cases h
    refine Or.inl ?_
    dsimp only at he
    split at he <;> cases he
    trivial
  address s key := (parent.impartial_require s key.parent).bind fun _ => .ok _

theorem blind : desk.Blind where
  draft _ _ _ _ := rfl
  revise h _ _ _ := by
    obtain ⟨_, rfl⟩ := revision_rule h
    rfl
  allow h _ _ _ := by
    obtain ⟨_, -, h⟩ := bind_eq_ok.1 h
    cases h
    rfl
  listed _ := rfl
  present _ := rfl

end StatusConditions

namespace CaseLinks

theorem impartial_requireUrl (raw : String) : Impartial (requireUrl raw) := by
  refine (Require.impartial_text _ _).bind fun _ => ?_
  split
  · exact .error trivial
  · exact .ite (.ok _) (.error trivial)

theorem impartial_revise (mask : FieldMask) (input : CaseLinkInput) (old : CaseLink) :
    Impartial (revise mask input old) :=
  (Require.impartial_masked _ _ (impartial_requireUrl _) _).bind fun _ => .ok _

theorem impartial_rowKey (key : LinkKey) : Impartial (rowKey key) :=
  (Require.impartial_tag _ _).bind fun _ => (Require.impartial_tag _ _).bind fun _ => .ok _

theorem revision_rule {s : Tables} {key : LinkKey} {input : Option CaseLinkInput}
    {mask : FieldMask} {row : RowKey} {rule : Caller → CaseLink → Except ServiceError CaseLink}
    (h : desk.revision s key input mask = .ok (row, rule)) :
    ∃ input, rule = fun _ old => revise mask input old := by
  obtain ⟨_, -, h⟩ := bind_eq_ok.1 h
  obtain ⟨input, -, h⟩ := bind_eq_ok.1 h
  cases h
  exact ⟨input, rfl⟩

theorem fair : desk.Fair fun _ _ _ => False where
  place _ caseTag := (Require.impartial_tag _ caseTag).bind fun _ => .ok _
  draft _ _ caseTag input := (Require.impartial_tag _ caseTag).bind fun _ =>
    (Require.impartial_input input).bind fun _ => impartial_revise _ _ _
  revision _ key input _ := (impartial_rowKey key).bind fun _ =>
    (Require.impartial_input input).bind fun _ => .ok _
  revise h _ _ e he := by
    obtain ⟨_, rfl⟩ := revision_rule h
    exact Or.inl (impartial_revise _ _ _ e he)
  removal _ key := (impartial_rowKey key).bind fun _ => .ok _
  allow h _ _ _ he := by
    obtain ⟨_, -, h⟩ := bind_eq_ok.1 h
    cases h
    cases he
  address _ key := (impartial_rowKey key).bind fun _ => .ok _

theorem blind : desk.Blind where
  draft huser _ _ _ := by simp only [desk, huser]
  revise h _ _ _ := by
    obtain ⟨_, rfl⟩ := revision_rule h
    rfl
  allow h _ _ _ := by
    obtain ⟨_, -, h⟩ := bind_eq_ok.1 h
    cases h
    rfl
  listed _ := rfl
  present _ := rfl

end CaseLinks

namespace CaseComments

/-- A comment is foreign to everyone but its author. -/
def Foreign (caller : Caller) (comment : CaseComment) (e : ServiceError) : Prop :=
  e = .notTheAuthor comment.id ∧ caller.isUser comment.author ≠ true

theorem foreign_of_requireAuthor {caller : Caller} {comment : CaseComment} {e : ServiceError}
    (h : requireAuthor caller comment = .error e) : Foreign caller comment e := by
  unfold requireAuthor at h
  split at h
  · cases h
  · cases h
    exact ⟨rfl, ‹_›⟩

theorem fair : desk.Fair Foreign where
  place _ caseTag := (Require.impartial_tag _ caseTag).bind fun _ => .ok _
  draft _ _ caseTag input := (Require.impartial_tag _ caseTag).bind fun _ =>
    (Require.impartial_input input).bind fun _ => (Require.impartial_text _ _).bind fun _ => .ok _
  revision _ tag input _ := (Require.impartial_tag _ tag).bind fun _ =>
    (Require.impartial_input input).bind fun _ => .ite (.error trivial) (.ok _)
  revise h _ _ e he := by
    obtain ⟨-, _, rfl⟩ := revision_rule h
    rcases bind_eq_error.1 he with he | ⟨_, -, he⟩
    · exact Or.inr (foreign_of_requireAuthor he)
    · exact Or.inl (((Require.impartial_text _ _).bind fun _ => .ok _) e he)
  removal _ tag := (Require.impartial_tag _ tag).bind fun _ => .ok _
  allow h _ _ e he := by
    obtain ⟨-, rfl⟩ := removal_rule h
    exact Or.inr (foreign_of_requireAuthor he)
  address _ tag := (Require.impartial_tag _ tag).bind fun _ => .ok _

/-- Only the author of a comment may change or remove it, and that is all that the desk has against
    anyone. -/
theorem foreign_of_error {ctx : Context} {s : Tables} {caller : Caller}
    {r : Request String Unit String CaseCommentInput} {e : ServiceError}
    (hcaller : authorize ctx.caller desk.service (desk.method r.operation) = .ok caller)
    (he : ((desk.serve ctx r).exec s).1 = .error e) :
    e.OfRequest ∨ ∃ raw tag row, r.edited? = some raw ∧ Etag.parse .comment raw = .ok tag ∧
      s.comments.row? tag.id = some row ∧ Foreign caller row.value e := by
  refine ((Desk.objection_of_error hcaller he).cases_of_fair fair).imp_right ?_
  rintro ⟨key, row, htarget, hfind, hforeign⟩
  cases htarget with
  | update h =>
    obtain ⟨⟨tag, htag, rfl⟩, -⟩ := revision_rule h
    exact ⟨_, tag, row, rfl, htag, Table.row?_of_find hfind, hforeign⟩
  | delete h =>
    obtain ⟨⟨tag, htag, rfl⟩, -⟩ := removal_rule h
    exact ⟨_, tag, row, rfl, htag, Table.row?_of_find hfind, hforeign⟩

theorem isUser_congr {c c' : Caller} (huser : c.user = c'.user) : c.isUser = c'.isUser := by
  funext who
  cases who with
  | none => rfl
  | some user => simp only [Caller.isUser, huser]

theorem requireAuthor_congr {c c' : Caller} (huser : c.user = c'.user) :
    requireAuthor c = requireAuthor c' := by
  funext comment
  simp only [requireAuthor, isUser_congr huser]

theorem blind : desk.Blind where
  draft huser _ _ _ := by simp only [desk, draft, huser]
  revise h _ _ huser := by
    obtain ⟨-, _, rfl⟩ := revision_rule h
    simp only [requireAuthor_congr huser]
  allow h _ _ huser := by
    obtain ⟨-, rfl⟩ := removal_rule h
    exact requireAuthor_congr huser
  listed huser := by
    funext fields row
    simp only [desk, listed, present, isUser_congr huser]
  present huser := by
    funext fields row
    simp only [desk, present, isUser_congr huser]

end CaseComments

/-! ## Calls -/

/-- Lets a caller pass who may make a call. -/
def Call.authorize (call : Call) (known : Option Caller) : Except ServiceError Caller :=
  CaseDesk.authorize known call.service.word (call.service.methodWord call.operation)

/-- The grants of a caller decide on the access that the operation has on the class of the records,
    and on nothing else. -/
theorem Call.authorize_some (call : Call) (caller : Caller) : call.authorize (some caller) =
    if caller.grants.allows call.service.objclass call.operation.access = true then .ok caller
    else .error (.accessDenied call.operation.access call.service.objclass
      (call.service.methodWord call.operation)) := by
  obtain ⟨s, m, hm, hclass, haccess, hname⟩ := call.service.registered call.operation
  change (caller.authorize _ _ >>= fun _ => pure caller) = _
  simp only [Caller.authorize, hm, hclass, haccess, hname]
  split <;> rfl

/-- A call is refused whatever its request and the tables are. -/
theorem Call.run_of_refused {call : Call} {ctx : Context} {e : ServiceError}
    (h : call.authorize ctx.caller = .error e) (s : Tables) : call.run ctx s = (.error e, s) := by
  change (serve ctx call).exec s = _
  cases call <;> rw [serve, Action.exec_map, Desk.serve_of_refused h] <;> rfl

/-- A call by one user comes to the same under all grants that let it pass. -/
theorem Call.run_congr_grants {call : Call} {ctx : Context} {c c' : Caller}
    (huser : c.user = c'.user) (hc : call.authorize (some c) = .ok c)
    (hc' : call.authorize (some c') = .ok c') (s : Tables) :
    call.run { ctx with caller := some c } s = call.run { ctx with caller := some c' } s := by
  change (serve _ call).exec s = (serve _ call).exec s
  cases call <;> simp only [serve, Action.exec_map]
  case slas r => rw [Desk.serve_congr_grants Slas.blind huser hc hc']
  case slaConditions r => rw [Desk.serve_congr_grants SlaConditions.blind huser hc hc']
  case closeReasons r => rw [Desk.serve_congr_grants CloseReasons.blind huser hc hc']
  case reasons r => rw [Desk.serve_congr_grants Reasons.blind huser hc hc']
  case sources r => rw [Desk.serve_congr_grants Sources.blind huser hc hc']
  case statuses r => rw [Desk.serve_congr_grants Statuses.blind huser hc hc']
  case statusConditions r => rw [Desk.serve_congr_grants StatusConditions.blind huser hc hc']
  case priorities r => rw [Desk.serve_congr_grants Priorities.blind huser hc hc']
  case caseComments r => rw [Desk.serve_congr_grants CaseComments.blind huser hc hc']
  case caseLinks r => rw [Desk.serve_congr_grants CaseLinks.blind huser hc hc']

/-- A call that is let in fails over what it asks, or because it wants to change or remove a comment
    and is not by its author. -/
theorem Call.error_cases {call : Call} {ctx : Context} {s : Tables} {caller : Caller}
    {e : ServiceError} (hcaller : call.authorize ctx.caller = .ok caller)
    (he : (call.run ctx s).1 = .error e) :
    e.OfRequest ∨ ∃ id row, call.EditsComment id ∧ s.comments.row? id = some row ∧
      e = .notTheAuthor row.value.id ∧ ¬ ctx.ByAuthor row.value := by
  change ((serve ctx call).exec s).1 = .error e at he
  cases call <;> simp only [serve, Action.exec_map, map_eq_error] at he
  case slas r => exact Or.inl (Desk.ofRequest_of_error Slas.fair hcaller he)
  case slaConditions r => exact Or.inl (Desk.ofRequest_of_error SlaConditions.fair hcaller he)
  case closeReasons r => exact Or.inl (Desk.ofRequest_of_error CloseReasons.fair hcaller he)
  case reasons r => exact Or.inl (Desk.ofRequest_of_error Reasons.fair hcaller he)
  case sources r => exact Or.inl (Desk.ofRequest_of_error Sources.fair hcaller he)
  case statuses r => exact Or.inl (Desk.ofRequest_of_error Statuses.fair hcaller he)
  case statusConditions r =>
    exact Or.inl (Desk.ofRequest_of_error StatusConditions.fair hcaller he)
  case priorities r => exact Or.inl (Desk.ofRequest_of_error Priorities.fair hcaller he)
  case caseLinks r => exact Or.inl (Desk.ofRequest_of_error CaseLinks.fair hcaller he)
  case caseComments r =>
    refine (CaseComments.foreign_of_error hcaller he).imp_right ?_
    rintro ⟨raw, tag, row, hraw, htag, hrow, rfl, hnot⟩
    have hknown := (authorize_eq_ok.1 hcaller).1
    refine ⟨tag.id, row, ⟨raw, tag.ver, hraw, ?_⟩, hrow, rfl, ?_⟩
    · rw [htag, ← Etag.kind_of_parse htag]
    · rwa [Context.byAuthor_iff hknown]

/-- **Grants decide whether a caller may make a call, and nothing else.**  A call that is refused is
    answered alike whatever it asks, when it comes and what the tables hold.  A call of one user
    that is let in comes to the same under all grants.  And a call that is let in is only denied
    when it wants to change or remove a comment and is not by its author. -/
theorem Call.access_decided (call : Call) (ctx : Context) (s : Tables) :
    (∀ e, call.authorize ctx.caller = .error e → ∀ (call' : Call) (ctx' : Context) (s' : Tables),
      call'.service = call.service → call'.operation = call.operation →
        ctx'.caller = ctx.caller → (call'.run ctx' s').1 = .error e) ∧
    (∀ c c' : Caller, c.user = c'.user → call.authorize (some c) = .ok c →
      call.authorize (some c') = .ok c' →
        call.run { ctx with caller := some c } s = call.run { ctx with caller := some c' } s) ∧
    ∀ caller e, call.authorize ctx.caller = .ok caller → (call.run ctx s).1 = .error e →
      e.status.code = .permissionDenied →
        ∃ id row, call.EditsComment id ∧ s.comments.row? id = some row ∧
          ¬ ctx.ByAuthor row.value := by
  refine ⟨fun e he call' ctx' s' hservice hoperation hcaller => ?_,
    fun c c' huser hc hc' => run_congr_grants huser hc hc' s, fun caller e hcaller he hcode => ?_⟩
  · have he' : call'.authorize ctx'.caller = .error e := by
      rw [authorize, hservice, hoperation, hcaller]
      exact he
    rw [run_of_refused he']
  · rcases error_cases hcaller he with h | ⟨id, row, hedits, hrow, -, hnot⟩
    · exact absurd hcode h.not_denied
    · exact ⟨id, row, hedits, hrow, hnot⟩

/-- A user who may change cases and nothing else. -/
def caseEditor (user : Lookup) : Caller := ⟨user, { classes := [("cases", [.update])] }⟩

/-- The removal of an agreement is refused alike whichever it is; the author of the comment of
    `publishedComment` changes it alike as superuser; and the superuser who is not its author is
    denied to remove it. -/
theorem publishedComment_decided :
    (∃ e, ∀ id now, ((Call.slas (.delete ⟨id⟩)).run
      ⟨some (caseEditor ⟨7, "bob"⟩), now, .standard⟩ (publishedComment.before 1)).1 = .error e) ∧
    (Call.caseComments (.update ⟨"1", some ⟨"done"⟩, []⟩)).run
        ⟨some (caseEditor ⟨5, "ann"⟩), 1, .standard⟩ (publishedComment.before 1) =
      (Call.caseComments (.update ⟨"1", some ⟨"done"⟩, []⟩)).run
        ⟨some ⟨⟨5, "ann"⟩, .all⟩, 1, .standard⟩ (publishedComment.before 1) ∧
    ∃ id row, (Call.caseComments (.delete ⟨"1"⟩)).EditsComment id ∧
      (publishedComment.before 1).comments.row? id = some row ∧
      ¬ (Context.mk (some .anonymous) 0 .standard).ByAuthor row.value := by
  refine ⟨⟨.accessDenied .delete "dictionaries" "DeleteSla", fun id now => ?_⟩, ?_, ?_⟩
  · obtain ⟨hrefused, -⟩ := Call.access_decided (.slas (.delete ⟨0⟩))
      ⟨some (caseEditor ⟨7, "bob"⟩), 0, .standard⟩ {}
    exact hrefused _ rfl _ _ _ rfl rfl rfl
  · obtain ⟨-, hgrants, -⟩ := Call.access_decided (.caseComments (.update ⟨"1", some ⟨"done"⟩, []⟩))
      ⟨none, 1, .standard⟩ (publishedComment.before 1)
    exact hgrants _ ⟨⟨5, "ann"⟩, .all⟩ rfl rfl rfl
  · obtain ⟨-, -, hdenied⟩ := Call.access_decided (.caseComments (.delete ⟨"1"⟩))
      ⟨some .anonymous, 0, .standard⟩ (publishedComment.before 1)
    exact hdenied .anonymous (.notTheAuthor 1) rfl rfl rfl

end CaseDesk
