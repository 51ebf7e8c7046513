/-
  Comments and their authors.

  * `CaseComments.revision_rule`, `CaseComments.removal_rule`: which row an
    update or a removal is about, and that it takes its author.
  * `CaseComments.row_cases`: where the comment under an id comes from.
  * `CaseComments.Genuine`: a comment is by the user who created it.  Reachable
    comments are.
  * `CaseComments.Marked`: a comment is marked as edited if its version has
    grown.  In runs that do not use up the versions comments are.
  * `CaseComments.changed_by_author`: a comment that a request changes or
    removes is named by it, and the caller is its author.
  * `CaseComments.shown_step`: an answer says truly whether the caller may edit.
  * `Run.comments_of_authors`: all of this over runs.
  * `wornComment`: a run that uses up the versions of a comment.
-/
import CaseDesk.Proofs.Callers
import CaseDesk.Proofs.Versions

namespace CaseDesk

/-- The comments that an answer shows. -/
def Answer.comments : Answer → List CaseComment
  | .caseComments (.page r) => r.items
  | .caseComments (.record c) | .caseComments (.located c) => [c]
  | _ => []

/-- A call that wants to change or remove the comment with an id. -/
def Call.EditsComment (call : Call) (id : Int) : Prop :=
  ∃ raw ver, call.editTag? .comment = some raw ∧
    Etag.parse .comment raw = .ok ⟨.comment, id, ver⟩

/-- A call is made by the author of a comment. -/
def Context.ByAuthor (ctx : Context) (comment : CaseComment) : Prop :=
  ∃ caller author, ctx.caller = some caller ∧ comment.author = some author ∧
    author.id = caller.user.id

theorem Context.byAuthor_iff {ctx : Context} {caller : Caller} (h : ctx.caller = some caller)
    {comment : CaseComment} : ctx.ByAuthor comment ↔ caller.isUser comment.author = true := by
  rw [Caller.isUser_iff]
  constructor
  · rintro ⟨caller', author, hcaller, hauthor⟩
    cases h.symm.trans hcaller
    exact ⟨author, hauthor⟩
  · rintro ⟨author, hauthor⟩
    exact ⟨caller, author, h, hauthor⟩

theorem Etag.kind_of_parse {kind : EtagKind} {raw : String} {tag : Etag}
    (h : Etag.parse kind raw = .ok tag) : tag.kind = kind := by
  unfold Etag.parse at h
  grind

namespace CaseComments

/-! ## Rules of the desk -/

theorem requireAuthor_eq_ok {caller : Caller} {comment : CaseComment} :
    requireAuthor caller comment = .ok () ↔ caller.isUser comment.author = true := by
  unfold requireAuthor
  cases caller.isUser comment.author <;> simp

theorem draft_eq_ok {caller : Caller} {caseTag : String} {input : Option CaseCommentInput}
    {new : CaseComment} (h : draft caller caseTag input = .ok new) :
    new.author = some caller.user ∧ new.edited = false := by
  obtain ⟨_, -, h⟩ := bind_eq_ok.1 h
  obtain ⟨_, -, h⟩ := bind_eq_ok.1 h
  obtain ⟨_, -, h⟩ := bind_eq_ok.1 h
  cases h
  exact ⟨rfl, rfl⟩

/-- An update is about the row that the tag names.  It takes its author and a text. -/
theorem revision_rule {commentTag : String} {input : Option CaseCommentInput} {mask : FieldMask}
    {key : RowKey} {revise : Caller → CaseComment → Except ServiceError CaseComment}
    (h : revision commentTag input mask = .ok (key, revise)) :
    (∃ tag, Etag.parse .comment commentTag = .ok tag ∧ key = { id := tag.id, ver := tag.ver }) ∧
      ∃ raw, revise = fun caller old => do
        requireAuthor caller old
        let text ← Require.text "text" raw
        return { old with text, edited := true } := by
  obtain ⟨tag, htag, h⟩ := bind_eq_ok.1 h
  obtain ⟨input, -, h⟩ := bind_eq_ok.1 h
  dsimp only at h
  split at h <;> cases h
  exact ⟨⟨tag, Require.tag_eq_ok.1 htag, rfl⟩, input.text, rfl⟩

theorem revision_eq_ok {commentTag : String} {input : Option CaseCommentInput} {mask : FieldMask}
    {key : RowKey} {revise : Caller → CaseComment → Except ServiceError CaseComment}
    (h : revision commentTag input mask = .ok (key, revise)) {caller : Caller}
    {old new : CaseComment} (hnew : revise caller old = .ok new) :
    caller.isUser old.author = true ∧ ∃ text, new = { old with text, edited := true } := by
  obtain ⟨-, raw, rfl⟩ := revision_rule h
  obtain ⟨_, hauthor, hnew⟩ := bind_eq_ok.1 hnew
  obtain ⟨text, -, hnew⟩ := bind_eq_ok.1 hnew
  cases hnew
  exact ⟨requireAuthor_eq_ok.1 hauthor, text, rfl⟩

/-- A removal is about the row that the tag names, and takes its author. -/
theorem removal_rule {s : Tables} {commentTag : String} {key : RowKey}
    {allow : Caller → CaseComment → Except ServiceError Unit}
    (h : desk.removal s commentTag = .ok (key, allow)) :
    (∃ tag, Etag.parse .comment commentTag = .ok tag ∧ key = { id := tag.id, ver := tag.ver }) ∧
      allow = requireAuthor := by
  obtain ⟨tag, htag, h⟩ := bind_eq_ok.1 h
  cases h
  exact ⟨⟨tag, Require.tag_eq_ok.1 htag, rfl⟩, rfl⟩

/-! ## Rows -/

variable {ctx : Context} {s s' : Tables} {r : Request String Unit String CaseCommentInput}
  {out : Except ServiceError (Reply CaseComment)}

/-- The comment under an id after a request: one that was there, a new one by its author, or one
    that was changed. -/
theorem row_cases (hstep : desk.Step ctx s r out s') {id : Int} {row : Row CaseComment}
    (hrow : s'.comments.row? id = some row) :
    s.comments.row? id = some row ∨
      (row.ver = 1 ∧ row.value.edited = false ∧
        ∃ user, row.value.author = some user ∧ row.value.audit.createdBy = some user) ∨
      ∃ old, s.comments.row? id = some old ∧ row.ver = old.ver + 1 ∧ row.value.edited = true ∧
        row.value.author = old.value.author ∧
        row.value.audit.createdBy = old.value.audit.createdBy := by
  cases hstep with
  | refused | listed | located => exact .inl hrow
  | @created r caller draft _ hdraft new hnew =>
    obtain ⟨hauthor, hedited⟩ := draft_eq_ok hdraft
    change (s.comments.insert new).2.row? id = some row at hrow
    rw [Table.row?_insert] at hrow
    split_ifs at hrow
    · cases hrow
      subst hnew
      exact .inr (.inl ⟨rfl, hedited, caller.user, hauthor, rfl⟩)
    · exact .inl hrow
  | @updated r caller key revise old value _ hrevision hfind hrevise row' hrow' =>
    have hold : s.comments.row? key.id = some old := Table.row?_of_find hfind
    obtain ⟨-, text, rfl⟩ := revision_eq_ok hrevision hrevise
    change (s.comments.put key.id (some row')).row? id = some row at hrow
    rw [Table.row?_put hold] at hrow
    split_ifs at hrow with hid
    · cases hrow
      subst hrow'
      exact .inr (.inr ⟨old, hid ▸ hold, rfl, rfl, rfl, rfl⟩)
    · exact .inl hrow
  | @deleted r caller key _ old _ _ hfind _ =>
    have hold : s.comments.row? key.id = some old := Table.row?_of_find hfind
    change (s.comments.put key.id none).row? id = some row at hrow
    rw [Table.row?_put hold] at hrow
    split_ifs at hrow
    exact .inl hrow

/-- A comment is by the user who created it. -/
def Genuine (comment : CaseComment) : Prop :=
  ∃ user, comment.author = some user ∧ comment.audit.createdBy = some user

/-- A comment is marked as edited if its version has grown. -/
structure Marked (row : Row CaseComment) : Prop where
  ver_pos : 1 ≤ row.ver
  edited : row.value.edited = true ↔ 1 < row.ver

theorem genuine_step (hstep : desk.Step ctx s r out s')
    (h : ∀ (id : Int) (row : Row CaseComment), s.comments.row? id = some row → Genuine row.value)
    {id : Int} {row : Row CaseComment} (hrow : s'.comments.row? id = some row) :
    Genuine row.value := by
  rcases row_cases hstep hrow with hsame | ⟨-, -, hgenuine⟩ |
    ⟨old, hold, -, -, hauthor, hcreated⟩
  · exact h id row hsame
  · exact hgenuine
  · obtain ⟨user, huser, hby⟩ := h id old hold
    exact ⟨user, hauthor.trans huser, hcreated.trans hby⟩

theorem marked_step (hstep : desk.Step ctx s r out s') (hlimit : s.comments.BelowLimit)
    (h : ∀ (id : Int) (row : Row CaseComment), s.comments.row? id = some row → Marked row)
    {id : Int} {row : Row CaseComment} (hrow : s'.comments.row? id = some row) : Marked row := by
  rcases row_cases hstep hrow with hsame | ⟨hver, hedited, -⟩ | ⟨old, hold, hver, hedited, -⟩
  · exact h id row hsame
  · refine ⟨by rw [hver]; decide, ?_⟩
    rw [hver, hedited]
    decide
  · have hgrown : 1 < row.ver := by
      rw [hver]
      exact Int32.lt_of_le_of_lt (h id old hold).ver_pos (Version.lt_add_one (hlimit.row hold))
    exact ⟨Int32.le_of_lt hgrown, iff_of_true hedited hgrown⟩

/-- The author of a comment stays who it is. -/
theorem author_step (hstep : desk.Step ctx s r out s') :
    s.comments.Keeps (·.author) s'.comments := by
  cases hstep with
  | refused | listed | located => exact .refl _
  | created _ _ new => exact .insert s.comments new
  | updated _ hrevision hfind hrevise row hrow =>
    obtain ⟨-, text, rfl⟩ := revision_eq_ok hrevision hrevise
    refine Table.Keeps.put (Table.row?_of_find hfind) fun row' hrow' => ?_
    cases hrow'
    rw [hrow]
    rfl
  | deleted _ _ hfind _ =>
    exact Table.Keeps.put (Table.row?_of_find hfind) fun row hrow => by cases hrow

/-! ## Changes -/

/-- A change or a removal that succeeds is about the row that the tag names, and its caller is the
    author of that row. -/
theorem edit_cases {reply : Reply CaseComment} (hstep : desk.Step ctx s r (.ok reply) s')
    {raw : String} (hraw : r.edited? = some raw) :
    ∃ tag old new, Etag.parse .comment raw = .ok tag ∧ s.comments.row? tag.id = some old ∧
      ctx.ByAuthor old.value ∧ s'.comments = s.comments.put tag.id new := by
  cases hstep with
  | listed | located | created => cases hraw
  | @updated r caller key revise old _ hcaller hrevision hfind hrevise row _ =>
    cases hraw
    obtain ⟨⟨tag, htag, rfl⟩, -⟩ := revision_rule hrevision
    have hauthor := (revision_eq_ok hrevision hrevise).1
    have hby := (Context.byAuthor_iff (authorize_eq_ok.1 hcaller).1).2 hauthor
    exact ⟨tag, old, some row, htag, Table.row?_of_find hfind, hby, rfl⟩
  | @deleted r caller key allow old hcaller hremoval hfind hallow =>
    cases hraw
    obtain ⟨⟨tag, htag, rfl⟩, rfl⟩ := removal_rule hremoval
    have hauthor := requireAuthor_eq_ok.1 hallow
    have hby := (Context.byAuthor_iff (authorize_eq_ok.1 hcaller).1).2 hauthor
    exact ⟨tag, old, none, htag, Table.row?_of_find hfind, hby, rfl⟩

/-- No other request touches the comments that are there. -/
theorem row?_step_of_no_edit (hstep : desk.Step ctx s r out s') (hnone : r.edited? = none)
    {id : Int} {row : Row CaseComment} (hrow : s.comments.row? id = some row) :
    s'.comments.row? id = some row := by
  cases hstep with
  | refused | listed | located => exact hrow
  | created _ _ new =>
    have hle := (Table.bounds_of_row? hrow).2
    exact (Table.row?_insert s.comments new id).trans (by rw [if_neg (by omega), hrow])
  | updated | deleted => cases hnone

/-- A comment that a request changes or removes is named by it, and the caller is its author. -/
theorem changed_by_author {reply : Reply CaseComment} (hstep : desk.Step ctx s r (.ok reply) s')
    {id : Int} {row : Row CaseComment} (hrow : s.comments.row? id = some row)
    (hchanged : s'.comments.row? id ≠ some row) :
    (∃ raw ver, r.edited? = some raw ∧ Etag.parse .comment raw = .ok ⟨.comment, id, ver⟩) ∧
      ctx.ByAuthor row.value := by
  rcases hraw : r.edited? with _ | raw
  · exact absurd (row?_step_of_no_edit hstep hraw hrow) hchanged
  · obtain ⟨tag, old, new, htag, hold, hby, hput⟩ := edit_cases hstep hraw
    by_cases hid : id = tag.id
    · subst hid
      cases hold.symm.trans hrow
      exact ⟨⟨raw, tag.ver, rfl, by rw [htag, ← Etag.kind_of_parse htag]⟩, hby⟩
    · rw [hput, Table.row?_put hold, if_neg hid] at hchanged
      exact absurd hrow hchanged

/-! ## Answers -/

theorem id_present (caller : Caller) (fields : List String) (row : Row CaseComment) :
    (present caller fields row).id = row.value.id :=
  @ServiceName.idOf_project .caseComments fields row.value

/-- Where a row that stands under its own id is shown, the answer says truly whether the caller may
    edit it. -/
theorem shown_present {service method : String} {caller : Caller}
    (hcaller : authorize ctx.caller service method = .ok caller) (fields : List String)
    {t : Table CaseComment} (hk : t.Keyed) {id : Int} {row : Row CaseComment}
    (hrow : t.row? id = some row) :
    t.row? (present caller fields row).id = some row ∧
      ((present caller fields row).canEdit = true ↔ ctx.ByAuthor row.value) := by
  have hid : row.value.id = id := hk id row hrow
  refine ⟨by rw [id_present, hid, hrow], ?_⟩
  exact (Context.byAuthor_iff (authorize_eq_ok.1 hcaller).1).symm

/-- A comment that an answer shows stands under its id before or after the request, and the answer
    says truly whether the caller may edit it. -/
theorem shown_step {reply : Reply CaseComment} (hstep : desk.Step ctx s r (.ok reply) s')
    (hk : s.comments.Keyed) (hk' : s'.comments.Keyed) {c : CaseComment}
    (hc : c ∈ (Answer.caseComments reply).comments) :
    ∃ row, (s.comments.row? c.id = some row ∨ s'.comments.row? c.id = some row) ∧
      (c.canEdit = true ↔ ctx.ByAuthor row.value) := by
  cases hstep with
  | @listed r caller scope query hcaller _ hquery page hpage =>
    subst hpage
    obtain ⟨item, hitem, rfl⟩ := List.mem_map.1 hc
    obtain ⟨id, row, hrow, rfl⟩ := Table.exists_of_mem_items hitem
    rw [(Desk.agrees_of_present : desk.Agrees).item hquery]
    obtain ⟨hstands, hedit⟩ := shown_present hcaller (fieldNames r.fields) hk hrow
    exact ⟨row, Or.inl hstands, hedit⟩
  | @located r caller key row hcaller _ hfind =>
    cases List.mem_singleton.1 hc
    obtain ⟨hstands, hedit⟩ :=
      shown_present hcaller (fieldNames r.fields) hk (Table.row?_of_find hfind)
    exact ⟨row, Or.inl hstands, hedit⟩
  | @created r caller draft hcaller _ new _ =>
    cases List.mem_singleton.1 hc
    obtain ⟨hstands, hedit⟩ :=
      shown_present hcaller [] hk' (Table.row?_insert_self s.comments new)
    exact ⟨_, Or.inr hstands, hedit⟩
  | @updated r caller key _ old _ hcaller _ hfind _ row _ =>
    cases List.mem_singleton.1 hc
    obtain ⟨hstands, hedit⟩ :=
      shown_present hcaller [] hk' (Table.row?_put_self (Table.row?_of_find hfind) (some row))
    exact ⟨row, Or.inr hstands, hedit⟩
  | @deleted r caller key _ old hcaller _ hfind _ =>
    cases List.mem_singleton.1 hc
    obtain ⟨hstands, hedit⟩ := shown_present hcaller [] hk (Table.row?_of_find hfind)
    exact ⟨old, Or.inl hstands, hedit⟩

end CaseComments

/-! ## Calls -/

/-- A call goes to the desk of comments, or names no comment, leaves them alone and shows none. -/
theorem Call.Step.comments_cases {call : Call} {ctx : Context} {s s' : Tables}
    {out : Except ServiceError Answer} (h : call.Step ctx s out s') :
    (∃ r out', call = .caseComments r ∧ out = Answer.caseComments <$> out' ∧
      CaseComments.desk.Step ctx s r out' s') ∨
      call.editTag? .comment = none ∧ s'.comments = s.comments ∧
        ∀ a, out = .ok a → a.comments = [] := by
  cases h with
  | caseComments h => exact Or.inl ⟨_, _, rfl, rfl, h⟩
  | slas h | slaConditions h | closeReasons h | reasons h | sources h | statuses h | caseLinks h =>
    refine Or.inr ⟨rfl, h.part_eq ({} : Desk.Leaves _ (·.comments)), fun a ha => ?_⟩
    obtain ⟨_, -, rfl⟩ := map_eq_ok.1 ha
    rfl
  | statusConditions h =>
    have hleaves : StatusConditions.desk.Leaves (·.comments) := StatusConditions.leaves
    refine Or.inr ⟨rfl, h.part_eq hleaves, fun a ha => ?_⟩
    obtain ⟨_, -, rfl⟩ := map_eq_ok.1 ha
    rfl
  | priorities h =>
    have hleaves : Priorities.desk.Leaves (·.comments) := Priorities.leaves
    refine Or.inr ⟨rfl, h.part_eq hleaves, fun a ha => ?_⟩
    obtain ⟨_, -, rfl⟩ := map_eq_ok.1 ha
    rfl

theorem Reachable.genuine {s : Tables} (h : Reachable s) {id : Int} {row : Row CaseComment}
    (hrow : s.comments.row? id = some row) : CaseComments.Genuine row.value := by
  induction h generalizing id row with
  | start => cases (Table.row?_empty id).symm.trans hrow
  | @call s _ ctx call ih =>
    rcases (call.step_run ctx s).comments_cases with ⟨_, _, -, -, hstep⟩ | ⟨-, hsame, -⟩
    · exact CaseComments.genuine_step hstep (fun _ _ => ih) hrow
    · rw [hsame] at hrow
      exact ih hrow

theorem Run.BelowLimit.marked {run : Run} (hlimit : run.BelowLimit) {n : Nat} {id : Int}
    {row : Row CaseComment} (hrow : (run.before n).comments.row? id = some row) :
    CaseComments.Marked row := by
  induction n generalizing id row with
  | zero => cases (Table.row?_empty id).symm.trans hrow
  | succ n ih =>
    rcases hv : run[n]? with _ | v
    · rw [before_succ_of_none hv] at hrow
      exact ih hrow
    · rw [before_succ hv] at hrow
      rcases (v.step (run.before n)).comments_cases with ⟨_, _, -, -, hstep⟩ | ⟨-, hsame, -⟩
      · exact CaseComments.marked_step hstep (hlimit n .caseComments) (fun _ _ => ih) hrow
      · rw [hsame] at hrow
        exact ih hrow

/-- A comment that a call changes or removes is named by it, and the caller is its author. -/
theorem Call.Step.changed_by_author {call : Call} {ctx : Context} {s s' : Tables}
    {out : Except ServiceError Answer} (h : call.Step ctx s out s') {id : Int}
    {row : Row CaseComment} (hrow : s.comments.row? id = some row)
    (hchanged : s'.comments.row? id ≠ some row) :
    (∃ a, out = .ok a) ∧ call.EditsComment id ∧ ctx.ByAuthor row.value := by
  rcases h.comments_cases with ⟨r, out', rfl, rfl, hstep⟩ | ⟨-, hsame, -⟩
  · cases out' with
    | error e =>
      rw [hstep.unchanged_of_error rfl] at hchanged
      exact absurd hrow hchanged
    | ok reply =>
      obtain ⟨hnamed, hby⟩ := CaseComments.changed_by_author hstep hrow hchanged
      exact ⟨⟨_, rfl⟩, hnamed, hby⟩
  · rw [hsame] at hchanged
    exact absurd hrow hchanged

/-- A call that wants to change or remove a comment and is not by its author fails. -/
theorem Call.Step.error_of_not_author {call : Call} {ctx : Context} {s s' : Tables}
    {out : Except ServiceError Answer} (h : call.Step ctx s out s') {id : Int}
    {row : Row CaseComment} (hrow : s.comments.row? id = some row) (hedits : call.EditsComment id)
    (hnot : ¬ ctx.ByAuthor row.value) : ∃ e, out = .error e := by
  obtain ⟨raw, ver, hraw, htag⟩ := hedits
  cases out with
  | error e => exact ⟨e, rfl⟩
  | ok a =>
    rcases h.comments_cases with ⟨r, out', rfl, hout, hstep⟩ | ⟨hnone, -⟩
    · obtain ⟨reply, rfl, -⟩ := map_eq_ok.1 hout.symm
      obtain ⟨tag, old, -, htag', hold, hby, -⟩ := CaseComments.edit_cases hstep hraw
      cases htag.symm.trans htag'
      cases hrow.symm.trans hold
      exact absurd hby hnot
    · cases hnone.symm.trans hraw

/-- A comment that an answer shows stands under its id before or after the call, and the answer says
    truly whether the caller may edit it. -/
theorem Call.Step.shown {call : Call} {ctx : Context} {s s' : Tables}
    {out : Except ServiceError Answer} (h : call.Step ctx s out s') {a : Answer} (ha : out = .ok a)
    (hk : s.Keyed) (hk' : s'.Keyed) {c : CaseComment} (hc : c ∈ a.comments) :
    ∃ row, (s.comments.row? c.id = some row ∨ s'.comments.row? c.id = some row) ∧
      (c.canEdit = true ↔ ctx.ByAuthor row.value) := by
  rcases h.comments_cases with ⟨r, out', -, hout, hstep⟩ | ⟨-, -, hnone⟩
  · obtain ⟨reply, rfl, rfl⟩ := map_eq_ok.1 (hout.symm.trans ha)
    exact CaseComments.shown_step hstep hk.comments hk'.comments hc
  · rw [hnone a ha] at hc
    cases hc

/-- The author of a comment stays who it is. -/
theorem Run.keeps_author (run : Run) {m n : Nat} (h : m ≤ n) :
    (run.before m).comments.Keeps (·.author) (run.before n).comments := by
  induction h with
  | refl => exact .refl _
  | @step n _ ih =>
    refine ih.trans ?_
    rcases hv : run[n]? with _ | v
    · rw [before_succ_of_none hv]
      exact .refl _
    · rw [before_succ hv]
      rcases (v.step (run.before n)).comments_cases with ⟨_, _, -, -, hstep⟩ | ⟨-, hsame, -⟩
      · exact CaseComments.author_step hstep
      · rw [hsame]; exact .refl _

theorem Run.author_eq (run : Run) {m n : Nat} {id : Int} {row row' : Row CaseComment}
    (hrow : (run.before m).comments.row? id = some row)
    (hrow' : (run.before n).comments.row? id = some row') :
    row'.value.author = row.value.author := by
  have hforth : ∀ {m n row row'}, m ≤ n → (run.before m).comments.row? id = some row →
      (run.before n).comments.row? id = some row' → row'.value.author = row.value.author := by
    intro m n row row' hle hrow hrow'
    have hview := (run.keeps_author hle).view (Table.bounds_of_row? hrow).2
      (Table.view_of_row? hrow')
    exact (Option.some.inj ((Table.view_of_row? hrow).symm.trans hview)).symm
  rcases Nat.le_total m n with h | h
  · exact hforth h hrow hrow'
  · exact (hforth h hrow' hrow).symm

/-- **A comment belongs to its author.**  In every state of a run the author of a comment is who
    created it and stays the author, and the comment is marked as edited just where its version has
    grown, as long as no row of the run is at the last version.  Whatever call comes next, a comment
    that it changes or removes is one that it names in an update or a removal that succeeds, and its
    caller is the author; such a call by anybody else fails.  Every comment that is shown tells the
    caller truly whether the caller is its author. -/
theorem Run.comments_of_authors (run : Run) (n : Nat) :
    (∀ id row, (run.before n).comments.row? id = some row →
      (∃ author, row.value.author = some author ∧ row.value.audit.createdBy = some author) ∧
      (∀ m row', (run.before m).comments.row? id = some row' →
        row'.value.author = row.value.author) ∧
      (run.BelowLimit → (row.value.edited = true ↔ 1 < row.ver)) ∧
      ∀ v : Visit,
        ((v.outcome (run.before n)).2.comments.row? id ≠ some row →
          (∃ a, (v.outcome (run.before n)).1 = .ok a) ∧ v.call.EditsComment id ∧
            v.ctx.ByAuthor row.value) ∧
        (v.call.EditsComment id → ¬ v.ctx.ByAuthor row.value →
          ∃ e, (v.outcome (run.before n)).1 = .error e)) ∧
    ∀ (v : Visit) (a : Answer), (v.outcome (run.before n)).1 = .ok a → ∀ c ∈ a.comments,
      ∃ row, ((run.before n).comments.row? c.id = some row ∨
          (v.outcome (run.before n)).2.comments.row? c.id = some row) ∧
        (c.canEdit = true ↔ v.ctx.ByAuthor row.value) := by
  have hreachable := run.reachable_before n
  constructor
  · intro id row hrow
    refine ⟨hreachable.genuine hrow, fun m row' hrow' => run.author_eq hrow hrow',
      fun hlimit => (hlimit.marked hrow).edited, fun v => ⟨fun hchanged => ?_, fun hedits hnot => ?_⟩⟩
    · exact (v.step _).changed_by_author hrow hchanged
    · exact (v.step _).error_of_not_author hrow hedits hnot
  · intro v a ha c hc
    have hkeyed := hreachable.keyed
    have hkeyed' := hkeyed.steps (v.step (run.before n)).steps
    exact (v.step _).shown ha hkeyed hkeyed' hc

/-- A user publishes a comment. -/
def publishedComment : Run :=
  [⟨⟨some ⟨⟨5, "ann"⟩, { classes := [("cases", [.create, .read])] }⟩, 0, .standard⟩,
    .caseComments (.create ⟨"1", some ⟨"call back"⟩⟩)⟩]

/-- The comment of `publishedComment` as the superuser sees it. -/
def publishedText : CaseComment :=
  { id := 1, ver := 1, etag := Etag.encode ⟨.comment, 1, some 1⟩, text := "call back" }

/-- The comment of `publishedComment` is not marked as edited.  The superuser cannot remove it, and is
    told so where nothing but the text of the comment is asked for. -/
theorem publishedComment_kept :
    (∃ row, (publishedComment.before 1).comments.row? 1 = some row ∧ row.value.edited ≠ true) ∧
    (∃ e, ((Visit.bySuperuser (.caseComments (.delete ⟨"1"⟩))).outcome
      (publishedComment.before 1)).1 = .error e) ∧
    ∃ c, ((Visit.bySuperuser (.caseComments (.locate ⟨"1", ["text"]⟩))).outcome
      (publishedComment.before 1)).1 = .ok (.caseComments (.located c)) ∧ c.canEdit ≠ true := by
  obtain ⟨hrows, hshown⟩ := Run.comments_of_authors publishedComment 1
  obtain ⟨row, hrow, hauthor, hver⟩ :
      ∃ row, (publishedComment.before 1).comments.row? 1 = some row ∧
        row.value.author = some ⟨5, "ann"⟩ ∧ row.ver = 1 := ⟨_, rfl, rfl, rfl⟩
  have hnot : ¬ (Context.mk (some .anonymous) 0 .standard).ByAuthor row.value := by
    rintro ⟨_, _, hcaller, hauthor', hid⟩
    cases hcaller
    cases hauthor.symm.trans hauthor'
    cases hid
  obtain ⟨-, -, hmarked, hvisits⟩ := hrows 1 row hrow
  have hlimit : publishedComment.BelowLimit := by decide +kernel
  have hunedited : row.value.edited ≠ true := by
    rw [ne_eq, hmarked hlimit, hver]
    decide
  refine ⟨⟨row, hrow, hunedited⟩, (hvisits _).2 ⟨"1", none, rfl, rfl⟩ hnot, publishedText, rfl,
    fun hedit => ?_⟩
  obtain ⟨row', hrow', hiff⟩ := hshown
    (.bySuperuser (.caseComments (.locate ⟨"1", ["text"]⟩)))
    (.caseComments (.located publishedText)) rfl publishedText List.mem_cons_self
  have : row' = row := by
    rcases hrow' with h | h <;> exact Option.some.inj (h.symm.trans hrow)
  subst this
  exact hnot (hiff.1 hedit)

/-- A comment by the superuser, reworded and at a version, is all there is. -/
def rewordedAt (ver : Int32) : Tables where
  comments := ⟨[some ⟨ver, {
    id := 1, caseId := 1, text := "done", edited := true, author := some ⟨0, "anonymous"⟩
    audit := .creation ⟨0, "anonymous"⟩ 0 }⟩]⟩

/-- The superuser rewords the first comment. -/
def rewording : Visit := .bySuperuser (.caseComments (.update ⟨"1", some ⟨"done"⟩, []⟩))

theorem rewording_rewordedAt (ver : Int32) :
    (rewording.outcome (rewordedAt ver)).2 = rewordedAt (ver + 1) := rfl

/-- The superuser publishes a comment and rewords it until its version comes round. -/
def wornComment : Run :=
  [.bySuperuser (.caseComments (.create ⟨"1", some ⟨"draft"⟩⟩)), rewording] ++
    List.replicate 2147483646 rewording

theorem wornComment_last :
    wornComment.before wornComment.length = rewordedAt Int32.minValue := by
  have hsecond : Run.after [.bySuperuser (.caseComments (.create ⟨"1", some ⟨"draft"⟩⟩)), rewording]
      {} = rewordedAt 2 := rfl
  rw [Run.before_length, wornComment, Run.after_append, hsecond]
  exact Run.after_replicate rewording_rewordedAt 2 2147483646

/-- Without a limit for the versions a comment may be marked as edited and its version not above
    1. -/
theorem wornComment_marked :
    ∃ row, (wornComment.before wornComment.length).comments.row? 1 = some row ∧
      row.value.edited = true ∧ ¬ 1 < row.ver := by
  rw [wornComment_last]
  exact ⟨_, rfl, rfl, by decide⟩

end CaseDesk
