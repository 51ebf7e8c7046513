/-
  Tags that were just answered.

  Comments and links are answered with their version and with a tag that names
  it.  As long as nothing else is written, such a tag can be used at once, for
  an update as well as for a removal.

  * `FreshTag`: an answer tells the id and the version of a row, and so does the
    tag in it.
  * `ServiceName.shown_stands`: what an answer shows stands in the tables, unless
    it was just removed.
  * `ServiceName.updated_of_ok`: an update that succeeds is answered with the
    row at the next version.
  * `CaseComments.Fresh`, `CaseLinks.Fresh`: what a fresh tag can be used for.
  * `Run.fresh_tags`: all tags in answers are fresh.
-/
import CaseDesk.Proofs.Accepted
import CaseDesk.Proofs.Listed

namespace CaseDesk

/-! ## Fresh tags -/

/-- What is told of a row: its id, its version, and a tag of some kind that names both. -/
structure FreshTag {ρ : Type} (kind : EtagKind) (t : Table ρ) (id ver : Int) (etag : String)
    (row : Row ρ) : Prop where
  stands : t.row? id = some row
  version : ver = row.ver
  tag : Etag.parse kind etag = .ok ⟨kind, id, some ver⟩

/-- What is told of a row by its id, its version and its tag. -/
theorem FreshTag.of_encode {ρ : Type} {kind : EtagKind} {t : Table ρ} {id : Int} {row : Row ρ}
    (hrow : t.row? id = some row) (hfits : (Etag.mk kind id (some row.ver)).Fits) {shown ver : Int}
    {etag : String} (hid : shown = id) (hver : ver = row.ver)
    (hetag : etag = Etag.encode ⟨kind, id, some row.ver⟩) : FreshTag kind t shown ver etag row := by
  subst hid hver hetag
  have htag := Etag.parse_encode hfits
  exact ⟨hrow, rfl, htag⟩

/-! ## Records that are shown -/

/-- The records that a reply shows. -/
def Reply.shown {ρ : Type} : Reply ρ → List ρ
  | .page r => r.items
  | .record r | .located r => [r]

/-- The links that an answer shows. -/
def Answer.links : Answer → List CaseLink
  | .caseLinks reply => reply.shown
  | _ => []

theorem Answer.comments_eq_shown (reply : Reply CaseComment) :
    (Answer.caseComments reply).comments = reply.shown := by
  cases reply <;> rfl

namespace ServiceName

variable {service : ServiceName} {ctx : Context} {s s' : Tables}

/-- What an answer shows stands in the tables, unless it was just removed. -/
theorem shown_stands (hk : s.Keyed) {r : service.Request} {reply : Reply service.Kept}
    (hstep : service.desk.Step ctx s r (.ok reply) s') (hop : r.operation ≠ .delete)
    {item : service.Kept} (hitem : item ∈ reply.shown) :
    ∃ caller fields row, item = service.desk.present caller fields row ∧
      (service.shelf.get s').row? (Record.idOf row.value) = some row := by
  cases reply with
  | record record =>
    obtain ⟨caller, row, -, rfl, hstands⟩ := step_record hk hstep
    rw [if_neg hop] at hstands
    cases List.mem_singleton.1 hitem
    exact ⟨caller, [], row, rfl, hstands⟩
  | located record =>
    cases List.mem_singleton.1 hitem
    cases hstep with
    | @located r caller key row _ _ hfind =>
      have hrow := Table.row?_of_find hfind
      rw [shelf_desk] at hrow
      refine ⟨caller, fieldNames r.fields, row, rfl, ?_⟩
      rwa [hk.shelf service key.id row hrow]
  | page page =>
    cases hstep with
    | @listed r caller scope query _ _ hquery page hpage =>
      subst hpage
      obtain ⟨shown, hshown, rfl⟩ := List.mem_map.1 hitem
      obtain ⟨id, row, hrow, rfl⟩ := Table.exists_of_mem_items hshown
      rw [shelf_desk] at hrow
      refine ⟨caller, fieldNames r.fields, row, service.agrees.item hquery caller row, ?_⟩
      rwa [hk.shelf service id row hrow]

/-- An update that succeeds is answered with the row as it then stands, at the next version. -/
theorem updated_of_ok {r : UpdateRequest service.Key service.Input}
    (hok : ((service.call (.update r)).run ctx s).1.isOk = true) {id : Int}
    (hid : service.recordId? r.key = some id) {old : Row service.Kept}
    (hold : (service.shelf.get s).row? id = some old) :
    ∃ caller new s', (service.call (.update r)).run ctx s =
        (.ok (service.answer (.record (service.desk.present caller [] new))), s') ∧
      (service.shelf.get s').row? id = some new ∧ Record.idOf new.value = id ∧
      new.ver = old.ver + 1 := by
  obtain ⟨answer, hanswer⟩ := exists_of_isOk hok
  obtain ⟨reply, rfl⟩ := exists_reply hanswer
  have hstep := step_of_ok hanswer
  have hrun : (service.call (.update r)).run ctx s =
      (.ok (service.answer reply), ((service.call (.update r)).run ctx s).2) :=
    Prod.ext hanswer rfl
  rw [hrun]
  generalize ((service.call (.update r)).run ctx s).2 = s' at hstep ⊢
  cases hstep with
  | @updated _ caller k _ old' value _ hrevision hfind _ row hrow =>
    cases hid.symm.trans (service.names.revision hrevision)
    have hold' := Table.row?_of_find hfind
    have hnew := row?_settled_self (some old') (Table.row?_put_self hold' (some row)) s
    rw [shelf_desk] at hold'
    cases hold.symm.trans hold'
    refine ⟨caller, row, _, rfl, hnew, ?_, ?_⟩
    · rw [hrow]
      exact Record.idOf_withId _ _
    · rw [hrow]
      rfl

end ServiceName

/-! ## Comments -/

namespace CaseComments

/-- A tag of a comment that can be used at once: whoever is the author and may do so changes the
    comment, by a mask that lets a text through, to its next version, or removes it. -/
structure Fresh (s : Tables) (c : CaseComment) (row : Row CaseComment) : Prop extends
    FreshTag .comment s.comments c.id c.ver c.etag row where
  update : ∀ (ctx : Context) (input : CaseCommentInput) (mask : List String),
    ctx.Holds .update .caseComments → ctx.ByAuthor row.value → Text.trim input.text ≠ "" →
      FieldMask.Chooses mask "text" → ∃ c' new s',
        (ServiceName.call .caseComments (.update ⟨c.etag, some input, mask⟩)).run ctx s =
          (.ok (.caseComments (.record c')), s') ∧ c'.id = c.id ∧ c'.ver = c.ver + 1 ∧
        FreshTag .comment s'.comments c'.id c'.ver c'.etag new
  delete : ∀ ctx : Context, ctx.Holds .delete .caseComments → ctx.ByAuthor row.value →
    ((ServiceName.call .caseComments (.delete ⟨c.etag⟩)).run ctx s).1.isOk = true

variable {s : Tables}

theorem freshTag_present {t : Table CaseComment} {id : Int} {row : Row CaseComment}
    (hrow : t.row? id = some row) (hid : row.value.id = id)
    (hfits : (Etag.mk .comment id (some row.ver)).Fits) (caller : Caller) (fields : List String)
    {c : CaseComment} (hc : c = present caller fields row) :
    c.id = id ∧ FreshTag .comment t c.id c.ver c.etag row := by
  have hshown : c.id = id := by rw [hc, id_present, hid]
  have hver : c.ver = row.ver := by rw [hc, present]
  have hetag : c.etag = Etag.encode ⟨.comment, id, some row.ver⟩ := by rw [hc, etag_present, hid]
  exact ⟨hshown, .of_encode hrow hfits hshown hver hetag⟩

/-- A comment is answered with a fresh tag, if its row stands in the tables. -/
theorem fresh_present {id : Int} {row : Row CaseComment} (hrow : s.comments.row? id = some row)
    (hid : row.value.id = id) (hlimit : row.ver < Int32.maxValue)
    (hfits : (Etag.mk .comment id (some row.ver)).Fits)
    (hnext : (Etag.mk .comment id (some (row.ver + 1))).Fits) (caller : Caller)
    (fields : List String) {c : CaseComment} (hc : c = present caller fields row) : Fresh s c row := by
  obtain ⟨hshown, htag⟩ := freshTag_present hrow hid hfits caller fields hc
  have hown {ctx : Context} (hby : ctx.ByAuthor row.value) :
      LeadsToOwn ctx s ⟨.comment, c.id, some c.ver⟩ row := by
    refine ⟨htag.stands, ?_, hby⟩
    intro ver hver
    cases hver
    exact htag.version
  refine ⟨htag, ?_, ?_⟩
  · intro ctx input mask hholds hby htext hmask
    have hok : ((ServiceName.call .caseComments (.update ⟨c.etag, some input, mask⟩)).run ctx
        s).1.isOk = true :=
      update_ok_iff.2 ⟨hholds, ⟨_, row, htag.tag, hown hby⟩, hmask, input, rfl, htext⟩
    have hnamed : Etag.id? .comment c.etag = some c.id := Etag.id?_of_parse htag.tag
    obtain ⟨caller', new, s', hrun, hstands, hid', hver⟩ :=
      ServiceName.updated_of_ok hok hnamed htag.stands
    have hnumber : (new.ver : Int) = row.ver + 1 := by rw [hver, Version.toInt_add_one hlimit]
    rw [← hnumber, ← hshown] at hnext
    obtain ⟨hsame, htag'⟩ := freshTag_present hstands hid' hnext caller' [] rfl
    refine ⟨_, new, s', hrun, hsame, htag'.version.trans ?_, htag'⟩
    rw [hnumber, htag.version]
  · intro ctx hholds hby
    exact delete_ok_iff.2 ⟨hholds, _, row, htag.tag, hown hby⟩

end CaseComments

/-! ## Links -/

namespace CaseLinks

/-- An input that an update of a link accepts under a mask: if the URL is chosen, it is an absolute
    hierarchical one, perhaps with blanks around it. -/
def Acceptable (mask : List String) (input : CaseLinkInput) : Prop :=
  FieldMask.Chooses mask "url" → Text.trim input.url ≠ "" ∧
    ∃ url, Url.parse (Text.trim input.url).toList = .ok url ∧ url.hierarchical = true

/-- A tag of a link that can be used at once: whoever may do so changes the link, through its case
    and by an input that is acceptable, to its next version, or removes it. -/
structure Fresh (s : Tables) (l : CaseLink) (row : Row CaseLink) : Prop extends
    FreshTag .link s.links l.id l.ver l.etag row where
  update : ∀ (ctx : Context) (caseTag : String) (input : CaseLinkInput) (mask : List String),
    ctx.Holds .update .caseLinks → Etag.id? .wholeCase caseTag = some row.value.caseId →
      Acceptable mask input → ∃ l' new s',
        (ServiceName.call .caseLinks (.update ⟨⟨caseTag, l.etag⟩, some input, mask⟩)).run ctx s =
          (.ok (.caseLinks (.record l')), s') ∧ l'.id = l.id ∧ l'.ver = l.ver + 1 ∧
        FreshTag .link s'.links l'.id l'.ver l'.etag new
  delete : ∀ (ctx : Context) (caseTag : String), ctx.Holds .delete .caseLinks →
    Etag.id? .wholeCase caseTag = some row.value.caseId →
      ((ServiceName.call .caseLinks (.delete ⟨⟨caseTag, l.etag⟩⟩)).run ctx s).1.isOk = true

variable {s : Tables}

theorem freshTag_present {t : Table CaseLink} {id : Int} {row : Row CaseLink}
    (hrow : t.row? id = some row) (hid : row.value.id = id)
    (hfits : (Etag.mk .link id (some row.ver)).Fits) (caller : Caller) (fields : List String)
    {l : CaseLink} (hl : l = present caller fields row) :
    l.id = id ∧ FreshTag .link t l.id l.ver l.etag row := by
  have hshown : l.id = id := by
    rw [hl, ← hid]
    exact @ServiceName.idOf_present .caseLinks caller fields row
  have hver : l.ver = row.ver := by rw [hl, present]
  have hetag : l.etag = Etag.encode ⟨.link, id, some row.ver⟩ := by rw [hl, etag_present, hid]
  exact ⟨hshown, .of_encode hrow hfits hshown hver hetag⟩

/-- The revision of a link under a mask accepts what is acceptable. -/
theorem revise_of_acceptable {mask : List String} {input : CaseLinkInput}
    (h : Acceptable mask input) (old : CaseLink) :
    ∃ new, revise (.ofTexts mask) input old = .ok new := by
  have hurl : ∃ url, Require.masked (.ofTexts mask) "url" (requireUrl input.url) old.url =
      .ok url := by
    by_cases hmask : (FieldMask.ofTexts mask).selects "url" = true
    · obtain ⟨hsome, hparsed⟩ := h (FieldMask.selects_ofTexts.1 hmask)
      refine ⟨Text.trim input.url, ?_⟩
      rw [Require.masked, if_pos hmask]
      exact requireUrl_eq_ok.2 ⟨Require.text_eq_ok.2 ⟨rfl, hsome⟩, hparsed⟩
    · exact ⟨old.url, if_neg hmask⟩
  obtain ⟨url, hurl⟩ := hurl
  exact ⟨_, bind_eq_ok.2 ⟨url, hurl, rfl⟩⟩

/-- A link is answered with a fresh tag, if its row stands in the tables. -/
theorem fresh_present {id : Int} {row : Row CaseLink} (hrow : s.links.row? id = some row)
    (hid : row.value.id = id) (hlimit : row.ver < Int32.maxValue)
    (hfits : (Etag.mk .link id (some row.ver)).Fits)
    (hnext : (Etag.mk .link id (some (row.ver + 1))).Fits) (caller : Caller)
    (fields : List String) {l : CaseLink} (hl : l = present caller fields row) : Fresh s l row := by
  obtain ⟨hshown, htag⟩ := freshTag_present hrow hid hfits caller fields hl
  -- the key that is made of the tag leads to the row, through its case
  have hkey {caseTag : String} (hcase : Etag.id? .wholeCase caseTag = some row.value.caseId) :
      rowKey ⟨caseTag, l.etag⟩ =
        .ok { id := l.id, scope := some row.value.caseId, ver := some l.ver } := by
    obtain ⟨tag, hparse, hcaseId⟩ := Etag.id?_eq_some.1 hcase
    rw [← hcaseId]
    exact @rowKey_of_parse ⟨caseTag, l.etag⟩ _ _ hparse htag.tag
  have hfind : s.links.find { id := l.id, scope := some row.value.caseId, ver := some l.ver } =
      .ok row := by
    refine Table.find_eq_ok.2 ⟨htag.stands, Table.check_eq_ok.2 ⟨?_, ?_⟩⟩
    · intro parent hparent
      cases hparent
      exact Table.inScope_iff.2 rfl
    · intro ver hver
      cases hver
      exact htag.version
  refine ⟨htag, ?_, ?_⟩
  · intro ctx caseTag input mask hholds hcase hinput
    obtain ⟨editor, hcaller⟩ := (ServiceName.holds_iff .update).1 hholds
    obtain ⟨value, hvalue⟩ := revise_of_acceptable hinput row.value
    have hok : ((ServiceName.call .caseLinks (.update ⟨⟨caseTag, l.etag⟩, some input, mask⟩)).run
        ctx s).1.isOk = true := by
      refine ServiceName.update_ok_iff.2 ⟨editor, _, fun _ old => revise (.ofTexts mask) input old,
        row, value, hcaller, ?_, hfind, hvalue⟩
      exact bind_eq_ok.2 ⟨_, hkey hcase, bind_eq_ok.2 ⟨input, rfl, rfl⟩⟩
    have hnamed : Etag.id? .link l.etag = some l.id := Etag.id?_of_parse htag.tag
    obtain ⟨caller', new, s', hrun, hstands, hid', hver⟩ :=
      ServiceName.updated_of_ok hok hnamed htag.stands
    have hnumber : (new.ver : Int) = row.ver + 1 := by rw [hver, Version.toInt_add_one hlimit]
    rw [← hnumber, ← hshown] at hnext
    obtain ⟨hsame, htag'⟩ := freshTag_present hstands hid' hnext caller' [] rfl
    refine ⟨_, new, s', hrun, hsame, htag'.version.trans ?_, htag'⟩
    rw [hnumber, htag.version]
  · intro ctx caseTag hholds hcase
    obtain ⟨remover, hcaller⟩ := (ServiceName.holds_iff .delete).1 hholds
    refine ServiceName.delete_ok_iff.2 ⟨remover, _, fun _ _ => .ok (), row, hcaller, ?_, hfind, rfl⟩
    exact bind_eq_ok.2 ⟨_, hkey hcase, rfl⟩

end CaseLinks

/-! ## Answers -/

/-- **A tag that was just answered works.**  In a run that does not use up the versions, whatever
    call a comment or a link is shown by, unless it was removed by it, the answer tells the id and
    the version under which it is stored, and its tag is read as this very id and version.  Sent at
    once, the tag lets the author of a comment, with a text, change it to its next version or remove
    it; and through its case it lets a link be changed to its next version, by an input that is
    acceptable, or be removed. -/
theorem Run.fresh_tags {run : Run} (hlimit : run.BelowLimit) {n : Nat} {v : Visit}
    (hv : run[n]? = some v) {a : Answer} (ha : (v.outcome (run.before n)).1 = .ok a)
    (hop : v.call.operation ≠ .delete) (hids : (run.before (n + 1)).IdsFit) :
    (∀ c ∈ a.comments, ∃ row, CaseComments.Fresh (run.before (n + 1)) c row) ∧
      ∀ l ∈ a.links, ∃ row, CaseLinks.Fresh (run.before (n + 1)) l row := by
  have hkeyed := (run.reachable_before n).keyed
  have hafter := before_succ hv
  obtain ⟨ctx, call⟩ := v
  obtain ⟨service, r, rfl⟩ := call.exists_request
  obtain ⟨reply, rfl⟩ := ServiceName.exists_reply ha
  rw [ServiceName.operation_call] at hop
  have hstep := ServiceName.step_of_ok ha
  change run.before (n + 1) = ((service.call r).run ctx (run.before n)).2 at hafter
  rw [← hafter] at hstep
  constructor
  · intro c hc
    cases service with
    | caseComments =>
      have hc : c ∈ (Answer.caseComments reply).comments := hc
      rw [Answer.comments_eq_shown] at hc
      obtain ⟨caller, fields, row, hitem, hrow⟩ := ServiceName.shown_stands hkeyed hstep hop hc
      obtain ⟨hfits, hnext⟩ := hlimit.tags hids hrow .comment
      exact ⟨row, CaseComments.fresh_present hrow rfl ((hlimit _ .caseComments).row hrow) hfits hnext
        caller fields hitem⟩
    | slas | slaConditions | closeReasons | reasons | sources | statuses | statusConditions
    | priorities | caseLinks => cases hc
  · intro l hl
    cases service with
    | caseLinks =>
      obtain ⟨caller, fields, row, hitem, hrow⟩ := ServiceName.shown_stands hkeyed hstep hop hl
      obtain ⟨hfits, hnext⟩ := hlimit.tags hids hrow .link
      exact ⟨row, CaseLinks.fresh_present hrow rfl ((hlimit _ .caseLinks).row hrow) hfits hnext
        caller fields hitem⟩
    | slas | slaConditions | closeReasons | reasons | sources | statuses | statusConditions
    | priorities | caseComments => cases hl

/-- The user who publishes the comment of `publishedComment`, now with all grants. -/
def Context.publisher : Context := ⟨some ⟨⟨5, "ann"⟩, .all⟩, 0, .standard⟩

/-- The superuser asks for the text of the comment of `publishedComment` alone. -/
def askedComment : Run :=
  publishedComment ++ [.bySuperuser (.caseComments (.locate ⟨"1", ["text"]⟩))]

/-- The author then changes the comment, and could as well remove it, by the tag that came with the
    text. -/
theorem publishedText_fresh :
    (∃ c new s', (ServiceName.call .caseComments
        (.update ⟨publishedText.etag, some ⟨"done"⟩, []⟩)).run .publisher
          (askedComment.before 2) = (.ok (.caseComments (.record c)), s') ∧
      c.id = 1 ∧ c.ver = 2 ∧ FreshTag .comment s'.comments c.id c.ver c.etag new) ∧
    ((ServiceName.call .caseComments (.delete ⟨publishedText.etag⟩)).run .publisher
      (askedComment.before 2)).1.isOk = true := by
  have hlimit : askedComment.BelowLimit := by decide +kernel
  have hids : (askedComment.before 2).IdsFit := by decide +kernel
  obtain ⟨hcomments, -⟩ := Run.fresh_tags hlimit (n := 1) rfl
    (a := .caseComments (.located publishedText)) rfl nofun hids
  obtain ⟨row, hfresh⟩ := hcomments publishedText List.mem_cons_self
  have hauthor : row.value.author = some ⟨5, "ann"⟩ := by
    obtain ⟨row', hrow', hauthor⟩ : ∃ row, (askedComment.before 2).comments.row? 1 = some row ∧
        row.value.author = some ⟨5, "ann"⟩ := ⟨_, rfl, rfl⟩
    cases hrow'.symm.trans hfresh.stands
    exact hauthor
  have hby : Context.publisher.ByAuthor row.value := ⟨_, _, rfl, hauthor, rfl⟩
  have hmask : FieldMask.Chooses [] "text" := FieldMask.selects_ofTexts.1 rfl
  constructor
  · exact hfresh.update .publisher ⟨"done"⟩ [] ⟨_, rfl, rfl⟩ hby (by decide +kernel) hmask
  · exact hfresh.delete .publisher ⟨_, rfl, rfl⟩ hby

end CaseDesk
