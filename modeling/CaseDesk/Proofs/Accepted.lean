/-
  What is accepted.

  What two of the rules come to, worked out for all that they can be asked.

  * `Slas.stored_window_iff`: an agreement may be stored with any window, unless
    both ends are positive and in the wrong order.
  * `CaseComments.LeadsToOwn`: a tag leads to a comment of the caller.
  * `CaseComments.writes_ok_iff`: what it takes to change or remove a comment.
    A tag that names a version has to name the current one; a tag without a
    version will do as well.
-/
import CaseDesk.Proofs.Masks

namespace CaseDesk

/-! ## Windows of agreements -/

namespace Slas

/-- An input with nothing but a name and a window. -/
def windowInput (validFrom validTo : Int) : SlaInput := { name := "gold", validFrom, validTo }

/-- An agreement is made with nothing but a name and a window. -/
def windowed (validFrom validTo : Int) : Run :=
  [.bySuperuser (.slas (.create ⟨(), some (windowInput validFrom validTo)⟩))]

/-- The window of such an agreement is stored, unless its positive ends are in the wrong order. -/
theorem row?_windowed {validFrom validTo : Int}
    (h : ¬ (0 < validFrom ∧ 0 < validTo ∧ validTo < validFrom)) :
    ∃ row, ((windowed validFrom validTo).before 1).slas.row? 1 = some row ∧
      row.value.validFrom = validFrom ∧ row.value.validTo = validTo := by
  have hcaller : authorize Context.superuser.caller ServiceName.slas.desk.service
      (ServiceName.slas.desk.method .create) = .ok .anonymous := by rfl
  have hname : Require.text "name" "gold" = .ok "gold" :=
    Require.text_eq_ok.2 ⟨by decide +kernel, by decide⟩
  have hrevise : revise .full (windowInput validFrom validTo) {} =
      .ok { name := "gold", validFrom, validTo } :=
    bind_eq_ok.2 ⟨"gold", Require.masked_full hname _ _,
      bind_eq_ok.2 ⟨0, rfl, bind_eq_ok.2 ⟨0, rfl, if_neg h⟩⟩⟩
  have hdraft : ServiceName.slas.desk.draft {} .anonymous ()
      (some (windowInput validFrom validTo)) = .ok { name := "gold", validFrom, validTo } :=
    bind_eq_ok.2 ⟨_, rfl, hrevise⟩
  have hrun := ServiceName.run_create (s := {})
    (r := ⟨(), some (windowInput validFrom validTo)⟩) hcaller hdraft rfl
  have hbefore : (windowed validFrom validTo).before 1 = _ := congrArg Prod.snd hrun
  rw [hbefore]
  exact ⟨_, rfl, rfl, rfl⟩

/-- **The windows that agreements are stored with.**  An agreement may come to be stored with any
    window, unless both its ends are positive and the second is before the first.  So a window that
    has a negative end may end before it starts. -/
theorem stored_window_iff (validFrom validTo : Int) :
    (∃ s, Reachable s ∧ ∃ id row, s.slas.row? id = some row ∧ row.value.validFrom = validFrom ∧
      row.value.validTo = validTo) ↔
    ¬ (0 < validFrom ∧ 0 < validTo ∧ validTo < validFrom) := by
  constructor
  · rintro ⟨s, hs, id, row, hrow, rfl, rfl⟩
    exact (hs.tidy .slas id row hrow).window
  · intro hwindow
    obtain ⟨row, hrow⟩ := row?_windowed hwindow
    exact ⟨_, (windowed validFrom validTo).reachable_before 1, 1, row, hrow⟩

/-- An agreement from a second after the epoch to a second before it. -/
theorem windowed_reversed : Reachable ((windowed 1000 (-1000)).before 1) ∧
    ∃ row, ((windowed 1000 (-1000)).before 1).slas.row? 1 = some row ∧
      row.value.validFrom ≠ 0 ∧ row.value.validTo ≠ 0 ∧
        row.value.validTo < row.value.validFrom := by
  obtain ⟨row, hrow, hfrom, hto⟩ :=
    row?_windowed (by decide : ¬ ((0 : Int) < 1000 ∧ (0 : Int) < -1000 ∧ (-1000 : Int) < 1000))
  exact ⟨(windowed 1000 (-1000)).reachable_before 1, row, hrow, by omega, by omega, by omega⟩

end Slas

/-! ## Comments -/

namespace CaseComments

variable {ctx : Context} {s : Tables}

/-- A tag leads to a comment of the caller: at the version that the tag names, or at any version if
    it names none. -/
structure LeadsToOwn (ctx : Context) (s : Tables) (tag : Etag) (row : Row CaseComment) : Prop where
  stands : s.comments.row? tag.id = some row
  ver : ∀ ver, tag.ver = some ver → ver = row.ver
  author : ctx.ByAuthor row.value

theorem leadsToOwn_iff {caller : Caller} (hcaller : ctx.caller = some caller) {tag : Etag}
    {row : Row CaseComment} : LeadsToOwn ctx s tag row ↔
      s.comments.find { id := tag.id, ver := tag.ver } = .ok row ∧
        requireAuthor caller row.value = .ok () := by
  rw [Table.find_eq_ok, Table.check_eq_ok, requireAuthor_eq_ok, ← Context.byAuthor_iff hcaller]
  exact ⟨fun h => ⟨⟨h.stands, nofun, h.ver⟩, h.author⟩, fun h => ⟨h.1.1, h.1.2.2, h.2⟩⟩

/-- An update takes a mask that chooses the text, and a text, besides the tag of a comment of the
    caller. -/
theorem update_ok_iff {r : UpdateRequest String CaseCommentInput} :
    ((ServiceName.call .caseComments (.update r)).run ctx s).1.isOk = true ↔
      ctx.Holds .update .caseComments ∧
      (∃ tag row, Etag.parse .comment r.key = .ok tag ∧ LeadsToOwn ctx s tag row) ∧
      FieldMask.Chooses r.mask "text" ∧
        ∃ input, r.input = some input ∧ Text.trim input.text ≠ "" := by
  rw [ServiceName.update_ok_iff]
  constructor
  · rintro ⟨caller, k, revise, old, value, hcaller, hrevision, hfind, hrevise⟩
    obtain ⟨tag, htag, hrevision⟩ := bind_eq_ok.1 hrevision
    obtain ⟨input, hinput, hrevision⟩ := bind_eq_ok.1 hrevision
    dsimp only at hrevision
    split_ifs at hrevision with hmask
    · cases hrevision
      obtain ⟨_, hauthor, hrevise⟩ := bind_eq_ok.1 hrevise
      obtain ⟨text, htext, -⟩ := bind_eq_ok.1 hrevise
      obtain ⟨rfl, hsome⟩ := Require.text_eq_ok.1 htext
      exact ⟨(ServiceName.holds_iff .update).2 ⟨caller, hcaller⟩,
        ⟨tag, old, Require.tag_eq_ok.1 htag,
          (leadsToOwn_iff (ServiceName.authorize_eq_ok.1 hcaller).1).2 ⟨hfind, hauthor⟩⟩,
        FieldMask.selects_ofTexts.1 hmask, input, Require.input_eq_ok.1 hinput, hsome⟩
    · cases hrevision
  · rintro ⟨hholds, ⟨tag, row, htag, hown⟩, hmask, input, hinput, hsome⟩
    obtain ⟨caller, hcaller⟩ := (ServiceName.holds_iff .update).1 hholds
    obtain ⟨hfind, hauthor⟩ :=
      (leadsToOwn_iff (ServiceName.authorize_eq_ok.1 hcaller).1).1 hown
    have hselects := FieldMask.selects_ofTexts.2 hmask
    have hrevision : revision r.key r.input (.ofTexts r.mask) =
        .ok ({ id := tag.id, ver := tag.ver }, fun caller old => do
          requireAuthor caller old
          let text ← Require.text "text" input.text
          return { old with text, edited := true }) := by
      unfold revision
      exact bind_eq_ok.2 ⟨tag, Require.tag_eq_ok.2 htag,
        bind_eq_ok.2 ⟨input, Require.input_eq_ok.2 hinput, if_neg (not_not.2 hselects)⟩⟩
    exact ⟨caller, _, _, row, _, hcaller, hrevision, hfind, bind_eq_ok.2 ⟨(), hauthor,
      bind_eq_ok.2 ⟨_, Require.text_eq_ok.2 ⟨rfl, hsome⟩, rfl⟩⟩⟩

/-- A removal takes the tag of a comment of the caller. -/
theorem delete_ok_iff {r : DeleteRequest String} :
    ((ServiceName.call .caseComments (.delete r)).run ctx s).1.isOk = true ↔
      ctx.Holds .delete .caseComments ∧
      ∃ tag row, Etag.parse .comment r.key = .ok tag ∧ LeadsToOwn ctx s tag row := by
  rw [ServiceName.delete_ok_iff]
  constructor
  · rintro ⟨caller, k, allow, old, hcaller, hremoval, hfind, hallow⟩
    obtain ⟨⟨tag, htag, rfl⟩, rfl⟩ := removal_rule hremoval
    exact ⟨(ServiceName.holds_iff .delete).2 ⟨caller, hcaller⟩, tag, old, htag,
      (leadsToOwn_iff (ServiceName.authorize_eq_ok.1 hcaller).1).2 ⟨hfind, hallow⟩⟩
  · rintro ⟨hholds, tag, row, htag, hown⟩
    obtain ⟨caller, hcaller⟩ := (ServiceName.holds_iff .delete).1 hholds
    obtain ⟨hfind, hauthor⟩ :=
      (leadsToOwn_iff (ServiceName.authorize_eq_ok.1 hcaller).1).1 hown
    exact ⟨caller, _, _, row, hcaller,
      bind_eq_ok.2 ⟨tag, Require.tag_eq_ok.2 htag, rfl⟩, hfind, hauthor⟩

/-- **What it takes to change or to remove a comment.**  The caller holds the access and is the
    author of the comment that the tag leads to.  If the tag names a version, it is the current one;
    a tag that names no version will do as well. -/
theorem writes_ok_iff (ctx : Context) (s : Tables) :
    (∀ r : UpdateRequest String CaseCommentInput,
      ((ServiceName.call .caseComments (.update r)).run ctx s).1.isOk = true ↔
        ctx.Holds .update .caseComments ∧
        (∃ tag row, Etag.parse .comment r.key = .ok tag ∧ LeadsToOwn ctx s tag row) ∧
        FieldMask.Chooses r.mask "text" ∧
          ∃ input, r.input = some input ∧ Text.trim input.text ≠ "") ∧
    ∀ r : DeleteRequest String,
      ((ServiceName.call .caseComments (.delete r)).run ctx s).1.isOk = true ↔
        ctx.Holds .delete .caseComments ∧
        ∃ tag row, Etag.parse .comment r.key = .ok tag ∧ LeadsToOwn ctx s tag row :=
  ⟨fun _ => update_ok_iff, fun _ => delete_ok_iff⟩

/-- A comment is changed by its author, and then again by the bare id of the comment. -/
def blindEdit : Run := [
  .bySuperuser (.caseComments (.create ⟨"1", some ⟨"draft"⟩⟩)),
  .bySuperuser (.caseComments (.update ⟨"Y2FzZV9jb21tZW50OjE6MQ", some ⟨"text"⟩, []⟩)),
  .bySuperuser (.caseComments (.update ⟨"1", some ⟨"other text"⟩, []⟩)),
  .bySuperuser (.caseComments (.delete ⟨"1"⟩))]

/-- The bare id names no version, and still the comment is changed and removed. -/
theorem blindEdit_succeeds :
    Reachable (blindEdit.before 2) ∧ Reachable (blindEdit.before 3) ∧
    (∃ tag, Etag.parse .comment "1" = .ok tag ∧ tag.ver = none) ∧
    (blindEdit[2].outcome (blindEdit.before 2)).1.isOk = true ∧
    (blindEdit[3].outcome (blindEdit.before 3)).1.isOk = true :=
  ⟨blindEdit.reachable_before 2, blindEdit.reachable_before 3, ⟨⟨.comment, 1, none⟩, by rfl, rfl⟩,
    by decide +kernel, by decide +kernel⟩

end CaseComments

end CaseDesk
