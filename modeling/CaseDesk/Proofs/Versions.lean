/-
  Versions of comments and links.

  A tag names a comment or a link, perhaps with the version that a client saw
  last.  Changing or removing a row at a version spends the version: the row
  then has a higher one, unless there is none, or is gone (`Table.Spent`).

  * `Call.EditsAt`: a call that wants to change or remove a row at a version.
  * `Call.Step.spends`: such a call succeeds only at that version, and spends it.
-/
import CaseDesk.Proofs.Shelves

namespace CaseDesk

/-! ## Calls at a version -/

/-- The key of the record that a request wants to change or remove. -/
def Request.edited? {P F K I : Type} : Request P F K I → Option K
  | .update r => some r.key
  | .delete r => some r.key
  | .list _ | .create _ | .locate _ => none

/-- The tag by which a call names the comment or the link that it wants to change or remove. -/
def Call.editTag? : EtagKind → Call → Option String
  | .comment, .caseComments r => r.edited?
  | .link, .caseLinks r => r.edited?.map (·.linkTag)
  | _, _ => none

/-- A call that wants to change or remove the comment or link with an id, at a version. -/
def Call.EditsAt (call : Call) (kind : EtagKind) (id ver : Int) : Prop :=
  ∃ raw, call.editTag? kind = some raw ∧ Etag.parse kind raw = .ok ⟨kind, id, some ver⟩

/-- The version of the comment or link with an id. -/
def Tables.ver? (s : Tables) : EtagKind → Int → Option Int
  | .comment, id => (s.comments.row? id).map fun row => (row.ver : Int)
  | .link, id => (s.links.row? id).map fun row => (row.ver : Int)
  | .wholeCase, _ => none

/-! ## Spent versions -/

/-- The row with an id is past a version: it has a higher one, or was removed. -/
def Table.Spent {ρ : Type} (t : Table ρ) (id ver : Int) : Prop :=
  id ≤ t.slots.length ∧ ∀ row, t.row? id = some row → ver < row.ver

/-- Putting nothing, or a row with a higher version, where a key with a version leads spends that
    version. -/
theorem Table.put_spends {ρ : Type} [Record ρ] {t : Table ρ} {key : RowKey} {old : Row ρ}
    (hfind : t.find key = .ok old) {ver : Int} (hver : key.ver = some ver) {new : Option (Row ρ)}
    (hnew : ∀ row, new = some row → old.ver < row.ver) :
    ((t.row? key.id).map fun row => (row.ver : Int)) = some ver ∧
      (t.put key.id new).Spent key.id ver := by
  have hold := row?_of_find hfind
  obtain rfl := ver_of_find hfind hver
  refine ⟨by rw [hold]; rfl, by rw [length_put]; exact (bounds_of_row? hold).2, fun row hrow => ?_⟩
  rw [row?_put hold, if_pos rfl] at hrow
  exact Int32.lt_iff_toInt_lt.1 (hnew row hrow)

/-- The comment or link with an id is past a version. -/
def Tables.Spent (s : Tables) : EtagKind → Int → Int → Prop
  | .comment => s.comments.Spent
  | .link => s.links.Spent
  | .wholeCase => fun _ _ => True

theorem Tables.Spent.ver_ne {s : Tables} {kind : EtagKind} {id ver : Int}
    (h : s.Spent kind id ver) : s.ver? kind id ≠ some ver := by
  have hrow : ∀ {ρ : Type} {t : Table ρ}, t.Spent id ver →
      ((t.row? id).map fun row => (row.ver : Int)) ≠ some ver := by
    intro ρ t ht hv
    obtain ⟨row, hrow, rfl⟩ := Option.map_eq_some_iff.1 hv
    exact Int.lt_irrefl _ (ht.2 row hrow)
  cases kind with
  | comment => exact hrow h
  | link => exact hrow h
  | wholeCase => exact fun h => by cases h

/-! ## Edits spend versions -/

namespace Desk

variable {P F K I ρ : Type} [Record ρ]

/-- A desk whose rows are named by tags: an update or a removal is about the row with the id and,
    where there is one, at the version that the tag names. -/
structure Tagged (d : Desk P F K I ρ) (kind : EtagKind) (tag : K → String) : Prop where
  revision : ∀ {s key input mask row revise t}, d.revision s key input mask = .ok (row, revise) →
    Etag.parse kind (tag key) = .ok t → row.id = t.id ∧ row.ver = t.ver
  removal : ∀ {s key row allow t}, d.removal s key = .ok (row, allow) →
    Etag.parse kind (tag key) = .ok t → row.id = t.id ∧ row.ver = t.ver
  settled : ∀ before row s, d.settled before row s = s := by intros; rfl
  cleared : ∀ key s, d.cleared key s = s := by intros; rfl

theorem Tagged.spends {d : Desk P F K I ρ} {kind : EtagKind} {tag : K → String}
    (hd : d.Tagged kind tag) {ctx : Context} {s s' : Tables} {r : Request P F K I}
    {reply : Reply ρ} (h : d.Step ctx s r (.ok reply) s') (hlimit : (d.shelf.get s).BelowLimit)
    {key : K} (hkey : r.edited? = some key) {id ver : Int}
    (htag : Etag.parse kind (tag key) = .ok ⟨kind, id, some ver⟩) :
    (((d.shelf.get s).row? id).map fun row => (row.ver : Int)) = some ver ∧
      (d.shelf.get s').Spent id ver := by
  cases h with
  | listed | located | created => cases hkey
  | updated _ hrevision hfind _ new hnew =>
    cases hkey
    obtain ⟨rfl, hver⟩ := hd.revision hrevision htag
    rw [hd.settled, d.shelf.get_set]
    refine Table.put_spends hfind hver fun row hrow => ?_
    cases hrow
    rw [hnew]
    exact Version.lt_add_one (hlimit.row (Table.row?_of_find hfind))
  | deleted _ hremoval hfind _ =>
    cases hkey
    obtain ⟨rfl, hver⟩ := hd.removal hremoval htag
    rw [hd.cleared, d.shelf.get_set]
    exact Table.put_spends hfind hver fun row hrow => by cases hrow

end Desk

theorem Require.tag_eq_ok {kind : EtagKind} {raw : String} {t : Etag} :
    Require.tag kind raw = .ok t ↔ Etag.parse kind raw = .ok t := by
  unfold Require.tag
  cases Etag.parse kind raw <;> simp

theorem CaseComments.tagged : desk.Tagged .comment id where
  revision {_ key input mask row revise t} h ht := by
    change CaseComments.revision key input mask = _ at h
    obtain ⟨t', ht', h⟩ := bind_eq_ok.1 h
    obtain ⟨_, -, h⟩ := bind_eq_ok.1 h
    cases (Require.tag_eq_ok.1 ht').symm.trans ht
    dsimp only at h
    split at h
    · cases h
    · cases h
      exact ⟨rfl, rfl⟩
  removal h ht := by
    obtain ⟨t', ht', h⟩ := bind_eq_ok.1 h
    cases (Require.tag_eq_ok.1 ht').symm.trans ht
    cases h
    exact ⟨rfl, rfl⟩

namespace CaseLinks

theorem rowKey_eq_ok {key : LinkKey} {row : RowKey} {t : Etag} (h : rowKey key = .ok row)
    (ht : Etag.parse .link key.linkTag = .ok t) : row.id = t.id ∧ row.ver = t.ver := by
  obtain ⟨_, -, h⟩ := bind_eq_ok.1 h
  obtain ⟨t', ht', h⟩ := bind_eq_ok.1 h
  cases (Require.tag_eq_ok.1 ht').symm.trans ht
  cases h
  exact ⟨rfl, rfl⟩

theorem tagged : desk.Tagged .link (·.linkTag) where
  revision h ht := by
    obtain ⟨row, hrow, h⟩ := bind_eq_ok.1 h
    obtain ⟨_, -, h⟩ := bind_eq_ok.1 h
    cases h
    exact rowKey_eq_ok hrow ht
  removal h ht := by
    obtain ⟨row, hrow, h⟩ := bind_eq_ok.1 h
    cases h
    exact rowKey_eq_ok hrow ht

end CaseLinks

/-- A call at a version succeeds only where that is the version of the row, and spends it. -/
theorem Call.Step.spends {call : Call} {ctx : Context} {s s' : Tables} {a : Answer}
    (h : call.Step ctx s (.ok a) s') (hlimit : s.BelowLimit) {kind : EtagKind} {id ver : Int}
    (he : call.EditsAt kind id ver) : s.ver? kind id = some ver ∧ s'.Spent kind id ver := by
  obtain ⟨raw, hraw, htag⟩ := he
  generalize hout : Except.ok a = out at h
  cases h with
  | caseComments h =>
    obtain ⟨reply, rfl, -⟩ := map_eq_ok.1 hout.symm
    cases kind with
    | comment => exact CaseComments.tagged.spends h (hlimit .caseComments) hraw htag
    | wholeCase | link => cases hraw
  | caseLinks h =>
    obtain ⟨reply, rfl, -⟩ := map_eq_ok.1 hout.symm
    cases kind with
    | link =>
      obtain ⟨key, hkey, rfl⟩ := Option.map_eq_some_iff.1 hraw
      exact CaseLinks.tagged.spends h (hlimit .caseLinks) hkey htag
    | wholeCase | comment => cases hraw
  | _ => cases kind <;> cases hraw

end CaseDesk
