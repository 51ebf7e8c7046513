/-
  Runs that do not use up the versions.

  As long as no row is at the last version, a row that is written gets a higher
  one.  The id of a row that is gone is not used again, so that an id and a
  version together stand for one record in all tables that a run goes through,
  and a version that is spent stays spent.

  * `Table.Grows`: no id is used twice, and a row that changes gets a higher
    version.  The tables of such runs grow (`Run.BelowLimit.grows`).
  * `Run.BelowLimit.counted`: versions are counted from 1.
  * `Run.content_of_version`: rows of a run with the same id and version hold
    the same record.
  * `Run.edited_once`: of all calls that edit a row at a version one succeeds,
    at most.
-/
import CaseDesk.Proofs.Frame

namespace CaseDesk

/-! ## Tables that grow -/

namespace Table

variable {ρ : Type} {t t' t'' : Table ρ}

/-- What a table turns into: no id is used twice, and a row that is still there is the same or has
    a higher version. -/
structure Grows (t t' : Table ρ) : Prop where
  evolves : t.Evolves t'
  row : ∀ {id : Int} {row row' : Row ρ}, t.row? id = some row → t'.row? id = some row' →
    row' = row ∨ row.ver < row'.ver

theorem Grows.refl (t : Table ρ) : t.Grows t :=
  ⟨.refl t, fun h h' => Or.inl (Option.some.inj (h'.symm.trans h))⟩

theorem Grows.trans (h : t.Grows t') (h' : t'.Grows t'') : t.Grows t'' := by
  refine ⟨h.evolves.trans h'.evolves, fun {id row row''} hrow hrow'' => ?_⟩
  have hused : id ≤ t'.slots.length := by
    have := h.evolves.length_le
    have := (bounds_of_row? hrow).2
    omega
  obtain ⟨row', hrow'⟩ := h'.evolves.row hused hrow''
  rcases h.row hrow hrow' with rfl | hlt
  · exact h'.row hrow' hrow''
  · rcases h'.row hrow' hrow'' with rfl | hlt'
    · exact .inr hlt
    · exact .inr (Int32.lt_trans hlt hlt')

/-- A table whose rows have next versions grows with each of them. -/
theorem Advances.grows (h : t.Advances t') (hevolves : t.Evolves t') (hlimit : t.BelowLimit) :
    t.Grows t' := by
  refine ⟨hevolves, fun {id row row'} hrow hrow' => ?_⟩
  rcases h id row' hrow' with ⟨hnone, -⟩ | ⟨old, hold, hsame | hnext⟩
  · cases hrow.symm.trans hnone
  · exact .inl (hsame.trans (Option.some.inj (hold.symm.trans hrow)))
  · cases hrow.symm.trans hold
    exact .inr (hnext ▸ Version.lt_add_one (hlimit.row hrow))

/-- A row that is still at its version is still the same row. -/
theorem Grows.row_eq (h : t.Grows t') {id : Int} {row row' : Row ρ} (hrow : t.row? id = some row)
    (hrow' : t'.row? id = some row') (hver : row.ver = row'.ver) : row = row' := by
  rcases h.row hrow hrow' with hsame | hlt
  · exact hsame.symm
  · exact absurd hver (Int32.ne_of_lt hlt)

/-- A version that is spent stays spent. -/
theorem Spent.grows {id ver : Int} (h : t.Spent id ver) (hgrows : t.Grows t') : t'.Spent id ver := by
  obtain ⟨hused, hpast⟩ := h
  refine ⟨Int.le_trans hused (Int.ofNat_le.2 hgrows.evolves.length_le), fun row' hrow' => ?_⟩
  obtain ⟨row, hrow⟩ := hgrows.evolves.row hused hrow'
  have hver := hpast row hrow
  rcases hgrows.row hrow hrow' with rfl | hlt
  · exact hver
  · exact Int.lt_trans hver (Int32.lt_iff_toInt_lt.1 hlt)

end Table

namespace Run

variable {run : Run}

/-- From one point of a run to the next the tables advance. -/
theorem advances_succ (run : Run) (n : Nat) (service : ServiceName) :
    (service.shelf.get (run.before n)).Advances (service.shelf.get (run.before (n + 1))) := by
  rcases hv : run[n]? with _ | v
  · rw [before_succ_of_none hv]
    exact .refl _
  · rw [before_succ hv]
    exact (v.step (run.before n)).advances (run.reachable_before n).keyed service

/-- The tables of a run that does not use up the versions grow. -/
theorem BelowLimit.grows (hlimit : run.BelowLimit) {m n : Nat} (h : m ≤ n)
    (service : ServiceName) :
    (service.shelf.get (run.before m)).Grows (service.shelf.get (run.before n)) := by
  induction h with
  | refl => exact .refl _
  | @step n _ ih =>
    refine ih.trans ?_
    have hevolves := (run.steps_succ n).evolves service
    exact (run.advances_succ n service).grows hevolves (hlimit n service)

/-- In a run that does not use up the versions, they are counted from 1. -/
theorem BelowLimit.counted (hlimit : run.BelowLimit) (n : Nat) (service : ServiceName) {id : Int}
    {row : Row service.Kept} (hrow : (service.shelf.get (run.before n)).row? id = some row) :
    1 ≤ row.ver := by
  induction n generalizing id row with
  | zero =>
    have hempty : service.shelf.get {} = {} := by cases service <;> rfl
    change (service.shelf.get {}).row? id = some row at hrow
    rw [hempty, Table.row?_empty] at hrow
    cases hrow
  | succ n ih =>
    rcases run.advances_succ n service id row hrow with ⟨-, hver⟩ | ⟨old, hold, hsame | hver⟩
    · rw [hver]
      decide
    · exact ih (hsame ▸ hold)
    · have hlt := Version.lt_add_one ((hlimit n service).row hold)
      rw [hver]
      exact Int32.le_of_lt (Int32.lt_of_le_of_lt (ih hold) hlt)

end Run

/-! ## Contents -/

/-- **An id and a version stand for one record.**  Whenever two points of a run that does not use up
    the versions have a row under the same id and at the same version, in any of the ten tables,
    both rows hold the same record. -/
theorem Run.content_of_version (run : Run) (hlimit : run.BelowLimit) (service : ServiceName)
    {m n : Nat} {id : Int} {row row' : Row service.Kept}
    (hrow : (service.shelf.get (run.before m)).row? id = some row)
    (hrow' : (service.shelf.get (run.before n)).row? id = some row') (hver : row.ver = row'.ver) :
    row.value = row'.value := by
  rcases Nat.le_total m n with h | h
  · have hsame := (hlimit.grows h service).row_eq hrow hrow' hver
    rw [hsame]
  · have hsame := (hlimit.grows h service).row_eq hrow' hrow hver.symm
    rw [hsame]

/-- The first condition of a status loses its flag to the second, which is renamed afterwards. -/
def lostFlag : Run :=
  [.bySuperuser (.statuses (.create ⟨(), some ⟨"open", ""⟩⟩)),
    .bySuperuser (.statusConditions (.create ⟨1, some ⟨"new", "", false, false⟩⟩)),
    .bySuperuser (.statusConditions (.create ⟨1, some ⟨"known", "", true, false⟩⟩)),
    .bySuperuser (.statusConditions (.update ⟨⟨1, 2⟩, some ⟨"seen", "", true, false⟩, []⟩))]

/-- The row of the first condition in the last two states of `lostFlag`. -/
theorem lostFlag_content :
    ∃ row row', (lostFlag.before 3).statusConditions.row? 1 = some row ∧
      (lostFlag.before 4).statusConditions.row? 1 = some row' ∧
      row.ver = 2 ∧ row'.ver = 2 ∧ row.value = row'.value := by
  have hthird : ((lostFlag.before 3).statusConditions.row? 1).map (·.ver) = some 2 := by
    decide +kernel
  have hlast : ((lostFlag.before 4).statusConditions.row? 1).map (·.ver) = some 2 := by
    decide +kernel
  obtain ⟨row, hrow, hver⟩ := Option.map_eq_some_iff.1 hthird
  obtain ⟨row', hrow', hver'⟩ := Option.map_eq_some_iff.1 hlast
  have hlimit : lostFlag.BelowLimit := by decide +kernel
  exact ⟨row, row', hrow, hrow', hver, hver',
    Run.content_of_version lostFlag hlimit .statusConditions (m := 3) (n := 4) hrow hrow'
      (hver.trans hver'.symm)⟩

/-! ## Edits -/

theorem Tables.Spent.grows {s s' : Tables} {kind : EtagKind} {id ver : Int}
    (h : s.Spent kind id ver)
    (hgrows : ∀ service : ServiceName, (service.shelf.get s).Grows (service.shelf.get s')) :
    s'.Spent kind id ver := by
  cases kind with
  | comment => exact Table.Spent.grows h (hgrows .caseComments)
  | link => exact Table.Spent.grows h (hgrows .caseLinks)
  | wholeCase => exact trivial

/-- After a successful call at a version no other one at that version succeeds. -/
theorem Run.not_lt_of_edits {run : Run} (hlimit : run.BelowLimit) {kind : EtagKind} {id ver : Int}
    {i j : Nat} {v w : Visit} (hv : run[i]? = some v) (hi : v.call.EditsAt kind id ver)
    (hj : w.call.EditsAt kind id ver) {a b : Answer} (ha : (v.outcome (run.before i)).1 = .ok a)
    (hb : (w.outcome (run.before j)).1 = .ok b) : ¬ i < j := by
  intro hlt
  have hfirst := v.step (run.before i)
  have hsecond := w.step (run.before j)
  rw [ha, ← before_succ hv] at hfirst
  rw [hb] at hsecond
  have hspent := (hfirst.spends (hlimit i) hi).2.grows (hlimit.grows hlt)
  exact hspent.ver_ne (hsecond.spends (hlimit j) hj).1

/-- Two successful calls of a run that are at one version are the same call. -/
theorem Run.eq_of_edits {run : Run} (hlimit : run.BelowLimit) {kind : EtagKind} {id ver : Int}
    {i j : Nat} {v w : Visit} (hv : run[i]? = some v) (hw : run[j]? = some w)
    (hi : v.call.EditsAt kind id ver) (hj : w.call.EditsAt kind id ver) {a b : Answer}
    (ha : (v.outcome (run.before i)).1 = .ok a) (hb : (w.outcome (run.before j)).1 = .ok b) :
    i = j := by
  rcases Nat.lt_trichotomy i j with h | h | h
  · exact absurd h (not_lt_of_edits hlimit hv hi hj ha hb)
  · exact h
  · exact absurd h (not_lt_of_edits hlimit hw hj hi hb ha)

/-- **A version of a comment or a link is edited once.**  In a run that does not use up the versions,
    a call that changes or removes a row at a version finds the row at that version, and every other
    call of the run at that version fails and changes nothing, wherever it stands. -/
theorem Run.edited_once (run : Run) (hlimit : run.BelowLimit) {kind : EtagKind} {id ver : Int}
    {i : Nat} {v : Visit} {a : Answer} (hv : run[i]? = some v) (hi : v.call.EditsAt kind id ver)
    (ha : (v.outcome (run.before i)).1 = .ok a) :
    (run.before i).ver? kind id = some ver ∧
      ∀ j w, run[j]? = some w → w.call.EditsAt kind id ver → j ≠ i →
        (∃ e, (w.outcome (run.before j)).1 = .error e) ∧ run.before (j + 1) = run.before j := by
  have hstep := v.step (run.before i)
  rw [ha] at hstep
  refine ⟨(hstep.spends (hlimit i) hi).1, fun j w hw hj hne => ?_⟩
  rcases hb : (w.outcome (run.before j)).1 with e | b
  · refine ⟨⟨e, rfl⟩, ?_⟩
    rw [before_succ hw]
    exact (w.step (run.before j)).unchanged_of_error hb
  · exact absurd (eq_of_edits hlimit hw hv hj hi hb ha) hne

/-- A comment is published and changed, and then removed by the tag from before the change. -/
def staleRemoval : Run :=
  let tag := "Y2FzZV9jb21tZW50OjE6MQ"
  [.bySuperuser (.caseComments (.create ⟨"1", some ⟨"draft"⟩⟩)),
    .bySuperuser (.caseComments (.update ⟨tag, some ⟨"text"⟩, []⟩)),
    .bySuperuser (.caseComments (.delete ⟨tag⟩))]

theorem staleRemoval_fails :
    (staleRemoval.before 1).ver? .comment 1 = some 1 ∧
      ∃ v e, staleRemoval[2]? = some v ∧ (v.outcome (staleRemoval.before 2)).1 = .error e := by
  have htag : Etag.parse .comment "Y2FzZV9jb21tZW50OjE6MQ" = .ok ⟨.comment, 1, some 1⟩ := by rfl
  have hok : (staleRemoval[1].outcome (staleRemoval.before 1)).1.isOk = true := by decide +kernel
  have hlimit : staleRemoval.BelowLimit := by decide +kernel
  obtain ⟨a, ha⟩ := exists_of_isOk hok
  obtain ⟨hver, hrest⟩ := Run.edited_once staleRemoval hlimit (i := 1) rfl ⟨_, rfl, htag⟩ ha
  obtain ⟨⟨e, he⟩, -⟩ := hrest 2 _ rfl ⟨_, rfl, htag⟩ (by decide)
  exact ⟨hver, _, e, rfl, he⟩

end CaseDesk
