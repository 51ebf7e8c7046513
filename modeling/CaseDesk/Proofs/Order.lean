/-
  The order of lists.

  A list is sorted by the first term that tells two records apart, and by their
  ids if no term does.  For records with different ids this is a strict total
  order, so that the rows alone decide how they are listed, and the only thing
  that counts of a list of terms is, for each field that has keys, the first
  term that names it.

  * `SortKey.Less`, `Sortable`: the order of keys, and the fields that have them.
  * `SortTerm.Ties`, `SortTerm.Prefers`, `Before`: the order that terms stand
    for.
  * `compareBy_eq_lt`: the comparison decides it.
  * `Table.pairwise_matching`, `Table.matching_eq`: rows are listed in it.
  * `Table.list_order`: the order is strict and total, and what is listed is the
    one arrangement that keeps to it.
-/
import CaseDesk.Proofs.Runs

namespace CaseDesk

/-! ## Keys -/

namespace SortKey

/-- The order of keys: flags, integers, texts by their code points. -/
inductive Less : SortKey → SortKey → Prop
  | flag : Less (.flag false) (.flag true)
  | flag_int {b : Bool} {n : Int} : Less (.flag b) (.int n)
  | flag_text {b : Bool} {s : String} : Less (.flag b) (.text s)
  | int {m n : Int} (h : m < n) : Less (.int m) (.int n)
  | int_text {n : Int} {s : String} : Less (.int n) (.text s)
  | text {s t : String} (h : s < t) : Less (.text s) (.text t)

variable {x y z : SortKey}

theorem Less.trans (hxy : x.Less y) (hyz : y.Less z) : x.Less z := by
  cases hxy with
  | flag | flag_int => cases hyz <;> constructor
  | flag_text | int_text => cases hyz; constructor
  | int h =>
    cases hyz with
    | int h' => exact .int (Int.lt_trans h h')
    | int_text => exact .int_text
  | text h =>
    cases hyz with
    | text h' => exact .text (String.lt_trans h h')

theorem Less.irrefl (x : SortKey) : ¬ x.Less x := by
  intro h
  cases h with
  | int h => exact Int.lt_irrefl _ h
  | text h => exact String.lt_irrefl _ h

theorem compareChars_swap (as bs : List Char) :
    (compareChars as bs).swap = compareChars bs as := by
  induction as generalizing bs with
  | nil => cases bs <;> rfl
  | cons a as ih =>
    cases bs with
    | nil => rfl
    | cons b bs =>
      rw [compareChars, compareChars, Ordering.swap_then, ih, Nat.compare_swap]

theorem compareChars_eq_lt {as bs : List Char} : compareChars as bs = .lt ↔ as < bs := by
  induction as generalizing bs with
  | nil => cases bs <;> simp [compareChars]
  | cons a as ih =>
    cases bs with
    | nil => simp [compareChars]
    | cons b bs =>
      have hlt : a.toNat < b.toNat ↔ a < b := Iff.rfl
      have heq : a.toNat = b.toNat ↔ a = b := Char.toNat_inj
      rw [compareChars, Ordering.then_eq_lt, ih, Nat.compare_eq_lt, Nat.compare_eq_eq,
        List.cons_lt_cons_iff, hlt, heq]

theorem compareChars_eq_eq {as bs : List Char} : compareChars as bs = .eq ↔ as = bs := by
  induction as generalizing bs with
  | nil => cases bs <;> simp [compareChars]
  | cons a as ih =>
    cases bs with
    | nil => simp [compareChars]
    | cons b bs =>
      rw [compareChars, Ordering.then_eq_eq, ih, Nat.compare_eq_eq, List.cons.injEq, Char.toNat_inj]

theorem cmp_swap (x y : SortKey) : (x.cmp y).swap = y.cmp x := by
  cases x <;> cases y
  case flag.flag a b => exact Nat.compare_swap _ _
  case int.int m n => exact Int.compare_swap _ _
  case text.text s t => exact compareChars_swap _ _
  all_goals rfl

theorem cmp_eq_lt : x.cmp y = .lt ↔ x.Less y := by
  constructor
  · intro h
    cases x <;> cases y
    case flag.flag a b => cases a <;> cases b <;> first | exact .flag | cases h
    case int.int m n => exact .int (Int.compare_eq_lt.1 h)
    case text.text s t => exact .text (compareChars_eq_lt.1 h)
    all_goals first | constructor | cases h
  · rintro (_ | _ | _ | h | _ | h)
    case int => exact Int.compare_eq_lt.2 h
    case text => exact compareChars_eq_lt.2 h
    all_goals rfl

theorem cmp_eq_eq : x.cmp y = .eq ↔ x = y := by
  cases x <;> cases y
  case flag.flag a b => cases a <;> cases b <;> decide
  case int.int m n => rw [cmp, Int.compare_eq_eq, int.injEq]
  case text.text s t => rw [cmp, compareChars_eq_eq, text.injEq, String.toList_inj]
  all_goals simp [cmp]

theorem cmp_eq_gt : x.cmp y = .gt ↔ y.Less x := by
  rw [← cmp_eq_lt, ← cmp_swap x y, Ordering.swap_eq_lt]

/-- Keys are equal, or one is less than the other. -/
theorem Less.trichotomy (x y : SortKey) : x.Less y ∨ x = y ∨ y.Less x := by
  rcases h : x.cmp y
  · exact Or.inl (cmp_eq_lt.1 h)
  · exact Or.inr (Or.inl (cmp_eq_eq.1 h))
  · exact Or.inr (Or.inr (cmp_eq_gt.1 h))

end SortKey

/-! ## Fields with keys -/

/-- Whether records of a kind can be sorted by a field. -/
def Sortable (ρ : Type) [Record ρ] (field : String) : Prop :=
  field ∈ ["id", "created_at", "updated_at"] ∨ field ∈ (Record.sortKeys (ρ := ρ)).map Prod.fst

variable {ρ : Type} [Record ρ]

/-- Either all records of a kind have a key for a field, or none has. -/
theorem sortKey?_cases (ρ : Type) [Record ρ] (field : String) :
    (Sortable ρ field ∧ ∃ key : ρ → SortKey, ∀ r, Record.sortKey? field r = some (key r)) ∨
      (¬ Sortable ρ field ∧ ∀ r : ρ, Record.sortKey? field r = none) := by
  unfold Record.sortKey? Sortable
  split
  · exact Or.inl ⟨by simp, _, fun _ => rfl⟩
  · exact Or.inl ⟨by simp, _, fun _ => rfl⟩
  · exact Or.inl ⟨by simp, _, fun _ => rfl⟩
  · rename_i hid hcreated hupdated
    have hmem : field ∈ (Record.sortKeys (ρ := ρ)).map Prod.fst ↔
        ((Record.sortKeys (ρ := ρ)).lookup field).isSome := by
      rw [List.lookup_isSome_iff, List.mem_map]
      exact exists_congr fun _ => and_congr_right fun _ => eq_comm.trans beq_iff_eq.symm
    rw [hmem]
    rcases h : (Record.sortKeys (ρ := ρ)).lookup field with _ | key
    · exact Or.inr ⟨by simp_all, fun _ => rfl⟩
    · exact Or.inl ⟨by simp, key, fun _ => rfl⟩

/-! ## Terms -/

namespace SortTerm

/-- A term does not tell records apart: it finds no keys in them, or equal ones. -/
def Ties (term : SortTerm) (a b : ρ) : Prop :=
  ∀ x y, Record.sortKey? term.field a = some x → Record.sortKey? term.field b = some y → x = y

/-- A term puts a record before another one. -/
def Prefers (term : SortTerm) (a b : ρ) : Prop :=
  ∃ x y, Record.sortKey? term.field a = some x ∧ Record.sortKey? term.field b = some y ∧
    match term.order with
    | .asc => x.Less y
    | .desc => y.Less x

/-- A term whose field has no keys ties all records; else it goes by the keys of the field. -/
theorem cases (ρ : Type) [Record ρ] (term : SortTerm) :
    (¬ Sortable ρ term.field ∧ ∀ a b : ρ, term.Ties a b ∧ ¬ term.Prefers a b) ∨
      ∃ key : ρ → SortKey, (∀ a b, term.Ties a b ↔ key a = key b) ∧
        ∀ a b, term.Prefers a b ↔ match term.order with
          | .asc => (key a).Less (key b)
          | .desc => (key b).Less (key a) := by
  rcases sortKey?_cases ρ term.field with ⟨-, key, hkey⟩ | ⟨hnone, hkey⟩
  · exact Or.inr ⟨key, by simp [Ties, hkey], by simp [Prefers, hkey]⟩
  · exact Or.inl ⟨hnone, by simp [Ties, Prefers, hkey]⟩

variable {term : SortTerm} {a b c : ρ}

theorem Ties.refl (term : SortTerm) (a : ρ) : term.Ties a a := fun _ _ hx hy =>
  Option.some.inj (hx.symm.trans hy)

theorem Ties.symm (h : term.Ties a b) : term.Ties b a := fun x y hx hy => (h y x hy hx).symm

theorem Ties.trans (hab : term.Ties a b) (hbc : term.Ties b c) : term.Ties a c := by
  rcases term.cases ρ with ⟨-, h⟩ | ⟨key, hties, -⟩
  · exact (h a c).1
  · rw [hties] at *
    exact hab.trans hbc

theorem Prefers.trans (hab : term.Prefers a b) (hbc : term.Prefers b c) : term.Prefers a c := by
  rcases term.cases ρ with ⟨-, h⟩ | ⟨key, -, hprefers⟩
  · exact absurd hab (h a b).2
  · rw [hprefers] at *
    cases horder : term.order <;> rw [horder] at hab hbc
    · exact hab.trans hbc
    · exact hbc.trans hab

theorem Prefers.trans_ties (hab : term.Prefers a b) (hbc : term.Ties b c) : term.Prefers a c := by
  rcases term.cases ρ with ⟨-, h⟩ | ⟨key, hties, hprefers⟩
  · exact absurd hab (h a b).2
  · rw [hprefers] at *
    rwa [← (hties b c).1 hbc]

theorem Ties.trans_prefers (hab : term.Ties a b) (hbc : term.Prefers b c) : term.Prefers a c := by
  rcases term.cases ρ with ⟨-, h⟩ | ⟨key, hties, hprefers⟩
  · exact absurd hbc (h b c).2
  · rw [hprefers] at *
    rwa [(hties a b).1 hab]

theorem Ties.not_prefers (hab : term.Ties a b) : ¬ term.Prefers a b := by
  rcases term.cases ρ with ⟨-, h⟩ | ⟨key, hties, hprefers⟩
  · exact (h a b).2
  · rw [hprefers, (hties a b).1 hab]
    cases term.order <;> exact SortKey.Less.irrefl _

/-- A term ties two records or puts one of them before the other. -/
theorem trichotomy (term : SortTerm) (a b : ρ) :
    term.Prefers a b ∨ term.Ties a b ∨ term.Prefers b a := by
  rcases term.cases ρ with ⟨-, h⟩ | ⟨key, hties, hprefers⟩
  · exact Or.inr (Or.inl (h a b).1)
  · rw [hties, hprefers, hprefers]
    have hkeys := SortKey.Less.trichotomy (key a) (key b)
    cases term.order
    · exact hkeys
    · exact hkeys.elim (fun h => .inr (.inr h)) (Or.elim · (fun h => .inr (.inl h)) .inl)

end SortTerm

/-! ## The order of terms -/

/-- The order that terms stand for: the first term that does not tie two records decides, and
    if all of them tie the records, their ids do. -/
def Before (terms : List SortTerm) (a b : ρ) : Prop :=
  (∃ earlier term later, terms = earlier ++ term :: later ∧ (∀ t ∈ earlier, t.Ties a b) ∧
    term.Prefers a b) ∨
  (∀ t ∈ terms, t.Ties a b) ∧ Record.idOf a < Record.idOf b

variable {terms : List SortTerm} {a b c : ρ}

theorem before_nil : Before [] a b ↔ Record.idOf a < Record.idOf b := by
  simp [Before]

theorem before_cons {term : SortTerm} :
    Before (term :: terms) a b ↔ term.Prefers a b ∨ term.Ties a b ∧ Before terms a b := by
  constructor
  · rintro (⟨earlier, t, later, heq, hties, hprefers⟩ | ⟨hties, hid⟩)
    · cases earlier with
      | nil =>
        cases heq
        exact Or.inl hprefers
      | cons first earlier =>
        cases heq
        obtain ⟨hfirst, hties⟩ := List.forall_mem_cons.1 hties
        exact Or.inr ⟨hfirst, Or.inl ⟨earlier, t, later, rfl, hties, hprefers⟩⟩
    · obtain ⟨hfirst, hties⟩ := List.forall_mem_cons.1 hties
      exact Or.inr ⟨hfirst, Or.inr ⟨hties, hid⟩⟩
  · rintro (hprefers | ⟨hfirst, ⟨earlier, t, later, rfl, hties, hprefers⟩ | ⟨hties, hid⟩⟩)
    · exact Or.inl ⟨[], term, terms, rfl, nofun, hprefers⟩
    · exact Or.inl ⟨term :: earlier, t, later, rfl, List.forall_mem_cons.2 ⟨hfirst, hties⟩,
        hprefers⟩
    · exact Or.inr ⟨List.forall_mem_cons.2 ⟨hfirst, hties⟩, hid⟩

theorem Before.irrefl (terms : List SortTerm) (a : ρ) : ¬ Before terms a a := by
  induction terms with
  | nil => rw [before_nil]; exact Int.lt_irrefl _
  | cons term terms ih =>
    rw [before_cons]
    rintro (hprefers | ⟨-, hbefore⟩)
    · exact (SortTerm.Ties.refl term a).not_prefers hprefers
    · exact ih hbefore

theorem Before.trans (hab : Before terms a b) (hbc : Before terms b c) : Before terms a c := by
  induction terms with
  | nil =>
    rw [before_nil] at *
    exact Int.lt_trans hab hbc
  | cons term terms ih =>
    rw [before_cons] at *
    rcases hab with hab | ⟨hab, hab'⟩ <;> rcases hbc with hbc | ⟨hbc, hbc'⟩
    · exact Or.inl (hab.trans hbc)
    · exact Or.inl (hab.trans_ties hbc)
    · exact Or.inl (hab.trans_prefers hbc)
    · exact Or.inr ⟨hab.trans hbc, ih hab' hbc'⟩

/-- What stands before a record stands before any third one, or that one stands before it. -/
theorem Before.cotrans (h : Before terms a c) (b : ρ) : Before terms a b ∨ Before terms b c := by
  induction terms with
  | nil =>
    rw [before_nil] at *
    rw [before_nil]
    omega
  | cons term terms ih =>
    simp only [before_cons] at *
    rcases term.trichotomy a b with hab | hab | hba
    · exact Or.inl (Or.inl hab)
    · refine h.elim (fun hac => Or.inr (Or.inl (hab.symm.trans_prefers hac))) fun hac => ?_
      exact (ih hac.2).imp (fun h => Or.inr ⟨hab, h⟩) fun h => Or.inr ⟨hab.symm.trans hac.1, h⟩
    · exact Or.inr (Or.inl (h.elim hba.trans fun hac => hba.trans_ties hac.1))

/-- Records with different ids are put in order. -/
theorem Before.total (terms : List SortTerm) (hne : Record.idOf a ≠ Record.idOf b) :
    Before terms a b ∨ Before terms b a := by
  induction terms with
  | nil =>
    rw [before_nil, before_nil]
    exact Int.lt_or_gt_of_ne hne
  | cons term terms ih =>
    rw [before_cons, before_cons]
    rcases term.trichotomy a b with h | h | h
    · exact Or.inl (Or.inl h)
    · exact ih.imp (fun hbefore => Or.inr ⟨h, hbefore⟩)
        fun hbefore => Or.inr ⟨h.symm, hbefore⟩
    · exact Or.inr (Or.inl h)

namespace Table

/-! ## The comparison -/

theorem compareBy_cons_eq_lt {term : SortTerm} :
    compareBy (term :: terms) a b = .lt ↔
      term.Prefers a b ∨ term.Ties a b ∧ compareBy terms a b = .lt := by
  rcases sortKey?_cases ρ term.field with ⟨-, key, hkey⟩ | ⟨-, hkey⟩
  · have hties : term.Ties a b ↔ key a = key b := by simp [SortTerm.Ties, hkey]
    rw [hties]
    simp only [compareBy, hkey, SortTerm.Prefers, Option.some.injEq, exists_and_left,
      exists_eq_left', Ordering.then_eq_lt]
    cases term.order with
    | asc => rw [SortKey.cmp_eq_lt, SortKey.cmp_eq_eq]
    | desc => rw [SortKey.cmp_swap, SortKey.cmp_eq_lt, SortKey.cmp_eq_eq, eq_comm]
  · simp [compareBy, hkey, SortTerm.Prefers, SortTerm.Ties]

/-- The comparison decides the order of its terms. -/
theorem compareBy_eq_lt : compareBy terms a b = .lt ↔ Before terms a b := by
  induction terms with
  | nil => rw [before_nil, compareBy, Int.compare_eq_lt]
  | cons term terms ih => rw [compareBy_cons_eq_lt, before_cons, ih]

theorem compareBy_swap (terms : List SortTerm) (a b : ρ) :
    (compareBy terms a b).swap = compareBy terms b a := by
  induction terms with
  | nil => exact Int.compare_swap _ _
  | cons term terms ih =>
    rcases sortKey?_cases ρ term.field with ⟨-, key, hkey⟩ | ⟨-, hkey⟩
    · simp only [compareBy, hkey, Ordering.swap_then, ih]
      cases term.order with
      | asc => rw [SortKey.cmp_swap]
      | desc => rw [SortKey.cmp_swap, SortKey.cmp_swap]
    · simp only [compareBy, hkey, ih]

theorem compareBy_eq_gt : compareBy terms a b = .gt ↔ Before terms b a := by
  rw [← compareBy_eq_lt, ← compareBy_swap terms a b, Ordering.swap_eq_lt]

/-! ## Rows -/

/-- The rows of a keyed table stand in the order of their ids. -/
theorem Keyed.pairwise_rows {t : Table ρ} (hk : t.Keyed) :
    t.rows.Pairwise fun a b => Record.idOf a.value < Record.idOf b.value := by
  rw [rows, List.pairwise_filterMap, List.pairwise_iff_getElem]
  intro i j hi hj hij a ha b hb
  have hrow {n : Nat} {hn : n < t.slots.length} {row : Row ρ} (h : id t.slots[n] = some row) :
      Record.idOf row.value = n + 1 :=
    hk _ _ (row?_eq_some.2 ⟨n, rfl, List.getElem?_eq_some_iff.2 ⟨hn, h⟩⟩)
  rw [hrow ha, hrow hb]
  omega

theorem matching_perm (t : Table ρ) (scope : Option Int) (query : ListQuery) (keep : ρ → Bool) :
    (t.matching scope query keep).Perm
      (t.rows.filter fun row => wanted scope query keep row.value) := by
  unfold matching
  split
  · exact .refl _
  · exact List.mergeSort_perm _ _

/-- Rows are listed in the order of the terms. -/
theorem pairwise_matching {t : Table ρ} (hk : t.Keyed) (scope : Option Int) (query : ListQuery)
    (keep : ρ → Bool) :
    (t.matching scope query keep).Pairwise fun a b => Before query.sort a.value b.value := by
  have hids := hk.pairwise_rows.filter fun row => wanted scope query keep row.value
  by_cases hsort : query.sort.isEmpty = true
  · -- the rows are not sorted, and stand in the order of their ids already
    rw [matching, if_pos hsort, List.isEmpty_iff.1 hsort]
    exact hids.imp before_nil.2
  · rw [matching, if_neg hsort]
    have hle {a b : Row ρ} : (compareBy query.sort a.value b.value != .gt) = true ↔
        ¬ Before query.sort b.value a.value := by
      rw [bne_iff_ne, ne_eq, compareBy_eq_gt]
    have hne := (List.mergeSort_perm _ fun a b : Row ρ =>
      compareBy query.sort a.value b.value != .gt).symm.pairwise (hids.imp Int.ne_of_lt) Ne.symm
    refine List.Pairwise.imp₂ (fun a b hab hne => ?_) (List.pairwise_mergeSort ?_ ?_ _) hne
    · exact (Before.total query.sort hne).resolve_right (hle.1 hab)
    · intro a b c hab hbc
      rw [hle] at *
      exact fun hca => (hca.cotrans b.value).elim hbc hab
    · intro a b
      rw [Bool.or_eq_true, hle, hle]
      by_cases hba : Before query.sort b.value a.value
      · exact Or.inr fun hab => Before.irrefl _ _ (hab.trans hba)
      · exact Or.inl hba

/-- Only one arrangement of rows keeps to the order. -/
theorem eq_of_pairwise_before {l l' : List (Row ρ)} (hperm : l.Perm l')
    (hl : l.Pairwise fun a b => Before terms a.value b.value)
    (hl' : l'.Pairwise fun a b => Before terms a.value b.value) : l = l' :=
  hperm.eq_of_pairwise (fun _ _ _ _ hab hba => absurd (hab.trans hba) (Before.irrefl _ _)) hl hl'

/-- Terms that stand for the same order list rows alike. -/
theorem listWhere_congr {t : Table ρ} (hk : t.Keyed) (scope : Option Int) (query : ListQuery)
    (keep : ρ → Bool) (terms : List SortTerm)
    (h : ∀ a b : ρ, Before query.sort a b → Before terms a b) :
    t.listWhere scope query keep = t.listWhere scope { query with sort := terms } keep := by
  have hperm : (t.matching scope query keep).Perm
      (t.matching scope { query with sort := terms } keep) :=
    (matching_perm t scope query keep).trans
      (matching_perm t scope { query with sort := terms } keep).symm
  have hsame := eq_of_pairwise_before hperm
    ((pairwise_matching hk scope query keep).imp (h _ _))
    (pairwise_matching hk scope { query with sort := terms } keep)
  simp only [listWhere, hsame]
  rfl

end Table

/-! ## Terms without effect -/

/-- A term after others that has no effect: its field has no keys, or an earlier term names it. -/
def SortTerm.Idle (ρ : Type) [Record ρ] (earlier : List SortTerm) (term : SortTerm) : Prop :=
  ¬ Sortable ρ term.field ∨ ∃ t ∈ earlier, t.field = term.field

theorem SortTerm.Idle.ties {earlier : List SortTerm} {term : SortTerm}
    (h : SortTerm.Idle ρ earlier term) (hties : ∀ t ∈ earlier, t.Ties a b) : term.Ties a b := by
  rcases h with hnone | ⟨t, ht, hfield⟩
  · rcases sortKey?_cases ρ term.field with ⟨hsome, -⟩ | ⟨-, hkey⟩
    · exact absurd hsome hnone
    · simp [Ties, hkey]
  · rw [Ties, ← hfield]
    exact hties t ht

theorem before_append_idle {earlier later : List SortTerm} {term : SortTerm}
    (h : (∀ t ∈ earlier, t.Ties a b) → term.Ties a b) :
    Before (earlier ++ term :: later) a b ↔ Before (earlier ++ later) a b := by
  induction earlier with
  | nil =>
    have hties := h nofun
    rw [List.nil_append, before_cons, or_iff_right hties.not_prefers, and_iff_right hties]
    rfl
  | cons t earlier ih =>
    rw [List.cons_append, List.cons_append, before_cons, before_cons]
    exact or_congr_right (and_congr_right fun ht =>
      ih fun hties => h (List.forall_mem_cons.2 ⟨ht, hties⟩))

theorem before_of_idle (h : ∀ term ∈ terms, ¬ Sortable ρ term.field) :
    Before terms a b ↔ Before [] a b := by
  induction terms with
  | nil => rfl
  | cons term terms ih =>
    obtain ⟨hterm, hterms⟩ := List.forall_mem_cons.1 h
    have hidle : SortTerm.Idle ρ [] term := Or.inl hterm
    have hskip : Before ([] ++ term :: terms) a b ↔ Before ([] ++ terms) a b :=
      before_append_idle hidle.ties
    exact hskip.trans (ih hterms)

/-! ## Lists -/

/-- **The rows alone decide how they are listed.**  For records with different ids the comparison
    of a list is a strict total order, namely the one of its terms; a list shows its part of the one
    arrangement of the rows that are wanted in which they stand in that order; terms for fields
    without keys and for fields that an earlier term names have no effect; and where no term names a
    field with keys, rows are listed as without terms. -/
theorem Table.list_order {t : Table ρ} (hk : t.Keyed) (scope : Option Int) (query : ListQuery)
    (keep : ρ → Bool) :
    ((∀ a b : ρ, compareBy query.sort a b = .lt ↔ Before query.sort a b) ∧
      (∀ a : ρ, compareBy query.sort a a ≠ .lt) ∧
      (∀ a b c : ρ, compareBy query.sort a b = .lt → compareBy query.sort b c = .lt →
        compareBy query.sort a c = .lt) ∧
      ∀ a b : ρ, Record.idOf a ≠ Record.idOf b →
        compareBy query.sort a b = .lt ∨ compareBy query.sort b a = .lt) ∧
    (∃ listed : List (Row ρ),
      listed.Perm (t.rows.filter fun row => wanted scope query keep row.value) ∧
      listed.Pairwise (fun a b => Before query.sort a.value b.value) ∧
      (∀ other : List (Row ρ),
        other.Perm (t.rows.filter fun row => wanted scope query keep row.value) →
        other.Pairwise (fun a b => Before query.sort a.value b.value) → other = listed) ∧
      (t.listWhere scope query keep).items = ((listed.drop query.offset).take query.size).map
        fun row => { row with value := Record.project query.fields row.value }) ∧
    (∀ earlier term later, query.sort = earlier ++ term :: later → SortTerm.Idle ρ earlier term →
      t.listWhere scope query keep =
        t.listWhere scope { query with sort := earlier ++ later } keep) ∧
    ((∀ term ∈ query.sort, ¬ Sortable ρ term.field) →
      t.listWhere scope query keep = t.listWhere scope { query with sort := [] } keep) := by
  refine ⟨⟨fun a b => compareBy_eq_lt, fun a h => ?_, fun a b c hab hbc => ?_, fun a b hne => ?_⟩,
    ⟨t.matching scope query keep, matching_perm t scope query keep,
      pairwise_matching hk scope query keep, fun other hperm hother => ?_, rfl⟩,
    fun earlier term later hsort hidle => ?_, fun hnone => ?_⟩
  · exact Before.irrefl _ a (compareBy_eq_lt.1 h)
  · exact compareBy_eq_lt.2 ((compareBy_eq_lt.1 hab).trans (compareBy_eq_lt.1 hbc))
  · exact (Before.total query.sort hne).imp compareBy_eq_lt.2 compareBy_eq_lt.2
  · exact eq_of_pairwise_before (hperm.trans (matching_perm t scope query keep).symm) hother
      (pairwise_matching hk scope query keep)
  · refine listWhere_congr hk scope query keep _ fun a b h => ?_
    exact (before_append_idle hidle.ties).1 (hsort ▸ h)
  · exact listWhere_congr hk scope query keep [] fun a b => (before_of_idle hnone).1

/-- Three priorities. -/
def threePriorities : Run :=
  [.bySuperuser (.priorities (.create ⟨(), some ⟨"low", "", ""⟩⟩)),
    .bySuperuser (.priorities (.create ⟨(), some ⟨"high", "", ""⟩⟩)),
    .bySuperuser (.priorities (.create ⟨(), some ⟨"low", "", ""⟩⟩))]

/-- Priorities from the last name to the first. -/
def byName : ListQuery := (ListQuery.plain 1 10 .standard).sortedBy "colour,-name,name"

theorem threePriorities_order :
    (threePriorities.before 3).priorities.Keyed ∧
      ((threePriorities.before 3).priorities.listWhere none byName fun _ => true).items.map
        (·.value.id) = [1, 3, 2] := by
  have hkeyed := (threePriorities.reachable_before 3).keyed.priorities
  obtain ⟨-, ⟨listed, -, -, hunique, hitems⟩, -⟩ :=
    Table.list_order hkeyed none byName fun _ => true
  have hlisted := hunique ([1, 3, 2].filterMap (threePriorities.before 3).priorities.row?)
    (by decide +kernel)
    (List.Pairwise.imp Table.compareBy_eq_lt.1 (by decide +kernel))
  refine ⟨hkeyed, ?_⟩
  rw [hitems, ← hlisted]
  decide +kernel

end CaseDesk
