/-
  Documents write key tables.

  Whatever a statement does to the table that a document fills, it names no key
  a second time.

  * `Toml.Branch.WellKeyed`: a table that is being filled stands for one that
    names its keys once.
  * `Toml.Keeps`: a change to a table keeps this.  The changes that statements
    make do (`keeps_assign`, `keeps_within`, `keeps_openTable`, `keeps_openItem`).
  * `Toml.value_yields`: so do the values that are read, inline tables included.
  * `Toml.isKeyTable_read?`: what a document writes is a key table.
-/
import CaseDesk.Proofs.KeyTables

namespace CaseDesk.Toml

open Settings Settings.Value Text Text.Scan

/-! ## Trees -/

/-- A table that is being filled stands for one that names its keys once. -/
def Branch.WellKeyed (b : Branch) : Prop := Value.WellKeyed (.table (branchEntries b))

theorem branchEntries_cons (key : String) (n : Node) (b : Branch) :
    branchEntries ((key, n) :: b) = (key, n.value) :: branchEntries b := by
  rw [branchEntries]

theorem keys_branchEntries (b : Branch) : Named.keys (branchEntries b) = Named.keys b := by
  induction b with
  | nil => rw [branchEntries]; rfl
  | cons e b ih => rw [branchEntries_cons, Named.keys_cons, ih, Named.keys_cons]

theorem closedValues_eq (closed : List Branch) :
    closedValues closed = closed.map fun t => .table (branchEntries t) := by
  induction closed with
  | nil => rw [closedValues]; rfl
  | cons t closed ih => rw [closedValues, ih, List.map_cons]

theorem wellKeyed_value_table {origin : Origin} {t : Branch} :
    (Node.table origin t).value.WellKeyed ↔ t.WellKeyed := by
  rw [Node.value]
  exact Iff.rfl

theorem wellKeyed_value_tables {closed : List Branch} {last : Branch} :
    (Node.tables closed last).value.WellKeyed ↔
      (∀ t ∈ closed, Branch.WellKeyed t) ∧ last.WellKeyed := by
  have hlist {items : List Value} : Value.WellKeyed (.list items) ↔ ∀ v ∈ items, v.WellKeyed :=
    ⟨fun h => by cases h with | list h => exact h, .list⟩
  rw [Node.value, closedValues_eq, hlist, List.forall_mem_append, List.forall_mem_map,
    List.forall_mem_singleton]
  exact Iff.rfl

theorem Branch.wellKeyed_nil : Branch.WellKeyed [] := by
  rw [Branch.WellKeyed, branchEntries]
  exact wellKeyed_empty

theorem Branch.wellKeyed_cons {key : String} {n : Node} {b : Branch} :
    Branch.WellKeyed ((key, n) :: b) ↔
      key ∉ Named.keys b ∧ n.value.WellKeyed ∧ b.WellKeyed := by
  rw [Branch.WellKeyed, branchEntries_cons, Value.wellKeyed_cons, keys_branchEntries]
  exact Iff.rfl

/-! ## Changes -/

/-- A change to a table, if it is made, keeps that its keys are named once. -/
def Keeps (change : Branch → Option Branch) : Prop :=
  ∀ b b', b.WellKeyed → change b = some b' → b'.WellKeyed

theorem mem_keys_alter {key k : String} {change : Option Node → Option Node} {b b' : Branch}
    (h : alter key change b = some b') (hk : k ∈ Named.keys b') : k = key ∨ k ∈ Named.keys b := by
  induction b generalizing b' with
  | nil =>
    obtain ⟨n, -, h⟩ := Option.bind_eq_some_iff.1 h
    cases h
    exact .inl (List.mem_singleton.1 hk)
  | cons e b ih =>
    obtain ⟨k', n⟩ := e
    rw [alter] at h
    split_ifs at h with hkey
    · obtain ⟨n', -, h⟩ := Option.bind_eq_some_iff.1 h
      cases h
      exact .inr hk
    · obtain ⟨rest, hrest, h⟩ := Option.bind_eq_some_iff.1 h
      cases h
      rcases List.mem_cons.1 hk with rfl | hk
      · exact .inr List.mem_cons_self
      · exact (ih hrest hk).imp_right (List.mem_cons_of_mem _)

/-- A change of what one key holds. -/
theorem keeps_alter {key : String} {change : Option Node → Option Node}
    (hnew : ∀ n, change none = some n → n.value.WellKeyed)
    (hold : ∀ n n', n.value.WellKeyed → change (some n) = some n' → n'.value.WellKeyed) :
    Keeps (alter key change) := by
  intro b b' hb h
  induction b generalizing b' with
  | nil =>
    obtain ⟨n, hn, h⟩ := Option.bind_eq_some_iff.1 h
    cases h
    exact Branch.wellKeyed_cons.2 ⟨by simp, hnew n hn, Branch.wellKeyed_nil⟩
  | cons e b ih =>
    obtain ⟨k, n⟩ := e
    obtain ⟨hk, hn, hrest⟩ := Branch.wellKeyed_cons.1 hb
    rw [alter] at h
    split_ifs at h with hkey
    · obtain ⟨n', hn', h⟩ := Option.bind_eq_some_iff.1 h
      cases h
      exact Branch.wellKeyed_cons.2 ⟨hk, hold n n' hn hn', hrest⟩
    · obtain ⟨rest, halter, h⟩ := Option.bind_eq_some_iff.1 h
      cases h
      refine Branch.wellKeyed_cons.2 ⟨fun hmem => ?_, hn, ih rest hrest halter⟩
      exact (mem_keys_alter halter hmem).elim hkey hk

/-- A change within the table that a key holds. -/
theorem Keeps.inTable {change : Branch → Option Branch} (hchange : Keeps change) {origin : Origin}
    {t : Branch} (ht : t.WellKeyed) {n : Node}
    (hn : (do return .table origin (← change t)) = some n) : n.value.WellKeyed := by
  obtain ⟨t', ht', hn⟩ := Option.bind_eq_some_iff.1 hn
  cases hn
  exact wellKeyed_value_table.2 (hchange t t' ht ht')

/-- A change within the open one of the tables that a key holds. -/
theorem Keeps.inTables {change : Branch → Option Branch} (hchange : Keeps change)
    {closed : List Branch} {last : Branch} (h : (Node.tables closed last).value.WellKeyed)
    {n : Node} (hn : (do return .tables closed (← change last)) = some n) : n.value.WellKeyed := by
  obtain ⟨hclosed, hlast⟩ := wellKeyed_value_tables.1 h
  obtain ⟨last', hlast', hn⟩ := Option.bind_eq_some_iff.1 hn
  cases hn
  exact wellKeyed_value_tables.2 ⟨hclosed, hchange last last' hlast hlast'⟩

theorem keeps_assign {key : String} {v : Value} (hv : v.WellKeyed) (path : List String)
    (mayPlace : Bool) : Keeps (assign key v path mayPlace) := by
  induction path generalizing mayPlace with
  | nil =>
    intro b b' hb h
    rw [assign] at h
    split_ifs at h
    refine keeps_alter (fun n hn => ?_) (fun n n' _ hn' => ?_) b b' hb h
    · cases hn
      rwa [Node.value]
    · cases hn'
  | cons k path ih =>
    intro b b' hb h
    rw [assign] at h
    refine keeps_alter (fun n hn => ?_) (fun n n' hn hn' => ?_) b b' hb h
    · exact (ih true).inTable Branch.wellKeyed_nil hn
    · match n, hn, hn' with
      | .table .dotted t, hn, hn' => exact (ih true).inTable (wellKeyed_value_table.1 hn) hn'
      | .table .implied t, hn, hn' => exact (ih false).inTable (wellKeyed_value_table.1 hn) hn'
      | .tables closed last, hn, hn' => exact (ih false).inTables hn hn'

theorem keeps_within {change : Branch → Option Branch} (hchange : Keeps change)
    (path : List String) : Keeps (within change path) := by
  induction path with
  | nil => exact hchange
  | cons k path ih =>
    intro b b' hb h
    rw [within] at h
    refine keeps_alter (fun n hn => ?_) (fun n n' hn hn' => ?_) b b' hb h
    · exact ih.inTable Branch.wellKeyed_nil hn
    · cases n with
      | leaf v => cases hn'
      | table origin t => exact ih.inTable (wellKeyed_value_table.1 hn) hn'
      | tables closed last => exact ih.inTables hn hn'

theorem keeps_openTable (key : String) : Keeps (openTable key) := by
  refine keeps_alter (fun n hn => ?_) (fun n n' hn hn' => ?_)
  · cases hn
    exact wellKeyed_value_table.2 Branch.wellKeyed_nil
  · match n, hn, hn' with
    | .table .implied t, hn, hn' =>
      cases hn'
      exact wellKeyed_value_table.2 (wellKeyed_value_table.1 hn)

theorem keeps_openItem (key : String) : Keeps (openItem key) := by
  refine keeps_alter (fun n hn => ?_) (fun n n' hn hn' => ?_)
  · cases hn
    exact wellKeyed_value_tables.2 ⟨nofun, Branch.wellKeyed_nil⟩
  · match n, hn, hn' with
    | .tables closed last, hn, hn' =>
      cases hn'
      obtain ⟨hclosed, hlast⟩ := wellKeyed_value_tables.1 hn
      refine wellKeyed_value_tables.2 ⟨List.forall_mem_append.2 ⟨hclosed, ?_⟩, Branch.wellKeyed_nil⟩
      exact List.forall_mem_singleton.2 hlast

/-! ## Values -/

theorem scalar_yields : Yields scalar WellKeyed := by
  have htrue : Yields (word "true" *> pure (.flag true)) WellKeyed :=
    .after fun _ => .pure (.flag _)
  have hfalse : Yields (word "false" *> pure (.flag false)) WellKeyed :=
    .after fun _ => .pure (.flag _)
  have hmoment : Yields (moment *> pure .empty) WellKeyed := .after fun _ => .pure wellKeyed_empty
  have htext : Yields (return .text (← text)) WellKeyed := .after fun _ => .pure (.text _)
  have hreal : Yields (return .real (← real)) WellKeyed := .after fun _ => .pure (.real _)
  have hinteger : Yields (return .signed (← integer)) WellKeyed := .after fun _ => .pure (.signed _)
  exact htext.orElse (htrue.orElse (hfalse.orElse (hmoment.orElse (hreal.orElse hinteger))))

theorem pair_yields {value : Scan Value} (h : Yields value WellKeyed) :
    Yields (pair value) fun e => e.2.WellKeyed :=
  .after fun _ => .after fun _ => .after fun _ => h.bind fun _ hv => .pure hv

theorem array_yields {value : Scan Value} (h : Yields value WellKeyed) :
    Yields (array value) WellKeyed := by
  have hitem : Yields (space *> value <* space) WellKeyed :=
    (Yields.after fun _ => h).bind fun _ hv => .after fun _ => .pure hv
  refine .after fun _ => hitem.separated.maybe.bind fun items hitems => ?_
  have hend : Yields (do space; char ']'; return .list (items.getD []) : Scan Value) WellKeyed := by
    refine .after fun _ => .after fun _ => .pure (.list ?_)
    cases items with
    | none => nofun
    | some items => exact hitems items rfl
  split_ifs
  · exact .after fun _ => hend
  · exact hend

theorem inlineTable_yields {value : Scan Value} (h : Yields value WellKeyed) :
    Yields (inlineTable value) WellKeyed := by
  have hitem : Yields (pair value <* gap) fun e => e.2.WellKeyed :=
    (pair_yields h).bind fun _ hv => .after fun _ => .pure hv
  refine .after fun _ => hitem.separated.maybe.bind fun pairs hpairs =>
    .after fun _ => .after fun _ => ?_
  have hall : ∀ e ∈ pairs.getD [], e.2.WellKeyed := by
    cases pairs with
    | none => nofun
    | some pairs => exact hpairs pairs rfl
  refine (Yields.foldlM (fun e he b hb => ?_) Branch.wellKeyed_nil).bind fun _ hb => .pure hb
  exact .lift fun b' h => keeps_assign (hall e he) e.1.parents true b b' hb h

theorem value_yields (depth : Nat) : Yields (value depth) WellKeyed := by
  induction depth with
  | zero => exact scalar_yields
  | succ depth ih => exact scalar_yields.orElse ((array_yields ih).orElse (inlineTable_yields ih))

/-! ## Statements -/

/-- A statement gives a key, if it does, a value that names its keys once. -/
def Statement.WellKeyed : Statement → Prop
  | .header _ | .item _ => True
  | .assignment _ v => v.WellKeyed

theorem statement_yields : Yields statement Statement.WellKeyed := by
  have hitem : Yields (do word "[["; let path ← keyPath; word "]]"; return .item path)
      Statement.WellKeyed := .after fun _ => .after fun _ => .after fun _ => .pure trivial
  have hheader : Yields (do char '['; let path ← keyPath; char ']'; return .header path)
      Statement.WellKeyed := .after fun _ => .after fun _ => .after fun _ => .pure trivial
  exact hitem.orElse (hheader.orElse ((pair_yields (value_yields depthLimit)).bind
    fun _ hv => .pure hv))

theorem line_yields : Yields line fun said => ∀ s, said = some s → s.WellKeyed :=
  .after fun _ => statement_yields.maybe.bind fun _ hsaid =>
    .after fun _ => .after fun _ => .after fun _ => .pure hsaid

theorem wellKeyed_of_statements {cs : List Char} {said : List Statement}
    (h : statements cs = some said) : ∀ s ∈ said, s.WellKeyed := by
  obtain ⟨lines, hlines, rfl⟩ := Option.map_eq_some_iff.1 h
  have hread : Yields (maybe (char '\ufeff') *> many line) fun lines =>
      ∀ said ∈ lines, ∀ s, said = some s → s.WellKeyed := .after fun _ => line_yields.many
  intro s hs
  obtain ⟨said, hsaid, hs⟩ := List.mem_filterMap.1 hs
  exact hread.of_whole hlines said hsaid s hs

theorem Draft.wellKeyed_add {draft draft' : Draft} {s : Statement} (h : draft.root.WellKeyed)
    (hs : s.WellKeyed) (hadd : draft.add s = some draft') : draft'.root.WellKeyed := by
  cases s with
  | header path =>
    obtain ⟨root, hroot, hadd⟩ := Option.bind_eq_some_iff.1 hadd
    cases hadd
    exact keeps_within (keeps_openTable path.key) path.parents _ _ h hroot
  | item path =>
    obtain ⟨root, hroot, hadd⟩ := Option.bind_eq_some_iff.1 hadd
    cases hadd
    exact keeps_within (keeps_openItem path.key) path.parents _ _ h hroot
  | assignment path v =>
    obtain ⟨root, hroot, hadd⟩ := Option.bind_eq_some_iff.1 hadd
    cases hadd
    exact keeps_within (keeps_assign hs path.parents true) draft.current _ _ h hroot

theorem Draft.wellKeyed_foldlM {said : List Statement} (hsaid : ∀ s ∈ said, s.WellKeyed)
    {draft draft' : Draft} (h : draft.root.WellKeyed)
    (hfold : said.foldlM Draft.add draft = some draft') : draft'.root.WellKeyed := by
  induction said generalizing draft with
  | nil =>
    cases hfold
    exact h
  | cons s said ih =>
    obtain ⟨hs, hsaid⟩ := List.forall_mem_cons.1 hsaid
    obtain ⟨next, hnext, hfold⟩ := Option.bind_eq_some_iff.1 hfold
    exact ih hsaid (wellKeyed_add h hs hnext) hfold

/-- What a document writes is a key table. -/
theorem isKeyTable_read? {text : String} {v : Value} (h : read? text = some v) : v.IsKeyTable := by
  obtain ⟨said, hsaid, h⟩ := Option.bind_eq_some_iff.1 h
  obtain ⟨draft, hdraft, h⟩ := Option.bind_eq_some_iff.1 h
  cases h
  have hroot : draft.root.WellKeyed :=
    Draft.wellKeyed_foldlM (wellKeyed_of_statements hsaid) Branch.wellKeyed_nil hdraft
  exact ⟨⟨_, rfl⟩, hroot⟩

end CaseDesk.Toml
