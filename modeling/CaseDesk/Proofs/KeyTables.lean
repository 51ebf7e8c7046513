/-
  Key tables name each of their keys once.

  * `Value.WellKeyed`: a value in which every table does.  Such values on top of
    each other are one (`wellKeyed_onTop`).
  * `Value.IsKeyTable`: a table of this kind, which is what a layer is.  Layers
    that are put together are one (`isKeyTable_ofLayers`).
  * `Scan.Yields`: all that a scanner reads has a property.
  * `Environment.isKeyTable_layer`: the layer of the environment is a key table.
-/
import CaseDesk.Settings
import Mathlib.Data.List.Induction
import Mathlib.Tactic.SplitIfs

namespace CaseDesk.Settings

/-! ## Values -/

namespace Named

variable {α : Type}

/-- The names of things. -/
def keys (named : Named α) : List String := named.map (·.1)

@[simp]
theorem keys_nil : keys ([] : Named α) = [] := rfl

@[simp]
theorem keys_cons (key : String) (a : α) (named : Named α) :
    keys ((key, a) :: named) = key :: keys named := rfl

theorem mem_keys_put {named : Named α} {key k : String} {a : α} :
    k ∈ keys (put named key a) ↔ k = key ∨ k ∈ keys named := by
  induction named with
  | nil => simp [put]
  | cons e named ih =>
    obtain ⟨k', b⟩ := e
    rw [put]
    split_ifs with h
    · subst h
      simp
    · rw [keys_cons, List.mem_cons, ih, keys_cons, List.mem_cons]
      exact or_left_comm

theorem mem_of_get? {named : Named α} {key : String} {a : α} (h : get? named key = some a) :
    (key, a) ∈ named := by
  obtain ⟨before, after, rfl, -⟩ := List.lookup_eq_some_iff.1 h
  exact List.mem_append_right before List.mem_cons_self

theorem get?_eq_none {named : Named α} {key : String} :
    get? named key = none ↔ key ∉ keys named := by
  induction named with
  | nil => simp [get?]
  | cons e named ih =>
    obtain ⟨k, b⟩ := e
    rw [get?_cons, keys_cons, List.mem_cons]
    split_ifs with h
    · simp [h]
    · simp [h, ih]

end Named

namespace Value

/-- A value in which every table names each of its keys once. -/
inductive WellKeyed : Value → Prop
  | flag (b : Bool) : WellKeyed (.flag b)
  | signed (n : Int) : WellKeyed (.signed n)
  | unsigned (n : Nat) : WellKeyed (.unsigned n)
  | real (x : Binary64) : WellKeyed (.real x)
  | text (s : String) : WellKeyed (.text s)
  | list {items : List Value} (h : ∀ v ∈ items, WellKeyed v) : WellKeyed (.list items)
  | table {entries : Entries} (hkeys : (Named.keys entries).Nodup)
      (h : ∀ e ∈ entries, WellKeyed e.2) : WellKeyed (.table entries)

theorem wellKeyed_empty : WellKeyed empty := .table List.nodup_nil nofun

theorem wellKeyed_cons {key : String} {v : Value} {entries : Entries} :
    WellKeyed (.table ((key, v) :: entries)) ↔
      key ∉ Named.keys entries ∧ v.WellKeyed ∧ WellKeyed (.table entries) := by
  constructor
  · rintro (_ | _ | _ | _ | _ | _ | ⟨hkeys, h⟩)
    obtain ⟨hkey, hkeys⟩ := List.nodup_cons.1 hkeys
    obtain ⟨hv, h⟩ := List.forall_mem_cons.1 h
    exact ⟨hkey, hv, .table hkeys h⟩
  · rintro ⟨hkey, hv, _ | _ | _ | _ | _ | _ | ⟨hkeys, h⟩⟩
    exact .table (List.nodup_cons.2 ⟨hkey, hkeys⟩) (List.forall_mem_cons.2 ⟨hv, h⟩)

theorem wellKeyed_put {entries : Entries} (h : WellKeyed (.table entries)) (key : String)
    {v : Value} (hv : v.WellKeyed) : WellKeyed (.table (Named.put entries key v)) := by
  induction entries with
  | nil => exact wellKeyed_cons.2 ⟨by simp, hv, wellKeyed_empty⟩
  | cons e entries ih =>
    obtain ⟨k, w⟩ := e
    obtain ⟨hk, hw, hrest⟩ := wellKeyed_cons.1 h
    rw [Named.put]
    split_ifs with heq
    · exact wellKeyed_cons.2 ⟨hk, hv, hrest⟩
    · refine wellKeyed_cons.2 ⟨fun hmem => ?_, hw, ih hrest⟩
      exact (Named.mem_keys_put.1 hmem).elim heq hk

theorem WellKeyed.of_get? {v w : Value} (h : v.WellKeyed) {key : String}
    (hw : v.get? key = some w) : w.WellKeyed := by
  cases h with
  | table hkeys h =>
    exact h (key, w) (Named.mem_of_get? hw)
  | flag | signed | unsigned | real | text | list => cases hw

/-- Entries on top of others, if each of their values may be put on top of others. -/
theorem wellKeyed_onTopEntries {base entries : Entries} (hbase : WellKeyed (.table base))
    (h : ∀ e ∈ entries, e.2.WellKeyed ∧ ∀ earlier : Value, earlier.WellKeyed →
      (onTop earlier e.2).WellKeyed) : WellKeyed (.table (onTopEntries base entries)) := by
  induction entries generalizing base with
  | nil => exact hbase
  | cons e entries ih =>
    obtain ⟨key, v⟩ := e
    obtain ⟨⟨hv, honTop⟩, h⟩ := List.forall_mem_cons.1 h
    rw [onTopEntries]
    refine ih (wellKeyed_put hbase key ?_) h
    rcases hearlier : Named.get? base key with _ | earlier
    · exact hv
    · have hearlier : (table base).get? key = some earlier := hearlier
      exact honTop earlier (hbase.of_get? hearlier)

theorem wellKeyed_onTop {earlier later : Value} (h : earlier.WellKeyed) (h' : later.WellKeyed) :
    (onTop earlier later).WellKeyed := by
  induction h' generalizing earlier with
  | flag | signed | unsigned | real | text => constructor
  | list hitems => exact .list hitems
  | @table entries hkeys hentries ih =>
    cases h with
    | table hbase hold =>
      exact wellKeyed_onTopEntries (.table hbase hold) fun e he =>
        ⟨hentries e he, fun _ hearlier => ih e he hearlier⟩
    | flag | signed | unsigned | real | text | list => exact .table hkeys hentries

theorem onTop_eq_table {earlier later : Value} (h : ∃ entries, earlier = .table entries)
    (h' : ∃ entries, later = .table entries) : ∃ entries, onTop earlier later = .table entries := by
  obtain ⟨base, rfl⟩ := h
  obtain ⟨entries, rfl⟩ := h'
  exact ⟨onTopEntries base entries, by rw [onTop]⟩

/-- A table in which, as in all tables within it, every key is named once. -/
structure IsKeyTable (v : Value) : Prop where
  table : ∃ entries, v = .table entries
  keyed : v.WellKeyed

theorem IsKeyTable.onTop {earlier later : Value} (h : earlier.IsKeyTable) (h' : later.IsKeyTable) :
    (onTop earlier later).IsKeyTable :=
  ⟨onTop_eq_table h.table h'.table, wellKeyed_onTop h.keyed h'.keyed⟩

theorem ofLayers_concat (layers : List Value) (l : Value) :
    ofLayers (layers ++ [l]) = (ofLayers layers).onTop l := by
  rw [ofLayers, List.foldl_append]
  rfl

/-- Key tables put together are a key table. -/
theorem isKeyTable_ofLayers {layers : List Value} (h : ∀ l ∈ layers, l.IsKeyTable) :
    (ofLayers layers).IsKeyTable := by
  induction layers using List.reverseRecOn with
  | nil => exact ⟨⟨[], rfl⟩, wellKeyed_empty⟩
  | append_singleton layers l ih =>
    obtain ⟨h, hl⟩ := List.forall_mem_append.1 h
    rw [ofLayers_concat]
    exact (ih h).onTop (List.forall_mem_singleton.1 hl)

theorem wellKeyed_nested {path : List String} {v : Value} (h : v.WellKeyed) :
    (nested path v).WellKeyed := by
  induction path with
  | nil => exact h
  | cons key path ih => exact wellKeyed_cons.2 ⟨by simp, ih, wellKeyed_empty⟩

end Value

end CaseDesk.Settings

/-! ## What scanners read -/

namespace CaseDesk.Text.Scan

variable {α β : Type} {p : α → Prop} {q : β → Prop}

/-- All that a scanner reads has a property. -/
def Yields (s : Scan α) (p : α → Prop) : Prop := ∀ cs a rest, s cs = some (a, rest) → p a

namespace Yields

theorem any (s : Scan α) : Yields s fun _ => True := fun _ _ _ _ => trivial

theorem failure : Yields (failure : Scan α) p := nofun

theorem pure {a : α} (h : p a) : Yields (pure a : Scan α) p := by
  intro cs b rest hread
  cases hread
  exact h

theorem bind {s : Scan α} {f : α → Scan β} (h : Yields s p) (hf : ∀ a, p a → Yields (f a) q) :
    Yields (s >>= f) q := by
  intro cs b rest hread
  obtain ⟨⟨a, left⟩, ha, hb⟩ := Option.bind_eq_some_iff.1 hread
  exact hf a (h cs a left ha) left b rest hb

/-- After steps whose results do not matter. -/
theorem after {s : Scan α} {f : α → Scan β} (hf : ∀ a, Yields (f a) q) : Yields (s >>= f) q :=
  (any s).bind fun a _ => hf a

/-- A step that reads nothing, and fails where there is nothing to give. -/
theorem lift {o : Option α} (h : ∀ a, o = some a → p a) : Yields (liftM o : Scan α) p := by
  intro cs a rest hread
  obtain ⟨b, hb, hread⟩ := Option.bind_eq_some_iff.1 hread
  cases hread
  exact h _ hb

theorem foldlM {f : β → α → Scan β} {as : List α} {b : β}
    (h : ∀ a ∈ as, ∀ b, q b → Yields (f b a) q) (hb : q b) : Yields (as.foldlM f b) q := by
  induction as generalizing b with
  | nil => exact pure hb
  | cons a as ih =>
    obtain ⟨ha, h⟩ := List.forall_mem_cons.1 h
    exact (ha b hb).bind fun _ hc => ih h hc

theorem orElse {s t : Scan α} (h : Yields s p) (h' : Yields t p) : Yields (s <|> t) p := by
  intro cs a rest hread
  have hread : (s cs <|> t cs) = some (a, rest) := hread
  rcases hs : s cs with _ | r
  · rw [hs] at hread
    exact h' cs a rest hread
  · rw [hs] at hread
    exact h cs a rest (hs.trans hread)

theorem maybe {s : Scan α} (h : Yields s p) : Yields (maybe s) fun o => ∀ a, o = some a → p a :=
  orElse (h.bind fun _ ha => pure fun _ h => by cases h; exact ha) (pure nofun)

theorem many {s : Scan α} (h : Yields s p) : Yields (many s) fun as => ∀ a ∈ as, p a := by
  intro cs as rest hread
  have has : as = (steps s cs).1 := (congrArg Prod.fst (Option.some.inj hread)).symm
  subst has
  clear hread
  fun_induction steps s cs with
  | case1 => nofun
  | case2 cs a rest' hread _ as left hsteps ih =>
    rw [hsteps] at ih
    exact List.forall_mem_cons.2 ⟨h cs a rest' hread, ih⟩
  | case3 cs a rest' hread => simpa using h cs a rest' hread

theorem separated {item : Scan α} {separator : Scan β} (h : Yields item p) :
    Yields (separated item separator) fun as => ∀ a ∈ as, p a :=
  h.bind fun _ ha => (many (after fun _ => h)).bind fun _ has =>
    pure (List.forall_mem_cons.2 ⟨ha, has⟩)

theorem of_whole {s : Scan α} (h : Yields s p) {cs : List Char} {a : α}
    (hread : whole s cs = some a) : p a := by
  obtain ⟨⟨a', rest⟩, hscan, rfl⟩ := Option.map_eq_some_iff.1 hread
  exact (h.bind fun _ ha => after fun _ => pure ha) cs a' rest hscan

end Yields

end CaseDesk.Text.Scan

/-! ## The environment -/

namespace CaseDesk.Settings.Environment

open Value Text Text.Scan

theorem enclosed_yields {α : Type} {p : α → Prop} {item : Scan α} (h : Yields item p)
    (left right : Char) : Yields (enclosed left right item) fun as => ∀ a ∈ as, p a := by
  have hitem : Yields (do if (← peek) = some right then failure else item : Scan α) p := by
    refine .after fun c => ?_
    split_ifs
    · exact .failure
    · exact h
  refine .after fun _ => hitem.separated.maybe.bind fun items hitems => ?_
  have hend : Yields (do char right; return items.getD [] : Scan (List α))
      fun as => ∀ a ∈ as, p a := by
    refine .after fun _ => .pure ?_
    cases items with
    | none => nofun
    | some items => exact hitems items rfl
  split_ifs
  · exact .after fun _ => hend
  · exact hend

theorem entry_yields {value : Scan Value} (h : Yields value WellKeyed) :
    Yields (entry value) fun e => e.2.WellKeyed :=
  .after fun _ => .after fun _ => .after fun _ => .after fun _ => h.bind fun _ hv => .pure hv

/-- Entries that are put into a table one after the other. -/
theorem wellKeyed_foldl_put {entries base : Entries} (hbase : WellKeyed (.table base))
    (h : ∀ e ∈ entries, e.2.WellKeyed) :
    WellKeyed (.table (entries.foldl (fun t (k, v) => Named.put t k v) base)) := by
  induction entries generalizing base with
  | nil => exact hbase
  | cons e entries ih =>
    obtain ⟨he, h⟩ := List.forall_mem_cons.1 h
    exact ih (wellKeyed_put hbase e.1 he) h

theorem wellKeyed_plain (cs : List Char) : (plain cs).WellKeyed := by
  unfold plain
  split <;> constructor

theorem valueOver_yields {inner : Scan Value} (h : Yields inner WellKeyed) :
    Yields (valueOver inner) WellKeyed := by
  have htrue : Yields (word "true" *> pure (.flag true)) WellKeyed :=
    .after fun _ => .pure (.flag _)
  have hfalse : Yields (word "false" *> pure (.flag false)) WellKeyed :=
    .after fun _ => .pure (.flag _)
  refine .after fun _ => ((htrue.orElse (hfalse.orElse (.after fun c => ?_))).bind fun _ hv =>
    .after fun _ => .pure hv)
  -- what the first character announces
  split
  · exact (enclosed_yields h _ _).bind fun _ hitems => .pure (.list hitems)
  · exact (enclosed_yields (entry_yields h) _ _).bind fun _ hentries =>
      .pure (wellKeyed_foldl_put wellKeyed_empty hentries)
  · exact .after fun _ => .pure (.text _)
  · exact .after fun _ => .after fun _ => .after fun _ => .pure (.text _)
  · exact .after fun _ => .pure (wellKeyed_plain _)

theorem valueWithin_yields (depth : Nat) : Yields (valueWithin depth) WellKeyed := by
  induction depth with
  | zero => exact valueOver_yields .failure
  | succ depth ih => exact valueOver_yields ih

theorem wellKeyed_value (s : String) : (value s).WellKeyed := by
  unfold value
  dsimp only
  rcases hread : whole (valueWithin (trimChars s.toList).length) (trimChars s.toList) with _ | v
  · exact .text _
  · exact (valueWithin_yields _).of_whole hread

/-- A variable that gives a setting gives it within tables. -/
theorem isKeyTable_variableLayer {name text : String} {layer : Value}
    (h : variableLayer? name text = some layer) : layer.IsKeyTable := by
  obtain ⟨path, hpath, rfl⟩ := Option.map_eq_some_iff.1 h
  refine ⟨?_, wellKeyed_nested (wellKeyed_value text)⟩
  cases path with
  | cons key path => exact ⟨_, rfl⟩
  | nil =>
    -- a name without keys gives nothing
    unfold path? at hpath
    dsimp only at hpath
    split_ifs at hpath with hmark hkeys
    rw [Option.some.injEq, List.map_eq_nil_iff] at hpath
    exact absurd (List.isEmpty_iff.2 hpath) hkeys

/-- What the environment sets is a key table. -/
theorem isKeyTable_layer (environment : Named String) : (layer environment).IsKeyTable := by
  refine isKeyTable_ofLayers fun l hl => ?_
  obtain ⟨_, -, hlayer⟩ := List.mem_filterMap.1 hl
  exact isKeyTable_variableLayer hlayer

end CaseDesk.Settings.Environment
