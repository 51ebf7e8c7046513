/-
  Settings from layers.

  As long as the layers give the sections that they mention as tables, each
  setting has the value of the last layer that sets it, and its own value where
  no layer does.

  * `Value.at?_ofLayers`: at the key of a setting, layers that are put together
    have the values of those that set it, put on top of each other.
  * `Value.lastSet?`: the value of the last layer that sets a key.
  * `Setting.of_ofLayers_iff`: what a setting comes to.
  * `Settings.FromLayers`: the five settings, each from its last layer.
  * `Settings.composed`: these are the settings of the layers.
-/
import CaseDesk.Proofs.Documents
import CaseDesk.Proofs.Outcomes

namespace CaseDesk.Settings

/-! ## Values under keys -/

namespace Value

/-- A value on top of one that may be missing. -/
def upon (below : Option Value) (v : Value) : Value :=
  match below with
  | some below => onTop below v
  | none => v

/-- Values on top of each other, the last one on top. -/
def stacked (vs : List Value) : Option Value :=
  vs.foldl (fun below v => some (upon below v)) none

theorem stacked_concat (vs : List Value) (v : Value) :
    stacked (vs ++ [v]) = some (upon (stacked vs) v) := by
  rw [stacked, List.foldl_append]
  rfl

/-- Only a table on top of something is not just itself; it is a table then. -/
theorem upon_cases (below : Option Value) (v : Value) :
    upon below v = v ∨
      (∃ entries, v = .table entries) ∧ ∃ entries, upon below v = .table entries := by
  rcases below with _ | below
  · exact .inl rfl
  · cases v with
    | table entries =>
      refine .inr ⟨⟨entries, rfl⟩, ?_⟩
      cases below <;> exact ⟨_, by simp only [upon, onTop]; rfl⟩
    | flag | signed | unsigned | real | text | list => exact .inl (by simp only [upon, onTop])

/-- The value of a key in entries on top of others. -/
theorem get?_onTopEntries {entries : Entries} (h : (Named.keys entries).Nodup) (base : Entries)
    (key : String) : Named.get? (onTopEntries base entries) key =
      match Named.get? entries key with
      | some v => some (upon (Named.get? base key) v)
      | none => Named.get? base key := by
  induction entries generalizing base with
  | nil => rw [onTopEntries]; rfl
  | cons e entries ih =>
    obtain ⟨k, v⟩ := e
    obtain ⟨hk, hentries⟩ := List.nodup_cons.1 h
    rw [onTopEntries, ih hentries, Named.get?_put, Named.get?_cons]
    by_cases hkey : key = k
    · -- the key is not named again
      subst hkey
      rw [Named.get?_eq_none.2 hk]
      simp only [if_true]
      rfl
    · simp only [hkey, if_false]

/-- A layer gives the sections that it mentions as tables. -/
def GivesSections (layer : Value) : Prop :=
  ∀ (s : Section) (v : Value), layer.get? s.key = some v → ∃ entries, v = .table entries

/-- Whether a value is a table. -/
def isTable : Value → Bool
  | table _ => true
  | _ => false

theorem isTable_iff {v : Value} : v.isTable = true ↔ ∃ entries, v = .table entries := by
  cases v <;> simp [isTable]

instance (layer : Value) : Decidable layer.GivesSections :=
  decidable_of_iff (∀ s ∈ [Section.service, .listing, .auth], (layer.get? s.key).all isTable = true)
    ⟨fun h s v hv => by
      have hs := h s (by cases s <;> decide)
      rw [hv] at hs
      exact isTable_iff.1 hs,
    fun h s _ => by
      rcases hv : layer.get? s.key with _ | v
      · rfl
      · exact isTable_iff.2 (h s v hv)⟩

variable {earlier later : Value}

theorem get?_onTop (h : earlier.IsKeyTable) (h' : later.IsKeyTable) (key : String) :
    (onTop earlier later).get? key =
      match later.get? key with
      | some v => some (upon (earlier.get? key) v)
      | none => earlier.get? key := by
  obtain ⟨base, rfl⟩ := h.table
  obtain ⟨⟨entries, rfl⟩, _ | _ | _ | _ | _ | _ | ⟨hkeys, -⟩⟩ := h'
  rw [onTop]
  exact get?_onTopEntries hkeys base key

theorem GivesSections.onTop (hs : earlier.GivesSections) (h : earlier.IsKeyTable)
    (h' : later.IsKeyTable) (hs' : later.GivesSections) :
    (onTop earlier later).GivesSections := by
  intro s v hv
  rw [get?_onTop h h'] at hv
  rcases hlater : later.get? s.key with _ | w
  · rw [hlater] at hv
    exact hs s v hv
  · rw [hlater] at hv
    cases hv
    obtain ⟨entries, rfl⟩ := hs' s w hlater
    rcases upon_cases (earlier.get? s.key) (.table entries) with htable | ⟨-, htable⟩
    · exact ⟨entries, htable⟩
    · exact htable

theorem at?_pair (v : Value) (s k : String) : v.at? [s, k] = (v.get? s).bind (·.get? k) := by
  simp only [at?]
  rcases v.get? s with _ | w
  · rfl
  · rcases hk : w.get? k with _ | u <;> simp [hk]

/-- The value of a key of a section in a layer on top of another. -/
theorem at?_onTop (h : earlier.IsKeyTable) (h' : later.IsKeyTable) (hs : earlier.GivesSections)
    (hs' : later.GivesSections) (s : Section) (k : String) :
    (onTop earlier later).at? [s.key, k] =
      match later.at? [s.key, k] with
      | some v => some (upon (earlier.at? [s.key, k]) v)
      | none => earlier.at? [s.key, k] := by
  simp only [at?_pair, get?_onTop h h']
  rcases hlater : later.get? s.key with _ | w
  · rfl
  · obtain ⟨entries, rfl⟩ := hs' s w hlater
    have hentries : IsKeyTable (.table entries) := ⟨⟨entries, rfl⟩, h'.keyed.of_get? hlater⟩
    rcases hearlier : earlier.get? s.key with _ | below
    · simp only [upon, Option.bind_some, Option.bind_none]
      rcases (table entries).get? k with _ | v <;> rfl
    · obtain ⟨base, rfl⟩ := hs s below hearlier
      have hbase : IsKeyTable (.table base) := ⟨⟨base, rfl⟩, h.keyed.of_get? hearlier⟩
      exact get?_onTop hbase hentries k

variable {layers : List Value}

theorem givesSections_ofLayers (h : ∀ l ∈ layers, l.IsKeyTable ∧ l.GivesSections) :
    (ofLayers layers).GivesSections := by
  induction layers using List.reverseRecOn with
  | nil => nofun
  | append_singleton layers l ih =>
    obtain ⟨h, hl⟩ := List.forall_mem_append.1 h
    obtain ⟨hkeys, hsections⟩ := List.forall_mem_singleton.1 hl
    rw [ofLayers_concat]
    exact (ih h).onTop (isKeyTable_ofLayers fun l' hl' => (h l' hl').1) hkeys hsections

/-- The value of a key of a section in layers that are put together. -/
theorem at?_ofLayers (h : ∀ l ∈ layers, l.IsKeyTable ∧ l.GivesSections) (s : Section) (k : String) :
    (ofLayers layers).at? [s.key, k] = stacked (layers.filterMap (·.at? [s.key, k])) := by
  induction layers using List.reverseRecOn with
  | nil => rfl
  | append_singleton layers l ih =>
    obtain ⟨h, hl⟩ := List.forall_mem_append.1 h
    obtain ⟨hkeys, hsections⟩ := List.forall_mem_singleton.1 hl
    rw [ofLayers_concat, at?_onTop (isKeyTable_ofLayers fun l' hl' => (h l' hl').1) hkeys
      (givesSections_ofLayers h) hsections, ih h, List.filterMap_append, List.filterMap_cons]
    rcases l.at? [s.key, k] with _ | v
    · simp
    · exact (stacked_concat ..).symm

/-- The value that the last layer that sets a key gives it. -/
def lastSet? (layers : List Value) (path : List String) : Option Value :=
  (layers.filterMap (·.at? path)).getLast?

/-- A value that gives a whole number, not more than the greatest. -/
def GivesNumber (greatest : Nat) (v : Value) (n : Nat) : Prop :=
  (v = .signed n ∨ v = .unsigned n) ∧ n ≤ greatest

end Value

open Value

/-! ## Single settings -/

namespace Setting

variable {α : Type} {setting : Setting α} {gives : Value → α → Prop}

/-- The keys that lead to a setting. -/
def path (setting : Setting α) : List String := [setting.within.key, setting.key]

/-- What reading a setting comes to, where no table counts as a value of it. -/
structure Reads (setting : Setting α) (gives : Value → α → Prop) : Prop where
  read : ∀ path v a, setting.read path v = .ok a ↔ gives v a
  table : ∀ entries a, ¬ gives (.table entries) a

theorem of_eq {root : Value} (h : root.GivesSections) (setting : Setting α) :
    setting.of root =
      match root.at? setting.path with
      | some v => setting.read setting.path v
      | none => .ok setting.standard := by
  rw [path, at?_pair, of]
  rcases hsection : root.get? setting.within.key with _ | w
  · rfl
  · obtain ⟨entries, rfl⟩ := h setting.within w hsection
    simp only [Option.bind_some, Value.get?]
    rcases Named.get? entries setting.key with _ | v <;> rfl

/-- What a setting is, from the last value it is given: the standard if there is none. -/
def Chosen (last : Option Value) (standard : α) (gives : Value → α → Prop) (a : α) : Prop :=
  match last with
  | some v => gives v a
  | none => a = standard

section Layers

variable {layers : List Value} (h : ∀ l ∈ layers, l.IsKeyTable ∧ l.GivesSections)

include h

/-- A setting depends on the layers that set it. -/
theorem of_ofLayers (setting : Setting α) : setting.of (ofLayers layers) =
    match stacked (layers.filterMap (·.at? setting.path)) with
    | some v => setting.read setting.path v
    | none => .ok setting.standard := by
  rw [of_eq (givesSections_ofLayers h), path, at?_ofLayers h]

/-- A setting is what the last layer that sets it gives. -/
theorem of_ofLayers_iff (hreads : setting.Reads gives) {a : α} :
    setting.of (ofLayers layers) = .ok a ↔
      Chosen (lastSet? layers setting.path) setting.standard gives a := by
  rw [of_ofLayers h, lastSet?]
  rcases List.eq_nil_or_concat (layers.filterMap (·.at? setting.path)) with hnone | ⟨vs, v, hvs⟩
  · rw [hnone]
    exact ⟨fun h => (Except.ok.inj h).symm, fun h => congrArg Except.ok h.symm⟩
  · rw [hvs, List.concat_eq_append, stacked_concat, List.getLast?_concat]
    show setting.read _ (upon _ v) = .ok a ↔ gives v a
    rw [hreads.read]
    rcases upon_cases (stacked vs) v with hsame | ⟨⟨entries, rfl⟩, ⟨entries', htable⟩⟩
    · rw [hsame]
    · -- neither the table nor what it is put into counts as a value
      rw [htable]
      exact iff_of_false (hreads.table _ _) (hreads.table _ _)

end Layers

end Setting

theorem reads_text (setting : Setting String) (h : setting.read = readText) :
    setting.Reads fun v s => v = .text s where
  read path v s := by
    rw [h]
    cases v <;> simp [readText]
  table _ _ := nofun

theorem reads_flag (setting : Setting Bool) (h : setting.read = readFlag) :
    setting.Reads fun v b => v = .flag b where
  read path v b := by
    rw [h]
    cases v <;> simp [readFlag]
  table _ _ := nofun

theorem readNumber_eq_ok {kind : Kind} {path : List String} {v : Value} {n : Nat} :
    readNumber kind path v = .ok n ↔ v.GivesNumber kind.greatest n := by
  unfold readNumber GivesNumber
  cases v with
  | signed m =>
    dsimp only
    split_ifs with hrange
    · simp; omega
    · simp; omega
  | unsigned m =>
    dsimp only
    split_ifs with hrange
    · simp; omega
    · simp; omega
  | flag | real | text | list | table => simp

theorem reads_number {kind : Kind} (setting : Setting Nat) (h : setting.read = readNumber kind) :
    setting.Reads (GivesNumber kind.greatest) where
  read path v n := by
    rw [h]
    exact readNumber_eq_ok
  table _ _ h := by simp [GivesNumber] at h

/-! ## All settings -/

/-- The settings of layers: each is what the last layer that sets it gives, a text, a number in its
    range or a flag, and has its own value where no layer sets it. -/
structure FromLayers (layers : List Value) (settings : Settings) : Prop where
  host : Setting.Chosen (lastSet? layers ["service", "host"]) "0.0.0.0" (fun v s => v = .text s)
    settings.host
  port : Setting.Chosen (lastSet? layers ["service", "port"]) 50061 (GivesNumber 65535)
    settings.port
  defaultSize : Setting.Chosen (lastSet? layers ["listing", "default_size"]) 16
    (GivesNumber 18446744073709551615) settings.defaultSize
  maxSize : Setting.Chosen (lastSet? layers ["listing", "max_size"]) 1000
    (GivesNumber 18446744073709551615) settings.maxSize
  allowAnonymous : Setting.Chosen (lastSet? layers ["auth", "allow_anonymous"]) false
    (fun v b => v = .flag b) settings.allowAnonymous

theorem ofValue_eq_ok {root : Value} {settings : Settings} :
    ofValue root = .ok settings ↔
      host?.of root = .ok settings.host ∧ port?.of root = .ok settings.port ∧
        defaultSize?.of root = .ok settings.defaultSize ∧
        maxSize?.of root = .ok settings.maxSize ∧
        allowAnonymous?.of root = .ok settings.allowAnonymous := by
  constructor
  · intro h
    obtain ⟨_, hallowAnonymous, h⟩ := bind_eq_ok.1 h
    obtain ⟨_, hdefaultSize, h⟩ := bind_eq_ok.1 h
    obtain ⟨_, hmaxSize, h⟩ := bind_eq_ok.1 h
    obtain ⟨_, hhost, h⟩ := bind_eq_ok.1 h
    obtain ⟨_, hport, h⟩ := bind_eq_ok.1 h
    cases h
    exact ⟨hhost, hport, hdefaultSize, hmaxSize, hallowAnonymous⟩
  · rintro ⟨hhost, hport, hdefaultSize, hmaxSize, hallowAnonymous⟩
    exact bind_eq_ok.2 ⟨_, hallowAnonymous, bind_eq_ok.2 ⟨_, hdefaultSize,
      bind_eq_ok.2 ⟨_, hmaxSize, bind_eq_ok.2 ⟨_, hhost, bind_eq_ok.2 ⟨_, hport, rfl⟩⟩⟩⟩⟩

/-- What documents write is key tables. -/
theorem isKeyTable_documents {texts : List String} {layers : List Value}
    (h : texts.mapM document = .ok layers) : ∀ l ∈ layers, l.IsKeyTable := by
  intro l hl
  obtain ⟨text, -, hl⟩ := exists_of_mem_mapM_eq_ok h hl
  unfold document at hl
  split at hl
  · cases hl
    exact Toml.isKeyTable_read? ‹_›
  · cases hl

section Layers

variable {layers : List Value} (h : ∀ l ∈ layers, l.IsKeyTable ∧ l.GivesSections)

include h

theorem ofValue_ofLayers_iff {settings : Settings} :
    ofValue (ofLayers layers) = .ok settings ↔ FromLayers layers settings := by
  rw [ofValue_eq_ok, Setting.of_ofLayers_iff h (reads_text host? rfl),
    Setting.of_ofLayers_iff h (reads_number port? rfl),
    Setting.of_ofLayers_iff h (reads_number defaultSize? rfl),
    Setting.of_ofLayers_iff h (reads_number maxSize? rfl),
    Setting.of_ofLayers_iff h (reads_flag allowAnonymous? rfl)]
  constructor
  · rintro ⟨hhost, hport, hdefaultSize, hmaxSize, hallowAnonymous⟩
    exact ⟨hhost, hport, hdefaultSize, hmaxSize, hallowAnonymous⟩
  · rintro ⟨hhost, hport, hdefaultSize, hmaxSize, hallowAnonymous⟩
    exact ⟨hhost, hport, hdefaultSize, hmaxSize, hallowAnonymous⟩

/-- A layer has no part in a setting that it does not set. -/
theorem Setting.of_ofLayers_eq_without {before after : List Value} {l : Value}
    (hlayers : layers = before ++ l :: after) {α : Type} {setting : Setting α}
    (hl : l.at? setting.path = none) :
    setting.of (ofLayers layers) = setting.of (ofLayers (before ++ after)) := by
  subst hlayers
  have hrest : ∀ l' ∈ before ++ after, l'.IsKeyTable ∧ l'.GivesSections := fun l' hl' =>
    h l' (List.Sublist.mem hl' ((List.sublist_cons_self l after).append_left before))
  rw [Setting.of_ofLayers h, Setting.of_ofLayers hrest, List.filterMap_append, List.filterMap_cons,
    hl, List.filterMap_append]

end Layers

/-- **Layers compose key by key.**  Of key tables that give the sections they mention as tables,
    each setting is what the last layer that sets its key gives, and a layer has no part in a
    setting that it does not set.  This holds for what is loaded, since files and the environment
    are key tables.  The page sizes that follow are at least one, and the default does not exceed
    the maximum. -/
theorem composed :
    (∀ layers : List Value, (∀ l ∈ layers, l.IsKeyTable ∧ l.GivesSections) →
      (∀ settings, ofValue (ofLayers layers) = .ok settings ↔ FromLayers layers settings) ∧
        ∀ before l after, layers = before ++ l :: after →
          ∀ {α : Type} (setting : Setting α), l.at? setting.path = none →
            setting.of (ofLayers layers) = setting.of (ofLayers (before ++ after))) ∧
      (∀ standardFile localFile environment files,
        (standardFile.toList ++ localFile.toList).mapM document = .ok files →
          (∀ l ∈ files ++ [Environment.layer environment], l.IsKeyTable) ∧
            ((∀ l ∈ files ++ [Environment.layer environment], l.GivesSections) →
              ∀ settings, load standardFile localFile environment = .ok settings ↔
                FromLayers (files ++ [Environment.layer environment]) settings)) ∧
      ∀ settings : Settings,
        settings.limits.maxSize = max 1 settings.maxSize ∧
          settings.limits.defaultSize =
            min (max 1 settings.defaultSize) settings.limits.maxSize ∧
          1 ≤ settings.limits.defaultSize ∧
          settings.limits.defaultSize ≤ settings.limits.maxSize := by
  refine ⟨fun layers h => ⟨fun settings => ofValue_ofLayers_iff h,
    fun before l after hlayers α setting => Setting.of_ofLayers_eq_without h hlayers⟩, ?_,
    fun settings => ⟨rfl, rfl, settings.limits.default_pos, settings.limits.default_le_max⟩⟩
  intro standardFile localFile environment files hfiles
  have hkeys : ∀ l ∈ files ++ [Environment.layer environment], l.IsKeyTable :=
    List.forall_mem_append.2 ⟨isKeyTable_documents hfiles,
      List.forall_mem_singleton.2 (Environment.isKeyTable_layer environment)⟩
  refine ⟨hkeys, fun hsections settings => ?_⟩
  have hload : load standardFile localFile environment =
      ofValue (ofLayers (files ++ [Environment.layer environment])) := by
    rw [load, hfiles]
    rfl
  rw [hload]
  exact ofValue_ofLayers_iff fun l hl => ⟨hkeys l hl, hsections l hl⟩

/-- A file that sets the host and the port. -/
def hostAndPort : String := "[service]\nhost=\"a\"\nport=6"

/-- A file that sets the port alone. -/
def portAlone : String := "service.port=7"

/-- A variable that sets the host alone. -/
def hostVariable : Named String := [("CASES_SERVICE_SERVICE__HOST", "b")]

/-- The port of the second file and the host of the variable are chosen, and the variable has no
    part in the port. -/
theorem hostVariable_composed :
    load (some hostAndPort) (some portAlone) hostVariable = .ok ⟨"b", 7, 16, 1000, false⟩ ∧
      ∃ files, [hostAndPort, portAlone].mapM document = .ok files ∧
        FromLayers (files ++ [Environment.layer hostVariable]) ⟨"b", 7, 16, 1000, false⟩ ∧
        port?.of (ofLayers (files ++ [Environment.layer hostVariable])) =
          port?.of (ofLayers files) := by
  obtain ⟨files, hfiles⟩ :=
    exists_of_isOk (x := [hostAndPort, portAlone].mapM document) (by decide +kernel)
  obtain ⟨hcompose, hload, -⟩ := composed
  obtain ⟨hkeys, hload⟩ := hload (some hostAndPort) (some portAlone) hostVariable files hfiles
  have hsections : ∀ l ∈ files ++ [Environment.layer hostVariable], l.GivesSections := by
    have hall : ∀ l ∈ ([hostAndPort, portAlone].mapM document).toOption.getD [] ++
        [Environment.layer hostVariable], l.GivesSections := by decide +kernel
    rwa [hfiles] at hall
  have hvariable : (Environment.layer hostVariable).at? port?.path = none :=
    Option.isNone_iff_eq_none.1 (by decide +kernel)
  obtain ⟨settings, hloaded⟩ := exists_of_isOk
    (x := load (some hostAndPort) (some portAlone) hostVariable) (by decide +kernel)
  have hsettings : (load (some hostAndPort) (some portAlone) hostVariable).toOption =
      some ⟨"b", 7, 16, 1000, false⟩ := by decide +kernel
  rw [hloaded] at hsettings
  cases hsettings
  obtain ⟨-, hwithout⟩ := hcompose _ fun l hl => ⟨hkeys l hl, hsections l hl⟩
  refine ⟨hloaded, files, hfiles, (hload hsections _).1 hloaded, ?_⟩
  rw [hwithout files _ [] rfl port? hvariable, List.append_nil]

end CaseDesk.Settings
