/-
  Messages are read back field by field.

  * `Lens.Apart`: two parts of a structure that do not overlap.
  * `Schema.Determines`: fields that do not overlap and together make up the
    message, all at their defaults in the blank one.
  * `Schema.get_join`, `Schema.Faithful.join_blank`: joining messages joins their
    fields, and a message joined to the blank one is itself.
  * `Schema.Faithful`: what a schema needs for `Schema.Faithful.steps`: the bytes
    of a message are merged into another as their join.
  * `Schema.Faithful.single`, `Schema.Faithful.many`: nested messages.
  * `Schema.Faithful.decode_encode`: messages are read back.
-/
import CaseDesk.Proofs.Forms
import CaseDesk.Wire.Schema

namespace CaseDesk

variable {α β γ δ : Type}

/-! ## Parts that do not overlap -/

/-- Two parts that do not overlap: neither changes when the other is replaced. -/
structure Lens.Apart (l : Lens α β) (m : Lens α γ) : Prop where
  left : ∀ b a, m.get (l.set b a) = m.get a
  right : ∀ c a, l.get (m.set c a) = l.get a

namespace Lens.Apart

variable {l : Lens α β} {m : Lens α γ}

theorem iff : l.Apart m ↔
    (∀ b a, m.get (l.set b a) = m.get a) ∧ ∀ c a, l.get (m.set c a) = l.get a :=
  ⟨fun h => ⟨h.left, h.right⟩, fun h => ⟨h.1, h.2⟩⟩

theorem symm (h : l.Apart m) : m.Apart l := ⟨h.right, h.left⟩

/-- A part of one of two parts. -/
theorem comp (h : l.Apart m) (inner : Lens β δ) : (l.comp inner).Apart m where
  left d a := h.left (inner.set d (l.get a)) a
  right c a := congrArg inner.get (h.right c a)

/-- Two parts of the same part. -/
theorem within (l : Lens α β) {i : Lens β γ} {j : Lens β δ} (h : i.Apart j) :
    (l.comp i).Apart (l.comp j) where
  left c a := (congrArg j.get (l.get_set _ a)).trans (h.left c (l.get a))
  right d a := (congrArg i.get (l.get_set _ a)).trans (h.right d (l.get a))

end Lens.Apart

namespace Schema

variable {ρ σ : Type}

/-! ## Joining field by field -/

/-- The fields of a list do not overlap. -/
def AllApart (fields : List (Field ρ)) : Prop := fields.Pairwise fun f g => f.lens.Apart g.lens

theorem get_foldl_of_apart {fields : List (Field ρ)} {l : Lens ρ β}
    (h : ∀ f ∈ fields, f.lens.Apart l) (other r : ρ) :
    l.get (fields.foldl (fun r f => f.join other r) r) = l.get r := by
  induction fields generalizing r with
  | nil => rfl
  | cons f fields ih =>
    obtain ⟨hf, h⟩ := List.forall_mem_cons.1 h
    exact (ih h (f.join other r)).trans (hf.left _ r)

theorem get_foldl {fields : List (Field ρ)} (h : AllApart fields) {f : Field ρ} (hf : f ∈ fields)
    (other r : ρ) : f.lens.get (fields.foldl (fun r f => f.join other r) r) =
      f.form.join (f.lens.get r) (f.lens.get other) := by
  induction fields generalizing r with
  | nil => cases hf
  | cons g fields ih =>
    obtain ⟨hg, h⟩ := List.pairwise_cons.1 h
    rcases List.mem_cons.1 hf with rfl | hf
    · exact (get_foldl_of_apart (fun g' hg' => (hg g' hg').symm) other _).trans
        (f.lens.get_set _ r)
    · rw [List.foldl_cons, ih h hf, Field.join, (hg f hf).left]

/-- Fields that do not overlap and make up the message, at their defaults in the blank one. -/
structure Determines (blank : ρ) (fields : List (Field ρ)) : Prop where
  blank : ∀ f ∈ fields, f.lens.get blank = f.form.zero
  apart : AllApart fields
  ext : ∀ a b, (∀ f ∈ fields, f.lens.get a = f.lens.get b) → a = b

/-- The fields of a part, as fields of the whole. -/
theorem AllApart.within {fields : List (Field σ)} (h : AllApart fields) (part : Lens ρ σ) :
    AllApart (fields.map (·.within part)) :=
  h.map _ fun _ _ hapart => hapart.within part

theorem apart_within {part : Lens ρ σ} {l : Lens ρ β} (h : part.Apart l) (fields : List (Field σ)) :
    ∀ f ∈ fields.map (·.within part), f.lens.Apart l := by
  intro f hf
  obtain ⟨g, -, rfl⟩ := List.mem_map.1 hf
  exact h.comp g.lens

/-- A message whose fields are those of a part with others around them. -/
theorem Determines.around {blank : ρ} {fields : List (Field σ)} {part : Lens ρ σ}
    (h : Determines (part.get blank) fields) {before after : List (Field ρ)}
    (hblank : ∀ f ∈ before ++ after, f.lens.get blank = f.form.zero)
    (hothers : AllApart (before ++ after)) (hapart : ∀ f ∈ before ++ after, part.Apart f.lens)
    (hext : ∀ a b, part.get a = part.get b →
      (∀ f ∈ before ++ after, f.lens.get a = f.lens.get b) → a = b) :
    Determines blank (before ++ fields.map (·.within part) ++ after) where
  blank f hf := by
    rw [List.append_assoc, List.mem_append, List.mem_append] at hf
    rcases hf with hf | hf | hf
    · exact hblank f (List.mem_append_left after hf)
    · obtain ⟨g, hg, rfl⟩ := List.mem_map.1 hf
      exact h.blank g hg
    · exact hblank f (List.mem_append_right before hf)
  apart := by
    obtain ⟨hbefore, hafter, hcross⟩ := List.pairwise_append.1 hothers
    obtain ⟨hleft, hright⟩ := List.forall_mem_append.1 hapart
    have hpart := h.apart.within part
    rw [List.append_assoc]
    refine List.pairwise_append.2 ⟨hbefore, List.pairwise_append.2 ⟨hpart, hafter, ?_⟩, ?_⟩
    · exact fun f hf g hg => apart_within (hright g hg) fields f hf
    · intro f hf g hg
      rcases List.mem_append.1 hg with hg | hg
      · exact (apart_within (hleft f hf) fields g hg).symm
      · exact hcross f hf g hg
  ext a b heq := by
    rw [List.append_assoc, List.forall_mem_append, List.forall_mem_append] at heq
    obtain ⟨hbefore, hpart, hafter⟩ := heq
    rw [List.forall_mem_map] at hpart
    exact hext a b (h.ext _ _ hpart) (List.forall_mem_append.2 ⟨hbefore, hafter⟩)

/-- A message whose first fields are those of a part. -/
theorem Determines.starting {blank : ρ} {fields : List (Field σ)} {part : Lens ρ σ}
    (h : Determines (part.get blank) fields) {after : List (Field ρ)}
    (hblank : ∀ f ∈ after, f.lens.get blank = f.form.zero) (hothers : AllApart after)
    (hapart : ∀ f ∈ after, part.Apart f.lens)
    (hext : ∀ a b, part.get a = part.get b → (∀ f ∈ after, f.lens.get a = f.lens.get b) → a = b) :
    Determines blank (fields.map (·.within part) ++ after) := by
  rw [← List.nil_append (fields.map _)]
  exact h.around hblank hothers hapart hext

/-- A message whose last fields are those of a part. -/
theorem Determines.ending {blank : ρ} {fields : List (Field σ)} {part : Lens ρ σ}
    (h : Determines (part.get blank) fields) {before : List (Field ρ)}
    (hblank : ∀ f ∈ before, f.lens.get blank = f.form.zero) (hothers : AllApart before)
    (hapart : ∀ f ∈ before, part.Apart f.lens)
    (hext : ∀ a b, part.get a = part.get b → (∀ f ∈ before, f.lens.get a = f.lens.get b) → a = b) :
    Determines blank (before ++ fields.map (·.within part)) := by
  rw [← List.append_nil before] at hblank hothers hapart hext
  rw [← List.append_nil (before ++ _)]
  exact h.around hblank hothers hapart hext

/-- Joining messages joins their fields. -/
theorem get_join {s : Schema ρ} (h : Determines s.blank s.fields) {f : Field ρ}
    (hf : f ∈ s.fields) (r other : ρ) :
    f.lens.get (s.join r other) = f.form.join (f.lens.get r) (f.lens.get other) :=
  get_foldl h.apart hf other r

/-! ## Reading fields -/

/-- What a schema needs for its messages to be read back where `depth` more levels may nest: numbers
    that keys can hold, forms that are read back, and fields that make up the message. -/
structure Faithful (depth : Nat) (s : Schema ρ) : Prop where
  few : s.fields.length < 536870911
  forms : ∀ f ∈ s.fields, f.form.Faithful depth
  fields : Determines s.blank s.fields

variable {s : Schema ρ} {depth : Nat}

/-- A field is merged into the part that it belongs to. -/
theorem steps_field {number : Nat} {f : Field ρ} (hpos : 0 < number) (hsmall : number < 536870912)
    (hf : s.fields[number - 1]? = some f) {wire : WireType} {key payload : List UInt8}
    (hkey : Reads Reader.varint key (8 * number + wire.number)) (hne : key ≠ []) {r : ρ} {v : f.β}
    (h : Reads (f.form.merge depth wire (f.lens.get r)) payload v) :
    Steps (s.mergeNext depth) r (key ++ payload) (f.lens.set v r) := by
  have hfield : Reads (s.mergeField depth number wire r) payload (f.lens.set v r) := by
    simp only [mergeField, hf]
    exact (h.inside s.name f.label).map (.pure _)
  exact .single (List.append_ne_nil_of_left_ne_nil hne _) ((Reads.key hpos hsmall hkey).bind hfield)

/-- Fields of one number are merged into the part that they belong to. -/
theorem steps_of_merges {number : Nat} {f : Field ρ} (hpos : 0 < number)
    (hsmall : number < 536870912) (hf : s.fields[number - 1]? = some f) {r : ρ}
    {bytes : List UInt8} {v : f.β}
    (h : f.form.Merges depth number (f.lens.get r) bytes v) :
    Steps (s.mergeNext depth) r bytes (f.lens.set v r) := by
  -- each payload is merged into what those before it left in the field
  generalize hv₀ : f.lens.get r = v₀ at h
  induction h generalizing r with
  | nil v =>
    rw [← hv₀, f.lens.set_get]
    exact .nil r
  | @cons v v₁ v₂ wire payload more hread _ ih =>
    have hkey : 8 * number + wire.number < 2 ^ 64 := by
      have hwire : wire.number < 8 := by cases wire <;> decide
      omega
    have hfirst := steps_field hpos hsmall hf (.varint hkey) (Varint.encode_ne_nil _) (hv₀ ▸ hread)
    have hnext := ih (r := f.lens.set v₁ r) (f.lens.get_set v₁ r)
    rw [f.lens.set_set] at hnext
    exact hfirst.append hnext

/-- The bytes of the last fields, from a number on. -/
theorem steps_encodeFields (hs : s.Faithful depth) (before : List (Field ρ))
    {fields : List (Field ρ)} (hfields : s.fields = before ++ fields) {other : ρ}
    (hfits : ∀ f ∈ fields, f.form.fits (f.lens.get other) = true)
    (hlength : (encodeFields other (before.length + 1) fields).length < 2 ^ 64) (r : ρ) :
    Steps (s.mergeNext depth) r (encodeFields other (before.length + 1) fields)
      (fields.foldl (fun r f => f.join other r) r) := by
  induction fields generalizing before r with
  | nil => exact .nil r
  | cons f fields ih =>
    rw [encodeFields, List.length_append] at hlength
    obtain ⟨hf, hfits⟩ := List.forall_mem_cons.1 hfits
    have hmem : f ∈ s.fields := hfields ▸ List.mem_append_right before List.mem_cons_self
    have hat : s.fields[before.length + 1 - 1]? = some f := by simp [hfields]
    have hcount : before.length < s.fields.length := by simp [hfields]
    have hfew := hs.few
    have hmerges := (hs.forms f hmem).merges (before.length + 1) (f.lens.get r) _ hf (by omega)
    have hmore := ih (before ++ [f]) (by simp [hfields]) hfits
    rw [List.length_append, List.length_singleton] at hmore
    exact (steps_of_merges (by omega) (by omega) hat hmerges).append (hmore (by omega) _)

@[simp] theorem zero_single (s : Schema ρ) : s.single.zero = none := rfl

@[simp] theorem zero_many (s : Schema ρ) : s.many.zero = [] := rfl

namespace Faithful

/-- The bytes of a message are merged into another. -/
theorem steps (h : s.Faithful depth) {other : ρ} (hfits : s.fits other = true)
    (hlength : (s.encode other).length < 2 ^ 64) (r : ρ) :
    Steps (s.mergeNext depth) r (s.encode other) (s.join r other) :=
  steps_encodeFields h [] rfl (List.all_eq_true.1 hfits) hlength r

/-- A message joined to the blank one. -/
theorem join_blank (h : s.Faithful depth) (r : ρ) : s.join s.blank r = r :=
  h.fields.ext _ r fun f hf => by
    rw [get_join h.fields hf, h.fields.blank f hf, (h.forms f hf).join_zero]

theorem reads_nested (h : s.Faithful depth) {other : ρ} (hfits : s.fits other = true)
    (hlength : (s.encode other).length < 2 ^ 64) (r : ρ) :
    Reads (s.readNested (depth + 1) .delimited r)
      (Varint.encode (s.encode other).length ++ s.encode other) (s.join r other) :=
  (Reads.expect _).after ((h.steps hfits hlength r).reads_delimited (.varint hlength))

/-- A field depends on nothing but its own bytes, the key among them. -/
theorem takes_mergeNext (h : s.Faithful depth) (r : ρ) : (s.mergeNext depth r).Takes := by
  refine Reader.Takes.key.bind fun (number, wire) => ?_
  simp only [mergeField]
  split
  · next f hf =>
    exact (((h.forms f (List.mem_of_getElem? hf)).merge_local wire _).inside _ _).bind
      fun _ => .pure _
  · exact (Reader.Local.skipField ..).bind fun _ => .pure _

theorem readNested_local (h : s.Faithful depth) (wire : WireType) (r : ρ) :
    (s.readNested (depth + 1) wire r).Local :=
  (Reader.Local.expect ..).bind fun _ => (Reader.Takes.delimited h.takes_mergeNext r).local

theorem single (h : s.Faithful depth) : s.single.Faithful (depth + 1) where
  merges number v other hfits hlength := by
    cases other with
    | none => exact .nil v
    | some r =>
      have hread := h.reads_nested hfits (WireForm.length_lt_of_delimited hlength) (v.getD s.blank)
      exact .delimited (hread.map (.pure _))
  join_zero v := by
    cases v with
    | none => rfl
    | some r => exact congrArg some (h.join_blank r)
  merge_local wire v := (h.readNested_local wire (v.getD s.blank)).bind fun _ => .pure _
  joins := .nested (fun _ => rfl) (fun r => congrArg some (h.join_blank r)) (fun _ _ => rfl)
    (fun _ hf r other => get_join h.fields hf r other) fun f hf => (h.forms f hf).joins

theorem many (h : s.Faithful depth) : s.many.Faithful (depth + 1) where
  merges number v other hfits hlength := by
    refine WireForm.merges_each (fun r hr old hlength => ?_) hlength v
    have hread := h.reads_nested (List.all_eq_true.1 hfits r hr) hlength s.blank
    rw [h.join_blank] at hread
    exact hread.map (.pure _)
  join_zero _ := rfl
  merge_local wire _ := (h.readNested_local wire s.blank).bind fun _ => .pure _
  joins := .list fun _ _ => rfl

/-- Messages are read back. -/
theorem decode_encode (h : s.Faithful maxDepth) {r : ρ} (hfits : s.fits r = true)
    (hlength : (s.encode r).length < 2 ^ 64) : s.decode (s.encode r) = .ok r := by
  have hsteps := (h.steps hfits hlength s.blank).stepsTo_eq []
  rw [List.append_nil, h.join_blank] at hsteps
  rw [decode, mergeInto]
  exact congrArg (Except.map (·.1)) hsteps

end Faithful

end Schema

end CaseDesk
