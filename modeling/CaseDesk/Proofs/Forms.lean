/-
  Wire forms are read back: what one writes for a value, it merges into the
  value so far.

  * `WireForm.Merges`: fields of one number whose payloads are merged into a
    value one after the other.
  * `WireForm.Joins`: values are joined like scalars, like lists or like nested
    messages.
  * `WireForm.Faithful`: merging what was written for a value gives the join with
    this value, joining a value to the default gives this value, and merging
    depends on nothing but the payload.
  * `WireForm.Run`: words one after the other, each of them written in any way.
  * `integer_faithful`, `flag_faithful`, `text_faithful`, `packed_faithful`,
    `texts_faithful`: the forms that hold no messages.
-/
import CaseDesk.Proofs.Locality
import CaseDesk.Proofs.Tags
import CaseDesk.Wire.Schema

namespace CaseDesk.WireForm

variable {β : Type}

/-- Fields of one number whose payloads a form merges into a value one after the other. -/
inductive Merges (form : WireForm β) (depth number : Nat) : β → List UInt8 → β → Prop
  | nil (v : β) : Merges form depth number v [] v
  | cons {v v₁ v₂ : β} {wire : WireType} {payload more : List UInt8}
      (h : Reads (form.merge depth wire v) payload v₁)
      (hmore : Merges form depth number v₁ more v₂) :
      Merges form depth number v (key number wire ++ payload ++ more) v₂

namespace Merges

variable {form : WireForm β} {depth number : Nat} {v v₁ : β} {payload : List UInt8}

theorem single {wire : WireType} (h : Reads (form.merge depth wire v) payload v₁) :
    form.Merges depth number v (key number wire ++ payload) v₁ := by
  rw [← List.append_nil (key number wire ++ payload)]
  exact .cons h (.nil v₁)

theorem delimited
    (h : Reads (form.merge depth .delimited v) (Varint.encode payload.length ++ payload) v₁) :
    form.Merges depth number v (delimited number payload) v₁ := by
  rw [WireForm.delimited, List.append_assoc]
  exact single h

end Merges

/-- How a form joins values: another scalar replaces the first unless it is the default, another
    list is added to the first, and another nested message is joined field by field; an absent
    message contributes nothing. -/
inductive Joins : {β : Type} → WireForm β → Prop
  | scalar {β : Type} {form : WireForm β} (default : ∀ v, form.join v form.zero = v)
      (replaces : ∀ v other, other ≠ form.zero → form.join v other = other) : Joins form
  | list {γ : Type} {form : WireForm (List γ)}
      (adds : ∀ vs others, form.join vs others = vs ++ others) : Joins form
  | nested {ρ : Type} {s : Schema ρ} {form : WireForm (Option ρ)}
      (absent : ∀ v, form.join v none = v) (first : ∀ r, form.join none (some r) = some r)
      (both : ∀ r other, form.join (some r) (some other) = some (s.join r other))
      (fieldwise : ∀ f ∈ s.fields, ∀ r other,
        f.lens.get (s.join r other) = f.form.join (f.lens.get r) (f.lens.get other))
      (fields : ∀ f ∈ s.fields, Joins f.form) : Joins form

/-- What is written for a value that fits is merged into the value so far, and what follows a
    payload is never looked at. -/
structure Faithful (depth : Nat) (form : WireForm β) : Prop where
  merges : ∀ (number : Nat) (v other : β), form.fits other = true →
    (form.encode number other).length < 2 ^ 64 →
    form.Merges depth number v (form.encode number other) (form.join v other)
  join_zero : ∀ v, form.join form.zero v = v
  merge_local : ∀ (wire : WireType) (v : β), (form.merge depth wire v).Local
  joins : form.Joins

theorem length_lt_of_delimited {number : Nat} {payload : List UInt8}
    (h : (delimited number payload).length < 2 ^ 64) : payload.length < 2 ^ 64 := by
  rw [delimited, List.length_append] at h
  omega

theorem replace_zero [DecidableEq β] (zero v : β) : replace zero zero v = v := by
  rw [replace]
  split_ifs with h
  · exact h.symm
  · rfl

theorem joins_of_replace [DecidableEq β] {form : WireForm β}
    (h : form.join = replace form.zero) : form.Joins := by
  refine .scalar (fun v => ?_) fun v other hother => ?_
  · rw [h, replace, if_pos rfl]
  · rw [h, replace, if_neg hother]

@[simp] theorem zero_int64 : int64.zero = 0 := rfl

@[simp] theorem zero_int32 : int32.zero = 0 := rfl

@[simp] theorem zero_flag : flag.zero = false := rfl

@[simp] theorem zero_text : text.zero = "" := rfl

@[simp] theorem zero_int64s : int64s.zero = [] := rfl

@[simp] theorem zero_int32s : int32s.zero = [] := rfl

@[simp] theorem zero_texts : texts.zero = [] := rfl

variable {fits : Int → Bool} {ofWord : Nat → Int}

theorem reads_word {word : Nat} {bytes : List UInt8} (h : Reads Reader.varint bytes word) :
    Reads (readWord ofWord .varint) bytes (ofWord word) :=
  (Reads.expect _).after (h.map (.pure _))

theorem readWord_local (ofWord : Nat → Int) (wire : WireType) : (readWord ofWord wire).Local :=
  (Reader.Local.expect ..).bind fun _ => Reader.Takes.varint.local.bind fun _ => .pure _

theorem integer_faithful (hword : ∀ n, fits n = true → ofWord (Varint.word64 n) = n) (depth : Nat) :
    (integer fits ofWord).Faithful depth where
  merges number v other hfits _ := by
    show Merges _ _ _ _ (if other = 0 then [] else _) (replace 0 v other)
    rw [replace]
    split_ifs
    · exact .nil v
    · have hread : Reads (readWord ofWord .varint) (Varint.encode (Varint.word64 other)) _ :=
        reads_word (.varint (Varint.word64_lt other))
      rw [hword other hfits] at hread
      exact .single hread
  join_zero := replace_zero 0
  merge_local wire _ := readWord_local ofWord wire
  joins := joins_of_replace rfl

@[simp] theorem int64_faithful (depth : Nat) : int64.Faithful depth :=
  integer_faithful (fun _ => Varint.signed64_word64) depth

@[simp] theorem int32_faithful (depth : Nat) : int32.Faithful depth :=
  integer_faithful (fun _ => Varint.signed32_word64) depth

@[simp] theorem flag_faithful (depth : Nat) : flag.Faithful depth where
  merges number v other _ _ := by
    cases other with
    | false => exact .nil v
    | true =>
      have hone : Varint.encode 1 = [1] := by rw [Varint.encode, if_pos (by decide)]; rfl
      refine .single ((Reads.expect _).after ?_)
      rw [← hone]
      exact (Reads.varint (by decide)).map (.pure true)
  join_zero := replace_zero false
  merge_local _ _ :=
    (Reader.Local.expect ..).bind fun _ => Reader.Takes.varint.local.bind fun _ => .pure _
  joins := joins_of_replace rfl

theorem reads_text {s : String} (h : (Text.utf8 s).length < 2 ^ 64) :
    Reads (readText .delimited) (Varint.encode (Text.utf8 s).length ++ Text.utf8 s) s := by
  refine (Reads.expect _).after ((Reads.varint h).bind ((Reads.bytes rfl).map ?_))
  rw [Text.fromUtf8?_utf8]
  exact .pure s

theorem readText_local (wire : WireType) : (readText wire).Local := by
  refine (Reader.Local.expect ..).bind fun _ => Reader.Takes.varint.local.bind fun _ =>
    (Reader.Local.bytes _).bind fun bytes => ?_
  cases Text.fromUtf8? bytes with
  | none => exact .fail _
  | some text => exact .pure text

@[simp] theorem text_faithful (depth : Nat) : text.Faithful depth where
  merges number v other _ hlength := by
    show Merges _ _ _ _ (if other = "" then [] else _) (replace "" v other)
    change (if other = "" then [] else delimited number (Text.utf8 other)).length < _ at hlength
    rw [replace]
    split_ifs at hlength ⊢
    · exact .nil v
    · exact .delimited (reads_text (length_lt_of_delimited hlength))
  join_zero := replace_zero ""
  merge_local wire _ := readText_local wire
  joins := joins_of_replace rfl

/-- A run of words, each of them written in any way, with the integers that they are read as. -/
inductive Run (ofWord : Nat → Int) : List Int → List UInt8 → Prop
  | nil : Run ofWord [] []
  | cons {word : Nat} {ns : List Int} {bytes more : List UInt8} (h : Varint.Writes word bytes)
      (hmore : Run ofWord ns more) : Run ofWord (ofWord word :: ns) (bytes ++ more)

/-- The integers of a run are added to the list one after the other. -/
theorem Run.steps {ns : List Int} {bytes : List UInt8} (h : Run ofWord ns bytes) (old : List Int) :
    Steps (fun ns => return ns ++ [ofWord (← Reader.varint)]) old bytes (old ++ ns) := by
  induction h generalizing old with
  | nil =>
    rw [List.append_nil]
    exact .nil old
  | @cons word ns bytes more hword _ ih =>
    have hread : Reads (do return old ++ [ofWord (← Reader.varint)]) bytes (old ++ [ofWord word]) :=
      (Reads.written hword).map (.pure _)
    have hmore := ih (old ++ [ofWord word])
    rw [List.append_assoc, List.singleton_append] at hmore
    exact .cons hword.spells.ne_nil hread hmore

/-- What is written for a list is a run. -/
theorem run_words (hword : ∀ n, fits n = true → ofWord (Varint.word64 n) = n) {ns : List Int}
    (h : ∀ n ∈ ns, fits n = true) :
    Run ofWord ns (ns.flatMap fun n => Varint.encode (Varint.word64 n)) := by
  induction ns with
  | nil => exact .nil
  | cons n ns ih =>
    obtain ⟨hfits, h⟩ := List.forall_mem_cons.1 h
    have hrun := Run.cons (Varint.writes_encode (Varint.word64_lt n)) (ih h)
    rwa [hword n hfits] at hrun

theorem packed_faithful (hword : ∀ n, fits n = true → ofWord (Varint.word64 n) = n) (depth : Nat) :
    (packed fits ofWord).Faithful depth where
  merges number v other hfits hlength := by
    show Merges _ _ _ _ (if other = [] then [] else _) (v ++ other)
    change (if other = [] then [] else delimited number _).length < _ at hlength
    split_ifs at hlength ⊢ with hempty
    · rw [hempty, List.append_nil]
      exact .nil v
    · have hsteps := (run_words hword (List.all_eq_true.1 hfits)).steps v
      exact .delimited (hsteps.reads_delimited (.varint (length_lt_of_delimited hlength)))
  join_zero _ := rfl
  merge_local wire v := by
    show (if wire = .delimited then _ else _ : Reader (List Int)).Local
    split_ifs
    · exact (Reader.Takes.delimited (fun _ => Reader.Takes.varint.bind fun _ => .pure _) v).local
    · exact (readWord_local ofWord wire).bind fun _ => .pure _
  joins := .list fun _ _ => rfl

@[simp] theorem int64s_faithful (depth : Nat) : int64s.Faithful depth :=
  packed_faithful (fun _ => Varint.signed64_word64) depth

@[simp] theorem int32s_faithful (depth : Nat) : int32s.Faithful depth :=
  packed_faithful (fun _ => Varint.signed32_word64) depth

/-- Payloads that are each added to a list, as one element. -/
theorem merges_each {γ : Type} {form : WireForm (List γ)} {depth number : Nat}
    {bytes : γ → List UInt8} {vs : List γ}
    (hread : ∀ v ∈ vs, ∀ old, (bytes v).length < 2 ^ 64 →
      Reads (form.merge depth .delimited old)
        (Varint.encode (bytes v).length ++ bytes v) (old ++ [v]))
    (hlength : (vs.flatMap fun v => delimited number (bytes v)).length < 2 ^ 64) (old : List γ) :
    form.Merges depth number old (vs.flatMap fun v => delimited number (bytes v)) (old ++ vs) := by
  induction vs generalizing old with
  | nil =>
    rw [List.append_nil]
    exact .nil old
  | cons v vs ih =>
    rw [List.flatMap_cons, List.length_append] at hlength
    obtain ⟨hfirst, hread⟩ := List.forall_mem_cons.1 hread
    have hv : (delimited number (bytes v)).length < 2 ^ 64 := by omega
    have hmore := ih hread (by omega) (old ++ [v])
    rw [List.append_assoc, List.singleton_append] at hmore
    rw [List.flatMap_cons, delimited, List.append_assoc (key number .delimited)]
    exact .cons (hfirst old (length_lt_of_delimited hv)) hmore

@[simp] theorem texts_faithful (depth : Nat) : texts.Faithful depth where
  merges number v other _ hlength := by
    refine merges_each (fun s _ old hs => ?_) hlength v
    exact (reads_text hs).map (.pure _)
  join_zero _ := rfl
  merge_local wire _ := (readText_local wire).bind fun _ => .pure _
  joins := .list fun _ _ => rfl

end CaseDesk.WireForm
