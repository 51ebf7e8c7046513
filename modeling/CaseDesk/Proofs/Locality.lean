/-
  Readers that depend on nothing but the bytes they take.

  * `Varint.Writes`: the bytes that may stand for a number, seven bits a byte.
    A number is read from these and from no others (`Varint.read?_eq_some_iff`).
  * `Reader.Local`: where a reader succeeds, it takes the bytes that it takes
    whatever follows them, and gives the same result; `Reader.Takes` if it takes
    one at least.  `Local.bind`, `Takes.bind` and `Local.delimited` put readers
    together.
  * `Local.skipField`: passing over a payload is local, groups included.
  * `Steps.of_stepsTo`, `Steps.stepsTo_append`: steps that were taken are taken
    again whatever follows, and what follows is read from where they left off.
-/
import CaseDesk.Proofs.Readings

namespace CaseDesk

namespace Varint

/-- Spells out a number, seven bits a byte, the low bits first; high bits that are zero may be
    spelled out as well. -/
inductive Spells : Nat → List UInt8 → Prop
  | last {b : UInt8} (h : b.toNat < 128) : Spells b.toNat [b]
  | more {b : UInt8} {n : Nat} {bytes : List UInt8} (h : 128 ≤ b.toNat) (hmore : Spells n bytes) :
      Spells (b.toNat - 128 + 128 * n) (b :: bytes)

/-- Bytes that may stand for a number: ten at most, and the number is below 2^64. -/
structure Writes (n : Nat) (bytes : List UInt8) : Prop where
  spells : Spells n bytes
  short : bytes.length ≤ 10
  small : n < 2 ^ 64

theorem Spells.ne_nil {n : Nat} {bytes : List UInt8} (h : Spells n bytes) : bytes ≠ [] := by
  cases h <;> exact List.cons_ne_nil _ _

theorem readUpTo?_of_spells {n : Nat} {bytes : List UInt8} (h : Spells n bytes) {count : Nat}
    (hshort : bytes.length ≤ count + 1) (hsmall : n < 2 * 128 ^ count) (rest : List UInt8) :
    readUpTo? (count + 1) (bytes ++ rest) = some (n, rest) := by
  induction h generalizing count with
  | @last b hb =>
    have hlast : ¬(count = 0 ∧ 2 ≤ b.toNat) := by
      rintro ⟨rfl, htwo⟩
      omega
    rw [List.singleton_append, readUpTo?, if_pos hb, if_neg hlast]
  | @more b n bytes hb hmore ih =>
    have hlength := List.length_pos_iff.2 hmore.ne_nil
    rw [List.length_cons] at hshort
    obtain ⟨count, rfl⟩ : ∃ k, count = k + 1 := ⟨count - 1, by omega⟩
    have hhigh : n < 2 * 128 ^ count := by
      rw [Nat.pow_succ] at hsmall
      omega
    rw [List.cons_append, readUpTo?, if_neg (by omega), ih (by omega) hhigh]
    rfl

theorem spells_of_readUpTo? {count n : Nat} {left more : List UInt8}
    (h : readUpTo? (count + 1) left = some (n, more)) :
    ∃ bytes, left = bytes ++ more ∧ Spells n bytes ∧ bytes.length ≤ count + 1 ∧
      n < 2 * 128 ^ count := by
  induction count generalizing left n with
  | zero =>
    rcases left with _ | ⟨b, left⟩
    · cases h
    · rw [readUpTo?] at h
      split_ifs at h with hb hlast
      · cases h
        exact ⟨[b], rfl, .last hb, Nat.le_refl _, by omega⟩
      · cases h
  | succ count ih =>
    rcases left with _ | ⟨b, left⟩
    · cases h
    · rw [readUpTo?] at h
      have hbyte := b.toNat_lt
      have hpow : 0 < 128 ^ count := Nat.pow_pos (by decide)
      rw [Nat.pow_succ]
      split_ifs at h with hb
      · cases h
        exact ⟨[b], rfl, .last hb, by simp, by omega⟩
      · obtain ⟨⟨high, _⟩, hread, he⟩ := Option.map_eq_some_iff.1 h
        cases he
        obtain ⟨bytes, rfl, hspells, hshort, hsmall⟩ := ih hread
        refine ⟨b :: bytes, rfl, .more (by omega) hspells, ?_, by omega⟩
        exact Nat.succ_le_succ hshort

/-- A number is read from the bytes that may stand for it. -/
theorem read?_eq_some_iff {n : Nat} {left more : List UInt8} :
    read? left = some (n, more) ↔ ∃ bytes, left = bytes ++ more ∧ Writes n bytes := by
  constructor
  · intro h
    obtain ⟨bytes, hleft, hspells, hshort, hsmall⟩ := spells_of_readUpTo? h
    exact ⟨bytes, hleft, hspells, hshort, hsmall⟩
  · rintro ⟨bytes, rfl, h⟩
    exact readUpTo?_of_spells h.spells h.short h.small more

theorem writes_encode {n : Nat} (h : n < 2 ^ 64) : Writes n (encode n) := by
  obtain ⟨bytes, hbytes, hwrites⟩ := read?_eq_some_iff.1 (read?_encode h [])
  rw [List.append_nil, List.append_nil] at hbytes
  rwa [hbytes]

end Varint

/-- A number is read from any bytes that may stand for it. -/
theorem Reads.written {n : Nat} {bytes : List UInt8} (h : Varint.Writes n bytes) :
    Reads Reader.varint bytes n := by
  intro rest
  rw [Reader.varint, Varint.read?_eq_some_iff.2 ⟨bytes, rfl, h⟩]

variable {α β σ : Type}

/-! ## Local readers -/

namespace Reader

theorem bind_eq_ok {r : Reader α} {f : α → Reader β} {left more : List UInt8} {b : β}
    (h : (r >>= f) left = .ok (b, more)) :
    ∃ a between, r left = .ok (a, between) ∧ f a between = .ok (b, more) := by
  change (r left >>= fun p => f p.1 p.2) = _ at h
  rcases hr : r left with e | ⟨a, between⟩
  · rw [hr] at h
    cases h
  · rw [hr] at h
    exact ⟨a, between, rfl, h⟩

/-- A reader that depends on nothing but the bytes it takes. -/
def Local (r : Reader α) : Prop :=
  ∀ ⦃left more : List UInt8⦄ ⦃a : α⦄, r left = .ok (a, more) →
    ∃ bytes, left = bytes ++ more ∧ Reads r bytes a

/-- A local reader that takes one byte at least. -/
def Takes (r : Reader α) : Prop :=
  ∀ ⦃left more : List UInt8⦄ ⦃a : α⦄, r left = .ok (a, more) →
    ∃ bytes, bytes ≠ [] ∧ left = bytes ++ more ∧ Reads r bytes a

theorem Takes.local {r : Reader α} (h : r.Takes) : r.Local := by
  intro left more a hr
  obtain ⟨bytes, -, hbytes⟩ := h hr
  exact ⟨bytes, hbytes⟩

theorem Takes.bind {r : Reader α} {f : α → Reader β} (h : r.Takes) (hf : ∀ a, (f a).Local) :
    (r >>= f).Takes := by
  intro left more b hbind
  obtain ⟨a, between, hr, hfa⟩ := bind_eq_ok hbind
  obtain ⟨bytes, hne, rfl, hreads⟩ := h hr
  obtain ⟨next, rfl, hnext⟩ := hf a hfa
  refine ⟨bytes ++ next, List.append_ne_nil_of_left_ne_nil hne _, ?_, hreads.bind hnext⟩
  exact (List.append_assoc ..).symm

namespace Local

theorem pure (a : α) : (Pure.pure a : Reader α).Local := by
  rintro left more b h
  cases h
  exact ⟨[], rfl, Reads.pure a⟩

theorem fail (cause : DecodeCause) : (Reader.fail cause : Reader α).Local := nofun

theorem bind {r : Reader α} {f : α → Reader β} (h : r.Local) (hf : ∀ a, (f a).Local) :
    (r >>= f).Local := by
  intro left more b hbind
  obtain ⟨a, between, hr, hfa⟩ := bind_eq_ok hbind
  obtain ⟨bytes, rfl, hreads⟩ := h hr
  obtain ⟨next, rfl, hnext⟩ := hf a hfa
  exact ⟨bytes ++ next, (List.append_assoc ..).symm, hreads.bind hnext⟩

theorem inside {r : Reader α} (h : r.Local) (message field : String) :
    (r.inside message field).Local := by
  intro left more a hr
  unfold Reader.inside at hr
  split at hr
  · cases hr
    rename_i hr
    obtain ⟨bytes, hbytes, hreads⟩ := h hr
    exact ⟨bytes, hbytes, hreads.inside message field⟩
  · cases hr

theorem bytes (count : Nat) : (Reader.bytes count).Local := by
  intro left more a h
  unfold Reader.bytes at h
  split at h
  · cases h
  · next hcount =>
    cases h
    have htake : (left.take count).length = count := by
      rw [List.length_take]
      omega
    exact ⟨left.take count, (List.take_append_drop ..).symm, Reads.bytes htake⟩

theorem expect (expected found : WireType) : (Reader.expect expected found).Local := by
  unfold Reader.expect
  split
  · exact pure ()
  · exact fail _

end Local

theorem Takes.varint : Reader.varint.Takes := by
  intro left more n h
  unfold Reader.varint at h
  split at h
  · next hread =>
    cases h
    obtain ⟨bytes, hbytes, hwrites⟩ := Varint.read?_eq_some_iff.1 hread
    exact ⟨bytes, hwrites.spells.ne_nil, hbytes, .written hwrites⟩
  · cases h

theorem Takes.key : Reader.key.Takes := by
  refine Takes.varint.bind fun key => ?_
  split
  · exact .fail _
  · cases WireType.ofNumber? (key % 8) with
    | none => exact .fail _
    | some wire =>
      simp only
      split
      · exact .fail _
      · exact .pure _

end Reader

/-! ## Steps -/

namespace Steps

variable {step : σ → Reader σ} {s s₁ : σ}

/-- Steps that were taken are taken whatever follows; they stop where no more than the limit is
    left, or when there were enough of them. -/
theorem of_steps (hstep : ∀ s, (step s).Takes) {limit fuel : Nat} {left more : List UInt8}
    (h : Reader.steps step limit fuel s left = .ok (s₁, more)) :
    ∃ bytes, left = bytes ++ more ∧ Steps step s bytes s₁ ∧
      (more.length ≤ limit ∨ fuel ≤ bytes.length) := by
  induction fuel generalizing s left with
  | zero =>
    cases h
    exact ⟨[], rfl, .nil _, .inr (Nat.le_refl 0)⟩
  | succ fuel ih =>
    rw [steps_succ] at h
    split_ifs at h with hlimit
    · rcases hone : step s left with e | ⟨s', between⟩
      · rw [hone] at h
        cases h
      · rw [hone] at h
        obtain ⟨bytes, hne, rfl, hreads⟩ := hstep s hone
        obtain ⟨next, rfl, hnext, hend⟩ := ih h
        have hlength := List.length_pos_iff.2 hne
        refine ⟨bytes ++ next, (List.append_assoc ..).symm, .cons hne hreads hnext, ?_⟩
        refine hend.imp_right fun hfuel => ?_
        rw [List.length_append]
        omega
    · cases h
      exact ⟨[], rfl, .nil _, .inl (Nat.le_of_not_lt hlimit)⟩

theorem of_stepsTo (hstep : ∀ s, (step s).Takes) {limit : Nat} {left more : List UInt8}
    (h : Reader.stepsTo step limit s left = .ok (s₁, more)) :
    ∃ bytes, left = bytes ++ more ∧ Steps step s bytes s₁ ∧ more.length ≤ limit := by
  obtain ⟨bytes, rfl, hsteps, hend⟩ := of_steps hstep h
  refine ⟨bytes, rfl, hsteps, hend.elim id fun hfuel => ?_⟩
  rw [List.length_append] at hfuel
  omega

/-- As many steps as there are bytes are enough. -/
theorem steps_of_length_le (hstep : ∀ s, (step s).Takes) (limit : Nat) {fuel fuel' : Nat}
    {left : List UInt8} (hfuel : left.length ≤ fuel) (hfuel' : left.length ≤ fuel') :
    Reader.steps step limit fuel s left = Reader.steps step limit fuel' s left := by
  induction fuel generalizing fuel' s left with
  | zero =>
    cases fuel' with
    | zero => rfl
    | succ fuel' => rw [steps_succ, if_neg (by omega)]; rfl
  | succ fuel ih =>
    cases fuel' with
    | zero => rw [steps_succ, if_neg (by omega)]; rfl
    | succ fuel' =>
      rw [steps_succ, steps_succ]
      split_ifs
      · rcases hone : step s left with e | ⟨s', between⟩
        · rfl
        · obtain ⟨bytes, hne, rfl, -⟩ := hstep s hone
          have hlength := List.length_pos_iff.2 hne
          rw [List.length_append] at hfuel hfuel'
          exact ih (by omega) (by omega)
      · rfl

/-- What follows the bytes of steps is read from where they left off. -/
theorem stepsTo_append (hstep : ∀ s, (step s).Takes) {bytes : List UInt8}
    (h : Steps step s bytes s₁) (rest : List UInt8) :
    Reader.stepsTo step 0 s (bytes ++ rest) = Reader.stepsTo step 0 s₁ rest := by
  induction h with
  | nil s => rfl
  | @cons s s₁ s₂ bytes more hne hfirst _ ih =>
    have hlength := List.length_pos_iff.2 hne
    rw [List.append_assoc, ← ih, Reader.stepsTo, Reader.stepsTo]
    obtain ⟨fuel, hfuel⟩ : ∃ n, (bytes ++ (more ++ rest)).length = n + 1 :=
      ⟨(bytes ++ (more ++ rest)).length - 1, by rw [List.length_append]; omega⟩
    rw [hfuel, steps_succ, hfuel, if_pos (Nat.succ_pos fuel), hfirst (more ++ rest)]
    refine steps_of_length_le hstep 0 ?_ (Nat.le_refl _)
    rw [List.length_append] at hfuel
    omega

end Steps

namespace Reader

/-- Steps that take as many bytes as a length in front announces. -/
theorem Takes.delimited {step : σ → Reader σ} (hstep : ∀ s, (step s).Takes) (s : σ) :
    (Reader.delimited step s).Takes := by
  intro left more s₁ h
  obtain ⟨length, between, hlength, hpayload⟩ := bind_eq_ok h
  obtain ⟨bytes, hne, rfl, hreads⟩ := Takes.varint hlength
  rw [bind_of_eq_ok (get_eq _)] at hpayload
  split_ifs at hpayload with henough
  · cases hpayload
  · obtain ⟨s₂, between, hsteps, hlast⟩ := bind_eq_ok hpayload
    rw [bind_of_eq_ok (get_eq _)] at hlast
    split_ifs at hlast with hend
    · cases hlast
      obtain ⟨payload, rfl, hsteps, -⟩ := Steps.of_stepsTo hstep hsteps
      have hpayload : payload.length = length := by
        rw [List.length_append] at hend henough
        omega
      refine ⟨bytes ++ payload, List.append_ne_nil_of_left_ne_nil hne _, ?_, ?_⟩
      · exact (List.append_assoc ..).symm
      · exact hsteps.reads_delimited (hpayload ▸ hreads)
    · cases hlast

/-- Passing over a group: however many fields it has, there are no more than bytes. -/
theorem takes_skipGroup {skip : WireType → Nat → Reader Unit}
    (hskip : ∀ wire number, (skip wire number).Local) {number fuel : Nat}
    {left more : List UInt8} (h : skipGroup skip number fuel left = .ok ((), more)) :
    ∃ bytes, bytes ≠ [] ∧ left = bytes ++ more ∧ ∀ fuel', bytes.length ≤ fuel' →
      Reads (skipGroup skip number fuel') bytes () := by
  induction fuel generalizing left with
  | zero => cases h
  | succ fuel ih =>
    obtain ⟨⟨inner, wire⟩, between, hkey, hfield⟩ := bind_eq_ok h
    obtain ⟨bytes, hne, rfl, hreads⟩ := Takes.key hkey
    have hlength := List.length_pos_iff.2 hne
    simp only at hfield
    split_ifs at hfield with hgroup hnumber
    · cases hfield
      refine ⟨bytes, hne, rfl, fun fuel' hfuel => ?_⟩
      obtain ⟨fuel', rfl⟩ : ∃ n, fuel' = n + 1 := ⟨fuel' - 1, by omega⟩
      refine hreads.map ?_
      simp only [if_pos hgroup, if_pos hnumber]
      exact .pure ()
    · cases hfield
    · obtain ⟨_, between, hinner, hmore⟩ := bind_eq_ok hfield
      obtain ⟨payload, rfl, hpayload⟩ := hskip wire inner hinner
      obtain ⟨next, -, rfl, hnext⟩ := ih hmore
      refine ⟨bytes ++ (payload ++ next), List.append_ne_nil_of_left_ne_nil hne _, ?_,
        fun fuel' hfuel => ?_⟩
      · rw [List.append_assoc, List.append_assoc]
      · rw [List.length_append, List.length_append] at hfuel
        obtain ⟨fuel', rfl⟩ : ∃ n, fuel' = n + 1 := ⟨fuel' - 1, by omega⟩
        refine hreads.bind ?_
        simp only [if_neg hgroup]
        exact hpayload.bind (hnext fuel' (by omega))

/-- Passing over a payload. -/
theorem Local.skipField (depth : Nat) (wire : WireType) (number : Nat) :
    (Reader.skipField depth wire number).Local := by
  induction depth generalizing wire number with
  | zero => exact fail _
  | succ depth ih =>
    cases wire with
    | varint => exact Takes.varint.local.bind fun _ => pure ()
    | fixed32 => exact (bytes 4).bind fun _ => pure ()
    | fixed64 => exact (bytes 8).bind fun _ => pure ()
    | delimited => exact Takes.varint.local.bind fun _ => (bytes _).bind fun _ => pure ()
    | groupEnd => exact fail _
    | groupStart =>
      intro left more _ h
      obtain ⟨bytes, -, rfl, hreads⟩ := takes_skipGroup (fun wire number => ih wire number) h
      refine ⟨bytes, rfl, fun rest => hreads _ ?_ rest⟩
      rw [List.length_append]
      omega

end Reader

end CaseDesk
