/-
  Readers and the bytes they take.

  * `Varint.read?_encode`: numbers below 2^64 are read back from their bytes;
    `signed64_word64` and `signed32_word64` do the same for integers and words.
  * `Reads`: a reader takes exactly these bytes, whatever follows them, and gives
    this result.
  * `Steps`: bytes that steps take one after the other; `Steps.reads_delimited`
    takes all of them at once, with their length in front.
-/
import CaseDesk.Wire.Reader
import Mathlib.Algebra.Group.Nat.Defs
import Mathlib.Tactic.SplitIfs

namespace CaseDesk

namespace Varint

theorem encode_ne_nil (n : Nat) : encode n ≠ [] := by
  rw [encode]
  split_ifs <;> exact List.cons_ne_nil _ _

/-- A number is read back by as many bytes as it can take; the last of them has one bit. -/
theorem readUpTo?_encode {count n : Nat} (h : n < 2 * 128 ^ count) (rest : List UInt8) :
    readUpTo? (count + 1) (encode n ++ rest) = some (n, rest) := by
  induction count generalizing n with
  | zero =>
    have hbyte : (UInt8.ofNat n).toNat = n := by
      rw [UInt8.toNat_ofNat']
      omega
    rw [encode, if_pos (by omega), List.singleton_append, readUpTo?, hbyte, if_pos (by omega),
      if_neg (by omega)]
  | succ count ih =>
    rw [encode]
    split_ifs with hsmall
    · have hbyte : (UInt8.ofNat n).toNat = n := by
        rw [UInt8.toNat_ofNat']
        omega
      rw [List.singleton_append, readUpTo?, hbyte, if_pos hsmall, if_neg (by omega)]
    · have hbyte : (UInt8.ofNat (n % 128 + 128)).toNat = n % 128 + 128 := by
        rw [UInt8.toNat_ofNat']
        omega
      have hhigh : n / 128 < 2 * 128 ^ count := by
        rw [Nat.div_lt_iff_lt_mul (by decide), Nat.mul_assoc, ← Nat.pow_succ]
        exact h
      have hsum : n % 128 + 128 - 128 + 128 * (n / 128) = n := by omega
      rw [List.cons_append, readUpTo?, hbyte, if_neg (by omega), ih hhigh, Option.map_some]
      exact congrArg (fun n => some (n, rest)) hsum

theorem read?_encode {n : Nat} (h : n < 2 ^ 64) (rest : List UInt8) :
    read? (encode n ++ rest) = some (n, rest) :=
  readUpTo?_encode h rest

theorem word64_lt (n : Int) : word64 n < 2 ^ 64 := by
  rw [word64]
  omega

theorem coe_word64 (n : Int) : (word64 n : Int) = n % 18446744073709551616 :=
  Int.toNat_of_nonneg (Int.emod_nonneg n (by decide))

/-- The integers of a word of `size` bits are told apart by their remainders. -/
theorem bmod_word64 {size : Nat} (hsize : (size : Int) ∣ 18446744073709551616) {n : Int}
    (hlow : -(size / 2 : Int) ≤ n) (hhigh : n < (size + 1 : Int) / 2) :
    Int.bmod (word64 n) size = n :=
  calc Int.bmod (word64 n) size
    _ = Int.bmod (n % 18446744073709551616 % size) size := by rw [coe_word64, Int.emod_bmod]
    _ = Int.bmod n size := by rw [Int.emod_emod_of_dvd n hsize, Int.emod_bmod]
    _ = n := Int.bmod_eq_of_le hlow hhigh

theorem signed64_word64 {n : Int} (h : Text.fitsInt64 n = true) : signed64 (word64 n) = n := by
  have hrange : -9223372036854775808 ≤ n ∧ n ≤ 9223372036854775807 := by
    simpa [Text.fitsInt64] using h
  exact bmod_word64 (by decide) (by omega) (by omega)

theorem signed32_word64 {n : Int} (h : Text.fitsInt32 n = true) : signed32 (word64 n) = n := by
  have hrange : -2147483648 ≤ n ∧ n ≤ 2147483647 := by simpa [Text.fitsInt32] using h
  exact bmod_word64 (by decide) (by omega) (by omega)

end Varint

variable {α β σ : Type}

/-- A reader goes on with what another one left. -/
theorem Reader.bind_of_eq_ok {r : Reader α} {f : α → Reader β} {left more : List UInt8} {a : α}
    (h : r left = .ok (a, more)) : (r >>= f) left = f a more := by
  show (r left >>= fun p => f p.1 p.2) = f a more
  rw [h]
  rfl

theorem Reader.get_eq (left : List UInt8) : (get : Reader (List UInt8)) left = .ok (left, left) :=
  rfl

/-- A reader takes exactly these bytes, whatever follows them, and gives this result. -/
def Reads (r : Reader α) (bytes : List UInt8) (a : α) : Prop :=
  ∀ rest, r (bytes ++ rest) = .ok (a, rest)

namespace Reads

theorem pure (a : α) : Reads (Pure.pure a) [] a := fun _ => rfl

theorem bind {r : Reader α} {f : α → Reader β} {bytes more : List UInt8} {a : α} {b : β}
    (h : Reads r bytes a) (hnext : Reads (f a) more b) : Reads (r >>= f) (bytes ++ more) b := by
  intro rest
  rw [List.append_assoc, Reader.bind_of_eq_ok (h (more ++ rest))]
  exact hnext rest

/-- What follows a reader need not take anything. -/
theorem map {r : Reader α} {f : α → Reader β} {bytes : List UInt8} {a : α} {b : β}
    (h : Reads r bytes a) (hnext : Reads (f a) [] b) : Reads (r >>= f) bytes b := by
  have hbind := h.bind hnext
  rwa [List.append_nil] at hbind

/-- What precedes a reader need not take anything. -/
theorem after {r : Reader α} {f : α → Reader β} {bytes : List UInt8} {a : α} {b : β}
    (h : Reads r [] a) (hnext : Reads (f a) bytes b) : Reads (r >>= f) bytes b :=
  h.bind hnext

theorem inside {r : Reader α} {bytes : List UInt8} {a : α} (h : Reads r bytes a)
    (message field : String) : Reads (r.inside message field) bytes a := by
  intro rest
  rw [Reader.inside, h rest]

theorem varint {n : Nat} (h : n < 2 ^ 64) : Reads Reader.varint (Varint.encode n) n := by
  intro rest
  rw [Reader.varint, Varint.read?_encode h]

theorem bytes {payload : List UInt8} {count : Nat} (h : payload.length = count) :
    Reads (Reader.bytes count) payload payload := by
  subst h
  intro rest
  rw [Reader.bytes, if_neg (by simp), List.take_left, List.drop_left]

theorem expect (wire : WireType) : Reads (Reader.expect wire wire) [] () := by
  rw [Reader.expect, if_pos rfl]
  exact pure ()

/-- The key of a field whose number is not zero and has at most 29 bits, read as a number first. -/
theorem key {number : Nat} (hpos : 0 < number) (hsmall : number < 536870912) {wire : WireType}
    {bytes : List UInt8} (h : Reads Reader.varint bytes (8 * number + wire.number)) :
    Reads Reader.key bytes (number, wire) := by
  have hwire : wire.number < 8 := by cases wire <;> decide
  refine map h ?_
  have hnumber : (8 * number + wire.number) / 8 = number := by omega
  have hkind : (8 * number + wire.number) % 8 = wire.number := by omega
  rw [if_neg (by omega), hkind, WireType.ofNumber?_number, hnumber]
  simp only
  rw [if_neg (by omega)]
  exact pure (number, wire)

end Reads

/-- Bytes that steps take one after the other, each of them at least one. -/
inductive Steps (step : σ → Reader σ) : σ → List UInt8 → σ → Prop
  | nil (s : σ) : Steps step s [] s
  | cons {s s₁ s₂ : σ} {bytes more : List UInt8} (hne : bytes ≠ []) (h : Reads (step s) bytes s₁)
      (hmore : Steps step s₁ more s₂) : Steps step s (bytes ++ more) s₂

namespace Steps

variable {step : σ → Reader σ} {s s₁ s₂ : σ} {bytes more payload : List UInt8}

theorem single (hne : bytes ≠ []) (h : Reads (step s) bytes s₁) : Steps step s bytes s₁ := by
  have hone := Steps.cons hne h (.nil s₁)
  rwa [List.append_nil] at hone

theorem append (h : Steps step s bytes s₁) (hmore : Steps step s₁ more s₂) :
    Steps step s (bytes ++ more) s₂ := by
  induction h with
  | nil => exact hmore
  | cons hne hfirst _ ih =>
    rw [List.append_assoc]
    exact .cons hne hfirst (ih hmore)

theorem steps_succ (limit fuel : Nat) (left : List UInt8) :
    Reader.steps step limit (fuel + 1) s left =
      if limit < left.length then
        match step s left with
        | .ok (s, left) => Reader.steps step limit fuel s left
        | .error e => .error e
      else .ok (s, left) := rfl

/-- Steps stop where their bytes end, if nothing else sets them an end before. -/
theorem steps_eq (h : Steps step s bytes s₁) (rest : List UInt8) {fuel : Nat}
    (hfuel : bytes.length ≤ fuel) :
    Reader.steps step rest.length fuel s (bytes ++ rest) = .ok (s₁, rest) := by
  induction h generalizing fuel with
  | nil s =>
    cases fuel with
    | zero => rfl
    | succ fuel => rw [List.nil_append, steps_succ, if_neg (Nat.lt_irrefl _)]
  | @cons s s₁ s₂ bytes more hne hfirst _ ih =>
    have hlength := List.length_pos_iff.2 hne
    rw [List.length_append] at hfuel
    obtain ⟨fuel, rfl⟩ : ∃ n, fuel = n + 1 := ⟨fuel - 1, by omega⟩
    have hlimit : rest.length < (bytes ++ (more ++ rest)).length := by
      rw [List.length_append, List.length_append]
      omega
    rw [List.append_assoc, steps_succ, if_pos hlimit, hfirst (more ++ rest)]
    exact ih (by omega)

theorem stepsTo_eq (h : Steps step s bytes s₁) (rest : List UInt8) :
    Reader.stepsTo step rest.length s (bytes ++ rest) = .ok (s₁, rest) :=
  h.steps_eq rest (by simp)

/-- Steps take exactly the bytes whose length stands in front. -/
theorem reads_delimited (h : Steps step s payload s₁)
    (hlength : Reads Reader.varint bytes payload.length) :
    Reads (Reader.delimited step s) (bytes ++ payload) s₁ := by
  refine hlength.bind fun rest => ?_
  have henough : ¬ (payload ++ rest).length < payload.length := by simp
  have hlimit : (payload ++ rest).length - payload.length = rest.length := by simp
  rw [Reader.bind_of_eq_ok (Reader.get_eq _), if_neg henough, hlimit,
    Reader.bind_of_eq_ok (h.stepsTo_eq rest), Reader.bind_of_eq_ok (Reader.get_eq rest),
    if_pos rfl]
  rfl

end Steps

end CaseDesk
