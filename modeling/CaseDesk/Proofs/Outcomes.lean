/-
  Outcomes of rules.

  A rule answers a value or an error, and rules are chained.

  * `bind_eq_ok`, `bind_eq_error`: a chain succeeds in all its parts and fails
    in one of them.
  * `exists_of_mapM_eq_ok`, `exists_of_mapM_eq_error`: so does a rule for all
    items of a list.
  * `ServiceError.OfRequest`, `ServiceError.AtDoor`: errors over what is asked,
    and errors that keep a caller out.
  * `Impartial`: a rule that fails over what is asked and never over who asks.
    Chains of such rules are such rules, and the requirements on inputs are.
-/
import CaseDesk.Service.Require

namespace CaseDesk

/-! ## Chains -/

section
variable {ε α β : Type}

/-- A chain that succeeds succeeds in both its parts. -/
theorem bind_eq_ok {x : Except ε α} {f : α → Except ε β} {b : β} :
    x >>= f = .ok b ↔ ∃ a, x = .ok a ∧ f a = .ok b := by
  cases x <;> simp [bind, Except.bind]

/-- A chain that fails fails in one of its parts. -/
theorem bind_eq_error {x : Except ε α} {f : α → Except ε β} {e : ε} :
    x >>= f = .error e ↔ x = .error e ∨ ∃ a, x = .ok a ∧ f a = .error e := by
  cases x <;> simp [bind, Except.bind]

/-- A function on values does not hide an error. -/
theorem map_eq_error {f : α → β} {x : Except ε α} {e : ε} :
    f <$> x = .error e ↔ x = .error e := by
  cases x <;> simp [Functor.map, Except.map]

theorem map_eq_ok {f : α → β} {x : Except ε α} {b : β} :
    f <$> x = .ok b ↔ ∃ a, x = .ok a ∧ f a = b := by
  cases x <;> simp [Functor.map, Except.map]

theorem exists_of_isOk {x : Except ε α} (h : x.isOk = true) : ∃ a, x = .ok a := by
  cases x with
  | error e => cases h
  | ok a => exact ⟨a, rfl⟩

/-- A rule for all items of a list that fails does so over one of them. -/
theorem exists_of_mapM_eq_error {f : α → Except ε β} {as : List α} {e : ε}
    (h : as.mapM f = .error e) : ∃ a ∈ as, f a = .error e := by
  induction as with
  | nil => cases h
  | cons a as ih =>
    rw [List.mapM_cons] at h
    rcases bind_eq_error.1 h with h | ⟨_, -, h⟩
    · exact ⟨a, List.mem_cons_self, h⟩
    rcases bind_eq_error.1 h with h | ⟨_, -, h⟩
    · obtain ⟨a', ha', he⟩ := ih h
      exact ⟨a', List.mem_cons_of_mem _ ha', he⟩
    · cases h

/-- A rule for all items of a list that succeeds does so for each of them. -/
theorem exists_of_mapM_eq_ok {f : α → Except ε β} {as : List α} {bs : List β}
    (h : as.mapM f = .ok bs) {a : α} (ha : a ∈ as) : ∃ b ∈ bs, f a = .ok b := by
  induction as generalizing bs with
  | nil => cases ha
  | cons first as ih =>
    rw [List.mapM_cons] at h
    obtain ⟨b, hb, h⟩ := bind_eq_ok.1 h
    obtain ⟨rest, hrest, h⟩ := bind_eq_ok.1 h
    cases h
    rcases List.mem_cons.1 ha with rfl | ha
    · exact ⟨b, List.mem_cons_self, hb⟩
    · obtain ⟨b', hb', he⟩ := ih hrest ha
      exact ⟨b', List.mem_cons_of_mem _ hb', he⟩

/-- Each value that a rule for all items of a list gives is the value of one of them. -/
theorem exists_of_mem_mapM_eq_ok {f : α → Except ε β} {as : List α} {bs : List β}
    (h : as.mapM f = .ok bs) {b : β} (hb : b ∈ bs) : ∃ a ∈ as, f a = .ok b := by
  induction as generalizing bs with
  | nil =>
    cases h
    cases hb
  | cons a as ih =>
    rw [List.mapM_cons] at h
    obtain ⟨first, hfirst, h⟩ := bind_eq_ok.1 h
    obtain ⟨rest, hrest, h⟩ := bind_eq_ok.1 h
    cases h
    rcases List.mem_cons.1 hb with rfl | hb
    · exact ⟨a, List.mem_cons_self, hfirst⟩
    · obtain ⟨a', ha', hb'⟩ := ih hrest hb
      exact ⟨a', List.mem_cons_of_mem _ ha', hb'⟩

end

/-! ## Impartial rules -/

/-- The error is about what is asked, and not about who asks. -/
def ServiceError.OfRequest : ServiceError → Prop
  | notTheAuthor _ | accessDenied .. | callerMissing | headerNotAscii _ | userIdMissing _
  | userIdMalformed _ | grantsMalformed .. | notRegistered .. | worded .. => False
  | _ => True

/-- The error keeps a caller out: it is about who calls or what is granted. -/
def ServiceError.AtDoor : ServiceError → Prop
  | callerMissing | headerNotAscii _ | userIdMissing _ | userIdMalformed _ | grantsMalformed ..
  | accessDenied .. | notRegistered .. => True
  | _ => False

theorem ServiceError.OfRequest.not_atDoor {e : ServiceError} (h : e.OfRequest) : ¬ e.AtDoor := by
  cases e with
  | callerMissing | headerNotAscii | userIdMissing | userIdMalformed | grantsMalformed
  | accessDenied | notRegistered => exact h.elim
  | _ => nofun

theorem ServiceError.OfRequest.not_denied {e : ServiceError} (h : e.OfRequest) :
    e.status.code ≠ .permissionDenied := by
  cases e with
  | store why => cases why <;> nofun
  | notTheAuthor | accessDenied | worded => exact h.elim
  | _ => nofun

/-- The rule does not fail over who asks. -/
def Impartial {α : Type} (x : Except ServiceError α) : Prop := ∀ e, x = .error e → e.OfRequest

namespace Impartial

variable {α β : Type} {x y : Except ServiceError α}

theorem ok (a : α) : Impartial (.ok a) := fun _ h => by cases h

theorem error {e : ServiceError} (h : e.OfRequest) : Impartial (.error e : Except _ α) :=
  fun _ he => by cases he; exact h

theorem bind {f : α → Except ServiceError β} (hx : Impartial x) (hf : ∀ a, Impartial (f a)) :
    Impartial (x >>= f) := by
  intro e he
  rcases bind_eq_error.1 he with he | ⟨a, -, he⟩
  · exact hx e he
  · exact hf a e he

theorem map {f : α → β} (hx : Impartial x) : Impartial (f <$> x) :=
  fun e he => hx e (map_eq_error.1 he)

theorem ite {p : Prop} [Decidable p] (hx : Impartial x) (hy : Impartial y) :
    Impartial (if p then x else y) := by
  split
  · exact hx
  · exact hy

theorem mapM {f : β → Except ServiceError α} (hf : ∀ b, Impartial (f b)) (bs : List β) :
    Impartial (bs.mapM f) := by
  intro e he
  obtain ⟨b, -, hb⟩ := exists_of_mapM_eq_error he
  exact hf b e hb

end Impartial

/-! ## Requirements are impartial -/

namespace Require

theorem impartial_input {α : Type} (a : Option α) : Impartial (input a) := by
  cases a with
  | none => exact .error trivial
  | some a => exact .ok a

theorem impartial_text (field value : String) : Impartial (text field value) :=
  .ite (.error trivial) (.ok _)

theorem impartial_id (field : String) (n : Int) : Impartial (id field n) :=
  .ite (.ok _) (.error trivial)

theorem impartial_duration (field : String) (millis : Int) : Impartial (duration field millis) :=
  .ite (.ok _) (.error trivial)

theorem impartial_tag (kind : EtagKind) (raw : String) : Impartial (tag kind raw) := by
  unfold tag
  split
  · exact .ok _
  · exact .error trivial

theorem impartial_masked {α : Type} (mask : FieldMask) (field : String)
    {new : Except ServiceError α} (h : Impartial new) (old : α) :
    Impartial (masked mask field new old) := .ite h (.ok old)

end Require

end CaseDesk
