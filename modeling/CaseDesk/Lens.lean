/-
  Lenses: a part of a structure that can be read and replaced.

  * `Lens`: reading and replacing, with the three laws that tie them.
  * `Lens.comp`: a part of a part.
-/
namespace CaseDesk

/-- A part of type `β` of a structure of type `α`. -/
structure Lens (α β : Type) where
  get : α → β
  set : β → α → α
  get_set : ∀ b a, get (set b a) = b := by intros; rfl
  set_get : ∀ a, set (get a) a = a := by intros; rfl
  set_set : ∀ b c a, set b (set c a) = set b a := by intros; rfl

namespace Lens

variable {α β γ : Type}

/-- The whole structure. -/
def whole : Lens α α where
  get a := a
  set b _ := b

/-- A part of a part. -/
def comp (outer : Lens α β) (inner : Lens β γ) : Lens α γ where
  get a := inner.get (outer.get a)
  set c a := outer.set (inner.set c (outer.get a)) a
  get_set c a := by simp [outer.get_set, inner.get_set]
  set_get a := by simp [outer.set_get, inner.set_get]
  set_set b c a := by simp [outer.get_set, outer.set_set, inner.set_set]

/-- Changes the part by a function. -/
def modify (l : Lens α β) (f : β → β) (a : α) : α := l.set (f (l.get a)) a

end Lens

end CaseDesk
