/-
  Statuses: the codes and messages that a failed call is answered with.
-/
namespace CaseDesk

/-- The codes of failed calls that the desk answers. -/
inductive Code where
  | invalidArgument
  | notFound
  | alreadyExists
  | permissionDenied
  | failedPrecondition
  | aborted
  | unimplemented
  | internal
  | unauthenticated
  deriving DecidableEq, Repr

/-- The number of a code. -/
def Code.number : Code → Nat
  | invalidArgument => 3
  | notFound => 5
  | alreadyExists => 6
  | permissionDenied => 7
  | failedPrecondition => 9
  | aborted => 10
  | unimplemented => 12
  | internal => 13
  | unauthenticated => 16

/-- What a failed call is answered with. -/
structure Status where
  code : Code
  message : String
  deriving DecidableEq, Repr

end CaseDesk
