/-
  Callers and what they may do.

  * `Caller`: the user who calls, with the grants held.
  * `Caller.authorize`: whether a caller may use a method, by the access that
    the registry asks for it on the object class of its service.
  * `authorize`: the same for a call that may carry no caller.
-/
import CaseDesk.Record.Audit
import CaseDesk.Registry.Services
import CaseDesk.ServiceError

namespace CaseDesk

/-- The user who calls, with the grants held. -/
structure Caller where
  user : Lookup
  grants : Grants
  deriving DecidableEq, Repr

namespace Caller

/-- The superuser that stands for unknown callers where those are let in. -/
def anonymous : Caller := ⟨⟨0, "anonymous"⟩, .all⟩

/-- Whether the caller is the user that a reference names. -/
def isUser (caller : Caller) : Option Lookup → Bool
  | some who => who.id == caller.user.id
  | none => false

/-- Lets a caller pass who holds the access that a method needs. -/
def authorize (caller : Caller) (service method : String) : Except ServiceError Unit :=
  match Registry.method? service method with
  | none => .error (.notRegistered service method)
  | some (s, m) =>
    if caller.grants.allows s.objclass m.access then .ok ()
    else .error (.accessDenied m.access s.objclass m.name)

end Caller

/-- Lets a call pass whose caller may use the method. -/
def authorize (caller : Option Caller) (service method : String) : Except ServiceError Caller :=
  match caller with
  | none => .error .callerMissing
  | some caller => do
    caller.authorize service method
    return caller

end CaseDesk
