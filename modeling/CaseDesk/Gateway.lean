/-
  The gateway: calls as paths, headers and bytes.

  A call of a known service is answered in four steps, each of which can end
  it: the caller is identified, the request is decoded, the caller's access is
  checked, the request is served.  Any other path is not implemented; a method
  that a known service lacks is found out only after the caller is known.

  * `Gateway.respond`: the answer to a call, and the tables after it.
  * `Gateway.health`: whether a service is up.
  * `Gateway.listed`: the services that the gateway tells of.
-/
import CaseDesk.Access.Authenticator
import CaseDesk.Service.Call

namespace CaseDesk

/-- How calls are let in and how long pages are. -/
structure Gateway where
  auth : Authenticator := {}
  limits : PageLimits := .standard

namespace Gateway

/-- The answer to a path that leads nowhere. -/
def unimplemented : Status := ⟨.unimplemented, ""⟩

/-- The full name of the service and the name of the method in a path, neither of them empty. -/
def splitPath (path : String) : Option (String × String) :=
  match path.toList with
  | '/' :: rest =>
    match Text.cutOnce '/' rest with
    | some (service, method) =>
      if method.isEmpty then none else some (String.ofList service, String.ofList method)
    | none => none
  | _ => none

/-- The request that bytes hold for a method. -/
def decode (s : ServiceName) (op : Operation) (body : List UInt8) : Except DecodeError Call :=
  Call.read (fun schema => schema.decode body) op s

/-- The bytes of an answer. -/
def encode (a : Answer) : List UInt8 := a.write fun schema message => schema.encode message

/-- The answer to a call of a service that is known. -/
def respondTo (g : Gateway) (s : ServiceName) (method : String) (now : Int) (headers : Headers)
    (body : List UInt8) (tables : Tables) : Except Status (List UInt8) × Tables :=
  match g.auth.identify headers with
  | .error e => (.error e.status, tables)
  | .ok caller =>
    match ServiceName.find? s.word method with
    | none => (.error unimplemented, tables)
    | some (_, op) =>
      match decode s op body with
      | .error e => (.error ⟨.internal, e.message⟩, tables)
      | .ok call =>
        let ctx := { caller := some caller, now, limits := g.limits }
        match call.run ctx tables with
        | (.ok answer, tables) => (.ok (encode answer), tables)
        | (.error e, tables) => (.error e.status, tables)

/-- The answer to a call. -/
def respond (g : Gateway) (path : String) (now : Int) (headers : Headers) (body : List UInt8)
    (tables : Tables) : Except Status (List UInt8) × Tables :=
  match splitPath path with
  | none => (.error unimplemented, tables)
  | some (service, method) =>
    match ServiceName.all.find? (qualified ·.word == service) with
    | none => (.error unimplemented, tables)
    | some s => g.respondTo s method now headers body tables

/-- One for a service that is up; the empty name stands for the gateway as a whole. -/
def health (service : String) : Except Status Nat :=
  if service = "" ∨ service ∈ Registry.services.map (·.fullName) then .ok 1
  else .error ⟨.notFound, "service not registered"⟩

/-- The services that the gateway tells of, by name. -/
def listed : List String :=
  "grpc.reflection.v1.ServerReflection" :: (Registry.services.map (·.fullName)).mergeSort
    fun a b => SortKey.compareChars a.toList b.toList != .gt

end Gateway

end CaseDesk
