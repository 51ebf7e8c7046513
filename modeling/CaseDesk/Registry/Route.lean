/-
  Routing: which method answers a verb and a path.

  The part of the path before the first `?` or `#` counts.  Of the routes of
  the verb whose template fits, the one with the most literal segments wins,
  and among equals the first in the registry.
-/
import CaseDesk.Registry.Services
import CaseDesk.Registry.Template

namespace CaseDesk.Registry

/-- A route that fits a request, with the values of its parameters. -/
structure RouteMatch where
  service : ServiceEntry
  method : Method
  binding : Binding
  params : List (String × String)
  deriving DecidableEq, Repr

/-- The value of a parameter. -/
def RouteMatch.param? (m : RouteMatch) (name : String) : Option String := m.params.lookup name

/-- Every route, with its service and method, in the order of the registry. -/
def routes : List (ServiceEntry × Method × Binding) :=
  services.flatMap fun s => s.methods.flatMap fun m => m.bindings.map fun b => (s, m, b)

/-- The part of a path that routes look at. -/
def pathPart (path : String) : String :=
  String.ofList (path.toList.takeWhile fun c => c != '?' && c != '#')

/-- The match of one route, if its verb is the given one and its template fits. -/
def tryRoute (verb : Verb) (path : String) :
    ServiceEntry × Method × Binding → Option RouteMatch
  | (service, method, binding) =>
    if binding.verb = verb then
      (Template.capture binding.path path).map fun params => { service, method, binding, params }
    else none

/-- The better of two matches, the earlier one if they are equally good. -/
def better (best : Option RouteMatch) (next : RouteMatch) : Option RouteMatch :=
  match best with
  | none => some next
  | some old =>
    if Template.literals old.binding.path < Template.literals next.binding.path then some next
    else some old

/-- The best match for a verb and a path. -/
def route (verb : Verb) (path : String) : Option RouteMatch :=
  (routes.filterMap (tryRoute verb (pathPart path))).foldl better none

end CaseDesk.Registry
