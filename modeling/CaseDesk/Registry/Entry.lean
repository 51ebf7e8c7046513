/-
  Entries of the registry: a service with the methods it offers, the access
  that each method needs on the object class of the service, the messages it
  takes and gives, and the routes bound to it.
-/
import CaseDesk.Access.Level
import CaseDesk.Registry.Verb

namespace CaseDesk

/-- The package that all services and messages belong to. -/
def packageName : String := "webitel.cases"

/-- A route: a verb with a path template. -/
structure Binding where
  verb : Verb
  path : String
  deriving DecidableEq, Repr

/-- A method of a service; `input` and `output` name its messages within the package. -/
structure Method where
  name : String
  access : Access
  input : String
  output : String
  bindings : List Binding
  deriving DecidableEq, Repr

/-- A service; `objclass` is what its methods need access to. -/
structure ServiceEntry where
  name : String
  objclass : String
  methods : List Method
  deriving DecidableEq, Repr

/-- A name with the package in front. -/
def qualified (name : String) : String := packageName ++ "." ++ name

namespace ServiceEntry

/-- The name of a service with its package. -/
def fullName (s : ServiceEntry) : String := qualified s.name

/-- The method with a given name. -/
def method? (s : ServiceEntry) (name : String) : Option Method :=
  s.methods.find? (·.name == name)

end ServiceEntry

end CaseDesk
