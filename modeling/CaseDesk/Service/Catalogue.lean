/-
  The catalogue of all message types, by name.
-/
import CaseDesk.Service.Call

namespace CaseDesk

/-- A message type with its schema. -/
structure MessageType where
  {α : Type}
  schema : Schema α

namespace MessageType

/-- The message types of a service. -/
def ofMessages {P F K I ρ : Type} (m : Messages P F K I ρ) : List MessageType :=
  [⟨m.record⟩, ⟨m.input⟩, ⟨m.page⟩, ⟨m.list⟩, ⟨m.create⟩, ⟨m.update⟩, ⟨m.delete⟩, ⟨m.locate⟩] ++
    (m.located.map fun s => ⟨s⟩).toList

/-- All message types. -/
def all : List MessageType :=
  [⟨Lookup.schema⟩] ++ ofMessages Slas.messages ++ ofMessages SlaConditions.messages ++
    ofMessages CloseReasons.messages ++ ofMessages Reasons.messages ++
    ofMessages Sources.messages ++ ofMessages Statuses.messages ++
    ofMessages StatusConditions.messages ++ ofMessages Priorities.messages ++
    ofMessages CaseComments.messages ++ ofMessages CaseLinks.messages

/-- The message type with a name. -/
def find? (name : String) : Option MessageType := all.find? (·.schema.name == name)

/-- The bytes of the message that a document gives. -/
def encodeDocument (m : MessageType) (doc : Document) : List UInt8 :=
  m.schema.encode (m.schema.ofDocument doc)

/-- The document of the message that bytes encode. -/
def decodeDocument (m : MessageType) (bytes : List UInt8) : Except DecodeError Document :=
  m.schema.document <$> m.schema.decode bytes

end MessageType

end CaseDesk
