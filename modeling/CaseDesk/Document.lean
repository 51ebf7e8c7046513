/-
  Documents: messages as trees of named values.  A field that is absent is
  left out of a record.
-/
namespace CaseDesk

/-- A value of a message. -/
inductive Document where
  | number (n : Int)
  | flag (b : Bool)
  | text (s : String)
  | list (items : List Document)
  | record (fields : List (String × Document))
  deriving Inhabited

namespace Document

/-- The fields of a record; other values have none. -/
def fields : Document → List (String × Document)
  | record fs => fs
  | _ => []

/-- The value of a field. -/
def field? (d : Document) (name : String) : Option Document := d.fields.lookup name

/-- The items of a list; other values have none. -/
def items : Document → List Document
  | list ds => ds
  | _ => []

/-- The number, if there is one, else zero. -/
def toInt : Document → Int
  | number n => n
  | _ => 0

/-- The flag, if there is one, else false. -/
def toFlag : Document → Bool
  | flag b => b
  | _ => false

/-- The text, if there is one, else the empty text. -/
def toText : Document → String
  | text s => s
  | _ => ""

end Document

end CaseDesk
