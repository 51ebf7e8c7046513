/-
  The kinds of fields in the binary format of messages, and what can be wrong
  with bytes that should be a message.

  The wording of an error names the enclosing fields, the innermost first.
-/
import CaseDesk.Text.Integer

namespace CaseDesk

/-- How the payload of a field is delimited. -/
inductive WireType where
  | varint
  | fixed64
  | delimited
  | groupStart
  | groupEnd
  | fixed32
  deriving DecidableEq, Repr

namespace WireType

/-- The number of a kind in the key of a field. -/
def number : WireType → Nat
  | varint => 0
  | fixed64 => 1
  | delimited => 2
  | groupStart => 3
  | groupEnd => 4
  | fixed32 => 5

/-- The kind with a number. -/
def ofNumber? : Nat → Option WireType
  | 0 => some varint
  | 1 => some fixed64
  | 2 => some delimited
  | 3 => some groupStart
  | 4 => some groupEnd
  | 5 => some fixed32
  | _ => none

/-- The name of a kind in errors. -/
def name : WireType → String
  | varint => "Varint"
  | fixed64 => "SixtyFourBit"
  | delimited => "LengthDelimited"
  | groupStart => "StartGroup"
  | groupEnd => "EndGroup"
  | fixed32 => "ThirtyTwoBit"

theorem ofNumber?_number (w : WireType) : ofNumber? w.number = some w := by
  cases w <;> rfl

end WireType

/-- What is wrong with the bytes of a message. -/
inductive DecodeCause where
  | badVarint
  | tooFewBytes
  | otherWireType (found expected : WireType)
  | unknownWireType (number : Nat)
  | fieldZero
  | keyTooLarge (key : Nat)
  | strayGroupEnd
  | notUtf8
  | lengthExceeded
  | tooDeep
  deriving DecidableEq, Repr

/-- The wording of a cause. -/
def DecodeCause.message : DecodeCause → String
  | badVarint => "invalid varint"
  | tooFewBytes => "buffer underflow"
  | otherWireType found expected =>
    s!"invalid wire type: {found.name} (expected {expected.name})"
  | unknownWireType number => "invalid wire type value: " ++ String.ofList (Text.decimal number)
  | fieldZero => "invalid tag value: 0"
  | keyTooLarge key => "invalid key value: " ++ String.ofList (Text.decimal key)
  | strayGroupEnd => "unexpected end group tag"
  | notUtf8 => "invalid string value: data is not UTF-8 encoded"
  | lengthExceeded => "delimited length exceeded"
  | tooDeep => "recursion limit reached"

/-- A cause with the enclosing messages and fields, the innermost first. -/
structure DecodeError where
  cause : DecodeCause
  path : List (String × String) := []
  deriving DecidableEq, Repr

namespace DecodeError

/-- The same error, seen from a field further out. -/
def inside (message field : String) (e : DecodeError) : DecodeError :=
  { e with path := e.path ++ [(message, field)] }

/-- The wording of an error. -/
def message (e : DecodeError) : String :=
  "failed to decode Protobuf message: " ++
    String.join (e.path.map fun (message, field) => message ++ "." ++ field ++ ": ") ++
    e.cause.message

end DecodeError

end CaseDesk
