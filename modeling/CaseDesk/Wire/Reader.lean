/-
  Reading the binary format from a run of bytes.

  A reader takes what it needs from the front and leaves the rest.

  * `varint`, `key`, `bytes`: a number, the key of a field, a run of bytes.
  * `delimited`: steps that together take exactly as many bytes as a length in
    front announces; a step may look beyond, which is noticed afterwards.
  * `skipField`: passes over the payload of a field.
-/
import CaseDesk.Wire.Error
import CaseDesk.Wire.Varint

namespace CaseDesk

/-- Takes bytes from the front of what is left. -/
abbrev Reader (α : Type) : Type := StateT (List UInt8) (Except DecodeError) α

namespace Reader

variable {α σ : Type}

/-- Stops with an error. -/
def fail (cause : DecodeCause) : Reader α := fun _ => .error { cause }

/-- Adds an enclosing field to an error. -/
def inside (message field : String) (r : Reader α) : Reader α := fun bytes =>
  match r bytes with
  | .ok result => .ok result
  | .error e => .error (e.inside message field)

/-- Takes a number. -/
def varint : Reader Nat := fun bytes =>
  match Varint.read? bytes with
  | some result => .ok result
  | none => .error { cause := .badVarint }

/-- Takes the key of a field: its number and the kind of its payload. -/
def key : Reader (Nat × WireType) := do
  let key ← varint
  if 4294967295 < key then fail (.keyTooLarge key)
  else match WireType.ofNumber? (key % 8) with
    | none => fail (.unknownWireType (key % 8))
    | some wire => if key / 8 = 0 then fail .fieldZero else return (key / 8, wire)

/-- Takes a given count of bytes. -/
def bytes (count : Nat) : Reader (List UInt8) := fun left =>
  if left.length < count then .error { cause := .tooFewBytes }
  else .ok (left.take count, left.drop count)

/-- Refuses a payload of another kind. -/
def expect (expected found : WireType) : Reader Unit :=
  if found = expected then return () else fail (.otherWireType found expected)

/-- Takes steps while more than `limit` bytes are left, at most `fuel` of them. -/
def steps (step : σ → Reader σ) (limit : Nat) : (fuel : Nat) → σ → Reader σ
  | 0, s => fun left => .ok (s, left)
  | fuel + 1, s => fun left =>
    if limit < left.length then
      match step s left with
      | .ok (s, left) => steps step limit fuel s left
      | .error e => .error e
    else .ok (s, left)

/-- Takes steps until `limit` bytes are left; every step takes a byte at least. -/
def stepsTo (step : σ → Reader σ) (limit : Nat) (s : σ) : Reader σ := fun left =>
  steps step limit left.length s left

/-- Takes a length and then steps that take that many bytes. -/
def delimited (step : σ → Reader σ) (s : σ) : Reader σ := do
  let length ← varint
  let left ← get
  if left.length < length then fail .tooFewBytes
  else
    let limit := left.length - length
    let s ← stepsTo step limit s
    if (← get).length = limit then return s else fail .lengthExceeded

/-- Passes over the fields of a group up to its end, at most `fuel` of them. -/
def skipGroup (skip : WireType → Nat → Reader Unit) (number : Nat) : (fuel : Nat) → Reader Unit
  | 0 => fail .badVarint
  | fuel + 1 => do
    let (inner, wire) ← key
    if wire = .groupEnd then
      if inner = number then return () else fail .strayGroupEnd
    else
      skip wire inner
      skipGroup skip number fuel

/-- Passes over the payload of a field; groups may nest to a given depth. -/
def skipField : (depth : Nat) → WireType → (number : Nat) → Reader Unit
  | 0, _, _ => fail .tooDeep
  | depth + 1, wire, number =>
    match wire with
    | .varint => do let _ ← varint
    | .fixed32 => do let _ ← bytes 4
    | .fixed64 => do let _ ← bytes 8
    | .delimited => do let _ ← bytes (← varint)
    | .groupEnd => fail .strayGroupEnd
    | .groupStart => fun left => skipGroup (skipField depth) number (left.length + 1) left

end Reader

end CaseDesk
