/-
  Schemas: the fields of a message type, in the order of their numbers.

  A field ties a part of the message to a name, which documents and
  projections use, and to a wire form.  The fields of a schema are numbered 1,
  2, 3 … in order.

  * `Schema.encode`, `Schema.decode`: the binary format; unknown fields are
    passed over.
  * `Schema.fits`, `Schema.join`: the messages that the format can hold, and what
    comes of merging one into another.
  * `Schema.document`, `Schema.ofDocument`, `Schema.overwrite`: documents.
  * `Schema.single`, `Schema.many`: the wire forms of nested messages.
-/
import CaseDesk.Lens
import CaseDesk.Wire.Form

namespace CaseDesk

/-- A named part of a message with its wire form; `label` is its name in errors. -/
structure Field (ρ : Type) where
  name : String
  {β : Type}
  lens : Lens ρ β
  form : WireForm β
  label : String := name

/-- A message type with its fields in the order of their numbers. -/
structure Schema (ρ : Type) where
  name : String
  blank : ρ
  fields : List (Field ρ)

namespace Field

variable {ρ σ : Type}

/-- A field whose part is read by `get` and replaced by `set`. -/
def of {β : Type} (name : String) (form : WireForm β) (get : ρ → β) (set : β → ρ → ρ)
    (get_set : ∀ b r, get (set b r) = b := by intros; rfl)
    (set_get : ∀ r, set (get r) r = r := by intros; rfl)
    (set_set : ∀ b c r, set b (set c r) = set b r := by intros; rfl) : Field ρ where
  name
  lens := { get, set, get_set, set_get, set_set }
  form

/-- The same field, with another name in errors. -/
def labelled (f : Field ρ) (label : String) : Field ρ := { f with label }

/-- A field of a part, as a field of the whole. -/
def within (f : Field σ) (part : Lens ρ σ) : Field ρ := { f with lens := part.comp f.lens }

/-- Copies the field from one message into another. -/
def copy (f : Field ρ) (source target : ρ) : ρ := f.lens.set (f.lens.get source) target

/-- Sets the field to what a document gives for it. -/
def overwrite (f : Field ρ) (doc : Document) (r : ρ) : ρ :=
  match doc.field? f.name with
  | some d => f.lens.set (f.form.ofDocument d) r
  | none => r

/-- Merges the field of another message into the one that a message has. -/
def join (f : Field ρ) (other r : ρ) : ρ :=
  f.lens.set (f.form.join (f.lens.get r) (f.lens.get other)) r

end Field

namespace Schema

variable {ρ : Type}

/-- How deep messages and groups may nest in the binary format. -/
def maxDepth : Nat := 100

/-- Whether the binary format can hold a message. -/
def fits (s : Schema ρ) (r : ρ) : Bool := s.fields.all fun f => f.form.fits (f.lens.get r)

/-- A message with another merged into it, field by field. -/
def join (s : Schema ρ) (r other : ρ) : ρ := s.fields.foldl (fun r f => f.join other r) r

/-- The bytes of fields that are numbered from `number` on. -/
def encodeFields (r : ρ) : (number : Nat) → List (Field ρ) → List UInt8
  | _, [] => []
  | number, f :: fs => f.form.encode number (f.lens.get r) ++ encodeFields r (number + 1) fs

/-- The bytes of a message. -/
def encode (s : Schema ρ) (r : ρ) : List UInt8 := encodeFields r 1 s.fields

/-- Takes the payload of one field and merges it into the message. -/
def mergeField (s : Schema ρ) (depth number : Nat) (wire : WireType) (r : ρ) : Reader ρ :=
  match s.fields[number - 1]? with
  | some f => do
    let value ← (f.form.merge depth wire (f.lens.get r)).inside s.name f.label
    return f.lens.set value r
  | none => do
    Reader.skipField depth wire number
    return r

/-- Takes one field with its key. -/
def mergeNext (s : Schema ρ) (depth : Nat) (r : ρ) : Reader ρ := do
  let (number, wire) ← Reader.key
  s.mergeField depth number wire r

/-- Merges bytes into a message. -/
def mergeInto (s : Schema ρ) (r : ρ) (bytes : List UInt8) : Except DecodeError ρ :=
  (Reader.stepsTo (s.mergeNext maxDepth) 0 r bytes).map (·.1)

/-- The message that bytes encode. -/
def decode (s : Schema ρ) (bytes : List UInt8) : Except DecodeError ρ := s.mergeInto s.blank bytes

/-- Sets the fields that a document names. -/
def overwrite (s : Schema ρ) (doc : Document) (r : ρ) : ρ :=
  s.fields.foldl (fun r f => f.overwrite doc r) r

/-- The message that a document gives; fields it does not name have their defaults. -/
def ofDocument (s : Schema ρ) (doc : Document) : ρ := s.overwrite doc s.blank

/-- The fields of a message by name, those that are present. -/
def document (s : Schema ρ) (r : ρ) : Document :=
  .record (s.fields.filterMap fun f => (f.form.document (f.lens.get r)).map (f.name, ·))

/-- Takes a nested message and merges it into the one so far. -/
def readNested (s : Schema ρ) (depth : Nat) (wire : WireType) (r : ρ) : Reader ρ := do
  Reader.expect .delimited wire
  match depth with
  | 0 => Reader.fail .tooDeep
  | depth + 1 => Reader.delimited (s.mergeNext depth) r

/-- A nested message that may be absent. -/
def single (s : Schema ρ) : WireForm (Option ρ) where
  zero := none
  fits r := r.all s.fits
  join
    | r, none => r
    | r, some other => some (s.join (r.getD s.blank) other)
  encode
    | _, none => []
    | number, some r => WireForm.delimited number (s.encode r)
  merge depth wire r := return some (← s.readNested depth wire (r.getD s.blank))
  document r := r.map s.document
  ofDocument d := some (s.ofDocument d)

/-- Nested messages in a list. -/
def many (s : Schema ρ) : WireForm (List ρ) where
  zero := []
  fits rs := rs.all s.fits
  join := (· ++ ·)
  encode number rs := rs.flatMap fun r => WireForm.delimited number (s.encode r)
  merge depth wire rs := return rs ++ [← s.readNested depth wire s.blank]
  document rs := some (.list (rs.map s.document))
  ofDocument d := d.items.map s.ofDocument

end Schema

end CaseDesk
