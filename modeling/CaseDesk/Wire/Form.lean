/-
  Wire forms: how the values of a field are written in the binary format and
  in documents.

  A value at its default is not written at all.  Reading a field merges what
  is found into the value so far: a scalar is replaced, a list grows, and a
  nested message takes the fields that are given.

  * `WireForm.fits`, `WireForm.join`: the values that the format can hold, and
    what comes of merging one into another.
  * `WireForm.int64`, `int32`, `flag`, `text`: scalars.
  * `WireForm.packed`: lists of integers, written as one run and read either as
    a run or one by one.
  * `WireForm.texts`: lists of texts.
-/
import CaseDesk.Document
import CaseDesk.Text.Bytes
import CaseDesk.Wire.Reader

namespace CaseDesk

/-- How the values of a field are written and read. -/
structure WireForm (β : Type) where
  zero : β
  /-- Whether the format can hold a value. -/
  fits : β → Bool
  /-- What a value becomes when another is merged into it. -/
  join : β → β → β
  /-- The bytes of a value in the field with a given number. -/
  encode : (number : Nat) → β → List UInt8
  /-- Takes one payload and merges it into the value so far. -/
  merge : (depth : Nat) → WireType → β → Reader β
  /-- The value in a document; absent values have none. -/
  document : β → Option Document
  /-- The value that a document gives. -/
  ofDocument : Document → β

namespace WireForm

/-- The key of a field. -/
def key (number : Nat) (wire : WireType) : List UInt8 := Varint.encode (8 * number + wire.number)

/-- A payload with its length in front. -/
def delimited (number : Nat) (payload : List UInt8) : List UInt8 :=
  key number .delimited ++ Varint.encode payload.length ++ payload

/-- Takes the words of an integer type. -/
def readWord (ofWord : Nat → Int) (wire : WireType) : Reader Int := do
  Reader.expect .varint wire
  return ofWord (← Reader.varint)

/-- Takes a text. -/
def readText (wire : WireType) : Reader String := do
  Reader.expect .delimited wire
  let bytes ← Reader.bytes (← Reader.varint)
  match Text.fromUtf8? bytes with
  | some text => return text
  | none => Reader.fail .notUtf8

/-- A scalar with another merged into it; a default replaces nothing. -/
def replace {β : Type} [DecidableEq β] (zero old new : β) : β := if new = zero then old else new

/-- Integers in a range that are read from words by `ofWord`. -/
def integer (fits : Int → Bool) (ofWord : Nat → Int) : WireForm Int where
  zero := 0
  fits
  join := replace 0
  encode number n := if n = 0 then [] else key number .varint ++ Varint.encode (Varint.word64 n)
  merge _ wire _ := readWord ofWord wire
  document n := some (.number n)
  ofDocument := Document.toInt

/-- Integers of 64 bits. -/
def int64 : WireForm Int := integer Text.fitsInt64 Varint.signed64

/-- Integers of 32 bits, and the numbers of enumerations. -/
def int32 : WireForm Int := integer Text.fitsInt32 Varint.signed32

/-- Flags. -/
def flag : WireForm Bool where
  zero := false
  fits _ := true
  join := replace false
  encode number b := if b then key number .varint ++ [1] else []
  merge _ wire _ := do
    Reader.expect .varint wire
    return (← Reader.varint) != 0
  document b := some (.flag b)
  ofDocument := Document.toFlag

/-- Texts. -/
def text : WireForm String where
  zero := ""
  fits _ := true
  join := replace ""
  encode number s := if s = "" then [] else delimited number (Text.utf8 s)
  merge _ wire _ := readText wire
  document s := some (.text s)
  ofDocument := Document.toText

/-- Lists of integers in a range that are read from words by `ofWord`. -/
def packed (fits : Int → Bool) (ofWord : Nat → Int) : WireForm (List Int) where
  zero := []
  fits ns := ns.all fits
  join := (· ++ ·)
  encode number ns :=
    if ns = [] then [] else delimited number (ns.flatMap fun n => Varint.encode (Varint.word64 n))
  merge _ wire ns :=
    if wire = .delimited then
      Reader.delimited (fun ns => return ns ++ [ofWord (← Reader.varint)]) ns
    else return ns ++ [← readWord ofWord wire]
  document ns := some (.list (ns.map .number))
  ofDocument d := d.items.map Document.toInt

/-- Lists of integers of 64 bits. -/
def int64s : WireForm (List Int) := packed Text.fitsInt64 Varint.signed64

/-- Lists of the numbers of an enumeration. -/
def int32s : WireForm (List Int) := packed Text.fitsInt32 Varint.signed32

/-- Lists of texts. -/
def texts : WireForm (List String) where
  zero := []
  fits _ := true
  join := (· ++ ·)
  encode number ss := ss.flatMap fun s => delimited number (Text.utf8 s)
  merge _ wire ss := return ss ++ [← readText wire]
  document ss := some (.list (ss.map .text))
  ofDocument d := d.items.map Document.toText

end WireForm

end CaseDesk
