/-
  Decoding is merging.

  Bytes that a client sends may hold fields in any order, fields that the
  schema does not declare, numbers spelled out at length, and lists of integers
  in runs, one by one or both.

  * `Schema.Faithful.decode_append`: what follows bytes that are decoded is
    merged into the message that they gave.
  * `WireType.Payload`, `Schema.Undeclared`: well-formed fields of numbers that a
    schema does not declare.
  * `WireForm.Spells`: the fields of one number that spell a list of integers.
  * `MessageType.decoding_merges`: messages one after another are merged field by
    field, undeclared fields are passed over, and every spelling of a list of
    integers is read as this list.
-/
import CaseDesk.Proofs.Messages

namespace CaseDesk

variable {ρ : Type} {s : Schema ρ} {depth : Nat}

/-! ## One run of bytes after another -/

namespace Schema.Faithful

theorem mergeInto_append (h : s.Faithful maxDepth) {r r' : ρ} {bytes : List UInt8}
    (hsteps : Steps (s.mergeNext maxDepth) r bytes r') (after : List UInt8) :
    s.mergeInto r (bytes ++ after) = s.mergeInto r' after := by
  rw [mergeInto, mergeInto, hsteps.stepsTo_append h.takes_mergeNext]

/-- Bytes that are decoded are fields that are merged into the blank message. -/
theorem steps_of_decode (h : s.Faithful maxDepth) {bytes : List UInt8} {r : ρ}
    (hdecode : s.decode bytes = .ok r) : Steps (s.mergeNext maxDepth) s.blank bytes r := by
  rw [decode, mergeInto] at hdecode
  rcases hsteps : Reader.stepsTo (s.mergeNext maxDepth) 0 s.blank bytes with e | ⟨r', more⟩
  · rw [hsteps] at hdecode
    cases hdecode
  · rw [hsteps] at hdecode
    cases hdecode
    obtain ⟨taken, rfl, htaken, hmore⟩ := Steps.of_stepsTo h.takes_mergeNext hsteps
    rw [List.eq_nil_of_length_eq_zero (Nat.le_zero.1 hmore), List.append_nil]
    exact htaken

/-- What follows bytes that are decoded is merged into the message that they gave. -/
theorem decode_append (h : s.Faithful maxDepth) {before : List UInt8} {r : ρ}
    (hdecode : s.decode before = .ok r) (after : List UInt8) :
    s.decode (before ++ after) = s.mergeInto r after :=
  h.mergeInto_append (h.steps_of_decode hdecode) after

end Schema.Faithful

/-! ## Undeclared fields -/

/-- The payloads of a kind, however their numbers and lengths are spelled; groups are left out. -/
inductive WireType.Payload : WireType → List UInt8 → Prop
  | varint {n : Nat} {bytes : List UInt8} (h : Varint.Writes n bytes) : Payload .varint bytes
  | fixed64 {bytes : List UInt8} (h : bytes.length = 8) : Payload .fixed64 bytes
  | delimited {length payload : List UInt8} (h : Varint.Writes payload.length length) :
      Payload .delimited (length ++ payload)
  | fixed32 {bytes : List UInt8} (h : bytes.length = 4) : Payload .fixed32 bytes

/-- A payload is passed over. -/
theorem Reads.skipField {wire : WireType} {payload : List UInt8} (h : wire.Payload payload)
    (depth number : Nat) : Reads (Reader.skipField (depth + 1) wire number) payload () := by
  cases h with
  | varint h => exact (Reads.written h).map (.pure ())
  | fixed64 h => exact (Reads.bytes h).map (.pure ())
  | delimited h => exact (Reads.written h).bind ((Reads.bytes rfl).map (.pure ()))
  | fixed32 h => exact (Reads.bytes h).map (.pure ())

/-- A well-formed field of a number that a schema does not declare. -/
inductive Schema.Undeclared (s : Schema ρ) : List UInt8 → Prop
  | field {number : Nat} {wire : WireType} {key payload : List UInt8}
      (hnumber : s.fields.length < number) (hsmall : number < 2 ^ 29)
      (hkey : Varint.Writes (8 * number + wire.number) key) (hpayload : wire.Payload payload) :
      s.Undeclared (key ++ payload)

theorem Schema.Undeclared.steps {field : List UInt8} (h : s.Undeclared field) (depth : Nat)
    (r : ρ) : Steps (s.mergeNext (depth + 1)) r field r := by
  obtain ⟨hnumber, hsmall, hkey, hpayload⟩ := h
  rename_i number wire key payload
  have hnone : s.fields[number - 1]? = none := List.getElem?_eq_none (by omega)
  have hfield : Reads (s.mergeField (depth + 1) number wire r) payload r := by
    simp only [Schema.mergeField, hnone]
    exact (Reads.skipField hpayload depth number).map (.pure r)
  refine .single (List.append_ne_nil_of_left_ne_nil hkey.spells.ne_nil _) ?_
  exact (Reads.key (by omega) hsmall (.written hkey)).bind hfield

/-! ## Lists of integers -/

/-- Fields of one number that spell a list of integers, as one element or as a run at a time. -/
inductive WireForm.Spells (ofWord : Nat → Int) (number : Nat) : List Int → List UInt8 → Prop
  | nil : Spells ofWord number [] []
  | one {word : Nat} {ns : List Int} {key bytes more : List UInt8}
      (hkey : Varint.Writes (8 * number + WireType.varint.number) key)
      (h : Varint.Writes word bytes) (hmore : Spells ofWord number ns more) :
      Spells ofWord number (ofWord word :: ns) (key ++ bytes ++ more)
  | run {ms ns : List Int} {key length payload more : List UInt8}
      (hkey : Varint.Writes (8 * number + WireType.delimited.number) key)
      (hlength : Varint.Writes payload.length length) (h : WireForm.Run ofWord ms payload)
      (hmore : Spells ofWord number ns more) :
      Spells ofWord number (ms ++ ns) (key ++ (length ++ payload) ++ more)

/-- Whatever the spelling of a list, it is added to the list that a message has. -/
theorem WireForm.Spells.steps {ofWord : Nat → Int} {fits : Int → Bool} {name label : String}
    {lens : Lens ρ (List Int)} {number : Nat} {ns : List Int} {bytes : List UInt8}
    (h : Spells ofWord number ns bytes) (hpos : 0 < number) (hsmall : number < 536870912)
    (hf : s.fields[number - 1]? = some { name, lens, form := .packed fits ofWord, label }) (r : ρ) :
    Steps (s.mergeNext depth) r bytes (lens.set (lens.get r ++ ns) r) := by
  induction h generalizing r with
  | nil =>
    rw [List.append_nil, lens.set_get]
    exact .nil r
  | @one word ns key bytes more hkey hword _ ih =>
    have hread : Reads ((packed fits ofWord).merge depth .varint (lens.get r)) bytes
        (lens.get r ++ [ofWord word]) :=
      (reads_word (.written hword)).map (.pure _)
    have hfirst := Schema.steps_field hpos hsmall hf (.written hkey) hkey.spells.ne_nil hread
    have hnext := ih (lens.set (lens.get r ++ [ofWord word]) r)
    rw [lens.get_set, lens.set_set, List.append_assoc, List.singleton_append] at hnext
    exact hfirst.append hnext
  | @run ms ns key length payload more hkey hlength hrun _ ih =>
    have hread : Reads ((packed fits ofWord).merge depth .delimited (lens.get r))
        (length ++ payload) (lens.get r ++ ms) :=
      (hrun.steps (lens.get r)).reads_delimited (.written hlength)
    have hfirst := Schema.steps_field hpos hsmall hf (.written hkey) hkey.spells.ne_nil hread
    have hnext := ih (lens.set (lens.get r ++ ms) r)
    rw [lens.get_set, lens.set_set, List.append_assoc] at hnext
    exact hfirst.append hnext

/-! ## All messages -/

namespace MessageType

/-- **Decoding is merging.** For every message type: of the bytes of a message followed by those of
    another, the join of the two is read, field by field, each of them joined like a scalar, a list
    or a nested message; and after any bytes that are decoded, a well-formed field of an undeclared
    number changes nothing, whatever follows it, and fields that spell a list of integers add this
    list, so that its spellings stand for each other. -/
theorem decoding_merges {m : MessageType} (hm : m ∈ all) :
    (∀ f ∈ m.schema.fields, f.form.Joins) ∧
    (∀ a b : m.α, m.schema.fits a = true → m.schema.fits b = true →
      (m.schema.encode a).length < 2 ^ 64 → (m.schema.encode b).length < 2 ^ 64 →
        m.schema.decode (m.schema.encode a ++ m.schema.encode b) = .ok (m.schema.join a b) ∧
        ∀ f ∈ m.schema.fields, f.lens.get (m.schema.join a b) =
          f.form.join (f.lens.get a) (f.lens.get b)) ∧
    ∀ before r, m.schema.decode before = .ok r →
      (∀ field, m.schema.Undeclared field → ∀ after,
        m.schema.decode (before ++ field ++ after) = m.schema.decode (before ++ after)) ∧
      ∀ (k : Nat) (name label : String) (lens : Lens m.α (List Int)) (fits : Int → Bool)
        (ofWord : Nat → Int),
        m.schema.fields[k]? = some { name, lens, form := .packed fits ofWord, label } →
        ∀ ns bytes, WireForm.Spells ofWord (k + 1) ns bytes →
          m.schema.decode (before ++ bytes) = .ok (lens.set (lens.get r ++ ns) r) ∧
          ∀ other, WireForm.Spells ofWord (k + 1) ns other → ∀ after,
            m.schema.decode (before ++ bytes ++ after) =
              m.schema.decode (before ++ other ++ after) := by
  have hs := faithful m hm
  refine ⟨fun f hf => (hs.forms f hf).joins,
    fun a b ha hb hla hlb => ⟨?_, fun f hf => Schema.get_join hs.fields hf a b⟩,
    fun before r hdecode => ⟨fun field hfield after => ?_, ?_⟩⟩
  · have hsecond := hs.mergeInto_append (hs.steps hb hlb a) []
    rw [List.append_nil] at hsecond
    rw [hs.decode_append (hs.decode_encode ha hla), hsecond]
    rfl
  · rw [List.append_assoc, hs.decode_append hdecode, hs.decode_append hdecode,
      hs.mergeInto_append (hfield.steps 99 r)]
  · intro k name label lens fits ofWord hf ns bytes hbytes
    obtain ⟨hlt, -⟩ := List.getElem?_eq_some_iff.1 hf
    have hfew := hs.few
    -- after any spelling, the rest is merged into the same message
    have hspelled (bytes : List UInt8) (hbytes : WireForm.Spells ofWord (k + 1) ns bytes)
        (after : List UInt8) : m.schema.decode (before ++ bytes ++ after) =
          m.schema.mergeInto (lens.set (lens.get r ++ ns) r) after := by
      rw [List.append_assoc, hs.decode_append hdecode]
      exact hs.mergeInto_append (hbytes.steps (Nat.succ_pos k) (by omega) hf r) after
    refine ⟨?_, fun other hother after => ?_⟩
    · rw [← List.append_nil (before ++ bytes), hspelled bytes hbytes]
      rfl
    · rw [hspelled bytes hbytes, hspelled other hother]

/-- A request for the second page of some sources, a field of the number 9 that it does not declare,
    and the ids 1 and 300, once as an element and a run and once as two elements. -/
theorem sourceRequest_decoding_merges :
    let request := Sources.messages.list
    let two : ListRequest Unit (List Int) := { place := (), page := 2, ids := [1], filter := [] }
    let three : ListRequest Unit (List Int) :=
      { place := (), page := 3, ids := [300], filter := [4] }
    request.decode (request.encode two ++ request.encode three) =
      .ok { three with ids := [1, 300] } ∧
    request.decode ([8, 2] ++ [72, 5] ++ [48, 1]) = request.decode ([8, 2] ++ [48, 1]) ∧
    request.decode ([8, 2] ++ [48, 1, 50, 2, 172, 2]) =
      .ok { place := (), page := 2, ids := [1, 300], filter := [] } ∧
    request.decode ([8, 2] ++ [48, 1, 50, 2, 172, 2] ++ [16, 7]) =
      request.decode ([8, 2] ++ [48, 1, 48, 172, 2] ++ [16, 7]) := by
  intro request two three
  have hm : ⟨request⟩ ∈ all := by simp [request, all, ofMessages]
  have hbyte (b : UInt8) (h : b.toNat < 128) : Varint.Writes b.toNat [b] :=
    ⟨.last h, by simp, by omega⟩
  have helement : Varint.Writes (8 * 6 + WireType.varint.number) [48] := hbyte 48 (by decide)
  have hrun : Varint.Writes (8 * 6 + WireType.delimited.number) [50] := hbyte 50 (by decide)
  have hone : Varint.Writes 1 [1] := hbyte 1 (by decide)
  have hlength : Varint.Writes [(172 : UInt8), 2].length [2] := hbyte 2 (by decide)
  have hlarge : Varint.Writes 300 [172, 2] :=
    ⟨.more (b := 172) (by decide) (.last (b := 2) (by decide)), by decide, by decide⟩
  have hids : [Varint.signed64 1, Varint.signed64 300] = [1, 300] := by decide
  have hmixed : WireForm.Spells Varint.signed64 6 [1, 300] [48, 1, 50, 2, 172, 2] := by
    rw [← hids]
    exact .one helement hone (.run hrun hlength (.cons hlarge .nil) .nil)
  have hsingle : WireForm.Spells Varint.signed64 6 [1, 300] [48, 1, 48, 172, 2] := by
    rw [← hids]
    exact .one helement hone (.one helement hlarge .nil)
  have hunknown : request.Undeclared [72, 5] :=
    @Schema.Undeclared.field _ request 9 .varint [72] [5] (by decide) (by decide)
      (hbyte 72 (by decide)) (.varint (hbyte 5 (by decide)))
  obtain ⟨-, hjoin, hafter⟩ := decoding_merges hm
  obtain ⟨hundeclared, hlists⟩ := hafter [8, 2] { place := (), page := 2, filter := [] }
    (by decide +kernel)
  obtain ⟨hread, hsame⟩ := hlists 5 _ _ _ _ _ rfl _ _ hmixed
  exact ⟨(hjoin two three rfl rfl (by decide +kernel) (by decide +kernel)).1,
    hundeclared _ hunknown _, hread, hsame _ hsingle _⟩

end MessageType

end CaseDesk
