/-
  Which texts are tags.

  * `Text.WritesInteger`: digits with at most one sign in front; such texts and
    no others are read as integers.
  * `Text.Base64Url.Spells`: characters write bytes in base64, said by bits;
    such texts and no others are decoded.
  * `Etag.IsPlain`, `Etag.Accepts`, `Etag.Opens`: the texts that are tags of a
    kind, and those that name a kind at their start.
  * `Etag.parse_language`: a text is read as a tag exactly if it is one, and
    each way to be refused has its own condition.
-/
import CaseDesk.Proofs.Tags
import Mathlib.Algebra.Group.Nat.Defs

namespace CaseDesk

namespace Text

/-! ## Integers -/

/-- One or more decimal digits. -/
def AreDigits (cs : List Char) : Prop := cs ≠ [] ∧ ∀ c ∈ cs, isDecimalDigit c = true

/-- A text writes an integer: digits with at most one sign in front. -/
inductive WritesInteger : List Char → Int → Prop where
  | unsigned {cs : List Char} (h : AreDigits cs) : WritesInteger cs (digitsValue cs)
  | plus {cs : List Char} (h : AreDigits cs) : WritesInteger ('+' :: cs) (digitsValue cs)
  | minus {cs : List Char} (h : AreDigits cs) : WritesInteger ('-' :: cs) (-digitsValue cs)

theorem readNatural?_eq_some {cs : List Char} {n : Nat} :
    readNatural? cs = some n ↔ AreDigits cs ∧ digitsValue cs = n := by
  have hrefused : (cs.isEmpty || !cs.all isDecimalDigit) = true ↔ ¬ AreDigits cs := by
    rw [AreDigits, ← List.all_eq_true, Bool.or_eq_true, List.isEmpty_iff, Bool.not_eq_true',
      ← Bool.not_eq_true, not_and_or, ne_eq, not_not]
  rw [readNatural?]
  split_ifs with h
  · simp [hrefused.1 h]
  · simp [not_not.1 (mt hrefused.2 h)]

theorem not_areDigits_cons {c : Char} (hc : isDecimalDigit c = false) (cs : List Char) :
    ¬ AreDigits (c :: cs) := fun h => by
  rw [h.2 c List.mem_cons_self] at hc
  cases hc

theorem readInteger?_eq_some {cs : List Char} {n : Int} :
    readInteger? cs = some n ↔ WritesInteger cs n := by
  constructor
  · intro h
    unfold readInteger? at h
    split at h <;> rcases hn : readNatural? _ with _ | k <;> rw [hn] at h <;> cases h <;>
      obtain ⟨hdigits, rfl⟩ := readNatural?_eq_some.1 hn
    · exact .plus hdigits
    · exact .minus hdigits
    · exact .unsigned hdigits
  · intro h
    cases h with
    | unsigned h =>
      -- the text starts with a digit, so it takes neither branch for a sign
      unfold readInteger?
      split
      · exact absurd h (not_areDigits_cons rfl _)
      · exact absurd h (not_areDigits_cons rfl _)
      · rw [readNatural?_eq_some.2 ⟨h, rfl⟩]
        rfl
    | plus h => simp [readInteger?, readNatural?_eq_some.2 ⟨h, rfl⟩]
    | minus h => simp [readInteger?, readNatural?_eq_some.2 ⟨h, rfl⟩]

theorem AreDigits.eq_of_writesInteger {cs : List Char} {n : Int} (h : AreDigits cs)
    (hn : WritesInteger cs n) : n = digitsValue cs :=
  Option.some.inj ((readInteger?_eq_some.2 hn).symm.trans (readInteger?_eq_some.2 (.unsigned h)))

theorem WritesInteger.colon_not_mem {cs : List Char} {n : Int} (h : WritesInteger cs n) :
    ':' ∉ cs := by
  have hdigits {cs : List Char} (h : AreDigits cs) : ':' ∉ cs := fun hmem => by
    cases h.2 ':' hmem
  cases h with
  | unsigned h => exact hdigits h
  | plus h => simpa using hdigits h
  | minus h => simpa using hdigits h

/-! ## Pieces -/

/-- The first piece ends at the first separator or with the text. -/
theorem pieces_eq_cons {sep : Char} {cs first : List Char} {others : List (List Char)} :
    pieces sep cs = first :: others ↔ sep ∉ first ∧ ((others = [] ∧ cs = first) ∨
      ∃ rest, cs = first ++ sep :: rest ∧ pieces sep rest = others) := by
  constructor
  · intro h
    by_cases hmem : sep ∈ cs
    · obtain ⟨before, rest, rfl, hbefore⟩ := List.eq_append_cons_of_mem hmem
      rw [pieces_cons_of_not_mem hbefore] at h
      obtain ⟨rfl, rfl⟩ := List.cons.inj h
      exact ⟨hbefore, .inr ⟨rest, rfl, rfl⟩⟩
    · rw [pieces_of_not_mem hmem] at h
      obtain ⟨rfl, rfl⟩ := List.cons.inj h
      exact ⟨hmem, .inl ⟨rfl, rfl⟩⟩
  · rintro ⟨hfirst, ⟨rfl, rfl⟩ | ⟨rest, rfl, rfl⟩⟩
    · exact pieces_of_not_mem hfirst
    · exact pieces_cons_of_not_mem hfirst rest

/-! ## Base64 -/

theorem fromUtf8?_eq_some {bytes : List UInt8} {s : String} :
    fromUtf8? bytes = some s ↔ bytes = utf8 s := by
  constructor
  · intro h
    unfold fromUtf8? String.fromUTF8? at h
    split_ifs at h
    cases h
    simp [utf8, String.fromUTF8]
  · rintro rfl
    exact fromUtf8?_utf8 s

/-- The bits of a number at a given width, the highest first. -/
def bits : (width n : Nat) → List Bool
  | 0, _ => []
  | width + 1, n => bits width (n / 2) ++ [n % 2 == 1]

@[simp] theorem length_bits (width n : Nat) : (bits width n).length = width := by
  induction width generalizing n with
  | zero => rfl
  | succ width ih => simp [bits, ih]

theorem bits_add (width low x : Nat) {y : Nat} (hy : y < 2 ^ low) :
    bits (width + low) (x * 2 ^ low + y) = bits width x ++ bits low y := by
  induction low generalizing y with
  | zero => simp [bits, Nat.lt_one_iff.1 hy]
  | succ low ih =>
    rw [Nat.pow_succ] at hy
    have hshift : x * 2 ^ (low + 1) = 2 * (x * 2 ^ low) := by
      rw [Nat.pow_succ, ← Nat.mul_assoc, Nat.mul_comm]
    have hhalf : (x * 2 ^ (low + 1) + y) / 2 = x * 2 ^ low + y / 2 := by omega
    have hbit : (x * 2 ^ (low + 1) + y) % 2 = y % 2 := by omega
    rw [← Nat.add_assoc, bits, bits, hhalf, hbit, ih (by omega), List.append_assoc]

/-- A number's bits are those of its high part and those of its low part. -/
theorem bits_cut (width low n : Nat) :
    bits (width + low) n = bits width (n / 2 ^ low) ++ bits low (n % 2 ^ low) := by
  rw [← bits_add _ _ _ (Nat.mod_lt _ (Nat.two_pow_pos low)), Nat.mul_comm, Nat.div_add_mod]

theorem bits_inj {width m n : Nat} (hm : m < 2 ^ width) (hn : n < 2 ^ width)
    (h : bits width m = bits width n) : m = n := by
  induction width generalizing m n with
  | zero => omega
  | succ width ih =>
    rw [Nat.pow_succ] at hm hn
    obtain ⟨hhigh, hlow⟩ := List.append_inj' h rfl
    have hhalf : m / 2 = n / 2 := ih (by omega) (by omega) hhigh
    have hbit : (m % 2 == 1) = (n % 2 == 1) := (List.cons.inj hlow).1
    rcases Nat.mod_two_eq_zero_or_one m with hm' | hm' <;>
      rcases Nat.mod_two_eq_zero_or_one n with hn' | hn' <;> simp [hm', hn'] at hbit <;> omega

theorem bits_zero (width : Nat) : bits width 0 = List.replicate width false := by
  induction width with
  | zero => rfl
  | succ width ih => simp [bits, ih, List.replicate_succ']

/-- As many bits as all items have together, if each has the same count. -/
theorem length_flatMap_of_length {α : Type} {f : α → List Bool} {count : Nat}
    (hf : ∀ a, (f a).length = count) (l : List α) : (l.flatMap f).length = count * l.length := by
  induction l with
  | nil => rfl
  | cons a l ih =>
    rw [List.flatMap_cons, List.length_append, hf, ih, List.length_cons, Nat.mul_succ, Nat.add_comm]

namespace Base64Url

/-- Characters write bytes: they stand for the bits of the bytes, six to a character, with as many
    zero bits at the end as fill the last character. -/
def Spells (cs : List Char) (bytes : List UInt8) : Prop :=
  ∃ ns : List Nat, cs = ns.map digit ∧ (∀ n ∈ ns, n < 64) ∧ ∃ fill < 6,
    ns.flatMap (bits 6) = bytes.flatMap (fun b => bits 8 b.toNat) ++ List.replicate fill false

theorem exists_bits_digits (bytes : List UInt8) : ∃ fill < 6, (digits bytes).flatMap (bits 6) =
    bytes.flatMap (fun b => bits 8 b.toNat) ++ List.replicate fill false := by
  -- where the bits of a byte go to two characters, and where a character has bits of two bytes
  have hcut2 (n : Nat) : bits 8 n = bits 6 (n / 4) ++ bits 2 (n % 4) := bits_cut 6 2 n
  have hcut4 (n : Nat) : bits 8 n = bits 4 (n / 16) ++ bits 4 (n % 16) := bits_cut 4 4 n
  have hcut6 (n : Nat) : bits 8 n = bits 2 (n / 64) ++ bits 6 (n % 64) := bits_cut 2 6 n
  have hjoin4 {x y : Nat} (hy : y < 16) : bits 6 (x * 16 + y) = bits 2 x ++ bits 4 y :=
    bits_add 2 4 x hy
  have hjoin2 {x y : Nat} (hy : y < 4) : bits 6 (x * 4 + y) = bits 4 x ++ bits 2 y :=
    bits_add 4 2 x hy
  fun_induction digits bytes with
  | case1 => exact ⟨0, by decide, rfl⟩
  | case2 a =>
    have hend := hjoin4 (x := a.toNat % 4) (y := 0) (by decide)
    rw [Nat.add_zero, bits_zero] at hend
    refine ⟨4, by decide, ?_⟩
    simp only [List.flatMap_cons, List.flatMap_nil, List.append_nil, List.append_assoc, hend,
      hcut2 a.toNat]
  | case3 a b =>
    have hb := b.toNat_lt
    have hmid := hjoin4 (x := a.toNat % 4) (y := b.toNat / 16) (by omega)
    have hend := hjoin2 (x := b.toNat % 16) (y := 0) (by decide)
    rw [Nat.add_zero, bits_zero] at hend
    refine ⟨2, by decide, ?_⟩
    simp only [List.flatMap_cons, List.flatMap_nil, List.append_nil, List.append_assoc, hmid, hend,
      hcut2 a.toNat, hcut4 b.toNat]
  | case4 a b c rest ih =>
    have hb := b.toNat_lt
    have hc := c.toNat_lt
    obtain ⟨fill, hfill, hrest⟩ := ih
    have hmid := hjoin4 (x := a.toNat % 4) (y := b.toNat / 16) (by omega)
    have hlast := hjoin2 (x := b.toNat % 16) (y := c.toNat / 64) (by omega)
    refine ⟨fill, hfill, ?_⟩
    simp only [List.flatMap_cons, List.append_assoc, hmid, hlast, hrest, hcut2 a.toNat,
      hcut4 b.toNat, hcut6 c.toNat]

theorem flatMap_bits_inj {ms ns : List Nat} (hm : ∀ m ∈ ms, m < 64) (hn : ∀ n ∈ ns, n < 64)
    (hlength : ms.length = ns.length) (h : ms.flatMap (bits 6) = ns.flatMap (bits 6)) :
    ms = ns := by
  induction ms generalizing ns with
  | nil => exact (List.length_eq_zero_iff.1 hlength.symm).symm
  | cons m ms ih =>
    obtain _ | ⟨n, ns⟩ := ns
    · cases hlength
    obtain ⟨hfirst, hrest⟩ := List.append_inj h (by simp)
    rw [List.forall_mem_cons] at hm hn
    rw [bits_inj hm.1 hn.1 hfirst, ih hm.2 hn.2 (Nat.succ.inj hlength) hrest]

/-- The characters that write bytes are determined by them: the count of characters by the count
    of bits, and each character by its six bits. -/
theorem spells_iff {cs : List Char} {bytes : List UInt8} :
    Spells cs bytes ↔ cs = encode bytes := by
  obtain ⟨fill, hfill, hbits⟩ := exists_bits_digits bytes
  rw [encode_eq]
  constructor
  · rintro ⟨ns, rfl, hns, fill', hfill', hbits'⟩
    have hlength := congrArg List.length hbits
    have hlength' := congrArg List.length hbits'
    rw [length_flatMap_of_length (length_bits 6), List.length_append,
      length_flatMap_of_length fun b : UInt8 => length_bits 8 b.toNat, List.length_replicate]
      at hlength hlength'
    obtain rfl : fill' = fill := by omega
    rw [flatMap_bits_inj hns (fun _ => lt_of_mem_digits) (by omega) (hbits'.trans hbits.symm)]
  · rintro rfl
    exact ⟨digits bytes, rfl, fun _ => lt_of_mem_digits, fill, hfill, hbits⟩

theorem value?_eq_some {c : Char} {n : Nat} : value? c = some n ↔ n < 64 ∧ c = digit n := by
  constructor
  · intro h
    unfold value? at h
    have hchar : Char.ofNat c.toNat = c := Char.ofNat_toNat c
    dsimp only at h
    split_ifs at h with hupper hlower hnumeral hminus hscore
    · cases h
      refine ⟨by omega, ?_⟩
      rw [digit, if_pos (by omega), Nat.add_sub_cancel' (by omega), hchar]
    · cases h
      refine ⟨by omega, ?_⟩
      rw [digit, if_neg (by omega), if_pos (by omega), Nat.add_sub_cancel,
        Nat.add_sub_cancel' (by omega), hchar]
    · cases h
      refine ⟨by omega, ?_⟩
      rw [digit, if_neg (by omega), if_neg (by omega), if_pos (by omega), Nat.add_sub_cancel,
        Nat.add_sub_cancel' (by omega), hchar]
    · cases h
      exact ⟨by decide, hminus⟩
    · cases h
      exact ⟨by decide, hscore⟩
  · rintro ⟨hn, rfl⟩
    exact value?_digit hn

theorem mapM_value?_eq_some {cs : List Char} {ns : List Nat} :
    cs.mapM value? = some ns ↔ (∀ n ∈ ns, n < 64) ∧ cs = ns.map digit := by
  induction cs generalizing ns with
  | nil => cases ns <;> simp
  | cons c cs ih =>
    rw [List.mapM_cons]
    constructor
    · intro h
      obtain ⟨n, hn, h⟩ := Option.bind_eq_some_iff.1 h
      obtain ⟨ns, hns, h⟩ := Option.bind_eq_some_iff.1 h
      cases h
      obtain ⟨hlt, rfl⟩ := value?_eq_some.1 hn
      obtain ⟨hall, rfl⟩ := ih.1 hns
      exact ⟨List.forall_mem_cons.2 ⟨hlt, hall⟩, rfl⟩
    · rintro ⟨hall, hcs⟩
      rcases ns with _ | ⟨n, ns⟩
      · cases hcs
      · obtain ⟨hlt, hall⟩ := List.forall_mem_cons.1 hall
        obtain ⟨rfl, rfl⟩ := List.cons.inj hcs
        rw [value?_digit hlt, ih.2 ⟨hall, rfl⟩]
        rfl

/-- Digits are joined to bytes only if they are the digits of those bytes. -/
theorem digits_of_join? {ns : List Nat} {bytes : List UInt8} (hlt : ∀ n ∈ ns, n < 64)
    (h : join? ns = some bytes) : ns = digits bytes := by
  fun_induction join? ns generalizing bytes with
  | case1 => cases h; rfl
  | case2 => cases h
  | case3 p q hfill =>
    cases h
    simp only [List.forall_mem_cons] at hlt
    simp only [digits, UInt8.toNat_ofNat']
    congr 2 <;> omega
  | case4 => cases h
  | case5 p q r hfill =>
    cases h
    simp only [List.forall_mem_cons] at hlt
    simp only [digits, UInt8.toNat_ofNat']
    congr 3 <;> omega
  | case6 => cases h
  | case7 p q r s rest ih =>
    obtain ⟨bytes, hrest, rfl⟩ := Option.map_eq_some_iff.1 h
    simp only [List.forall_mem_cons] at hlt
    simp only [digits, UInt8.toNat_ofNat', ← ih hlt.2.2.2.2 hrest]
    congr 4 <;> omega

/-- Texts are decoded exactly if they write bytes, and to those bytes. -/
theorem decode_eq_some {cs : List Char} {bytes : List UInt8} :
    decode cs = some bytes ↔ Spells cs bytes := by
  rw [spells_iff]
  constructor
  · intro h
    obtain ⟨ns, hns, hjoin⟩ := Option.bind_eq_some_iff.1 h
    obtain ⟨hlt, rfl⟩ := mapM_value?_eq_some.1 hns
    rw [encode_eq, digits_of_join? hlt hjoin]
  · rintro rfl
    exact decode_encode bytes

end Base64Url

end Text

namespace Etag

open Text

/-! ## Tags -/

/-- A text is the plain form of a tag: the word for its kind, a positive integer of 64 bits, and
    perhaps an integer of 32 bits that is not negative, set apart by colons. -/
inductive IsPlain (kind : EtagKind) : List Char → Int → Option Int → Prop where
  | unversioned {idText : List Char} {id : Int} (hid : WritesInteger idText id)
      (hrange : 0 < id ∧ id ≤ 9223372036854775807) :
      IsPlain kind (kind.word.toList ++ ':' :: idText) id none
  | versioned {idText verText : List Char} {id ver : Int} (hid : WritesInteger idText id)
      (hrange : 0 < id ∧ id ≤ 9223372036854775807) (hver : WritesInteger verText ver)
      (hverRange : 0 ≤ ver ∧ ver ≤ 2147483647) :
      IsPlain kind (kind.word.toList ++ ':' :: (idText ++ ':' :: verText)) id (some ver)

/-- A text that does not consist of digits alone writes another text, in UTF-8 and base64. -/
def Wraps (text plain : String) : Prop :=
  (∃ c ∈ text.toList, isDecimalDigit c = false) ∧ Base64Url.Spells text.toList (utf8 plain)

/-- The texts that are tags of a kind: a bare id, or the plain form of a tag in base64. -/
inductive Accepts (kind : EtagKind) (text : String) : Etag → Prop where
  | bare {id : Nat} (hdigits : AreDigits text.toList) (hid : digitsValue text.toList = id)
      (hrange : 1 ≤ id ∧ id ≤ 9223372036854775807) : Accepts kind text ⟨kind, id, none⟩
  | written {plain : String} {id : Int} {ver : Option Int} (hwraps : Wraps text plain)
      (hplain : IsPlain kind plain.toList id ver) : Accepts kind text ⟨kind, id, ver⟩

/-- The texts that write the word for a kind and then nothing, or a colon and anything. -/
def Opens (kind : EtagKind) (text : String) : Prop :=
  ∃ plain : String, Wraps text plain ∧ (plain.toList = kind.word.toList ∨
    ∃ rest, plain.toList = kind.word.toList ++ ':' :: rest)

theorem readId?_eq_some {cs : List Char} {id : Int} :
    readId? cs = some id ↔ WritesInteger cs id ∧ 0 < id ∧ id ≤ 9223372036854775807 := by
  simp only [readId?, readInt64?, Option.filter_eq_some_iff, readInteger?_eq_some, fitsInt64,
    Bool.and_eq_true, decide_eq_true_eq]
  constructor
  · rintro ⟨⟨hwrites, -, hle⟩, hpos⟩
    exact ⟨hwrites, hpos, hle⟩
  · rintro ⟨hwrites, hpos, hle⟩
    exact ⟨⟨hwrites, by omega, hle⟩, hpos⟩

theorem readVer?_eq_some {cs : List Char} {ver : Int} :
    readVer? cs = some ver ↔ WritesInteger cs ver ∧ 0 ≤ ver ∧ ver ≤ 2147483647 := by
  simp only [readVer?, readInt32?, Option.filter_eq_some_iff, readInteger?_eq_some, fitsInt32,
    Bool.and_eq_true, decide_eq_true_eq]
  constructor
  · rintro ⟨⟨hwrites, -, hle⟩, hpos⟩
    exact ⟨hwrites, hpos, hle⟩
  · rintro ⟨hwrites, hpos, hle⟩
    exact ⟨⟨hwrites, by omega, hle⟩, hpos⟩

theorem parts?_eq_some {cs : List Char} {parts : List (List Char)} : parts? cs = some parts ↔
    ∃ plain : String, Base64Url.Spells cs (utf8 plain) ∧ pieces ':' plain.toList = parts := by
  simp only [parts?, Option.bind_eq_bind, Option.bind_eq_some_iff, Base64Url.decode_eq_some,
    fromUtf8?_eq_some, Option.pure_def, Option.some.injEq]
  constructor
  · rintro ⟨_, hspells, plain, rfl, rfl⟩
    exact ⟨plain, hspells, rfl⟩
  · rintro ⟨plain, hspells, rfl⟩
    exact ⟨_, hspells, plain, rfl, rfl⟩

/-- The word of a kind is the first piece of a text that is this word, or that has a colon after
    it. -/
theorem exists_pieces_word {kind : EtagKind} {cs : List Char} :
    (∃ rest, pieces ':' cs = kind.word.toList :: rest) ↔
      cs = kind.word.toList ∨ ∃ rest, cs = kind.word.toList ++ ':' :: rest := by
  simp only [pieces_eq_cons]
  constructor
  · rintro ⟨_, -, ⟨-, h⟩ | ⟨rest, h, -⟩⟩
    · exact .inl h
    · exact .inr ⟨rest, h⟩
  · rintro (h | ⟨rest, h⟩)
    · exact ⟨[], colon_not_mem_word kind, .inl ⟨rfl, h⟩⟩
    · exact ⟨_, colon_not_mem_word kind, .inr ⟨rest, h, rfl⟩⟩

theorem numbers?_eq_some {rest : List (List Char)} {id : Int} {ver : Option Int} :
    numbers? rest = some (id, ver) ↔
      (∃ idText, rest = [idText] ∧ readId? idText = some id ∧ ver = none) ∨
      ∃ idText verText n, rest = [idText, verText] ∧ readId? idText = some id ∧
        readVer? verText = some n ∧ ver = some n := by
  constructor
  · intro h
    unfold numbers? at h
    split at h
    · obtain ⟨n, hid, h⟩ := Option.bind_eq_some_iff.1 h
      cases h
      exact .inl ⟨_, rfl, hid, rfl⟩
    · obtain ⟨n, hid, h⟩ := Option.bind_eq_some_iff.1 h
      obtain ⟨m, hver, h⟩ := Option.bind_eq_some_iff.1 h
      cases h
      exact .inr ⟨_, _, _, rfl, hid, hver, rfl⟩
    · cases h
  · rintro (⟨idText, rfl, hid, rfl⟩ | ⟨idText, verText, n, rfl, hid, hver, rfl⟩)
    · simp [numbers?, hid]
    · simp [numbers?, hid, hver]

theorem isPlain_iff {kind : EtagKind} {cs : List Char} {id : Int} {ver : Option Int} :
    IsPlain kind cs id ver ↔
      ∃ rest, pieces ':' cs = kind.word.toList :: rest ∧ numbers? rest = some (id, ver) := by
  constructor
  · intro h
    cases h with
    | unversioned hid hrange =>
      refine ⟨_, pieces_cons_of_not_mem (colon_not_mem_word kind) _, ?_⟩
      rw [pieces_of_not_mem hid.colon_not_mem]
      exact numbers?_eq_some.2 (.inl ⟨_, rfl, readId?_eq_some.2 ⟨hid, hrange⟩, rfl⟩)
    | versioned hid hrange hver hverRange =>
      refine ⟨_, pieces_cons_of_not_mem (colon_not_mem_word kind) _, ?_⟩
      rw [pieces_cons_of_not_mem hid.colon_not_mem, pieces_of_not_mem hver.colon_not_mem]
      exact numbers?_eq_some.2 (.inr ⟨_, _, _, rfl, readId?_eq_some.2 ⟨hid, hrange⟩,
        readVer?_eq_some.2 ⟨hver, hverRange⟩, rfl⟩)
  · rintro ⟨rest, hpieces, hnumbers⟩
    obtain ⟨-, ⟨rfl, -⟩ | ⟨tail, rfl, htail⟩⟩ := pieces_eq_cons.1 hpieces
    · cases hnumbers
    rcases numbers?_eq_some.1 hnumbers with
      ⟨idText, rfl, hid, rfl⟩ | ⟨idText, verText, n, rfl, hid, hver, rfl⟩
    · obtain ⟨-, ⟨-, rfl⟩ | ⟨more, -, hmore⟩⟩ := pieces_eq_cons.1 htail
      · obtain ⟨hid, hrange⟩ := readId?_eq_some.1 hid
        exact .unversioned hid hrange
      · exact absurd hmore (pieces_ne_nil _ _)
    · obtain ⟨-, ⟨hnil, -⟩ | ⟨more, rfl, hmore⟩⟩ := pieces_eq_cons.1 htail
      · cases hnil
      obtain ⟨-, ⟨-, rfl⟩ | ⟨more, -, hmore⟩⟩ := pieces_eq_cons.1 hmore
      · obtain ⟨hid, hrange⟩ := readId?_eq_some.1 hid
        obtain ⟨hver, hverRange⟩ := readVer?_eq_some.1 hver
        exact .versioned hid hrange hver hverRange
      · exact absurd hmore (pieces_ne_nil _ _)

variable {kind found : EtagKind} {raw : String} {tag : Etag}

theorem isEmpty_of_ne (h : trim raw ≠ "") : (trim raw).toList.isEmpty = false := by simpa using h

theorem not_digits (h : ∃ c ∈ (trim raw).toList, isDecimalDigit c = false) :
    trim raw ≠ "" ∧ (trim raw).toList.all isDecimalDigit = false := by
  obtain ⟨c, hc, hother⟩ := h
  exact ⟨fun hblank => by simp [hblank] at hc, by simpa using ⟨c, hc, hother⟩⟩

theorem parse_eq_missing (h : trim raw = "") : parse kind raw = .error (.missing kind) := by
  simp [parse, h]

theorem Accepts.parse_eq (h : Accepts kind (trim raw) tag) : parse kind raw = .ok tag := by
  cases h with
  | @bare id hdigits hid hrange =>
    have hempty : (trim raw).toList.isEmpty = false := by simpa using hdigits.1
    have hall : (trim raw).toList.all isDecimalDigit = true := List.all_eq_true.2 hdigits.2
    have hread : readId? (trim raw).toList = some (id : Int) :=
      readId?_eq_some.2 ⟨hid ▸ .unsigned hdigits, by omega, by omega⟩
    simp only [parse, hempty, hall, hread, Bool.false_eq_true, if_false, if_true]
  | written hwraps hplain =>
    obtain ⟨hblank, hall⟩ := not_digits hwraps.1
    obtain ⟨rest, hpieces, hnumbers⟩ := isPlain_iff.1 hplain
    have hparts := parts?_eq_some.2 ⟨_, hwraps.2, hpieces⟩
    simp only [parse, isEmpty_of_ne hblank, hall, hparts, String.ofList_toList, ofWord?_word,
      hnumbers, Bool.false_eq_true, if_false, if_true]

theorem Opens.parse_eq (h : Opens found (trim raw)) (hfound : found ≠ kind) :
    parse kind raw = .error (.otherKind kind found) := by
  obtain ⟨plain, hwraps, hword⟩ := h
  obtain ⟨hblank, hall⟩ := not_digits hwraps.1
  obtain ⟨rest, hpieces⟩ := exists_pieces_word.2 hword
  have hparts := parts?_eq_some.2 ⟨_, hwraps.2, hpieces⟩
  simp only [parse, isEmpty_of_ne hblank, hall, hparts, String.ofList_toList, ofWord?_word,
    Bool.false_eq_true, if_false, if_neg hfound]

theorem word_of_ofWord? {word : List Char}
    (h : EtagKind.ofWord? (String.ofList word) = some found) :
    word = found.word.toList := by
  have heq := List.find?_some h
  rw [beq_iff_eq] at heq
  rw [heq, String.toList_ofList]

/-- Why a text is read as it is, each outcome with its reason. -/
inductive Outcome (kind : EtagKind) (text : String) : Except EtagError Etag → Prop where
  | missing (h : text = "") : Outcome kind text (.error (.missing kind))
  | accepted {tag : Etag} (h : Accepts kind text tag) : Outcome kind text (.ok tag)
  | otherKind {found : EtagKind} (hfound : found ≠ kind) (h : Opens found text) :
      Outcome kind text (.error (.otherKind kind found))
  | malformed (h : text ≠ "") : Outcome kind text (.error (.malformed kind text))

theorem outcome_of_digits (h : AreDigits (trim raw).toList) :
    Outcome kind (trim raw) (parse kind raw) := by
  have hblank : trim raw ≠ "" := by simpa using h.1
  have hall : (trim raw).toList.all isDecimalDigit = true := List.all_eq_true.2 h.2
  simp only [parse, isEmpty_of_ne hblank, hall, Bool.false_eq_true, if_false, if_true]
  split
  · rename_i id hread
    obtain ⟨hwrites, hrange⟩ := readId?_eq_some.1 hread
    obtain rfl := h.eq_of_writesInteger hwrites
    exact .accepted (.bare h rfl (by omega))
  · exact .malformed hblank

theorem outcome_of_others (h : ∃ c ∈ (trim raw).toList, isDecimalDigit c = false) :
    Outcome kind (trim raw) (parse kind raw) := by
  obtain ⟨hblank, hall⟩ := not_digits h
  simp only [parse, isEmpty_of_ne hblank, hall, Bool.false_eq_true, if_false]
  split
  · rename_i word rest hparts
    obtain ⟨plain, hspells, hpieces⟩ := parts?_eq_some.1 hparts
    split
    · exact .malformed hblank
    · rename_i found hword
      obtain rfl := word_of_ofWord? hword
      split_ifs with hfound
      · subst hfound
        split
        · rename_i id ver hnumbers
          exact .accepted (.written ⟨h, hspells⟩ (isPlain_iff.2 ⟨rest, hpieces, hnumbers⟩))
        · exact .malformed hblank
      · exact .otherKind hfound ⟨plain, ⟨h, hspells⟩, exists_pieces_word.1 ⟨rest, hpieces⟩⟩
  · exact .malformed hblank

theorem outcome_parse (kind : EtagKind) (raw : String) :
    Outcome kind (trim raw) (parse kind raw) := by
  by_cases hblank : trim raw = ""
  · rw [parse_eq_missing hblank]
    exact .missing hblank
  by_cases hother : ∃ c ∈ (trim raw).toList, isDecimalDigit c = false
  · exact outcome_of_others hother
  · have hall : ∀ c ∈ (trim raw).toList, isDecimalDigit c = true := by simpa using hother
    exact outcome_of_digits ⟨by simpa using hblank, hall⟩

theorem Outcome.eq_malformed {text : String} {result : Except EtagError Etag}
    (h : Outcome kind text result) (hblank : text ≠ "") (haccepts : ∀ tag, ¬ Accepts kind text tag)
    (hopens : ∀ found, found ≠ kind → ¬ Opens found text) :
    result = .error (.malformed kind text) := by
  cases h with
  | missing h => exact absurd h hblank
  | accepted h => exact absurd h (haccepts _)
  | otherKind hfound h => exact absurd h (hopens _ hfound)
  | malformed => rfl

theorem IsPlain.fits {plain : List Char} {id : Int} {ver : Option Int}
    (h : IsPlain kind plain id ver) : (⟨kind, id, ver⟩ : Etag).Fits := by
  cases h with
  | unversioned hid hrange => exact ⟨hrange, nofun⟩
  | versioned hid hrange hver hverRange =>
    exact ⟨hrange, fun ver hver => Option.some.inj hver ▸ hverRange⟩

theorem Accepts.fits {text : String} (h : Accepts kind text tag) : tag.Fits ∧ tag.kind = kind := by
  cases h with
  | bare hdigits hid hrange =>
    exact ⟨⟨⟨Int.natCast_pos.2 hrange.1, Int.ofNat_le.2 hrange.2⟩, nofun⟩, rfl⟩
  | written hwraps hplain => exact ⟨hplain.fits, rfl⟩

/-- **Reading accepts exactly the language of tags.**  A text is read without the blanks around it.
    It is missing if nothing is left, read as a tag if it is one, refused with the kind that it
    names if it opens with the word for another kind, whatever follows, and malformed in every other
    case.  A tag that was read is read back from its own written form. -/
theorem parse_language (kind : EtagKind) (raw : String) :
    (parse kind raw = .error (.missing kind) ↔ trim raw = "") ∧
    (∀ tag, parse kind raw = .ok tag ↔ Accepts kind (trim raw) tag) ∧
    (∀ found, parse kind raw = .error (.otherKind kind found) ↔
      found ≠ kind ∧ Opens found (trim raw)) ∧
    (parse kind raw = .error (.malformed kind (trim raw)) ↔ trim raw ≠ "" ∧
      (∀ tag, ¬ Accepts kind (trim raw) tag) ∧ ∀ found, found ≠ kind → ¬ Opens found (trim raw)) ∧
    ∀ tag, parse kind raw = .ok tag → parse kind tag.encode = .ok tag := by
  have houtcome := outcome_parse kind raw
  have hok (tag : Etag) : parse kind raw = .ok tag ↔ Accepts kind (trim raw) tag := by
    refine ⟨fun h => ?_, Accepts.parse_eq⟩
    rw [h] at houtcome
    cases houtcome
    assumption
  have hother (found : EtagKind) : parse kind raw = .error (.otherKind kind found) ↔
      found ≠ kind ∧ Opens found (trim raw) := by
    refine ⟨fun h => ?_, fun h => h.2.parse_eq h.1⟩
    rw [h] at houtcome
    cases houtcome with
    | otherKind hfound hopens => exact ⟨hfound, hopens⟩
  refine ⟨⟨fun h => ?_, parse_eq_missing⟩, hok, hother, ⟨fun h => ?_, ?_⟩, fun tag h => ?_⟩
  · rw [h] at houtcome
    cases houtcome
    assumption
  · refine ⟨fun hblank => ?_, fun tag htag => ?_, fun found hfound hopens => ?_⟩
    · cases h.symm.trans (parse_eq_missing hblank)
    · cases h.symm.trans htag.parse_eq
    · cases h.symm.trans (hopens.parse_eq hfound)
  · rintro ⟨hblank, haccepts, hopens⟩
    exact houtcome.eq_malformed hblank haccepts hopens
  · obtain ⟨hfits, rfl⟩ := ((hok tag).1 h).fits
    exact parse_encode hfits

/-- A tag with a sign and leading zeros in its numbers, and a tag of another kind with numbers that
    are none. -/
theorem looseTag_language :
    parse .wholeCase " Y2FzZTorMDU6MDA3\n" = .ok ⟨.wholeCase, 5, some 7⟩ ∧
    parse .wholeCase (encode ⟨.wholeCase, 5, some 7⟩) = .ok ⟨.wholeCase, 5, some 7⟩ ∧
    parse .comment "Y2FzZV9saW5rOng6eTp6" = .error (.otherKind .comment .link) := by
  have hid : WritesInteger ['+', '0', '5'] 5 := readInteger?_eq_some.1 (by decide)
  have hver : WritesInteger ['0', '0', '7'] 7 := readInteger?_eq_some.1 (by decide)
  have hplain : IsPlain .wholeCase "case:+05:007".toList 5 (some 7) :=
    .versioned hid (by decide) hver (by decide)
  have hwraps : Wraps (trim " Y2FzZTorMDU6MDA3\n") "case:+05:007" :=
    ⟨⟨'Y', by decide, by decide⟩, Base64Url.spells_iff.2 (by decide)⟩
  have hforeign : Wraps (trim "Y2FzZV9saW5rOng6eTp6") "case_link:x:y:z" :=
    ⟨⟨'Y', by decide, by decide⟩, Base64Url.spells_iff.2 (by decide)⟩
  obtain ⟨-, hok, -, -, hback⟩ := parse_language .wholeCase " Y2FzZTorMDU6MDA3\n"
  obtain ⟨-, -, hother, -⟩ := parse_language .comment "Y2FzZV9saW5rOng6eTp6"
  have hread := (hok _).2 (.written hwraps hplain)
  exact ⟨hread, hback _ hread,
    (hother .link).2 ⟨by decide, _, hforeign, .inr ⟨['x', ':', 'y', ':', 'z'], by decide⟩⟩⟩

end Etag

end CaseDesk
