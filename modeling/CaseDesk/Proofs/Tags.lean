/-
  Tags that were written can be read.

  * `Text.readInteger?_integerChars`: integers are read back from decimal.
  * `Text.pieces_cons_of_not_mem`: texts that are joined by a separator that
    none of them has come apart again.
  * `Text.trim_padded`: blanks around a text that has none come off.
  * `Text.Base64Url.decode_encode`, `Text.fromUtf8?_utf8`: bytes are read back
    from base64, and texts from bytes.
  * `Etag.parse_encode`: a tag whose numbers fit their words is read back.
  * `Etag.encode_faithful`: so it is with blanks around it, and a reader of
    another kind is told what it names; no two such tags are written alike.
-/
import CaseDesk.Etag
import Mathlib.Data.List.TakeWhile
import Mathlib.Tactic.SplitIfs

namespace CaseDesk

namespace Text

/-! ## Decimal numbers -/

theorem toNat_digitChar {d : Nat} (h : d < 10) : (digitChar d).toNat = 48 + d := by
  have hall : ∀ d : Fin 10, (digitChar d).toNat = 48 + d.val := by decide
  exact hall ⟨d, h⟩

theorem isDecimalDigit_digitChar {d : Nat} (h : d < 10) : isDecimalDigit (digitChar d) = true := by
  rw [isDecimalDigit, toNat_digitChar h]
  simp
  omega

theorem decimal_ne_nil (n : Nat) : decimal n ≠ [] := by
  rw [decimal]
  split_ifs <;> simp

theorem isDecimalDigit_of_mem_decimal {n : Nat} {c : Char} (h : c ∈ decimal n) :
    isDecimalDigit c = true := by
  fun_induction decimal n with
  | case1 n hn =>
    cases List.mem_singleton.1 h
    exact isDecimalDigit_digitChar hn
  | case2 n _ ih =>
    rcases List.mem_append.1 h with h | h
    · exact ih h
    · cases List.mem_singleton.1 h
      exact isDecimalDigit_digitChar (Nat.mod_lt _ (by decide))

theorem digitsValue_decimal (n : Nat) : digitsValue (decimal n) = n := by
  fun_induction decimal n with
  | case1 n hn => simp [digitsValue, toNat_digitChar hn]
  | case2 n _ ih =>
    rw [digitsValue] at ih
    rw [digitsValue, List.foldl_append, ih]
    simp only [List.foldl_cons, List.foldl_nil, toNat_digitChar (Nat.mod_lt n (by decide : 0 < 10))]
    omega

theorem readNatural?_decimal (n : Nat) : readNatural? (decimal n) = some n := by
  have hempty : (decimal n).isEmpty = false := by simpa using decimal_ne_nil n
  have hall : (decimal n).all isDecimalDigit = true :=
    List.all_eq_true.2 fun _ => isDecimalDigit_of_mem_decimal
  simp [readNatural?, hempty, hall, digitsValue_decimal]

/-- Digits without a sign stand for themselves. -/
theorem readInteger?_decimal (n : Nat) : readInteger? (decimal n) = some n := by
  have hsign : ∀ c ∈ decimal n, c ≠ '+' ∧ c ≠ '-' := by
    intro c hc
    have hdigit := isDecimalDigit_of_mem_decimal hc
    constructor <;> rintro rfl <;> cases hdigit
  unfold readInteger?
  split
  · next heq => exact absurd rfl (hsign '+' (heq ▸ List.mem_cons_self)).1
  · next heq => exact absurd rfl (hsign '-' (heq ▸ List.mem_cons_self)).2
  · rw [readNatural?_decimal]
    rfl

theorem readInteger?_integerChars (n : Int) : readInteger? (integerChars n) = some n := by
  cases n with
  | ofNat n => exact readInteger?_decimal n
  | negSucc n =>
    change (readNatural? (decimal (n + 1))).map _ = _
    rw [readNatural?_decimal]
    rfl

theorem colon_not_mem_integerChars (n : Int) : ':' ∉ integerChars n := by
  have hdecimal : ∀ n : Nat, ':' ∉ decimal n := by
    intro n h
    cases isDecimalDigit_of_mem_decimal h
  cases n with
  | ofNat n => exact hdecimal n
  | negSucc n =>
    rw [integerChars, List.mem_cons, not_or]
    exact ⟨by decide, hdecimal _⟩

/-! ## Pieces -/

variable {sep : Char}

theorem pieces_of_not_mem {cs : List Char} (h : sep ∉ cs) : pieces sep cs = [cs] := by
  induction cs with
  | nil => rfl
  | cons c cs ih =>
    rw [List.mem_cons, not_or] at h
    rw [pieces, if_neg (Ne.symm h.1), ih h.2]

theorem pieces_cons_of_not_mem {cs : List Char} (h : sep ∉ cs) (rest : List Char) :
    pieces sep (cs ++ sep :: rest) = cs :: pieces sep rest := by
  induction cs with
  | nil => exact if_pos rfl
  | cons c cs ih =>
    rw [List.mem_cons, not_or] at h
    rw [List.cons_append, pieces, if_neg (Ne.symm h.1), ih h.2]

theorem pieces_eq_splitOn (sep : Char) (cs : List Char) : pieces sep cs = cs.splitOn sep := by
  induction cs with
  | nil => rfl
  | cons c cs ih =>
    simp only [pieces, ih, List.splitOn_cons_eq_if_modifyHead, beq_iff_eq]
    split_ifs with hc
    · rfl
    · rcases hpieces : cs.splitOn sep with _ | ⟨first, others⟩
      · exact absurd hpieces (List.splitOn_ne_nil sep cs)
      · rfl

/-! ## Blanks -/

/-- Blanks around a text that has none come off. -/
theorem trimChars_padded {before cs after : List Char} (hbefore : ∀ c ∈ before, isBlank c = true)
    (hcs : ∀ c ∈ cs, isBlank c = false) (hafter : ∀ c ∈ after, isBlank c = true) :
    trimChars (before ++ cs ++ after) = cs := by
  have hend : trimEnd (cs ++ after) = cs := by
    have hstop : cs.reverse.dropWhile isBlank = cs.reverse := by
      rcases hrev : cs.reverse with _ | ⟨c, rest⟩
      · rfl
      · have hc : c ∈ cs := List.mem_reverse.1 (hrev ▸ List.mem_cons_self)
        exact List.dropWhile_cons_of_neg (by simp [hcs c hc])
    have hskip : ∀ c ∈ after.reverse, isBlank c = true := fun c hc =>
      hafter c (List.mem_reverse.1 hc)
    rw [trimEnd, List.reverse_append, List.dropWhile_append_of_pos hskip, hstop,
      List.reverse_reverse]
  rw [trimChars, List.append_assoc, trimStart, List.dropWhile_append_of_pos hbefore]
  cases cs with
  | nil =>
    have hnil : after.dropWhile isBlank = [] := List.dropWhile_eq_nil_iff.2 hafter
    rw [List.nil_append, hnil]
    rfl
  | cons c cs =>
    have hfirst : ((c :: cs) ++ after).dropWhile isBlank = (c :: cs) ++ after :=
      List.dropWhile_cons_of_neg (by simp [hcs c List.mem_cons_self])
    rw [hfirst, hend]

theorem trim_padded {before cs after : List Char} (hbefore : ∀ c ∈ before, isBlank c = true)
    (hcs : ∀ c ∈ cs, isBlank c = false) (hafter : ∀ c ∈ after, isBlank c = true) :
    trim (String.ofList (before ++ cs ++ after)) = String.ofList cs := by
  rw [trim, String.toList_ofList, trimChars_padded hbefore hcs hafter]

/-- A text without blanks has none to cut. -/
theorem trim_of_no_blank {cs : List Char} (h : ∀ c ∈ cs, isBlank c = false) :
    trim (String.ofList cs) = String.ofList cs := by
  have hnone : ∀ c ∈ ([] : List Char), isBlank c = true := nofun
  simpa using trim_padded hnone h hnone

/-! ## Bytes -/

theorem fromUtf8?_utf8 (s : String) : fromUtf8? (utf8 s) = some s :=
  dif_pos s.isValidUTF8

namespace Base64Url

theorem value?_digit {n : Nat} (h : n < 64) : value? (digit n) = some n := by
  have hall : ∀ n : Fin 64, value? (digit n) = some n.val := by decide
  exact hall ⟨n, h⟩

theorem isBlank_digit {n : Nat} (h : n < 64) : isBlank (digit n) = false := by
  have hall : ∀ n : Fin 64, isBlank (digit n) = false := by decide
  exact hall ⟨n, h⟩

/-- The digits that write bytes. -/
def digits : List UInt8 → List Nat
  | [] => []
  | [a] => [a.toNat / 4, a.toNat % 4 * 16]
  | [a, b] => [a.toNat / 4, a.toNat % 4 * 16 + b.toNat / 16, b.toNat % 16 * 4]
  | a :: b :: c :: rest =>
    a.toNat / 4 :: (a.toNat % 4 * 16 + b.toNat / 16) :: (b.toNat % 16 * 4 + c.toNat / 64) ::
      c.toNat % 64 :: digits rest

theorem encode_eq (bytes : List UInt8) : encode bytes = (digits bytes).map digit := by
  fun_induction encode bytes with
  | case4 a b c rest ih => simp [digits, ih]
  | _ => rfl

theorem lt_of_mem_digits {bytes : List UInt8} {n : Nat} (h : n ∈ digits bytes) : n < 64 := by
  fun_induction digits bytes with
  | case1 => cases h
  | case2 a =>
    have := a.toNat_lt
    simp only [List.mem_cons, List.not_mem_nil, or_false] at h
    omega
  | case3 a b =>
    have := a.toNat_lt
    have := b.toNat_lt
    simp only [List.mem_cons, List.not_mem_nil, or_false] at h
    omega
  | case4 a b c rest ih =>
    have := a.toNat_lt
    have := b.toNat_lt
    have := c.toNat_lt
    simp only [List.mem_cons] at h
    rcases h with h | h | h | h | h
    · omega
    · omega
    · omega
    · omega
    · exact ih h

theorem join?_digits (bytes : List UInt8) : join? (digits bytes) = some bytes := by
  have hbyte (a : UInt8) {n : Nat} (h : n = a.toNat) : UInt8.ofNat n = a := by
    rw [h, UInt8.ofNat_toNat]
  fun_induction digits bytes with
  | case1 => rfl
  | case2 a =>
    rw [join?, if_pos (by omega), hbyte a (by omega)]
  | case3 a b =>
    have := b.toNat_lt
    rw [join?, if_pos (by omega), hbyte a (by omega), hbyte b (by omega)]
  | case4 a b c rest ih =>
    have := b.toNat_lt
    have := c.toNat_lt
    rw [join?, ih, hbyte a (by omega), hbyte b (by omega), hbyte c (by omega)]
    rfl

/-- Bytes are read back from base64. -/
theorem decode_encode (bytes : List UInt8) : decode (encode bytes) = some bytes := by
  have hvalues : ∀ ns : List Nat, (∀ n ∈ ns, n < 64) → (ns.map digit).mapM value? = some ns := by
    intro ns h
    induction ns with
    | nil => rfl
    | cons n ns ih =>
      rw [List.map_cons, List.mapM_cons, value?_digit (h n List.mem_cons_self),
        ih fun m hm => h m (List.mem_cons_of_mem n hm)]
      rfl
  rw [decode, encode_eq, hvalues _ fun _ => lt_of_mem_digits]
  exact join?_digits bytes

theorem isBlank_of_mem_encode {bytes : List UInt8} {c : Char} (h : c ∈ encode bytes) :
    isBlank c = false := by
  rw [encode_eq] at h
  obtain ⟨n, hn, rfl⟩ := List.mem_map.1 h
  exact isBlank_digit (lt_of_mem_digits hn)

/-- Bytes that start with a letter are not written by decimal digits alone. -/
theorem not_all_isDecimalDigit_encode {a : UInt8} (ha : a.toNat < 208) (rest : List UInt8) :
    (encode (a :: rest)).all isDecimalDigit = false := by
  have hfirst : ∀ n : Fin 52, isDecimalDigit (digit n) = false := by decide
  have hdigit := hfirst ⟨a.toNat / 4, by omega⟩
  match rest with
  | [] => simp [encode, hdigit]
  | [b] => simp [encode, hdigit]
  | b :: c :: rest => simp [encode, hdigit]

end Base64Url

end Text

namespace Etag

open Text

/-- A tag whose numbers fit the words that hold them, 64 bits for the id and 32 for the version. -/
structure Fits (tag : Etag) : Prop where
  id : 0 < tag.id ∧ tag.id ≤ 9223372036854775807
  ver : ∀ ver, tag.ver = some ver → 0 ≤ ver ∧ ver ≤ 2147483647

theorem readId?_integerChars {n : Int} (h : 0 < n ∧ n ≤ 9223372036854775807) :
    readId? (integerChars n) = some n := by
  have hfits : fitsInt64 n = true := by simp [fitsInt64]; omega
  simp [readId?, readInt64?, readInteger?_integerChars, hfits, h.1]

theorem readVer?_integerChars {n : Int} (h : 0 ≤ n ∧ n ≤ 2147483647) :
    readVer? (integerChars n) = some n := by
  have hfits : fitsInt32 n = true := by simp [fitsInt32]; omega
  simp [readVer?, readInt32?, readInteger?_integerChars, hfits, h.1]

theorem colon_not_mem_word (kind : EtagKind) : ':' ∉ kind.word.toList := by
  cases kind <;> decide

/-- The word, the id and perhaps the version stand between the colons. -/
theorem pieces_plain (tag : Etag) : pieces ':' tag.plain.toList =
    tag.kind.word.toList :: integerChars tag.id :: (tag.ver.map integerChars).toList := by
  obtain ⟨kind, id, ver⟩ := tag
  cases ver with
  | none =>
    rw [plain, String.toList_ofList]
    dsimp only
    rw [pieces_cons_of_not_mem (colon_not_mem_word kind),
      pieces_of_not_mem (colon_not_mem_integerChars id)]
    rfl
  | some ver =>
    rw [plain, String.toList_ofList]
    dsimp only
    rw [List.append_assoc, List.cons_append, pieces_cons_of_not_mem (colon_not_mem_word kind),
      pieces_cons_of_not_mem (colon_not_mem_integerChars id),
      pieces_of_not_mem (colon_not_mem_integerChars ver)]
    rfl

theorem numbers?_plain {tag : Etag} (h : tag.Fits) :
    numbers? (integerChars tag.id :: (tag.ver.map integerChars).toList) =
      some (tag.id, tag.ver) := by
  obtain ⟨kind, id, ver⟩ := tag
  cases ver with
  | none => simp [numbers?, readId?_integerChars h.id]
  | some ver => simp [numbers?, readId?_integerChars h.id, readVer?_integerChars (h.ver ver rfl)]

theorem ofWord?_word (kind : EtagKind) : EtagKind.ofWord? kind.word = some kind := by
  cases kind <;> decide

/-- The first byte of every tag is that of the letter `c`. -/
theorem utf8_plain (tag : Etag) : ∃ rest, utf8 tag.plain = 99 :: rest := by
  have hletter (cs : List Char) :
      utf8 (String.ofList ('c' :: cs)) = 99 :: cs.utf8Encode.data.toList := by
    rw [utf8, String.toByteArray_ofList, List.utf8Encode_cons]
    simp
    rfl
  have hword : ∃ cs, tag.kind.word.toList = 'c' :: cs := by
    cases tag.kind <;> exact ⟨_, rfl⟩
  obtain ⟨cs, hcs⟩ := hword
  rw [plain, hcs]
  cases tag.ver with
  | none => exact ⟨_, hletter _⟩
  | some ver => exact ⟨_, hletter _⟩

theorem toList_encode (tag : Etag) : tag.encode.toList = Base64Url.encode (utf8 tag.plain) :=
  String.toList_ofList

theorem isBlank_of_mem_encode {tag : Etag} {c : Char} (h : c ∈ tag.encode.toList) :
    isBlank c = false :=
  Base64Url.isBlank_of_mem_encode (toList_encode tag ▸ h)

/-- No written tag is taken for a bare id. -/
theorem not_all_isDecimalDigit_encode (tag : Etag) :
    tag.encode.toList.all isDecimalDigit = false := by
  obtain ⟨rest, hbytes⟩ := tag.utf8_plain
  rw [toList_encode, hbytes]
  exact Base64Url.not_all_isDecimalDigit_encode (by decide) rest

theorem parts?_encode (tag : Etag) :
    parts? tag.encode.toList = some (pieces ':' tag.plain.toList) := by
  simp [toList_encode, parts?, Base64Url.decode_encode, fromUtf8?_utf8]

/-- A text that is a written tag but for blanks around it is read as that tag; if another kind is
    expected, the error tells what it is. -/
theorem parse_of_trim {tag : Etag} (h : tag.Fits) {raw : String} (hraw : trim raw = tag.encode)
    (kind : EtagKind) :
    parse kind raw = if kind = tag.kind then .ok tag else .error (.otherKind kind tag.kind) := by
  have hdigits := tag.not_all_isDecimalDigit_encode
  have hempty : tag.encode.toList.isEmpty = false := by
    rcases hcs : tag.encode.toList with _ | _
    · rw [hcs] at hdigits
      cases hdigits
    · rfl
  simp only [parse, hraw, hempty, hdigits, parts?_encode, pieces_plain, Bool.false_eq_true,
    if_false, String.ofList_toList, ofWord?_word]
  by_cases hkind : kind = tag.kind
  · subst hkind
    simp only [if_true, numbers?_plain h]
  · rw [if_neg (Ne.symm hkind), if_neg hkind]

/-- **A tag that was written is read back.** -/
theorem parse_encode {tag : Etag} (h : tag.Fits) : parse tag.kind tag.encode = .ok tag := by
  have htrim : trim tag.encode = tag.encode :=
    trim_of_no_blank fun _ => Base64Url.isBlank_of_mem_encode
  rw [parse_of_trim h htrim, if_pos rfl]

/-- **Tags are written faithfully.**  A written tag whose numbers fit their words is read back with
    whatever blanks around it; a reader that expects another kind is told both kinds.  So no two
    such tags are written alike.  A written tag never consists of digits alone. -/
theorem encode_faithful {tag : Etag} (h : tag.Fits) {before after : List Char}
    (hbefore : ∀ c ∈ before, isBlank c = true) (hafter : ∀ c ∈ after, isBlank c = true) :
    (∀ kind, parse kind (String.ofList (before ++ tag.encode.toList ++ after)) =
      if kind = tag.kind then .ok tag else .error (.otherKind kind tag.kind)) ∧
    (∀ other : Etag, other.Fits → other.encode = tag.encode → other = tag) ∧
    ∃ c ∈ tag.encode.toList, isDecimalDigit c = false := by
  refine ⟨fun kind => ?_, fun other hother hsame => ?_, ?_⟩
  · refine parse_of_trim h ?_ kind
    rw [trim_padded hbefore (fun _ => isBlank_of_mem_encode) hafter, String.ofList_toList]
  · -- both are read back from the one text, under the kind of the first
    have hread := parse_encode hother
    have htrim : trim other.encode = tag.encode :=
      hsame ▸ trim_of_no_blank fun _ => Base64Url.isBlank_of_mem_encode
    rw [parse_of_trim h htrim] at hread
    split_ifs at hread
    exact (Except.ok.inj hread).symm
  · simpa using tag.not_all_isDecimalDigit_encode

/-- The tag of a comment with the greatest numbers that a tag can have. -/
def greatest : Etag := ⟨.comment, 9223372036854775807, some 2147483647⟩

theorem greatest_faithful :
    parse .comment (String.ofList (['\n', ' '] ++ greatest.encode.toList ++ ['\u3000'])) =
      .ok greatest ∧
    parse .link (String.ofList (['\n', ' '] ++ greatest.encode.toList ++ ['\u3000'])) =
      .error (.otherKind .link .comment) ∧
    Etag.encode ⟨.comment, 1, none⟩ ≠ greatest.encode := by
  have hfits : greatest.Fits := ⟨by decide, fun ver hver => by cases hver; decide⟩
  have hbefore : ['\n', ' '].all isBlank = true := by decide
  have hafter : ['\u3000'].all isBlank = true := by decide
  obtain ⟨hread, hsame, -⟩ :=
    encode_faithful hfits (List.all_eq_true.1 hbefore) (List.all_eq_true.1 hafter)
  have hbare : (⟨.comment, 1, none⟩ : Etag).Fits := ⟨by decide, nofun⟩
  refine ⟨hread .comment, hread .link, fun h => ?_⟩
  cases hsame _ hbare h

end Etag

end CaseDesk
