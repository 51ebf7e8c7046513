/-
  Numbers below 2^64 as runs of bytes, seven bits a byte, the low bits first;
  every byte but the last has its high bit set.

  * `Varint.encode`: the shortest form.
  * `Varint.read?`: reads any form of at most ten bytes whose value is below
    2^64.
  * `word64`, `signed64`, `signed32`: integers as words and back; a word of 64
    bits is cut to its low 32 where only those count.
-/
namespace CaseDesk.Varint

/-- The bytes of a number. -/
def encode (n : Nat) : List UInt8 :=
  if n < 128 then [.ofNat n] else .ofNat (n % 128 + 128) :: encode (n / 128)
termination_by n
decreasing_by omega

/-- Reads a number of at most `count` bytes; the last of ten holds one bit only. -/
def readUpTo? : (count : Nat) → List UInt8 → Option (Nat × List UInt8)
  | 0, _ => none
  | _, [] => none
  | count + 1, b :: rest =>
    if b.toNat < 128 then
      if count = 0 ∧ 2 ≤ b.toNat then none else some (b.toNat, rest)
    else (readUpTo? count rest).map fun (high, rest) => (b.toNat - 128 + 128 * high, rest)

/-- Reads a number. -/
def read? (bytes : List UInt8) : Option (Nat × List UInt8) := readUpTo? 10 bytes

/-- An integer as a word of 64 bits. -/
def word64 (n : Int) : Nat := (n % 18446744073709551616).toNat

/-- The signed integer of a word of 64 bits. -/
def signed64 (w : Nat) : Int := Int.bmod w 18446744073709551616

/-- The signed integer of the low 32 bits of a word. -/
def signed32 (w : Nat) : Int := Int.bmod w 4294967296

end CaseDesk.Varint
