import Mathlib.Algebra.Group.Nat.Defs
import SourceAtlas.Snapshot.Format

/-! Words as bytes. A word is the value of its bytes in base 256, least significant first, so the
bytes that it is written as give it back. -/
namespace SourceAtlas

namespace Hash

def value : Bytes → Nat
  | [] => 0
  | b :: rest => b.toNat + 256 * value rest

theorem value_lt (bytes : Bytes) : value bytes < 256 ^ bytes.length := by
  induction bytes with
  | nil => decide
  | cons b rest ih =>
    have small := b.toNat_lt
    simp only [value, List.length_cons, Nat.pow_succ]
    omega

theorem toNat_word {bytes : Bytes} (short : bytes.length ≤ 8) : (word bytes).toNat = value bytes := by
  induction bytes with
  | nil => rfl
  | cons b rest ih =>
    rw [List.length_cons] at short
    have below : value rest < 2 ^ 56 := by
      have le : 256 ^ rest.length ≤ 256 ^ 7 := Nat.pow_le_pow_right (by decide) (by omega)
      exact Nat.lt_of_lt_of_le (value_lt rest) le
    have fits : value rest <<< 8 < 2 ^ 64 := by
      rw [Nat.shiftLeft_eq]
      omega
    have low : b.toNat < 2 ^ 8 := b.toNat_lt
    calc (word (b :: rest)).toNat
        = b.toNat ||| (value rest <<< 8) % 2 ^ 64 := by simp [word, ih (by omega)]
      _ = value rest <<< 8 ||| b.toNat := by rw [Nat.mod_eq_of_lt fits, Nat.or_comm]
      _ = value rest <<< 8 + b.toNat := (Nat.shiftLeft_add_eq_or_of_lt low _).symm
      _ = value (b :: rest) := by rw [Nat.shiftLeft_eq, value]; omega

theorem littleEndian64_eq (n : UInt64) : littleEndian64 n =
    [(n >>> 0).toUInt8, (n >>> 8).toUInt8, (n >>> 16).toUInt8, (n >>> 24).toUInt8,
      (n >>> 32).toUInt8, (n >>> 40).toUInt8, (n >>> 48).toUInt8, (n >>> 56).toUInt8] := rfl

theorem value_littleEndian64 (n : UInt64) : value (littleEndian64 n) = n.toNat := by
  have bound := n.toNat_lt
  simp only [littleEndian64_eq, value, UInt64.toNat_toUInt8, UInt64.toNat_shiftRight,
    Nat.shiftRight_eq_div_pow]
  simp
  omega

end Hash

namespace Format

theorem u64_decode_encode (n : UInt64) (rest : Bytes) :
    u64.decode (u64.encode n ++ rest) = some (n, rest) := by
  have same : Hash.word (Hash.littleEndian64 n) = n := by
    apply UInt64.toNat_inj.mp
    rw [Hash.toNat_word (Nat.le_of_eq rfl), Hash.value_littleEndian64]
  change some (Hash.word (Hash.littleEndian64 n), rest) = some (n, rest)
  rw [same]

theorem u32_encode_eq (n : UInt32) : u32.encode n =
    [(n >>> 0).toUInt8, (n >>> 8).toUInt8, (n >>> 16).toUInt8, (n >>> 24).toUInt8] := rfl

theorem value_u32_encode (n : UInt32) : Hash.value (u32.encode n) = n.toNat := by
  have bound := n.toNat_lt
  simp only [u32_encode_eq, Hash.value, UInt32.toNat_toUInt8, UInt32.toNat_shiftRight,
    Nat.shiftRight_eq_div_pow]
  simp
  omega

theorem u32_decode_encode (n : UInt32) (rest : Bytes) :
    u32.decode (u32.encode n ++ rest) = some (n, rest) := by
  have same : (Hash.word (u32.encode n)).toUInt32 = n := by
    apply UInt32.toNat_inj.mp
    have short : (u32.encode n).length ≤ 8 := by simp [u32_encode_eq]
    rw [UInt64.toNat_toUInt32, Hash.toNat_word short, value_u32_encode]
    exact Nat.mod_eq_of_lt n.toNat_lt
  change some ((Hash.word (u32.encode n)).toUInt32, rest) = some (n, rest)
  rw [same]

end Format

end SourceAtlas
