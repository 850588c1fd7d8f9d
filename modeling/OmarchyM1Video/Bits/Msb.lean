import Mathlib.Algebra.GroupWithZero.Nat
import Mathlib.Data.List.Basic
import Mathlib.Data.Nat.Notation

/-!
Numbers as lists of bits, the most significant bit first.

* `bitsNat`, `natBits`: the number of a list of bits, and so many bits of a number;
* `bitsNat_natBits`, `natBits_bitsNat`: they are inverse to each other.
-/

namespace OmarchyM1Video.Bits

/-- The number that a list of bits is. -/
def bitsNat (bits : List Bool) : ℕ := bits.foldl (fun v b => 2 * v + b.toNat) 0

/-- The lowest `w` bits of a number. -/
def natBits (w n : ℕ) : List Bool := (List.range w).map fun k => n.testBit (w - 1 - k)

variable {bits rest : List Bool} {w n : ℕ}

@[simp] lemma length_natBits (w n : ℕ) : (natBits w n).length = w := by
  rw [natBits, List.length_map, List.length_range]

@[simp] lemma natBits_zero (n : ℕ) : natBits 0 n = [] := rfl

lemma natBits_succ (w n : ℕ) : natBits (w + 1) n = n.testBit w :: natBits w n := by
  rw [natBits, List.range_succ_eq_map, List.map_cons, List.map_map]
  refine congrArg₂ _ (by rw [Nat.add_sub_cancel, Nat.sub_zero]) (List.map_congr_left fun k _ => ?_)
  rw [Function.comp_apply]
  congr 1
  omega

lemma foldl_bits (v : ℕ) :
    bits.foldl (fun v b => 2 * v + b.toNat) v = v * 2 ^ bits.length + bitsNat bits := by
  induction bits generalizing v with
  | nil => rw [List.foldl_nil, List.length_nil, pow_zero, Nat.mul_one]; rfl
  | cons b bits ih =>
      rw [bitsNat, List.foldl_cons, List.foldl_cons, ih, ih (2 * 0 + b.toNat), List.length_cons,
        pow_succ, Nat.mul_zero, Nat.zero_add, Nat.add_mul, Nat.mul_comm 2 v, Nat.mul_assoc,
        Nat.mul_comm 2, Nat.add_assoc]

@[simp] lemma bitsNat_nil : bitsNat [] = 0 := rfl

lemma bitsNat_cons (b : Bool) (bits : List Bool) :
    bitsNat (b :: bits) = b.toNat * 2 ^ bits.length + bitsNat bits := by
  rw [bitsNat, List.foldl_cons, foldl_bits, Nat.mul_zero, Nat.zero_add]

lemma bitsNat_lt (bits : List Bool) : bitsNat bits < 2 ^ bits.length := by
  induction bits with
  | nil => exact Nat.one_pos
  | cons b bits ih =>
      rw [bitsNat_cons, List.length_cons, pow_succ]
      cases b
      · rw [Bool.toNat_false]
        omega
      · rw [Bool.toNat_true]
        omega

/-- The number of the lowest bits. -/
lemma bitsNat_natBits (w n : ℕ) : bitsNat (natBits w n) = n % 2 ^ w := by
  induction w with
  | zero => rw [natBits_zero, bitsNat_nil, pow_zero, Nat.mod_one]
  | succ w ih =>
      rw [natBits_succ, bitsNat_cons, length_natBits, ih, Nat.mod_pow_succ, Nat.toNat_testBit,
        Nat.add_comm, Nat.mul_comm]

/-- The bits of a number of as many bits. -/
lemma natBits_bitsNat (bits : List Bool) : natBits bits.length (bitsNat bits) = bits := by
  induction bits with
  | nil => rfl
  | cons b bits ih =>
      have hlt := bitsNat_lt bits
      have hbit : (bitsNat (b :: bits)).testBit bits.length = b := by
        rw [bitsNat_cons, Nat.mul_comm, Nat.testBit_two_pow_mul_add _ hlt,
          if_neg (Nat.lt_irrefl _), Nat.sub_self]
        cases b <;> rfl
      have hlow : natBits bits.length (bitsNat (b :: bits)) =
          natBits bits.length (bitsNat bits) := by
        refine List.map_congr_left fun k hk => ?_
        rw [List.mem_range] at hk
        rw [bitsNat_cons, Nat.mul_comm, Nat.testBit_two_pow_mul_add _ hlt, if_pos (by omega)]
      rw [List.length_cons, natBits_succ, hbit, hlow, ih]

end OmarchyM1Video.Bits
