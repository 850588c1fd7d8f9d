import Mathlib.Data.Nat.Notation
import Mathlib.Data.Int.Notation
import Mathlib.Tactic.SplitIfs

/-!
Little-endian byte strings of integers, as `int.to_bytes` and `int.from_bytes` have them.

* `natBytes`, `bytesNat`: the bytes of a natural number and back;
* `intBytes`, `bytesInt`: the same for integers, signed or not; a value that does not fit has no
  bytes;
* `bytesInt_intBytes`, `intBytes_bytesInt`: the two are inverse to each other.
-/

namespace OmarchyM1Video.Py

/-- The number of values that so many bytes have. -/
def byteSpan : ℕ → ℕ
  | 0 => 1
  | w + 1 => 256 * byteSpan w

/-- So many bytes of a number, the lowest first. -/
def natBytes : ℕ → ℕ → List UInt8
  | 0, _ => []
  | w + 1, n => UInt8.ofNat n :: natBytes w (n / 256)

/-- `int.from_bytes(data, 'little')`. -/
def bytesNat : List UInt8 → ℕ
  | [] => 0
  | b :: bs => b.toNat + 256 * bytesNat bs

/-- `int.from_bytes(data, 'little', signed=signed)`. -/
def bytesInt (signed : Bool) (data : List UInt8) : ℤ :=
  if signed ∧ byteSpan data.length ≤ 2 * bytesNat data then
    (bytesNat data : ℤ) - byteSpan data.length
  else bytesNat data

/-- Whether a value fits into so many bytes. -/
def fits (signed : Bool) (w : ℕ) (v : ℤ) : Prop :=
  if signed then -(byteSpan w : ℤ) ≤ 2 * v ∧ 2 * v < byteSpan w else 0 ≤ v ∧ v < byteSpan w

instance (signed : Bool) (w : ℕ) (v : ℤ) : Decidable (fits signed w v) :=
  inferInstanceAs (Decidable (if signed = true then -(byteSpan w : ℤ) ≤ 2 * v ∧ 2 * v < byteSpan w
    else 0 ≤ v ∧ v < byteSpan w))

/-- `v.to_bytes(w, 'little', signed=signed)`; none is `OverflowError`. -/
def intBytes (signed : Bool) (w : ℕ) (v : ℤ) : Option (List UInt8) :=
  if fits signed w v then some (natBytes w (v % byteSpan w).toNat) else none

/-! ### Round trips -/

section RoundTrips

variable {w n : ℕ} {signed : Bool} {v : ℤ} {data : List UInt8}

lemma byteSpan_pos (w : ℕ) : 0 < byteSpan w := by
  induction w with
  | zero => exact Nat.one_pos
  | succ w ih => exact Nat.mul_pos (by decide) ih

@[simp] lemma length_natBytes (w n : ℕ) : (natBytes w n).length = w := by
  induction w generalizing n with
  | zero => rfl
  | succ w ih => rw [natBytes, List.length_cons, ih]

lemma bytesNat_lt (data : List UInt8) : bytesNat data < byteSpan data.length := by
  induction data with
  | nil => exact Nat.one_pos
  | cons b bs ih =>
      have hb : b.toNat < 256 := b.toNat_lt
      rw [bytesNat, List.length_cons, byteSpan]
      omega

lemma bytesNat_natBytes (h : n < byteSpan w) : bytesNat (natBytes w n) = n := by
  induction w generalizing n with
  | zero =>
      rw [byteSpan] at h
      rw [natBytes, bytesNat]
      omega
  | succ w ih =>
      rw [byteSpan] at h
      have hbyte : (UInt8.ofNat n).toNat = n % 256 := UInt8.toNat_ofNat'
      rw [natBytes, bytesNat, ih (by omega), hbyte]
      omega

lemma natBytes_bytesNat (data : List UInt8) : natBytes data.length (bytesNat data) = data := by
  induction data with
  | nil => rfl
  | cons b bs ih =>
      have hb : b.toNat < 256 := b.toNat_lt
      have hhead : UInt8.ofNat (b.toNat + 256 * bytesNat bs) = b := by
        apply UInt8.toNat_inj.mp
        rw [UInt8.toNat_ofNat']
        omega
      have htail : (b.toNat + 256 * bytesNat bs) / 256 = bytesNat bs := by omega
      rw [List.length_cons, bytesNat, natBytes, hhead, htail, ih]

/-- The bytes of a value that fits are as many as asked for, and give the value back. -/
theorem bytesInt_intBytes (h : intBytes signed w v = some data) :
    data.length = w ∧ bytesInt signed data = v := by
  rw [intBytes] at h
  split_ifs at h with hfits
  obtain rfl := Option.some.inj h
  have hspan := byteSpan_pos w
  have hmod := Int.emod_nonneg v (b := byteSpan w) (by omega)
  have hlt := Int.emod_lt_of_pos v (b := byteSpan w) (by omega)
  have hnat : bytesNat (natBytes w (v % byteSpan w).toNat) = (v % byteSpan w).toNat :=
    bytesNat_natBytes (by omega)
  refine ⟨length_natBytes w _, ?_⟩
  rw [bytesInt, hnat, length_natBytes]
  cases signed with
  | false =>
      obtain ⟨h₀, h₁⟩ : 0 ≤ v ∧ v < byteSpan w := hfits
      rw [Int.emod_eq_of_lt h₀ h₁]
      simp [Int.toNat_of_nonneg h₀]
  | true =>
      obtain ⟨h₀, h₁⟩ : -(byteSpan w : ℤ) ≤ 2 * v ∧ 2 * v < byteSpan w := hfits
      by_cases hneg : v < 0
      · have hemod : v % byteSpan w = v + byteSpan w := by
          rw [← Int.add_emod_right, Int.emod_eq_of_lt (by omega) (by omega)]
        rw [hemod, if_pos ⟨rfl, by omega⟩, Int.toNat_of_nonneg (by omega)]
        omega
      · have hemod : v % byteSpan w = v := Int.emod_eq_of_lt (by omega) (by omega)
        rw [hemod, if_neg (by omega), Int.toNat_of_nonneg (by omega)]

/-- The value of bytes fits, and gives the bytes back. -/
theorem intBytes_bytesInt (signed : Bool) (data : List UInt8) :
    intBytes signed data.length (bytesInt signed data) = some data := by
  have hlt := bytesNat_lt data
  have hpos := byteSpan_pos data.length
  have hfits : fits signed data.length (bytesInt signed data) := by
    cases signed with
    | false =>
        simp only [fits, bytesInt, Bool.false_eq_true, false_and, if_false]
        omega
    | true =>
        simp only [fits, bytesInt, true_and, if_true]
        split_ifs <;> omega
  have hmod : (bytesInt signed data % byteSpan data.length).toNat = bytesNat data := by
    rw [bytesInt]
    split_ifs with hneg
    · rw [Int.sub_emod_right, Int.emod_eq_of_lt (by omega) (by omega), Int.toNat_natCast]
    · rw [Int.emod_eq_of_lt (by omega) (by omega), Int.toNat_natCast]
  rw [intBytes, if_pos hfits, hmod, natBytes_bytesNat]

end RoundTrips

end OmarchyM1Video.Py
