import GuestPlugin.Region.Placement
import Mathlib.Algebra.Group.Nat.Defs
import Mathlib.Order.Bounds.Basic

/-! # Rounding up to a power of two

The mask is turned into a division once, for every power of two and every width; afterwards only numbers
are compared. Whether the sum still fits into 64 bits is a premise here and is settled where sizes are
added up. Where it does the rounding is the least multiple, and everything else about it follows from that.
-/

set_option autoImplicit false

namespace GuestPlugin

theorem testBit_clear_low {x k width : Nat} (hx : x < 2 ^ width) (hk : k < width) (i : Nat) :
    (x &&& (2 ^ width - 1 - (2 ^ k - 1))).testBit i = (x / 2 ^ k * 2 ^ k).testBit i := by
  have hPower : 2 ^ k < 2 ^ width := Nat.pow_lt_pow_right (by decide) hk
  have hPositive : 0 < 2 ^ k := Nat.two_pow_pos k
  have hMask : 2 ^ width - 1 - (2 ^ k - 1) = 2 ^ width - ((2 ^ k - 1) + 1) := by omega
  rw [hMask, Nat.testBit_and, Nat.testBit_two_pow_sub_succ (by omega), Nat.testBit_two_pow_sub_one,
    Nat.mul_comm, Nat.testBit_two_pow_mul, Nat.testBit_div_two_pow]
  by_cases hi : k ≤ i
  · have hBack : k + (i - k) = i := by omega
    by_cases hTop : i < width
    · simp [hi, hTop]
    · have hZero : x.testBit i = false :=
        Nat.testBit_lt_two_pow (Nat.lt_of_lt_of_le hx (Nat.pow_le_pow_right (by decide) (by omega)))
      simp [hi, hTop, hZero]
  · have hLow : i < k := by omega
    simp [hi, hLow]

theorem clear_low_eq_mul {x k width : Nat} (hx : x < 2 ^ width) (hk : k < width) :
    x &&& (2 ^ width - 1 - (2 ^ k - 1)) = x / 2 ^ k * 2 ^ k :=
  Nat.eq_of_testBit_eq (testBit_clear_low hx hk)

theorem toNat_alignUp {value align : UInt64} {k : Nat} (hAlign : align.toNat = 2 ^ k)
    (hFits : value.toNat + align.toNat < 2 ^ 64) :
    (alignUp value align hFits).toNat = (value.toNat + (2 ^ k - 1)) / 2 ^ k * 2 ^ k := by
  have hPositive : 0 < 2 ^ k := Nat.two_pow_pos k
  have hBelow : value.toNat + 2 ^ k < 2 ^ 64 := by rwa [hAlign] at hFits
  have hk : k < 64 := by
    rw [← Nat.pow_lt_pow_iff_right (a := 2) (by decide)]
    omega
  have hSum : (value + align - 1).toNat = value.toNat + (2 ^ k - 1) := by
    simp only [UInt64.toNat_sub, UInt64.toNat_add, hAlign, UInt64.toNat_one]
    omega
  have hMask : (~~~(align - 1)).toNat = 2 ^ 64 - 1 - (2 ^ k - 1) := by
    have hLow : (align - 1).toNat = 2 ^ k - 1 := by
      simp only [UInt64.toNat_sub, hAlign, UInt64.toNat_one]
      omega
    have hSize : UInt64.size = 2 ^ 64 := rfl
    rw [UInt64.toNat_not, hLow, hSize]
  rw [alignUp, UInt64.toNat_and, hSum, hMask, clear_low_eq_mul (by omega) hk]

/-- Rounding up by division gives the least multiple that is not below the number. -/
theorem isLeast_roundUp {n a : Nat} (ha : 0 < a) :
    IsLeast {m | a ∣ m ∧ n ≤ m} ((n + (a - 1)) / a * a) := by
  constructor
  · refine ⟨Nat.dvd_mul_left _ _, ?_⟩
    have hDiv := Nat.lt_div_mul_add (a := n + (a - 1)) ha
    omega
  · rintro m ⟨⟨q, rfl⟩, hn⟩
    have hq : (n + (a - 1)) / a ≤ q := by
      rw [← Nat.lt_succ_iff, Nat.div_lt_iff_lt_mul ha, Nat.succ_mul, Nat.mul_comm]
      omega
    calc
      (n + (a - 1)) / a * a ≤ q * a := Nat.mul_le_mul_right a hq
      _ = a * q := Nat.mul_comm q a

theorem alignUp_isLeast {value align : UInt64} (hAlign : align.toNat.isPowerOfTwo)
    (hFits : value.toNat + align.toNat < 2 ^ 64) :
    IsLeast {m | align.toNat ∣ m ∧ value.toNat ≤ m} (alignUp value align hFits).toNat := by
  obtain ⟨k, hPower⟩ := hAlign
  rw [toNat_alignUp hPower hFits, hPower]
  exact isLeast_roundUp (Nat.two_pow_pos k)

theorem alignUp_eq_self {value align : UInt64} (hAlign : align.toNat.isPowerOfTwo)
    (hFits : value.toNat + align.toNat < 2 ^ 64) (hDvd : align.toNat ∣ value.toNat) :
    alignUp value align hFits = value := by
  have hLeast := alignUp_isLeast hAlign hFits
  apply UInt64.toNat_inj.mp
  apply Nat.le_antisymm
  · exact hLeast.2 ⟨hDvd, Nat.le_refl _⟩
  · exact hLeast.1.2

theorem alignUp_mono {lower value align : UInt64} (hAlign : align.toNat.isPowerOfTwo)
    (hFits : value.toNat + align.toNat < 2 ^ 64) (hLower : lower.toNat + align.toNat < 2 ^ 64)
    (h : lower ≤ value) : alignUp lower align hLower ≤ alignUp value align hFits := by
  obtain ⟨⟨hDvd, hAbove⟩, _⟩ := alignUp_isLeast hAlign hFits
  rw [UInt64.le_iff_toNat_le] at h ⊢
  exact (alignUp_isLeast hAlign hLower).2 ⟨hDvd, Nat.le_trans h hAbove⟩

theorem alignUp_lt_add {value align : UInt64} (hAlign : align.toNat.isPowerOfTwo)
    (hFits : value.toNat + align.toNat < 2 ^ 64) :
    (alignUp value align hFits).toNat < value.toNat + align.toNat := by
  obtain ⟨⟨hDvd, _⟩, hLowest⟩ := alignUp_isLeast hAlign hFits
  have hPositive : 0 < align.toNat := Nat.pos_of_isPowerOfTwo hAlign
  apply Nat.lt_of_not_le
  intro hFar
  have hBefore := hLowest ⟨Nat.dvd_sub hDvd (Nat.dvd_refl _), Nat.le_sub_of_add_le hFar⟩
  omega

theorem alignUp?_eq {align : UInt64} (hAlign : align.toNat.isPowerOfTwo) (value : UInt64) :
    alignUp? value align =
      if h : value.toNat + align.toNat < 2 ^ 64 then some (alignUp value align h) else none := by
  have hSome : align ≠ 0 := by
    rintro rfl
    exact absurd (Nat.pos_of_isPowerOfTwo hAlign) (Nat.lt_irrefl 0)
  simp only [alignUp?, ne_eq, hSome, not_false_eq_true, true_and]
  rfl

/-- A number that can be added to its alignment is rounded to the least multiple that is not below it. So
is every smaller number, and none of them by the whole alignment. What came out is its own rounding where
it can be added to the alignment again, and only there. -/
theorem alignUp_least_multiple {value align : UInt64} (hAlign : align.toNat.isPowerOfTwo)
    (hFits : value.toNat + align.toNat < 2 ^ 64) :
    ∃ rounded, alignUp? value align = some rounded ∧
      IsLeast {m | align.toNat ∣ m ∧ value.toNat ≤ m} rounded.toNat ∧
      alignUp? rounded align =
        (if rounded.toNat + align.toNat < 2 ^ 64 then some rounded else none) ∧
      (∀ lower ≤ value, ∃ below, alignUp? lower align = some below ∧ below ≤ rounded) ∧
      rounded.toNat < value.toNat + align.toNat := by
  have hLeast := alignUp_isLeast hAlign hFits
  simp only [alignUp?_eq hAlign]
  refine ⟨alignUp value align hFits, dif_pos hFits, hLeast, ?_, ?_, alignUp_lt_add hAlign hFits⟩
  · split
    · rename_i hAgain
      rw [alignUp_eq_self hAlign hAgain hLeast.1.1]
    · rfl
  · intro lower hLower
    have hLowerFits : lower.toNat + align.toNat < 2 ^ 64 := by
      have hBelow := UInt64.le_iff_toNat_le.mp hLower
      omega
    exact ⟨alignUp lower align hLowerFits, dif_pos hLowerFits,
      alignUp_mono hAlign hFits hLowerFits hLower⟩

/-- What is rounded to the last page but one can be rounded again, and what is rounded to the last page
cannot. -/
theorem alignUp_to_last_pages :
    (0x1000 : UInt64).toNat.isPowerOfTwo ∧
      (0xFFFFFFFFFFFFD001 : UInt64).toNat + (0x1000 : UInt64).toNat < 2 ^ 64 ∧
      alignUp? 0xFFFFFFFFFFFFD001 0x1000 = some 0xFFFFFFFFFFFFE000 ∧
      alignUp? 0xFFFFFFFFFFFFE000 0x1000 = some 0xFFFFFFFFFFFFE000 ∧
      (0xFFFFFFFFFFFFE001 : UInt64).toNat + (0x1000 : UInt64).toNat < 2 ^ 64 ∧
      alignUp? 0xFFFFFFFFFFFFE001 0x1000 = some 0xFFFFFFFFFFFFF000 ∧
      IsLeast {m | 0x1000 ∣ m ∧ 0xFFFFFFFFFFFFE001 ≤ m} 0xFFFFFFFFFFFFF000 ∧
      alignUp? 0xFFFFFFFFFFFFF000 0x1000 = none := by
  have hAlign : (0x1000 : UInt64).toNat.isPowerOfTwo := ⟨12, rfl⟩
  have hFits : (0xFFFFFFFFFFFFD001 : UInt64).toNat + (0x1000 : UInt64).toNat < 2 ^ 64 := by decide
  have hFitsLast : (0xFFFFFFFFFFFFE001 : UInt64).toNat + (0x1000 : UInt64).toNat < 2 ^ 64 := by
    decide
  have hValue : alignUp? 0xFFFFFFFFFFFFD001 0x1000 = some 0xFFFFFFFFFFFFE000 := by decide
  have hValueLast : alignUp? 0xFFFFFFFFFFFFE001 0x1000 = some 0xFFFFFFFFFFFFF000 := by decide
  obtain ⟨_, hRounded, _, hAgain, _⟩ := alignUp_least_multiple hAlign hFits
  obtain ⟨_, hRoundedLast, hLeast, hAgainLast, _⟩ := alignUp_least_multiple hAlign hFitsLast
  cases hRounded.symm.trans hValue
  cases hRoundedLast.symm.trans hValueLast
  exact ⟨hAlign, hFits, hValue, hAgain, hFitsLast, hValueLast, hLeast, hAgainLast⟩

/-- The last page itself is not rounded, though it is a multiple of its size and the last byte of it still
has a number in 64 bits. -/
theorem last_page_not_rounded :
    (0x1000 : UInt64).toNat.isPowerOfTwo ∧
      (0xFFFFFFFFFFFFF000 : UInt64).toNat + (0x1000 : UInt64).toNat - 1 < 2 ^ 64 ∧
      IsLeast {m | 0x1000 ∣ m ∧ 0xFFFFFFFFFFFFF000 ≤ m} 0xFFFFFFFFFFFFF000 ∧
      alignUp? 0xFFFFFFFFFFFFF000 0x1000 = none := by
  refine ⟨⟨12, rfl⟩, by decide, ⟨⟨by decide, Nat.le_refl _⟩, ?_⟩, by decide⟩
  rintro m ⟨_, hAbove⟩
  exact hAbove

end GuestPlugin
