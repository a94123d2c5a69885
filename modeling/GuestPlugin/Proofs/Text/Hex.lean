import GuestPlugin.Text.Hex
import Mathlib.Data.Nat.Digits.Defs

/-! # Digits of a fixed number

Written with as many digits as it needs, or more, a number can be read back. Of two numbers written with
equally many the smaller is the one whose text comes first, which would be lost if leading zeros were left
out, so everything is said of a width and of the numbers that fit into it.
-/

set_option autoImplicit false

namespace GuestPlugin.Hex

/-- The digits in the order of what they stand for. -/
def alphabet : List Char := "0123456789ABCDEF".toList

/-- The number that is written in base 16 by a row of digits, the most significant first. -/
def value (row : List Char) : Nat := Nat.ofDigits 16 (row.reverse.map (alphabet.idxOf ·))

theorem digit_spec {n : Nat} (h : n < 16) : digit n ∈ alphabet ∧ alphabet.idxOf (digit n) = n := by
  have hTable : ∀ k : Fin 16, digit k ∈ alphabet ∧ alphabet.idxOf (digit k) = k := by decide
  exact hTable ⟨n, h⟩

theorem digit_lt_digit {m n : Nat} (h : m < n) (hn : n < 16) : digit m < digit n := by
  have hTable : ∀ k l : Fin 16, k < l → digit k < digit l := by decide
  exact hTable ⟨m, by omega⟩ ⟨n, hn⟩ h

theorem mem_alphabet_of_mem_digits {width n : Nat} {c : Char} (h : c ∈ digits width n) :
    c ∈ alphabet := by
  induction width generalizing n with
  | zero => cases h
  | succ width ih =>
    rw [digits, List.mem_append, List.mem_singleton] at h
    rcases h with hFront | rfl
    · exact ih hFront
    · exact (digit_spec (Nat.mod_lt n (by decide))).1

theorem value_append_digit (row : List Char) {n : Nat} (h : n < 16) :
    value (row ++ [digit n]) = n + 16 * value row := by
  rw [value, List.reverse_append, List.reverse_singleton, List.singleton_append, List.map_cons,
    Nat.ofDigits_cons, (digit_spec h).2]
  rfl

theorem value_digits {width n : Nat} (h : n < 16 ^ width) : value (digits width n) = n := by
  induction width generalizing n with
  | zero =>
    obtain rfl : n = 0 := Nat.lt_one_iff.mp h
    rfl
  | succ width ih =>
    rw [Nat.pow_succ] at h
    rw [digits, value_append_digit _ (Nat.mod_lt n (by decide)), ih (by omega), Nat.mod_add_div]

/-- Rows of one length are compared by what they begin with, whatever follows. -/
theorem append_lt_append {row row' : List Char} (hLength : row.length = row'.length)
    (h : row < row') (rest rest' : List Char) : row ++ rest < row' ++ rest' := by
  induction h with
  | nil => cases hLength
  | rel hFirst => exact .rel hFirst
  | cons _ ih => exact .cons (ih (Nat.succ.inj hLength))

theorem digits_lt_of_lt {width m n : Nat} (hn : n < 16 ^ width) (h : m < n) :
    digits width m < digits width n := by
  induction width generalizing m n with
  | zero =>
    simp only [Nat.pow_zero] at hn
    omega
  | succ width ih =>
    rw [Nat.pow_succ] at hn
    rw [digits, digits]
    rcases Nat.lt_or_ge (m / 16) (n / 16) with hFront | hFront
    · exact append_lt_append (by simp) (ih (by omega) hFront) _ _
    · have hSame : m / 16 = n / 16 := by omega
      rw [hSame]
      apply List.append_left_lt
      exact .rel (digit_lt_digit (by omega) (Nat.mod_lt n (by decide)))

theorem digits_lt_iff {width m n : Nat} (hm : m < 16 ^ width) (hn : n < 16 ^ width) :
    digits width m < digits width n ↔ m < n := by
  constructor
  · intro h
    apply Nat.lt_of_not_le
    intro hLe
    rcases Nat.lt_or_eq_of_le hLe with hLess | rfl
    · exact List.lt_asymm h (digits_lt_of_lt hm hLess)
    · exact List.lt_irrefl _ h
  · exact digits_lt_of_lt hn

end GuestPlugin.Hex
