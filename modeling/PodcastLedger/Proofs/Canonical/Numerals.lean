import Mathlib.Algebra.Group.Nat.Defs
import Mathlib.Data.List.Basic
import PodcastLedger.Text.Digits

/-!
# Written numbers

A number that is written in a base up to 16 reads back in this base: `Text.number_of_to_digits`.
The digits have no separators among them, and a positive number does not begin with a zero.
-/

namespace PodcastLedger.Text

variable {base number : Nat} {digits : List Char} {c : Char}

/-- A digit reads back as its value. -/
theorem digit_of_digit_char (hbase : base ≤ 16) (hvalue : number < base) :
    digitOf? base number.digitChar = some number := by
  have hall : ∀ value ∈ List.range 16, digitValue? (Nat.digitChar value) = some value := by decide
  unfold digitOf?
  rw [hall number (List.mem_range.mpr (by omega))]
  simp [hvalue]

/-- The digits of a number are digits. -/
theorem exists_of_mem_to_digits (hbase : 1 < base) (hmem : c ∈ Nat.toDigits base number) :
    ∃ value < base, c = value.digitChar := by
  induction number using Nat.strongRecOn with
  | ind number ih =>
      rw [Nat.toDigits_eq_if hbase] at hmem
      split at hmem
      · next hlt => exact ⟨number, hlt, List.mem_singleton.mp hmem⟩
      · next hle =>
          rcases List.mem_append.mp hmem with hfront | hlast
          · exact ih _ (Nat.div_lt_self (by omega) hbase) hfront
          · exact ⟨number % base, Nat.mod_lt _ (by omega), List.mem_singleton.mp hlast⟩

/-- A written number reads back. -/
theorem number_of_to_digits (hbase : 1 < base) (hle : base ≤ 16) (number : Nat) :
    numberOf? base (Nat.toDigits base number) = some number := by
  unfold numberOf?
  induction number using Nat.strongRecOn with
  | ind number ih =>
      rw [Nat.toDigits_eq_if hbase]
      split
      · next hlt => simp [digit_of_digit_char hle hlt]
      · next hge =>
          have hmod : number % base < base := Nat.mod_lt _ (by omega)
          rw [List.foldlM_append, ih _ (Nat.div_lt_self (by omega) hbase)]
          simp [digit_of_digit_char hle hmod, Nat.div_add_mod']

/-- A positive number does not begin with a zero. -/
theorem head_to_digits (hpos : 0 < number) : (Nat.toDigits 10 number).head? ≠ some '0' := by
  induction number using Nat.strongRecOn with
  | ind number ih =>
      rw [Nat.toDigits_eq_if (by decide)]
      split
      · next hlt => simpa using Nat.ne_of_gt hpos
      · next hge =>
          have hrest := ih (number / 10) (Nat.div_lt_self hpos (by decide)) (by omega)
          rwa [List.head?_append_of_ne_nil _ Nat.toDigits_ne_nil]

/-- Digits that are read after a start are less than the start and one more, moved behind them. -/
theorem number_from_lt {start : Nat}
    (hnumber : digits.foldlM (fun number c => (digitOf? base c).map (number * base + ·)) start =
      some number) : number < (start + 1) * base ^ digits.length := by
  induction digits generalizing start with
  | nil =>
      obtain rfl : start = number := by simpa using hnumber
      simp
  | cons c rest ih =>
      rw [List.foldlM_cons] at hnumber
      obtain ⟨next, hnext, hrest⟩ := Option.bind_eq_some_iff.mp hnumber
      obtain ⟨value, hvalue, rfl⟩ := Option.map_eq_some_iff.mp hnext
      have hlt : value < base := by simpa using (Option.filter_eq_some_iff.mp hvalue).2
      calc number < (start * base + value + 1) * base ^ rest.length := ih hrest
        _ ≤ ((start + 1) * base) * base ^ rest.length := by
            refine Nat.mul_le_mul_right _ ?_
            rw [Nat.add_mul, Nat.one_mul]
            omega
        _ = (start + 1) * base ^ (c :: rest).length := by
            rw [List.length_cons, Nat.pow_succ', Nat.mul_assoc]

/-- A number is smaller than its length allows. -/
theorem number_of_lt (hnumber : numberOf? base digits = some number) :
    number < base ^ digits.length := by
  simpa using number_from_lt hnumber

end PodcastLedger.Text
