import Mathlib.Data.List.Induction
import Mathlib.Data.Nat.Digits.Defs
import MmsInbox.MessageId.Base32

namespace MmsInbox.MessageId

/-!
# Digits of base 32

Reading digits and writing the last digits of a number undo each other, up to the part of the number for
which there are no digits. Numbers with equally many digits are in order exactly if their digits are, from
the first one on.
-/

@[simp] theorem length_lastDigits
    (number count : Nat) :
    (lastDigits number count).length = count := by
  induction count generalizing number with
  | zero => rfl
  | succ count inductionHypothesis => simp [lastDigits, inductionHypothesis]

@[simp] theorem digitsValue_concat
    (digits : List (Fin 32))
    (digit : Fin 32) :
    digitsValue (digits ++ [digit]) = digitsValue digits * 32 + digit := by
  simp [digitsValue]

/-- Digits are a positional notation. -/
theorem digitsValue_eq_ofDigits (digits : List (Fin 32)) :
    digitsValue digits = Nat.ofDigits 32 (digits.reverse.map Fin.val) := by
  induction digits using List.reverseRecOn with
  | nil => rfl
  | append_singleton digits digit inductionHypothesis =>
      rw [digitsValue_concat, inductionHypothesis, List.reverse_concat, List.map_cons,
        Nat.ofDigits_cons, Nat.mul_comm, Nat.add_comm]

/-- The first digit counts the most. -/
theorem digitsValue_cons
    (digit : Fin 32)
    (digits : List (Fin 32)) :
    digitsValue (digit :: digits) = digit * 32 ^ digits.length + digitsValue digits := by
  induction digits using List.reverseRecOn with
  | nil => simp [digitsValue]
  | append_singleton digits last inductionHypothesis =>
      rw [← List.cons_append, digitsValue_concat, digitsValue_concat, inductionHypothesis,
        List.length_append, List.length_singleton, Nat.pow_succ]
      ring

/-- A smaller leading digit outweighs all that follows. -/
theorem leading_lt
    {digit other weight rest : Nat}
    (smaller : digit < other)
    (bound : rest < weight)
    (restToo : Nat) :
    digit * weight + rest < other * weight + restToo :=
  calc
    digit * weight + rest < digit * weight + weight := Nat.add_lt_add_left bound _
    _ = (digit + 1) * weight := (Nat.succ_mul _ _).symm
    _ ≤ other * weight := Nat.mul_le_mul_right _ smaller
    _ ≤ other * weight + restToo := Nat.le_add_right _ _

theorem digitsValue_lt (digits : List (Fin 32)) :
    digitsValue digits < 32 ^ digits.length := by
  induction digits with
  | nil => exact Nat.one_pos
  | cons digit digits inductionHypothesis =>
      rw [digitsValue_cons, List.length_cons, Nat.pow_succ']
      exact leading_lt digit.isLt inductionHypothesis 0

/-- The last digits of a number stand for what is left of it. -/
theorem digitsValue_lastDigits
    (number count : Nat) :
    digitsValue (lastDigits number count) = number % 32 ^ count := by
  induction count generalizing number with
  | zero => exact (Nat.mod_one number).symm
  | succ count inductionHypothesis =>
      rw [lastDigits, digitsValue_concat, inductionHypothesis, Fin.val_ofNat, Nat.pow_succ',
        Nat.mod_mul]
      omega

/-- Digits are the last digits of the number that they stand for. -/
theorem lastDigits_digitsValue (digits : List (Fin 32)) :
    lastDigits (digitsValue digits) digits.length = digits := by
  induction digits using List.reverseRecOn with
  | nil => rfl
  | append_singleton digits digit inductionHypothesis =>
      have small := digit.isLt
      rw [List.length_append, List.length_singleton, lastDigits, digitsValue_concat,
        Nat.mul_comm, Nat.mul_add_div (by decide), Nat.div_eq_of_lt small, Nat.add_zero,
        inductionHypothesis]
      congr 2
      exact Fin.ext (by rw [Fin.val_ofNat, Nat.mul_add_mod, Nat.mod_eq_of_lt small])

/-- Of two numbers with equally many digits, the one with the smaller first different digit is smaller. -/
theorem digitsValue_lt_iff
    {first second : List (Fin 32)}
    (same : first.length = second.length) :
    digitsValue first < digitsValue second ↔ first < second := by
  induction first generalizing second with
  | nil =>
      obtain rfl := List.length_eq_zero_iff.mp same.symm
      simp [digitsValue]
  | cons digit digits inductionHypothesis =>
      cases second with
      | nil => cases same
      | cons other others =>
          have sameLength : digits.length = others.length := Nat.succ.inj same
          have bound := digitsValue_lt digits
          have boundToo := digitsValue_lt others
          rw [← sameLength] at boundToo
          -- What follows the first digit is less than its weight, so it matters only between equal ones.
          rw [List.cons_lt_cons_iff, ← inductionHypothesis sameLength, digitsValue_cons,
            digitsValue_cons, ← sameLength, Fin.lt_def, Fin.ext_iff]
          rcases Nat.lt_trichotomy digit other with smaller | equal | greater
          · exact iff_of_true (leading_lt smaller bound _) (.inl smaller)
          · simp [equal]
          · have notSmaller := Nat.lt_asymm (leading_lt greater boundToo (digitsValue digits))
            refine iff_of_false notSmaller ?_
            omega

/-- The alphabet is in the order of the characters. -/
theorem digitChar_lt_iff (first second : Fin 32) :
    digitChar first < digitChar second ↔ first < second := by
  decide +revert +kernel

/-- Different digits have different characters. -/
theorem digitChar_inj {first second : Fin 32} :
    digitChar first = digitChar second ↔ first = second := by
  decide +revert +kernel

/-- The alphabet is in upper case. -/
@[simp] theorem toUpper_digitChar (digit : Fin 32) : (digitChar digit).toUpper = digitChar digit := by
  decide +revert +kernel

/-- A character is read as the digit whose character it is in upper case. -/
theorem digitValue?_eq_some_iff
    {c : Char}
    {digit : Fin 32} :
    digitValue? c = some digit ↔ c.toUpper = digitChar digit := by
  rw [digitValue?, Vector.finIdxOf?, Option.map_eq_some_iff]
  constructor
  · rintro ⟨place, found, rfl⟩
    exact (Array.finIdxOf?_eq_some_iff.mp found).1.symm
  · intro here
    refine ⟨digit.cast alphabet.size_toArray.symm, ?_, rfl⟩
    refine Array.finIdxOf?_eq_some_iff.mpr ⟨here.symm, fun other smaller same => ?_⟩
    have equal : other.cast alphabet.size_toArray = digit := digitChar_inj.mp (same.trans here)
    exact Nat.ne_of_lt smaller (congrArg Fin.val equal)

/-- A decimal digit or a letter of either case, other than I, L, O and U. -/
def IsDigit (c : Char) : Prop :=
  c.isAlphanum = true ∧ c.toUpper ∉ ['I', 'L', 'O', 'U']

instance (c : Char) : Decidable (IsDigit c) :=
  inferInstanceAs (Decidable (_ ∧ _))

/-- Among the ASCII characters, digits are those that are read as digits. -/
theorem isDigit_ofNat (code : Fin 128) :
    IsDigit (Char.ofNat code) ↔ ∃ digit, (Char.ofNat code).toUpper = digitChar digit := by
  decide +revert +kernel

/-- Letters and digits are ASCII characters. -/
theorem toNat_lt_of_isAlphanum
    {c : Char}
    (plain : c.isAlphanum = true) :
    c.toNat < 128 := by
  have upTo (last : Char) (ascii : last.toNat < 128) (bound : c.val ≤ last.val) : c.toNat < 128 :=
    Nat.lt_of_le_of_lt (UInt32.le_iff_toNat_le.mp bound) ascii
  have kinds : ((c.isUpper || c.isLower) || c.isDigit) = true := plain
  rw [Bool.or_eq_true, Bool.or_eq_true] at kinds
  rcases kinds with (upper | lower) | digit
  · exact upTo 'Z' (by decide) (of_decide_eq_true upper).2
  · exact upTo 'z' (by decide) (of_decide_eq_true (Bool.and_eq_true_iff.mp lower).2)
  · exact upTo '9' (by decide) (of_decide_eq_true (Bool.and_eq_true_iff.mp digit).2)

/-- Only ASCII characters are ASCII characters in upper case. -/
theorem toNat_lt_of_toUpper
    {c : Char}
    (plain : c.toUpper.toNat < 128) :
    c.toNat < 128 := by
  unfold Char.toUpper at plain
  split at plain
  · rename_i lower
    exact Nat.lt_of_le_of_lt (UInt32.le_iff_toNat_le.mp lower.2) (by decide)
  · exact plain

/-- Digits are the characters that are read as digits. -/
theorem isDigit_iff {c : Char} : IsDigit c ↔ ∃ digit, c.toUpper = digitChar digit := by
  by_cases ascii : c.toNat < 128
  · have known := isDigit_ofNat ⟨c.toNat, ascii⟩
    rwa [Char.ofNat_toNat] at known
  · refine iff_of_false (fun isDigit => ascii (toNat_lt_of_isAlphanum isDigit.1)) ?_
    rintro ⟨digit, same⟩
    have bound : ∀ digit, (digitChar digit).toNat < 128 := by decide +kernel
    exact ascii (toNat_lt_of_toUpper (same ▸ bound digit))

end MmsInbox.MessageId
