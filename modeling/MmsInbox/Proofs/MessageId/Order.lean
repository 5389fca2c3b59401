import MmsInbox.Proofs.MessageId.Parts
import MmsInbox.Proofs.MessageId.Text

namespace MmsInbox.MessageId

/-!
# The order of identifiers

The order of identifiers as numbers is that of their texts, since these have equally many digits and the
alphabet is in the order of its characters. It also goes by the times, since these are the uppermost bits
(`MessageId.ordered_by_text_and_time`).
-/

variable {first second : MessageId}

/-- Identifiers are compared as numbers. -/
theorem compare_eq_lt_iff : compare first second = .lt ↔ first.value < second.value :=
  Nat.compare_eq_lt

/-- The characters of digits are in the order of the digits. -/
theorem map_digitChar_lt_iff {digits others : List (Fin 32)} :
    digits.map digitChar < others.map digitChar ↔ digits < others := by
  induction digits generalizing others with
  | nil => cases others <;> simp
  | cons digit digits inductionHypothesis =>
      cases others with
      | nil => simp
      | cons other others =>
          simp only [List.map_cons, List.cons_lt_cons_iff, digitChar_lt_iff, digitChar_inj,
            inductionHypothesis]

/-- Texts are in the order of the identifiers. -/
theorem text_lt_iff : first.text < second.text ↔ first.value < second.value := by
  have exact (id : MessageId) : digitsValue (lastDigits id.value 26) = id.value := by
    rw [digitsValue_lastDigits]
    exact Nat.mod_eq_of_lt (Nat.lt_of_lt_of_le id.value.isLt (by decide))
  have asMany : (lastDigits first.value 26).length = (lastDigits second.value 26).length := by
    rw [length_lastDigits, length_lastDigits]
  rw [String.lt_iff, toList_text, toList_text, map_digitChar_lt_iff, ← digitsValue_lt_iff asMany,
    exact, exact, Fin.lt_def]

/-- Identifiers are ordered as their texts are, and never against their times. -/
structure Ordered (first second : MessageId) : Prop where
  byText : compare first second = .lt ↔ first.text < second.text
  byTime : (compare first second).isLE = true → first.timestamp ≤ second.timestamp

/-- An identifier has the parts that it is built from, as far as there is room for them, and precedes those of
later times. -/
structure Assembled (time later rest other : Nat) : Prop where
  timestamp_eq : (ofParts time rest).timestamp = time % 2 ^ 48
  random_eq : (ofParts time rest).random = rest % 2 ^ 80
  precedes :
    time < later → later < 2 ^ 48 → compare (ofParts time rest) (ofParts later other) = .lt

/-- The orders of identifiers, of their texts and of their times agree. -/
theorem ordered_by_text_and_time
    (first second : MessageId)
    (time later rest other : Nat) :
    Ordered first second ∧ Assembled time later rest other := by
  constructor
  case left =>
    refine ⟨by rw [compare_eq_lt_iff, text_lt_iff], fun notAfter => ?_⟩
    rcases Ordering.isLE_iff_eq_lt_or_eq_eq.mp notAfter with before | same
    · exact timestamp_le_of_lt (compare_eq_lt_iff.mp before)
    · rw [Std.LawfulEqOrd.eq_of_compare same]
  case right =>
    refine ⟨timestamp_ofParts time rest, random_ofParts time rest, fun earlier inTime => ?_⟩
    have within : later % idTimes = later := Nat.mod_eq_of_lt inTime
    have withinToo : time % idTimes = time := Nat.mod_eq_of_lt (Nat.lt_trans earlier inTime)
    rw [compare_eq_lt_iff, value_lt_iff, timestamp_ofParts, timestamp_ofParts, within, withinToo]
    exact .inl earlier

/-- An identifier of the first second and one of the next, with the greatest and the least random part. -/
theorem ordered_by_text_and_time_seconds :
    (ofParts 1000 (idRandoms - 1)).text = "00000000Z8ZZZZZZZZZZZZZZZZ" ∧
      (ofParts 2000 0).text = "00000001YG0000000000000000" ∧
      compare (ofParts 1000 (idRandoms - 1)) (ofParts 2000 0) = .lt ∧
      (ofParts 1000 (idRandoms - 1)).text < (ofParts 2000 0).text ∧
      (ofParts 1000 (idRandoms - 1)).timestamp ≤ (ofParts 2000 0).timestamp := by
  obtain ⟨ordered, assembled⟩ :=
    ordered_by_text_and_time (ofParts 1000 (idRandoms - 1)) (ofParts 2000 0) 1000 2000
      (idRandoms - 1) 0
  have before := assembled.precedes (by decide) (by decide)
  refine ⟨by decide +kernel, by decide +kernel, before, ordered.byText.mp before,
    ordered.byTime ?_⟩
  rw [before]
  rfl

end MmsInbox.MessageId
