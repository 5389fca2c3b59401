import MmsInbox.MessageId.Basic

namespace MmsInbox.MessageId

/-!
# The parts of an identifier

An identifier is its time followed by its random part, so the order of identifiers is that of their times,
and among identifiers of one time that of their random parts.
-/

variable {first second : MessageId}

/-- An identifier is put together from its parts. -/
theorem value_eq (id : MessageId) :
    id.value.val = id.timestamp * idRandoms + id.random := by
  rw [timestamp, random, Nat.mul_comm, Nat.div_add_mod]

theorem random_lt (id : MessageId) : id.random < idRandoms :=
  Nat.mod_lt _ (by decide)

/-- The number of an identifier that is built from parts. -/
theorem value_ofParts (timestamp random : Nat) :
    (ofParts timestamp random).value.val =
      timestamp % idTimes * idRandoms + random % idRandoms := by
  have early : timestamp % idTimes < idTimes := Nat.mod_lt _ (by decide)
  have small : random % idRandoms < idRandoms := Nat.mod_lt _ (by decide)
  rw [ofParts, ofNat, Fin.val_ofNat, Nat.mod_eq_of_lt]
  generalize timestamp % idTimes = time at early
  generalize random % idRandoms = rest at small
  simp only [idTimes, idRandoms, idCount] at early small ⊢
  omega

/-- Of a time only the low 48 bits are kept. -/
theorem timestamp_ofParts (timestamp random : Nat) :
    (ofParts timestamp random).timestamp = timestamp % idTimes := by
  have small : random % idRandoms < idRandoms := Nat.mod_lt _ (by decide)
  rw [MessageId.timestamp, value_ofParts, Nat.mul_comm, Nat.mul_add_div (by decide),
    Nat.div_eq_of_lt small, Nat.add_zero]

/-- Of a random part only the low 80 bits are kept. -/
theorem random_ofParts (timestamp random : Nat) :
    (ofParts timestamp random).random = random % idRandoms := by
  rw [MessageId.random, value_ofParts, Nat.mul_comm, Nat.mul_add_mod, Nat.mod_mod]

/-- Identifiers are in order by their times, and within a time by their random parts. -/
theorem value_lt_iff :
    first.value < second.value ↔
      first.timestamp < second.timestamp ∨
        first.timestamp = second.timestamp ∧ first.random < second.random := by
  have small := first.random_lt
  have smallToo := second.random_lt
  rw [Fin.lt_def, value_eq, value_eq]
  generalize first.timestamp = time, first.random = rest at small ⊢
  generalize second.timestamp = timeToo, second.random = restToo at smallToo ⊢
  simp only [idRandoms] at small smallToo ⊢
  omega

/-- A smaller identifier is not of a later time. -/
theorem timestamp_le_of_lt (before : first.value < second.value) :
    first.timestamp ≤ second.timestamp := by
  rcases value_lt_iff.mp before with earlier | ⟨together, _⟩
  · exact Nat.le_of_lt earlier
  · exact Nat.le_of_eq together

end MmsInbox.MessageId
