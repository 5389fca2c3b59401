import Std.Data.ExtTreeMap

namespace MmsInbox

/-!
# Message identifiers

A stored message is known by 128 bits: the time at which it was stored, in milliseconds since 1970,
in the upper 48 bits, and 80 random bits below. Identifiers are ordered as numbers, hence first by
time.
-/

/-- The number of identifiers: 128 bits. -/
abbrev idCount : Nat :=
  0x100000000000000000000000000000000

/-- The number of points in time that an identifier can name: 48 bits. -/
abbrev idTimes : Nat :=
  0x1000000000000

/-- The number of random parts that an identifier can have: 80 bits. -/
abbrev idRandoms : Nat :=
  0x100000000000000000000

/-- The identifier of a stored message. -/
structure MessageId where
  value : Fin idCount
  deriving Repr, DecidableEq

namespace MessageId

instance : Ord MessageId where
  compare first second := compare first.value second.value

instance : Std.TransOrd MessageId where
  eq_swap := Std.OrientedOrd.eq_swap (α := Fin idCount)
  isLE_trans := Std.TransOrd.isLE_trans (α := Fin idCount)

instance : Std.LawfulEqOrd MessageId where
  compare_self := Std.ReflOrd.compare_self (α := Fin idCount)
  eq_of_compare {first second} same := by
    have values : compare first.value second.value = .eq := same
    cases first
    cases second
    simpa using Std.LawfulEqOrd.eq_of_compare values

/-- The identifier with a given number; only its low 128 bits count. -/
def ofNat (number : Nat) : MessageId :=
  ⟨Fin.ofNat idCount number⟩

/-- The identifier with a given time and random part; only their low 48 and 80 bits count. -/
def ofParts (timestamp random : Nat) : MessageId :=
  ofNat (timestamp % idTimes * idRandoms + random % idRandoms)

/-- Milliseconds since 1970 at which the message was stored. -/
def timestamp (id : MessageId) : Nat :=
  id.value / idRandoms

/-- The random part. -/
def random (id : MessageId) : Nat :=
  id.value % idRandoms

end MessageId

end MmsInbox
