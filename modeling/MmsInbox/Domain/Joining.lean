import MmsInbox.Domain.JoiningTable
import MmsInbox.Text.Canonical

namespace MmsInbox.Domain

/-!
# Joiners

The two invisible joiners may stand in a label only where they make a visible difference: behind a
virama, and the non-joiner also between two characters that would join without it.
-/

/-- The character that keeps its neighbours from joining. -/
def nonJoiner : Char := '\u200C'

/-- The character that makes its neighbours join. -/
def joiner : Char := '\u200D'

/-- The combining class of the viramas. -/
def viramaClass : Nat := 9

/-- The characters before a place end with one that joins to the right. -/
def joinsBefore (earlier : List Char) : Bool :=
  match earlier.dropWhile (transparent.holds ·.toNat) with
  | c :: _ => joinsLeft.holds c.toNat || joinsBoth.holds c.toNat
  | [] => false

/-- The characters after a place begin with one that joins to the left. -/
def joinsAfter (later : List Char) : Bool :=
  match later.dropWhile (transparent.holds ·.toNat) with
  | c :: _ => joinsRight.holds c.toNat || joinsBoth.holds c.toNat
  | [] => false

/-- The joiners of a label stand where they may. The characters before the place are given backwards. -/
def joinersAllowed : (earlier : List Char) → List Char → Bool
  | _, [] => true
  | earlier, c :: later =>
      (if c = nonJoiner ∨ c = joiner then
        earlier.head?.any (Text.combiningClass · == viramaClass) ||
          (c == nonJoiner && joinsBefore earlier && joinsAfter later)
      else true) &&
        joinersAllowed (c :: earlier) later

end MmsInbox.Domain
