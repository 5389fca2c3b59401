import MmsInbox.Domain.DirectionTable

namespace MmsInbox.Domain

/-!
# Directions in domain names

In a name that holds right-to-left characters every label has to keep one direction, so that the order
of the labels stays the same wherever the name is shown.
-/

/-- The name holds right-to-left characters. -/
def isBidirectional (name : List Char) : Bool :=
  name.any fun c =>
    rightToLeft.holds c.toNat || arabicLetters.holds c.toNat || arabicNumbers.holds c.toNat

/-- The character is a strong right-to-left character. -/
def isRightToLeft (c : Char) : Bool :=
  rightToLeft.holds c.toNat || arabicLetters.holds c.toNat

/-- The character can stand in labels of either direction. -/
def isWeak (c : Char) : Bool :=
  [europeanNumbers, europeanSeparators, commonSeparators, europeanTerminators, neutrals,
    boundaryNeutrals, nonspacingMarks].any (·.holds c.toNat)

/-- The character is a strong left-to-right character. -/
def isLeftToRight (c : Char) : Bool :=
  !isRightToLeft c && !arabicNumbers.holds c.toNat && !isWeak c

/-- The label ends with one of the given characters and nonspacing marks. -/
def endsWith (label : List Char) (allowed : Char → Bool) : Bool :=
  ((label.reverse.dropWhile (nonspacingMarks.holds ·.toNat)).head?).any allowed

/-- The label keeps one direction. -/
def keepsDirection (label : List Char) : Bool :=
  match label with
  | [] => true
  | first :: _ =>
      if isRightToLeft first then
        label.all (fun c => isRightToLeft c || arabicNumbers.holds c.toNat || isWeak c) &&
          endsWith label (fun c => isRightToLeft c || europeanNumbers.holds c.toNat ||
            arabicNumbers.holds c.toNat) &&
          !(label.any (europeanNumbers.holds ·.toNat) && label.any (arabicNumbers.holds ·.toNat))
      else if isLeftToRight first then
        label.all (fun c => isLeftToRight c || isWeak c) &&
          endsWith label (fun c => isLeftToRight c || europeanNumbers.holds c.toNat)
      else false

end MmsInbox.Domain
