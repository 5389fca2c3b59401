import MmsInbox.Text.Hexadecimal

namespace MmsInbox.Text

/-!
# Sets of characters

A set of characters is kept as ranges of code points. A long one is written on lines: code points in
hexadecimal with blanks between them, and ranges of them as two code points with a hyphen between.
-/

/-- Ranges of code points, each from its first to its last. -/
structure CharSet where
  ranges : List (Nat × Nat)
  deriving Repr, DecidableEq

namespace CharSet

/-- The code point is in the set. -/
def holds (set : CharSet) (code : Nat) : Bool :=
  set.ranges.any fun (first, last) => first ≤ code && code ≤ last

/-- A range as it is written. -/
def range? (text : String) : Option (Nat × Nat) :=
  match text.splitOn "-" with
  | [single] => (hexNumber? single.toList).map fun code => (code, code)
  | [first, last] => do
      let first ← hexNumber? first.toList
      let last ← hexNumber? last.toList
      return (first, last)
  | _ => none

/-- A set as it is written on several lines. -/
def ofLines (lines : List String) : CharSet :=
  ⟨lines.flatMap fun line => (line.splitOn " ").filterMap range?⟩

end CharSet

end MmsInbox.Text
