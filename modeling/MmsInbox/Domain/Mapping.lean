import MmsInbox.Domain.MappingTable

namespace MmsInbox.Domain

/-!
# The mapping of domain names

Before anything else a domain name is mapped character by character: letters become small, characters
that only look different are replaced, some are left out, and some are not allowed at all.
-/

/-- Code points that are replaced, and what stands for the first of them. -/
structure Replacement where
  first : Nat
  last : Nat
  /-- Only every so many code points from the first on are replaced. -/
  step : Nat
  target : List Nat
  deriving Repr, DecidableEq

namespace Replacement

/-- What stands for a code point, if it is replaced. A range is replaced by a range. -/
def substitute?
    (replacement : Replacement)
    (code : Nat) :
    Option (List Nat) :=
  if replacement.first ≤ code ∧ code ≤ replacement.last ∧
      (code - replacement.first) % replacement.step = 0 then
    some (replacement.target.map (· + (code - replacement.first)))
  else none

/-- A replacement as it is written in the table. -/
def ofText? (text : String) : Option Replacement :=
  match text.splitOn ">" with
  | [source, target] => do
      let target ← (target.splitOn ",").mapM fun code => Text.hexNumber? code.toList
      let (span, step) := match source.splitOn "/" with
        | [span, step] => (span, Text.hexNumber? step.toList)
        | _ => (source, some 1)
      let (first, last) ← Text.CharSet.range? span
      return ⟨first, last, ← step, target⟩
  | _ => none

end Replacement

/-- The replacements. -/
def replacements : List Replacement :=
  replacementLines.flatMap fun line => (line.splitOn " ").filterMap Replacement.ofText?

/-- What stands for a character in a mapped name; none if the character is not allowed. -/
def mapped? (c : Char) : Option (List Char) :=
  if validCharacters.holds c.toNat then some [c]
  else if ignoredCharacters.holds c.toNat then some []
  else (replacements.findSome? (·.substitute? c.toNat)).map (·.map Char.ofNat)

/-- A character may be part of a name as it is. -/
def isValid (c : Char) : Bool :=
  validCharacters.holds c.toNat

end MmsInbox.Domain
