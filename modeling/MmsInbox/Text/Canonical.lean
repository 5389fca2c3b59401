import MmsInbox.Text.CanonicalTable

namespace MmsInbox.Text

/-!
# Canonical composition

Two texts are canonically equivalent if they differ only in whether marks are joined with the characters
they belong to, and in the order of marks that do not meet. The composed text is the one in which marks
are ordered by their classes and joined as far as possible.

Syllables of Hangul are composed by arithmetic, all other characters by a table.
-/

/-- The combining class of a character. -/
def combiningClass (c : Char) : Nat :=
  ((combiningClasses.find? fun (_, set) => set.holds c.toNat).map (·.1)).getD 0

/-- A composed character and the characters it is made of. -/
def decomposition? (text : String) : Option (Char × List Char) :=
  match text.splitOn ">" with
  | [composed, parts] => do
      let composed ← hexNumber? composed.toList
      let parts ← (parts.splitOn ",").mapM fun code => hexNumber? code.toList
      return (Char.ofNat composed, parts.map Char.ofNat)
  | _ => none

/-- The composed characters and the characters they are made of. -/
def decompositions : List (Char × List Char) :=
  decompositionLines.flatMap fun line => (line.splitOn " ").filterMap decomposition?

/-- The first syllable of Hangul. -/
def hangulBase : Nat := 0xAC00

/-- The number of syllables of Hangul. -/
def hangulCount : Nat := 11172

/-- The leading consonant, the vowel and, if there is one, the trailing consonant of a syllable. -/
def hangulParts? (c : Char) : Option (List Char) :=
  if hangulBase ≤ c.toNat ∧ c.toNat < hangulBase + hangulCount then
    let index := c.toNat - hangulBase
    let start := [Char.ofNat (0x1100 + index / 588), Char.ofNat (0x1161 + index % 588 / 28)]
    some (if index % 28 = 0 then start else start ++ [Char.ofNat (0x11A7 + index % 28)])
  else none

/-- The syllable of Hangul that two parts make. -/
def hangulSyllable? (first second : Char) : Option Char :=
  let lead := first.toNat
  let next := second.toNat
  if 0x1100 ≤ lead ∧ lead < 0x1113 ∧ 0x1161 ≤ next ∧ next < 0x1176 then
    some (Char.ofNat (hangulBase + ((lead - 0x1100) * 21 + (next - 0x1161)) * 28))
  else if hangulBase ≤ lead ∧ lead < hangulBase + hangulCount ∧ (lead - hangulBase) % 28 = 0 ∧
      0x11A8 ≤ next ∧ next < 0x11C3 then
    some (Char.ofNat (lead + (next - 0x11A7)))
  else none

/-- The characters that a character is made of. -/
def decomposed (c : Char) : List Char :=
  ((decompositions.lookup c) <|> hangulParts? c).getD [c]

/-- The character that two characters make. -/
def joined? (first second : Char) : Option Char :=
  hangulSyllable? first second <|>
    let parts := decomposed first ++ [second]
    (decompositions.find? (·.2 == parts)).map (·.1)

/-- Put a character in front of ordered ones, behind the marks of a lower class. -/
def place (c : Char) (later : List Char) : List Char :=
  let own := combiningClass c
  let lower := later.takeWhile fun other =>
    decide (combiningClass other ≠ 0) && combiningClass other < own
  lower ++ c :: later.drop lower.length

/-- Order the marks that follow each other by their classes. -/
def ordered (text : List Char) : List Char :=
  text.foldr place []

/-- A text that is being composed. -/
structure Composition where
  done : List Char
  /-- The last character that marks can join. -/
  base : Option Char
  /-- The marks behind it that did not join. -/
  left : List Char

namespace Composition

/-- The text so far. -/
def text (composition : Composition) : List Char :=
  composition.done ++ composition.base.toList ++ composition.left

/-- The next character joins the base, unless a mark of the same or a greater class stands between. -/
def add (composition : Composition) (c : Char) : Composition :=
  let own := combiningClass c
  let reaches := (composition.left.getLast?.map combiningClass).all (· < own)
  let union := composition.base.bind fun base => if reaches then joined? base c else none
  match union with
  | some union => { composition with base := some union }
  | none =>
      if own = 0 then ⟨composition.text, some c, []⟩
      else { composition with left := composition.left ++ [c] }

end Composition

/-- The composed text. -/
def composed (text : List Char) : List Char :=
  ((ordered (text.flatMap decomposed)).foldl Composition.add ⟨[], none, []⟩).text

end MmsInbox.Text
