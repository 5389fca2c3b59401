import MmsInbox.Domain.Direction
import MmsInbox.Domain.Joining
import MmsInbox.Domain.Mapping
import MmsInbox.Domain.Marks
import MmsInbox.Domain.Punycode

namespace MmsInbox.Domain

/-!
# Domain names

The form in which a domain name is used is in ASCII: the name is mapped, composed and split into labels,
and a label with other characters is written in Punycode behind `xn--`. Hyphens and lengths are not
checked.
-/

/-- What a label that is written in Punycode begins with. -/
def encodedMark : List Char :=
  ['x', 'n', '-', '-']

/-- The ASCII characters that no name may hold. -/
def isForbidden (c : Char) : Bool :=
  c.toNat ≤ 0x20 || c.toNat == 0x7F || "%#/:<>?@[\\]^|".contains c

/-- The text is in ASCII. -/
def isAscii (text : List Char) : Bool :=
  text.all (·.toNat < 128)

/-- The labels of a name. -/
def labels (name : List Char) : List (List Char) :=
  name.splitOn '.'

/-- The characters of a label, if what stands behind the mark of an encoded label can be decoded. An
encoded label has to hold something that is not in ASCII, and nothing that would have been mapped. -/
def decodedLabel? (label : List Char) : Option (List Char) :=
  if encodedMark.isPrefixOf label then
    match Punycode.decode? (label.drop encodedMark.length) with
    | some text =>
        if isAscii text || !text.all isValid || Text.composed text != text then none
        else some text
    | none => none
  else some label

/-- The label may be part of a name. -/
def isLabel (label : List Char) : Bool :=
  !label.head?.any (marks.holds ·.toNat) && !label.any isForbidden &&
    joinersAllowed [] label

/-- A label as it is written in ASCII. -/
def asciiLabel (label : List Char) : List Char :=
  if isAscii label then label else encodedMark ++ Punycode.encode label

/-- A name in the form in which it is used; none if it is no domain name. -/
def ascii? (name : List Char) : Option (List Char) := do
  let mapped ← name.mapM mapped?
  let decoded ← (labels (Text.composed mapped.flatten)).mapM decodedLabel?
  let bidirectional := decoded.any isBidirectional
  if decoded.all fun label => isLabel label && (!bidirectional || keepsDirection label) then
    return (['.'] : List Char).intercalate (decoded.map asciiLabel)
  else none

end MmsInbox.Domain
