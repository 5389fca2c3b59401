import MmsInbox.MessageId.Basic

namespace MmsInbox.MessageId

/-!
# The text of a message identifier

An identifier is written as 26 digits of base 32, the most significant first. The digits are those of
the alphabet that leaves out the letters I, L, O and U. Reading accepts either case. Since 26 digits
hold 130 bits, the two uppermost are dropped without notice.
-/

/-- The 32 digits in the order of their values. -/
def alphabet : Vector Char 32 :=
  #v['0', '1', '2', '3', '4', '5', '6', '7', '8', '9', 'A', 'B', 'C', 'D', 'E', 'F',
     'G', 'H', 'J', 'K', 'M', 'N', 'P', 'Q', 'R', 'S', 'T', 'V', 'W', 'X', 'Y', 'Z']

/-- The character of a digit. -/
def digitChar (digit : Fin 32) : Char :=
  alphabet[digit]

/-- The value of a digit in either case. -/
def digitValue? (c : Char) : Option (Fin 32) :=
  alphabet.finIdxOf? c.toUpper

/-- The last `count` digits of a number in base 32, the most significant first. -/
def lastDigits (number : Nat) : (count : Nat) → List (Fin 32)
  | 0 => []
  | count + 1 => lastDigits (number / 32) count ++ [Fin.ofNat 32 number]

/-- The number that digits stand for. -/
def digitsValue (digits : List (Fin 32)) : Nat :=
  digits.foldl (fun value digit => value * 32 + digit.val) (0 : Nat)

/-- The 26 digits of an identifier. -/
def text (id : MessageId) : String :=
  String.ofList ((lastDigits id.value 26).map digitChar)

/-- Why a text is no identifier. -/
inductive TextError where
  | length
  | character
  deriving Repr, DecidableEq

namespace TextError

/-- The error as it is reported. -/
def message : TextError → String
  | .length => "invalid length"
  | .character => "invalid character"

end TextError

/-- Read an identifier. The length in bytes is checked before the characters are looked at. -/
def parse (text : String) : Except TextError MessageId :=
  if text.utf8ByteSize = 26 then
    match text.toList.mapM digitValue? with
    | some digits => .ok (ofNat (digitsValue digits))
    | none => .error .character
  else .error .length

end MmsInbox.MessageId
