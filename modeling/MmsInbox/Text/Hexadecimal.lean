namespace MmsInbox.Text

/-!
# Hexadecimal numbers

Numbers in base 16. The engine names protocol bytes in messages by two lower-case digits after `0x`;
what it reads may be in either case.
-/

/-- The two lower-case hexadecimal digits of a byte. -/
def hexPair (byte : UInt8) : String :=
  String.ofList
    [Nat.digitChar (byte.toNat / 16), Nat.digitChar (byte.toNat % 16)]

/-- A byte as it is named in messages, such as `0x0f`. -/
def hexByte (byte : UInt8) : String :=
  "0x" ++ hexPair byte

/-- The value of a hexadecimal digit in either case. -/
def hexDigit? (c : Char) : Option Nat :=
  if '0' ≤ c ∧ c ≤ '9' then some (c.toNat - '0'.toNat)
  else if 'a' ≤ c ∧ c ≤ 'f' then some (c.toNat - 'a'.toNat + 10)
  else if 'A' ≤ c ∧ c ≤ 'F' then some (c.toNat - 'A'.toNat + 10)
  else none

/-- The number that digits of a base stand for, the most significant digit first. -/
def positional (base : Nat) (digits : List Nat) : Nat :=
  digits.foldl (fun value digit => value * base + digit) (0 : Nat)

/-- The number that hexadecimal digits stand for; none if there is no digit or another character. -/
def hexNumber? (digits : List Char) : Option Nat :=
  if digits.isEmpty then none
  else (digits.mapM hexDigit?).map (positional 16)

end MmsInbox.Text
