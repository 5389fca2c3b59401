import MmsInbox.Bytes
import MmsInbox.Text.Hexadecimal

namespace MmsInbox.Ron

/-!
# Quoted texts of RON

Texts stand between double quotes with escapes, or between a double quote and another one followed by
as many hash marks as the text is introduced with, without escapes. Characters stand between single
quotes.
-/

/-- What an escape may stand for. -/
inductive EscapeUse where
  /-- A character, which may be given by the bytes that encode it. -/
  | characters
  /-- A single byte. -/
  | bytes
  deriving Repr, DecidableEq

/-- A byte given by two hexadecimal digits. -/
def hexByte? : List Char → Option (Nat × List Char)
  | high :: low :: rest => (Text.hexNumber? [high, low]).map fun byte => (byte, rest)
  | _ => none

/-- The number of bytes that follow a leading byte in the encoding of a character. -/
def followers? (lead : Nat) : Option Nat :=
  if lead < 0x80 then some 0
  else if 0xC0 ≤ lead ∧ lead < 0xE0 then some 1
  else if 0xE0 ≤ lead ∧ lead < 0xF0 then some 2
  else if 0xF0 ≤ lead ∧ lead < 0xF8 then some 3
  else none

/-- Bytes, each written as an escape. -/
def escapedBytes? : (count : Nat) → List Char → Option (List Nat × List Char)
  | 0, text => some ([], text)
  | count + 1, '\\' :: 'x' :: text => do
      let (byte, rest) ← hexByte? text
      let (bytes, rest) ← escapedBytes? count rest
      return (byte :: bytes, rest)
  | _, _ => none

/-- The character that bytes encode. -/
def decoded? (bytes : List Nat) : Option Char :=
  (Bytes.text? (bytes.map UInt8.ofNat)).bind fun text =>
    match text.toList with
    | [c] => some c
    | _ => none

/-- The character with a given code point. -/
def scalar? (code : Nat) : Option Char :=
  if valid : code.isValidChar then some (Char.ofNatAux code valid) else none

/-- Read what follows the backslash of an escape. -/
def escape?
    (use : EscapeUse) :
    List Char → Option (Char × List Char)
  | '\'' :: rest => some ('\'', rest)
  | '"' :: rest => some ('"', rest)
  | '\\' :: rest => some ('\\', rest)
  | 'n' :: rest => some ('\n', rest)
  | 'r' :: rest => some ('\r', rest)
  | 't' :: rest => some ('\t', rest)
  | '0' :: rest => some ('\x00', rest)
  | 'x' :: text => do
      let (byte, rest) ← hexByte? text
      match use with
      | .bytes => return (Char.ofNat byte, rest)
      | .characters =>
        let (more, rest) ← escapedBytes? (← followers? byte) rest
        return (← decoded? (byte :: more), rest)
  | 'u' :: '\x7b' :: text => do
      if use = .bytes then none
      else
        let digits := text.takeWhile (· != '\x7d')
        if 6 < digits.length then none
        else
          let c ← (Text.hexNumber? digits).bind scalar?
          match text.drop digits.length with
          | '\x7d' :: rest => return (c, rest)
          | _ => none
  | _ => none

/-- Read a text up to its closing quote. -/
def escaped?
    (use : EscapeUse) :
    List Char → Option (List Char × List Char)
  | [] => none
  | '"' :: rest => some ([], rest)
  | '\\' :: rest =>
      match escape? use rest with
      | none => none
      | some (c, after) =>
          if after.length ≤ rest.length then
            (escaped? use after).map fun (content, rest) => (c :: content, rest)
          else none
  | c :: rest => (escaped? use rest).map fun (content, after) => (c :: content, after)
  termination_by text => text.length

/-- Read up to a closing mark, taking every character as it stands. -/
def verbatim?
    (closing : List Char) :
    List Char → Option (List Char × List Char)
  | [] => none
  | c :: rest =>
      if closing.isPrefixOf (c :: rest) then some ([], (c :: rest).drop closing.length)
      else (verbatim? closing rest).map fun (content, after) => (c :: content, after)

/-- Read a text in either form. -/
def quoted?
    (use : EscapeUse) :
    List Char → Option (List Char × List Char)
  | '"' :: rest => escaped? use rest
  | 'r' :: text =>
      let marks := text.takeWhile (· == '#')
      match text.drop marks.length with
      | '"' :: rest => verbatim? ('"' :: marks) rest
      | _ => none
  | _ => none

/-- Read a character between single quotes. -/
def character?
    (use : EscapeUse) :
    List Char → Option (Char × List Char)
  | '\'' :: '\\' :: text =>
      match escape? use text with
      | some (c, '\'' :: rest) => some (c, rest)
      | _ => none
  | '\'' :: c :: '\'' :: rest => some (c, rest)
  | _ => none

end MmsInbox.Ron
