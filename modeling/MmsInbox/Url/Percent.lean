import MmsInbox.Bytes
import MmsInbox.Text.Hexadecimal

namespace MmsInbox.Url

/-!
# Percent encoding

Characters that may not stand in some part of an address are written as the bytes that encode them, each
after a percent sign in two hexadecimal digits. Which characters these are differs from part to part,
and no character outside ASCII is ever left as it is.
-/

/-- A set of characters that are written in percent encoding. -/
abbrev EncodeSet :=
  Char → Bool

/-- The characters that are encoded everywhere: controls and whatever is not in ASCII. -/
def inControls : EncodeSet :=
  fun c => c.toNat < 0x20 || 0x7F ≤ c.toNat

/-- The characters that are encoded in a fragment. -/
def inFragment : EncodeSet :=
  fun c => inControls c || " \"<>".contains c || c == '\x60'

/-- The characters that are encoded in a query. -/
def inQuery : EncodeSet :=
  fun c => inControls c || " \"#<>".contains c

/-- The characters that are encoded in the query of an address with a special scheme. -/
def inSpecialQuery : EncodeSet :=
  fun c => inQuery c || c == '\x27'

/-- The characters that are encoded in a path. -/
def inPath : EncodeSet :=
  fun c => inFragment c || "#?\x7b\x7d".contains c

/-- The characters that are encoded in a user name and in a password. -/
def inUserInfo : EncodeSet :=
  fun c => inPath c || "/:;=@[\\]^|".contains c

/-- A byte in percent encoding. -/
def encodedByte (byte : UInt8) : List Char :=
  '%' :: ((Text.hexPair byte).toList.map Char.toUpper)

/-- A text in which the characters of a set are in percent encoding. -/
def percentEncode
    (set : EncodeSet)
    (text : List Char) :
    List Char :=
  text.flatMap fun c =>
    if set c then (Bytes.ofText c.toString).flatMap encodedByte else [c]

/-- The bytes that a text with percent encoding stands for. -/
def percentDecode : List Char → Bytes
  | [] => []
  | '%' :: high :: low :: rest =>
      match Text.hexNumber? [high, low] with
      | some byte => .ofNat byte :: percentDecode rest
      | none => Bytes.ofText "%" ++ percentDecode (high :: low :: rest)
  | c :: rest => Bytes.ofText c.toString ++ percentDecode rest

/-- The text that a text with percent encoding stands for, if its bytes encode one. -/
def percentDecodedText? (text : List Char) : Option (List Char) :=
  (Bytes.text? (percentDecode text)).map String.toList

end MmsInbox.Url
