namespace MmsInbox

/-!
# Bytes

Payloads, bodies and the contents of files are rows of bytes. Where text is meant, it is UTF-8.
-/

/-- A row of bytes. -/
abbrev Bytes :=
  List UInt8

namespace Bytes

/-- The bytes of a text. -/
def ofText (text : String) : Bytes :=
  text.toUTF8.data.toList

/-- The text that bytes stand for, unless they are not UTF-8. -/
def text? (bytes : Bytes) : Option String :=
  String.fromUTF8? ⟨bytes.toArray⟩

end Bytes

end MmsInbox
