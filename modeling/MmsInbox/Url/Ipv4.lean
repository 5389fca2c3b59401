import MmsInbox.Text.Hexadecimal

namespace MmsInbox.Url

/-!
# IPv4 addresses

A host whose last label is a number is an IPv4 address. Its up to four numbers may be decimal, octal
after a `0` or hexadecimal after `0x`, and the last one fills all bytes that are left.
-/

/-- A number of an address, and `none` inside if it has 33 bits or more. -/
def ipv4Number? (text : List Char) : Option (Option Nat) :=
  let value? := fun (base : Nat) (digits : List Char) =>
    (digits.mapM fun c => (Text.hexDigit? c).filter (· < base)).map fun digits =>
      let value := Text.positional base digits
      if value < 0x100000000 then some value else none
  match text with
  | [] => none
  | '0' :: 'x' :: digits => value? 16 digits
  | '0' :: 'X' :: digits => value? 16 digits
  | '0' :: c :: digits => value? 8 (c :: digits)
  | digits => value? 10 digits

/-- The labels of a host, without an empty one at its end. -/
def addressLabels (host : List Char) : List (List Char) :=
  let labels := host.splitOn '.'
  if 1 < labels.length ∧ labels.getLast? = some [] then labels.dropLast else labels

/-- The host has to be an IPv4 address. -/
def endsInNumber (host : List Char) : Bool :=
  match (addressLabels host).getLast? with
  | none => false
  | some last => (!last.isEmpty && last.all Char.isDigit) || (ipv4Number? last).isSome

/-- The address that numbers stand for. The last number fills all bytes that the others leave. -/
def ipv4OfNumbers? (numbers : List Nat) : Option Nat :=
  match numbers.reverse with
  | [] => none
  | last :: others =>
      let bytes := others.reverse
      let room := 1 <<< (8 * (4 - bytes.length))
      if 3 < bytes.length then none
      else if bytes.any (255 < ·) ∨ room ≤ last then none
      else some (Text.positional 256 bytes * room + last)

/-- Read an IPv4 address. -/
def ipv4? (host : List Char) : Option Nat :=
  ((addressLabels host).mapM fun label => (ipv4Number? label).bind id).bind ipv4OfNumbers?

/-- An IPv4 address as it is written. -/
def ipv4Text (address : Nat) : String :=
  ".".intercalate ([24, 16, 8, 0].map fun shift => toString (address >>> shift % 256))

end MmsInbox.Url
