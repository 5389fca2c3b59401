import MmsInbox.Text.Hexadecimal

namespace MmsInbox.Url

/-!
# IPv6 addresses

An IPv6 address is eight pieces of up to four hexadecimal digits with colons between them. Once in an
address two colons may stand for one or more pieces that are zero, and the last two pieces may be written
as an IPv4 address.
-/

/-- The two pieces that an IPv4 address stands for, with four plain decimal numbers. -/
def embeddedIpv4? (text : List Char) : Option (List Nat) := do
  let numbers ← (text.splitOn '.').mapM fun digits =>
    if digits.isEmpty || !digits.all Char.isDigit || (1 < digits.length && digits.head? = some '0')
    then none
    else
      let value := Text.positional 10 (digits.map fun c => c.toNat - '0'.toNat)
      if value < 256 then some value else none
  match numbers with
  | [first, second, third, fourth] => return [first * 256 + second, third * 256 + fourth]
  | _ => none

/-- A piece of an address. -/
def piece? (text : List Char) : Option Nat :=
  if text.length ≤ 4 then Text.hexNumber? text else none

/-- Pieces between colons. Only the last one may be an IPv4 address, and only if the address ends with
it. -/
def pieces? (endsAddress : Bool) : List (List Char) → Option (List Nat)
  | [] => some []
  | [last] =>
      if endsAddress && last.contains '.' then embeddedIpv4? last
      else (piece? last).map ([·])
  | piece :: later => do
      let first ← piece? piece
      return first :: (← pieces? endsAddress later)

/-- The parts of a text before and after its first two colons in a row. -/
def atGap? : List Char → Option (List Char × List Char)
  | ':' :: ':' :: rest => some ([], rest)
  | c :: rest => (atGap? rest).map fun (before, after) => (c :: before, after)
  | [] => none

/-- The parts of a text between colons; the empty text has no parts. -/
def colonParts (text : List Char) : List (List Char) :=
  if text.isEmpty then [] else text.splitOn ':'

/-- Read an IPv6 address. -/
def ipv6? (text : List Char) : Option (List Nat) := do
  match atGap? text with
  | none =>
    let pieces ← pieces? true (colonParts text)
    if pieces.length = 8 then return pieces else none
  | some (before, after) =>
    let front ← pieces? false (colonParts before)
    let back ← pieces? true (colonParts after)
    if front.length + back.length ≤ 7 then
      return front ++ List.replicate (8 - front.length - back.length) 0 ++ back
    else none

/-- The lengths of the runs of zeros that begin at each piece. -/
def zeroRuns : List Nat → List Nat
  | [] => []
  | piece :: later =>
      let runs := zeroRuns later
      (if piece = 0 then runs.headD 0 + 1 else 0) :: runs

/-- A piece as it is written. -/
def pieceText (piece : Nat) : String :=
  String.ofList (Nat.toDigits 16 piece)

/-- Pieces with colons between them. -/
def piecesText (pieces : List Nat) : String :=
  ":".intercalate (pieces.map pieceText)

/-- An IPv6 address as it is written. The first of the longest runs of zeros becomes two colons, unless
there is no run of two. -/
def ipv6Text (pieces : List Nat) : String :=
  let runs := zeroRuns pieces
  let longest := runs.foldl max 0
  if longest < 2 then piecesText pieces
  else
    let start := runs.idxOf longest
    piecesText (pieces.take start) ++ "::" ++ piecesText (pieces.drop (start + longest))

end MmsInbox.Url
