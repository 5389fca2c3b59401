namespace MmsInbox.Ron

/-!
# Blanks and comments of RON

Between the tokens of RON there may be blanks, comments that end with their line, and comments between
`/*` and `*/`, which nest.
-/

/-- The character has the Unicode property `Pattern_White_Space`. -/
def isBlank (c : Char) : Bool :=
  let code := c.toNat
  (9 ≤ code && code ≤ 13) || code == 0x20 || code == 0x85 || code == 0x200E ||
    code == 0x200F || code == 0x2028 || code == 0x2029

/-- Where blanks are being skipped. -/
inductive BlankPlace where
  | outside
  | inLine
  /-- In a comment with `outer` comments around it. -/
  | inBlock (outer : Nat)

/-- What follows blanks and comments; none if a comment does not end. -/
def skipBlanks : BlankPlace → List Char → Option (List Char)
  | .inBlock _, [] => none
  | _, [] => some []
  | .inLine, c :: rest => if c = '\n' then skipBlanks .outside rest else skipBlanks .inLine rest
  | .inBlock outer, '/' :: '*' :: rest => skipBlanks (.inBlock (outer + 1)) rest
  | .inBlock 0, '*' :: '/' :: rest => skipBlanks .outside rest
  | .inBlock (outer + 1), '*' :: '/' :: rest => skipBlanks (.inBlock outer) rest
  | .inBlock outer, _ :: rest => skipBlanks (.inBlock outer) rest
  | .outside, '/' :: '/' :: rest => skipBlanks .inLine rest
  | .outside, '/' :: '*' :: rest => skipBlanks (.inBlock 0) rest
  | .outside, c :: rest => if isBlank c then skipBlanks .outside rest else some (c :: rest)

end MmsInbox.Ron
