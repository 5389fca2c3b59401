namespace MmsInbox.Domain.Punycode

/-!
# Punycode

Punycode writes a text with the letters, digits and hyphens of ASCII. The ASCII characters come first,
and behind a hyphen the others in the order of their code points, each as the number of steps from the
one before. Numbers are written in base 36 with digits whose thresholds adapt to the numbers that came
before.
-/

/-- The character of a digit: 26 letters and then ten figures. -/
def digitChar (digit : Nat) : Char :=
  Char.ofNat (if digit < 26 then 'a'.toNat + digit else '0'.toNat + (digit - 26))

/-- The value of a digit. -/
def digitValue? (c : Char) : Option Nat :=
  if 'a' ≤ c ∧ c ≤ 'z' then some (c.toNat - 'a'.toNat)
  else if 'A' ≤ c ∧ c ≤ 'Z' then some (c.toNat - 'A'.toNat)
  else if '0' ≤ c ∧ c ≤ '9' then some (c.toNat - '0'.toNat + 26)
  else none

/-- The threshold of the digit at a position. -/
def threshold (bias position : Nat) : Nat :=
  min 26 (max 1 (36 * (position + 1) - bias))

/-- Divide by 35 until at most 455 is left, and count the divisions. -/
def scaled (delta : Nat) : Nat × Nat :=
  if 455 < delta then
    let (left, count) := scaled (delta / 35)
    (left, count + 1)
  else (delta, 0)
  termination_by delta
  decreasing_by omega

/-- The bias after a number of steps, when so many characters have been written. -/
def adapted (delta count : Nat) (isFirst : Bool) : Nat :=
  let damped := if isFirst then delta / 700 else delta / 2
  let (left, divisions) := scaled (damped + damped / count)
  36 * divisions + 36 * left / (left + 38)

/-- The digits of a number. -/
def digits (bias position number : Nat) : List Char :=
  let limit := threshold bias position
  if number < limit then [digitChar number]
  else
    digitChar (limit + (number - limit) % (36 - limit)) ::
      digits bias (position + 1) ((number - limit) / (36 - limit))
  termination_by number
  decreasing_by
    have low : 1 ≤ threshold bias position := by
      unfold threshold
      omega
    have quotient : (number - threshold bias position) / (36 - threshold bias position) ≤
        number - threshold bias position := Nat.div_le_self ..
    omega

/-- The state of a writer. -/
structure Writer where
  written : List Char
  delta : Nat
  bias : Nat
  /-- The number of characters that have been written. -/
  count : Nat

/-- Pass a character of the text while the characters with code point `current` are being written. -/
def Writer.pass
    (basic current : Nat)
    (writer : Writer)
    (c : Char) :
    Writer :=
  if c.toNat < current then { writer with delta := writer.delta + 1 }
  else if c.toNat = current then
    { written := writer.written ++ digits writer.bias 0 writer.delta
      delta := 0
      bias := adapted writer.delta (writer.count + 1) (writer.count == basic)
      count := writer.count + 1 }
  else writer

/-- Write the characters with the given code points, in ascending order. -/
def writeAll
    (text : List Char)
    (basic : Nat) :
    (codes : List Nat) → (next : Nat) → Writer → Writer
  | [], _, writer => writer
  | code :: later, next, writer =>
      let ready := { writer with delta := writer.delta + (code - next) * (writer.count + 1) }
      let passed := text.foldl (Writer.pass basic code) ready
      writeAll text basic later (code + 1) { passed with delta := passed.delta + 1 }

/-- Write a text. -/
def encode (text : List Char) : List Char :=
  let basic := text.filter (·.toNat < 128)
  let codes := ((text.map Char.toNat).filter (128 ≤ ·)).mergeSort.eraseDups
  let start := if basic.isEmpty then [] else basic ++ ['-']
  (writeAll text basic.length codes 128 ⟨start, 0, 72, basic.length⟩).written

/-- Read a number, and tell what follows it. -/
def number? (bias : Nat) :
    (position weight value : Nat) → List Char → Option (Nat × List Char)
  | _, _, _, [] => none
  | position, weight, value, c :: rest =>
      match digitValue? c with
      | none => none
      | some digit =>
          let limit := threshold bias position
          let sum := value + digit * weight
          if digit < limit then some (sum, rest)
          else number? bias (position + 1) (weight * (36 - limit)) sum rest

/-- Reading a number uses up characters. -/
theorem length_lt_of_number?
    {bias position weight value number : Nat}
    {text rest : List Char}
    (read : number? bias position weight value text = some (number, rest)) :
    rest.length < text.length := by
  induction text generalizing position weight value with
  | nil => simp [number?] at read
  | cons c later inductionHypothesis =>
      simp only [number?] at read
      split at read
      · simp at read
      · split at read
        · simp only [Option.some.injEq, Prod.mk.injEq] at read
          simp [← read.2]
        · have shorter := inductionHypothesis read
          simp only [List.length_cons]
          omega

-- `read` is used by `decreasing_by`, where the linter does not look.
set_option linter.unusedVariables false in
/-- Read the characters behind the hyphen into a text. -/
def readAll
    (text : List Nat)
    (index bias code : Nat)
    (isFirst : Bool)
    (rest : List Char) :
    Option (List Nat) :=
  match rest with
  | [] => some text
  | c :: more =>
      match read : number? bias 0 1 index (c :: more) with
      | none => none
      | some (number, later) =>
          let count := text.length + 1
          let next := code + number / count
          let place := number % count
          if next < 0x110000 then
            readAll (text.take place ++ next :: text.drop place) (place + 1)
              (adapted (number - index) count isFirst) next false later
          else none
  termination_by rest.length
  decreasing_by exact length_lt_of_number? read

/-- Read a text. The hyphen behind the ASCII characters is left out if there are none. -/
def decode? (text : List Char) : Option (List Char) :=
  let extended := (text.reverse.takeWhile (· != '-')).reverse
  let basic := text.take (text.length - extended.length - 1)
  if basic.isEmpty ∧ text.head? = some '-' then none
  else (readAll (basic.map Char.toNat) 0 72 128 true extended).bind fun codes =>
    codes.mapM fun code =>
      if valid : code.isValidChar then some (Char.ofNatAux code valid) else none

end MmsInbox.Domain.Punycode
