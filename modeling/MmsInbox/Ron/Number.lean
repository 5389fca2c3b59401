import MmsInbox.Ron.Value
import MmsInbox.Text.Hexadecimal
import MmsInbox.Text.Identifier

namespace MmsInbox.Ron

/-!
# Numbers of RON

A whole number has an optional sign, digits of base 2, 8, 10 or 16 with underscores between or after
them, and an optional suffix that names its kind. What has a fraction or an exponent, or does not fit
the widest kind, is a fraction.
-/

/-- The kinds of whole numbers that a suffix can name. -/
def kinds : List IntegerKind :=
  [8, 16, 32, 64, 128].flatMap fun bits => [⟨true, bits⟩, ⟨false, bits⟩]

/-- The suffix that names a kind. -/
def suffix (kind : IntegerKind) : List Char :=
  (if kind.signed then 'i' else 'u') :: (toString kind.bits).toList

/-- What follows a word, if the text begins with it and the word ends there. -/
def afterWord?
    (word text : List Char) :
    Option (List Char) :=
  if word.isPrefixOf text then
    let rest := text.drop word.length
    if rest.head?.any Text.continuesName then none else some rest
  else none

/-- A sign, and whether it is a minus. -/
def signed (text : List Char) : Bool × List Char :=
  match text with
  | '+' :: rest => (false, rest)
  | '-' :: rest => (true, rest)
  | _ => (false, text)

/-- The base of a whole number and its digits. -/
def base (text : List Char) : Nat × List Char :=
  match text with
  | '0' :: 'x' :: rest => (16, rest)
  | '0' :: 'b' :: rest => (2, rest)
  | '0' :: 'o' :: rest => (8, rest)
  | _ => (10, text)

/-- The character can stand in a whole number of some base. -/
def isDigitLike (c : Char) : Bool :=
  (Text.hexDigit? c).isSome || c == '_'

/-- The character can stand in a fraction. -/
def isFractionLike (c : Char) : Bool :=
  c.isDigit || c == '.' || c == 'e' || c == 'E' || c == '+' || c == '-' || c == '_'

/-- The number that digits with underscores stand for. -/
def digitsValue?
    (base : Nat)
    (digits : List Char) :
    Option Nat :=
  if digits.head?.all (· == '_') then none
  else
    ((digits.filter (· != '_')).mapM fun c => (Text.hexDigit? c).filter (· < base)).map
      (Text.positional base)

/-- Read a whole number. -/
def integer? (text : List Char) : Option (Value × List Char) := do
  let (negative, unsigned) := signed text
  let (base, body) := base unsigned
  let magnitude ← digitsValue? base (body.takeWhile isDigitLike)
  let value : Int := if negative then -magnitude else magnitude
  let rest := body.dropWhile isDigitLike
  let named := kinds.findSome? fun kind => (afterWord? (suffix kind) rest).map fun after =>
    (kind, after)
  match named with
  | some (kind, after) => if kind.holds value then some (.integer value kind, after) else none
  | none => if kinds.any (·.holds value) then some (.integer value none, rest) else none

/-- A decimal number: digits, a point and more digits, of which one side may be empty, and an exponent
with an optional sign. -/
def isDecimal (text : List Char) : Bool :=
  let unsigned := (signed text).2
  let whole := unsigned.takeWhile Char.isDigit
  let afterWhole := unsigned.dropWhile Char.isDigit
  let (places, afterPlaces) := match afterWhole with
    | '.' :: rest => (rest.takeWhile Char.isDigit, rest.dropWhile Char.isDigit)
    | _ => ([], afterWhole)
  let exponent := match afterPlaces with
    | [] => true
    | e :: rest =>
        let digits := (signed rest).2
        (e == 'e' || e == 'E') && !digits.isEmpty && digits.all Char.isDigit
  !(whole ++ places).isEmpty && exponent

/-- The underscores of a fraction stand only after digits and exponent marks. -/
def underscoresAllowed : (allowed : Bool) → List Char → Bool
  | _, [] => true
  | allowed, '_' :: rest => allowed && underscoresAllowed allowed rest
  | allowed, c :: rest =>
      underscoresAllowed
        (if c == '.' then false else allowed || c.isDigit || c == 'e' || c == 'E') rest

/-- The words that stand for numbers that are not finite. -/
def unboundedWords : List String :=
  ["inf", "+inf", "-inf", "NaN", "+NaN", "-NaN"]

/-- The suffixes that name a kind of fraction. -/
def fractionSuffixes : List String :=
  ["", "f32", "f64"]

/-- What follows a number that is not finite. -/
def afterUnbounded? (text : List Char) : Option (List Char) :=
  unboundedWords.findSome? fun word =>
    fractionSuffixes.findSome? fun kind => afterWord? (word ++ kind).toList text

/-- What follows a fraction. -/
def afterFraction? (text : List Char) : Option (List Char) :=
  match afterUnbounded? text with
  | some rest => some rest
  | none =>
      let written := text.takeWhile isFractionLike
      let rest := text.dropWhile isFractionLike
      if underscoresAllowed false written && isDecimal (written.filter (· != '_')) then
        some ((["f32", "f64"].findSome? fun kind => afterWord? kind.toList rest).getD rest)
      else none

/-- A number is written as a fraction if more of its characters can stand in a fraction than in a whole
number. -/
def isWrittenAsFraction (text : List Char) : Bool :=
  let unsigned := (signed text).2
  (unsigned.takeWhile isDigitLike).length < (unsigned.takeWhile isFractionLike).length

/-- Read a number. -/
def number? (text : List Char) : Option (Value × List Char) :=
  let fraction := (afterFraction? text).map fun rest => (Value.fraction, rest)
  if isWrittenAsFraction text then fraction else integer? text <|> fraction

end MmsInbox.Ron
