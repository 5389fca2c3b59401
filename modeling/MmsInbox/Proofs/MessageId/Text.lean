import MmsInbox.Proofs.MessageId.Digits

namespace MmsInbox.MessageId

/-!
# Reading and writing identifiers

Every identifier is written in 26 upper-case digits of base 32, from which it can be read again. The texts
that can be read are those of 26 bytes that are digits in either case, and what is read from one is written as
that text in upper case, with the first digit modulo 8. So texts that differ in nothing else stand for the
same identifier (`MessageId.text_faithful`).
-/

variable
  {id : MessageId}
  {text other : String}
  {chars : List Char}

theorem toList_text (id : MessageId) :
    id.text.toList = (lastDigits id.value 26).map digitChar :=
  String.toList_ofList

/-- Characters are read as the digits whose characters they are in upper case. -/
theorem mapM_digitValue?_eq_some_iff {digits : List (Fin 32)} :
    chars.mapM digitValue? = some digits ↔ chars.map Char.toUpper = digits.map digitChar := by
  induction chars generalizing digits with
  | nil => cases digits <;> simp
  | cons c chars inductionHypothesis =>
      cases digits with
      | nil => simp [Option.bind_eq_some_iff]
      | cons digit digits =>
          simp only [List.mapM_cons, Option.bind_eq_bind, Option.bind_eq_some_iff,
            digitValue?_eq_some_iff, inductionHypothesis, List.map_cons, List.cons.injEq]
          constructor
          · rintro ⟨_, first, _, later, same⟩
            obtain ⟨rfl, rfl⟩ := List.cons.inj (Option.some.inj same)
            exact ⟨first, later⟩
          · rintro ⟨first, later⟩
            exact ⟨digit, first, digits, later, rfl⟩

/-- Characters are digits if in upper case they are the characters of digits. -/
theorem forall_isDigit_iff :
    (∀ c ∈ chars, IsDigit c) ↔
      ∃ digits : List (Fin 32), chars.map Char.toUpper = digits.map digitChar := by
  induction chars with
  | nil => exact iff_of_true nofun ⟨[], rfl⟩
  | cons c chars inductionHypothesis =>
      rw [List.forall_mem_cons, inductionHypothesis, isDigit_iff]
      constructor
      · rintro ⟨⟨digit, first⟩, digits, later⟩
        exact ⟨digit :: digits, by rw [List.map_cons, List.map_cons, first, later]⟩
      · rintro ⟨digits, same⟩
        cases digits with
        | nil => cases same
        | cons digit digits =>
            obtain ⟨first, later⟩ := List.cons.inj same
            exact ⟨⟨digit, first⟩, digits, later⟩

/-- A digit takes one byte. -/
theorem IsDigit.utf8Size_eq
    {c : Char}
    (isDigit : IsDigit c) :
    c.utf8Size = 1 := by
  rw [Char.utf8Size_eq_one_iff]
  exact Nat.le_of_lt_succ (toNat_lt_of_isAlphanum isDigit.1)

theorem utf8ByteSize_of_digits (digits : ∀ c ∈ chars, IsDigit c) :
    (String.ofList chars).utf8ByteSize = chars.length := by
  induction chars with
  | nil => rfl
  | cons c chars inductionHypothesis =>
      obtain ⟨first, later⟩ := List.forall_mem_cons.mp digits
      rw [String.ofList_cons, String.utf8ByteSize_append, String.utf8ByteSize_singleton,
        first.utf8Size_eq, inductionHypothesis later, List.length_cons, Nat.add_comm]

/-- The text can be read: it has 26 bytes, and all its characters are digits. -/
def Legible (text : String) : Prop :=
  text.utf8ByteSize = 26 ∧ ∀ c ∈ text.toList, IsDigit c

/-- What is read from a text. -/
theorem parse_eq_ok_iff :
    parse text = .ok id ↔
      text.utf8ByteSize = 26 ∧
        ∃ digits, text.toList.map Char.toUpper = digits.map digitChar ∧
          id = ofNat (digitsValue digits) := by
  unfold parse
  split
  · rename_i size
    simp only [size, true_and, ← mapM_digitValue?_eq_some_iff]
    cases text.toList.mapM digitValue? with
    | none => simp
    | some digits => simp [eq_comm]
  · rename_i size
    simp [size]

/-- Whether anything is read from a text. -/
theorem exists_parse_eq_ok_iff : (∃ id, parse text = .ok id) ↔ Legible text := by
  simp only [parse_eq_ok_iff, Legible, forall_isDigit_iff]
  constructor
  · rintro ⟨_, size, digits, same, _⟩
    exact ⟨size, digits, same⟩
  · rintro ⟨size, digits, same⟩
    exact ⟨_, size, digits, same, rfl⟩

/-- The length is checked first. -/
theorem parse_eq_length_iff : parse text = .error .length ↔ text.utf8ByteSize ≠ 26 := by
  unfold parse
  split
  · rename_i size
    cases text.toList.mapM digitValue? <;> simp [size]
  · rename_i size
    simp [size]

/-- A text of the right length is refused for its characters. -/
theorem parse_eq_character_iff :
    parse text = .error .character ↔ text.utf8ByteSize = 26 ∧ ∃ c ∈ text.toList, ¬IsDigit c := by
  have readable : (∃ id, parse text = .ok id) ↔ Legible text := exists_parse_eq_ok_iff
  rw [Legible] at readable
  cases read : parse text with
  | ok id =>
      obtain ⟨_, areDigits⟩ := readable.mp ⟨id, read⟩
      refine iff_of_false nofun ?_
      rintro ⟨_, c, member, noDigit⟩
      exact noDigit (areDigits c member)
  | error error =>
      cases error with
      | length =>
          refine iff_of_false nofun fun ⟨size, _⟩ => ?_
          exact parse_eq_length_iff.mp read size
      | character =>
          have size : text.utf8ByteSize = 26 := by
            by_contra otherSize
            rw [parse_eq_length_iff.mpr otherSize] at read
            cases read
          refine iff_of_true rfl ⟨size, ?_⟩
          by_contra none
          have areDigits : ∀ c ∈ text.toList, IsDigit c := by simpa using none
          obtain ⟨id, same⟩ := readable.mpr ⟨size, areDigits⟩
          rw [same] at read
          cases read

/-- The digits of a text that can be read, the first one apart. -/
theorem Legible.shape (legible : Legible text) :
    ∃ (first : Char) (later : List Char) (digit : Fin 32) (digits : List (Fin 32)),
      text.toList = first :: later ∧ first.toUpper = digitChar digit ∧
        later.map Char.toUpper = digits.map digitChar ∧ digits.length = 25 := by
  obtain ⟨size, areDigits⟩ := legible
  have many := utf8ByteSize_of_digits areDigits
  rw [String.ofList_toList, size] at many
  obtain ⟨digits, same⟩ := forall_isDigit_iff.mp areDigits
  have asMany : digits.length = 26 := by
    rw [many, ← List.length_map Char.toUpper, same, List.length_map]
  obtain ⟨first, later, shape⟩ := List.exists_cons_of_length_eq_add_one many.symm
  obtain ⟨digit, others, rfl⟩ := List.exists_cons_of_length_eq_add_one asMany
  rw [shape] at same
  obtain ⟨head, tail⟩ := List.cons.inj same
  exact ⟨first, later, digit, others, shape, head, tail, Nat.succ.inj asMany⟩

/-- A digit modulo 8. -/
def lowBits (digit : Fin 32) : Fin 32 :=
  ⟨digit % 8, Nat.lt_of_le_of_lt (Nat.mod_le digit 8) digit.isLt⟩

/-- Of the first of 26 digits, an identifier keeps what is left modulo 8. -/
theorem lastDigits_ofNat
    (digit : Fin 32)
    {digits : List (Fin 32)}
    (many : digits.length = 25) :
    lastDigits (ofNat (digitsValue (digit :: digits))).value 26 =
      lowBits digit :: digits := by
  have bound : digitsValue digits < 32 ^ 25 := many ▸ digitsValue_lt digits
  have small : digit.val % 8 < 8 := Nat.mod_lt _ (by decide)
  have kept :
      (ofNat (digitsValue (digit :: digits))).value.val =
        digitsValue (lowBits digit :: digits) := by
    rw [ofNat, Fin.val_ofNat, digitsValue_cons, digitsValue_cons, many, lowBits]
    generalize digitsValue digits = rest at bound ⊢
    simp only [idCount]
    omega
  rw [kept]
  have asMany : (lowBits digit :: digits).length = 26 := congrArg Nat.succ many
  exact asMany ▸ lastDigits_digitsValue _

/-- The first digit of an identifier is at most 7, since identifiers have only 128 bits. -/
theorem lastDigits_value (id : MessageId) :
    ∃ (digit : Fin 32) (digits : List (Fin 32)),
      lastDigits id.value 26 = digit :: digits ∧ digit < 8 := by
  obtain ⟨digit, digits, shape⟩ :=
    List.exists_cons_of_length_eq_add_one (length_lastDigits id.value 26)
  have many : digits.length = 25 := by
    have asMany := length_lastDigits id.value 26
    rw [shape] at asMany
    exact Nat.succ.inj asMany
  -- The first digit counts 32 ^ 25, an eighth of what an identifier may come to.
  have total := digitsValue_lastDigits id.value 26
  rw [shape, digitsValue_cons, many] at total
  have small := id.value.isLt
  refine ⟨digit, digits, shape, ?_⟩
  rw [Fin.lt_def]
  simp only [idCount] at small
  omega

theorem isDigit_digitChar (digit : Fin 32) : IsDigit (digitChar digit) :=
  isDigit_iff.mpr ⟨digit, toUpper_digitChar digit⟩

/-- An identifier is written with digits in upper case. -/
theorem digits_of_mem_text
    {c : Char}
    (member : c ∈ id.text.toList) :
    IsDigit c ∧ c.toUpper = c := by
  rw [toList_text] at member
  obtain ⟨digit, _, rfl⟩ := List.mem_map.mp member
  exact ⟨isDigit_digitChar digit, toUpper_digitChar digit⟩

theorem length_text (id : MessageId) : id.text.length = 26 := by
  rw [← String.length_toList, toList_text, List.length_map, length_lastDigits]

/-- The positions of its characters in the alphabet are the digits of an identifier in base 32. -/
theorem ofDigits_text (id : MessageId) :
    Nat.ofDigits 32 (id.text.toList.reverse.map fun c => alphabet.toList.idxOf c) =
      id.value.val := by
  have positions : (fun c => alphabet.toList.idxOf c) ∘ digitChar = Fin.val :=
    funext fun digit => by decide +revert +kernel
  rw [toList_text, ← List.map_reverse, List.map_map, positions, ← digitsValue_eq_ofDigits,
    digitsValue_lastDigits]
  exact Nat.mod_eq_of_lt (Nat.lt_of_lt_of_le id.value.isLt (by decide))

/-- What is written is read again. -/
theorem parse_text (id : MessageId) : parse id.text = .ok id := by
  have areDigits : ∀ c ∈ id.text.toList, IsDigit c := fun _ member => (digits_of_mem_text member).1
  have size := utf8ByteSize_of_digits areDigits
  rw [String.ofList_toList, String.length_toList, length_text] at size
  refine parse_eq_ok_iff.mpr ⟨size, lastDigits id.value 26, ?_, ?_⟩
  · rw [toList_text, List.map_map]
    exact List.map_congr_left fun digit _ => toUpper_digitChar digit
  · rw [digitsValue_lastDigits, Nat.mod_eq_of_lt (Nat.lt_of_lt_of_le id.value.isLt (by decide)),
      ofNat, Fin.ofNat_val_eq_self]

/-- The character of a digit modulo 8. -/
def octal (c : Char) : Char :=
  (digitValue? c).elim c fun digit => digitChar (lowBits digit)

/-- A text in upper case, with its first digit modulo 8. -/
def normalForm (text : String) : String :=
  match text.toList with
  | [] => ""
  | first :: later => String.ofList (octal first :: later.map Char.toUpper)

/-- Texts have the same normal form if they agree up to case, and modulo 8 in the first digit. -/
theorem normalForm_eq_iff :
    normalForm text = normalForm other ↔
      text.toList.head?.map octal = other.toList.head?.map octal ∧
        text.toList.tail.map Char.toUpper = other.toList.tail.map Char.toUpper := by
  unfold normalForm
  cases text.toList with
  | nil =>
      cases other.toList with
      | nil => simp
      | cons otherFirst otherLater => simp [← String.toList_inj]
  | cons first later =>
      cases other.toList with
      | nil => simp [← String.toList_inj]
      | cons otherFirst otherLater => simp [← String.toList_inj]

/-- What is read from a text is written in its normal form. -/
theorem text_eq_normalForm (read : parse text = .ok id) : id.text = normalForm text := by
  obtain ⟨first, later, digit, digits, shape, head, tail, many⟩ :=
    (exists_parse_eq_ok_iff.mp ⟨id, read⟩).shape
  obtain ⟨_, found, same, rfl⟩ := parse_eq_ok_iff.mp read
  have all : found = digit :: digits := by
    rw [shape, List.map_cons, head, tail, ← List.map_cons] at same
    exact ((List.map_inj_right fun _ _ => digitChar_inj.mp).mp same).symm
  have kept : octal first = digitChar (lowBits digit) := by
    rw [octal, digitValue?_eq_some_iff.mpr head, Option.elim_some]
  rw [← String.toList_inj, toList_text, all, lastDigits_ofNat digit many]
  simp only [normalForm, shape, String.toList_ofList, kept, tail, List.map_cons]

/-- Which identifier is read from a text. -/
theorem parse_eq_ok_iff_text :
    parse text = .ok id ↔ Legible text ∧ id.text = normalForm text := by
  constructor
  · exact fun read => ⟨exists_parse_eq_ok_iff.mp ⟨id, read⟩, text_eq_normalForm read⟩
  · rintro ⟨legible, same⟩
    obtain ⟨found, read⟩ := exists_parse_eq_ok_iff.mpr legible
    -- What is read has the same text, and from one text only one identifier is read.
    have written := congrArg parse (same.trans (text_eq_normalForm read).symm)
    rw [parse_text, parse_text] at written
    rw [read, written]

/-- How identifiers are written and read. -/
structure Faithful
    (id : MessageId)
    (text other : String) :
    Prop where
  length : id.text.length = 26
  upperCase : ∀ c ∈ id.text.toList, IsDigit c ∧ c.toUpper = c
  first : ∀ c ∈ id.text.toList.head?, c ≤ '7'
  /-- The digits are those of the number in base 32, in the order of the alphabet. -/
  coded :
    Nat.ofDigits 32 (id.text.toList.reverse.map fun c => alphabet.toList.idxOf c) = id.value.val
  readBack : parse id.text = .ok id
  legible_iff : (∃ found, parse text = .ok found) ↔ Legible text
  length_iff : parse text = .error .length ↔ text.utf8ByteSize ≠ 26
  character_iff :
    parse text = .error .character ↔ text.utf8ByteSize = 26 ∧ ∃ c ∈ text.toList, ¬IsDigit c
  /-- What is read is written as the text in upper case with its first digit modulo 8. -/
  read_iff : parse text = .ok id ↔ Legible text ∧ id.text = normalForm text
  /-- Texts are read as the same identifier exactly if they agree up to case in the last 25 digits and modulo
  8 in the first. -/
  same_iff :
    (∃ found, parse text = .ok found ∧ parse other = .ok found) ↔
      (Legible text ∧ Legible other) ∧
        text.toList.head?.map octal = other.toList.head?.map octal ∧
          text.toList.tail.map Char.toUpper = other.toList.tail.map Char.toUpper

/-- The text of an identifier is a faithful form of it: it is read again, and whatever else is read is a
variant of such a text in case and in what exceeds 128 bits. -/
theorem text_faithful
    (id : MessageId)
    (text other : String) :
    Faithful id text other where
  length := length_text id
  upperCase _ member := digits_of_mem_text member
  first c member := by
    obtain ⟨digit, digits, shape, small⟩ := lastDigits_value id
    have bound : ∀ digit < 8, digitChar digit ≤ '7' := by decide +kernel
    rw [toList_text, shape] at member
    obtain rfl := Option.some.inj member
    exact bound digit small
  coded := ofDigits_text id
  readBack := parse_text id
  legible_iff := exists_parse_eq_ok_iff
  length_iff := parse_eq_length_iff
  character_iff := parse_eq_character_iff
  read_iff := parse_eq_ok_iff_text
  same_iff := by
    rw [← normalForm_eq_iff]
    constructor
    · rintro ⟨found, read, otherRead⟩
      obtain ⟨legible, same⟩ := parse_eq_ok_iff_text.mp read
      obtain ⟨otherLegible, otherSame⟩ := parse_eq_ok_iff_text.mp otherRead
      exact ⟨⟨legible, otherLegible⟩, same.symm.trans otherSame⟩
    · rintro ⟨⟨legible, otherLegible⟩, same⟩
      obtain ⟨found, read⟩ := exists_parse_eq_ok_iff.mpr legible
      have written := (text_eq_normalForm read).trans same
      exact ⟨found, read, parse_eq_ok_iff_text.mpr ⟨otherLegible, written⟩⟩

/-- Two uppermost bits and the case do not count. -/
example :
    parse "zzzzzzzzzzzzzzzzzzzzzzzzzz" = parse "7ZZZZZZZZZZZZZZZZZZZZZZZZZ" := by
  decide +kernel

end MmsInbox.MessageId
