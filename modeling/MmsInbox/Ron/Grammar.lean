import MmsInbox.Ron.Blank
import MmsInbox.Ron.Number
import MmsInbox.Ron.Quoted

namespace MmsInbox.Ron

/-!
# The grammar of RON

A text of RON is a value, with attributes in front that switch on extensions. Values nest in lists,
tables, tuples, records and optional values. How deeply they may nest is limited, and the limit is what
makes the reader of values end.
-/

/-- A reader yields a value and the rest of the text. -/
abbrev Reader (α : Type) :=
  List Char → Option (α × List Char)

/-- What follows blanks and comments. -/
def blanks (text : List Char) : Option (List Char) :=
  skipBlanks .outside text

/-- What follows a character. -/
def mark?
    (c : Char) :
    List Char → Option (List Char)
  | first :: rest => if first = c then some rest else none
  | [] => none

/-- What follows blanks, an optional comma and more blanks, and whether there was a comma. -/
def comma (text : List Char) : Option (Bool × List Char) := do
  match ← blanks text with
  | ',' :: rest => return (true, ← blanks rest)
  | rest => return (false, rest)

/-- Read items up to a closing character. Items are separated by commas, and the last one may be
followed by one. -/
def separated
    {α : Type}
    (closing : Char)
    (item : Reader α)
    (text : List Char) :
    Option (List α × List Char) :=
  match blanks text with
  | none => none
  | some start =>
      match mark? closing start with
      | some rest => some ([], rest)
      | none =>
          match item start with
          | none => none
          | some (first, after) =>
              match comma after with
              | some (true, next) =>
                  if next.length < text.length then
                    (separated closing item next).map fun (items, rest) => (first :: items, rest)
                  else none
              | some (false, next) => (mark? closing next).map fun rest => ([first], rest)
              | none => none
  termination_by text.length

/-- The character can stand in a raw name. -/
def continuesRawName (c : Char) : Bool :=
  Text.continuesName c || c == '.' || c == '+' || c == '-'

/-- The text begins with a quoted text or character that begins with a letter. -/
def startsQuoted (text : List Char) : Bool :=
  ["b\"", "b\x27", "br#", "br\"", "r\"", "r#\"", "r##"].any fun opening =>
    opening.toList.isPrefixOf text

/-- Read a name. After `r#` it may have points and signs in it. -/
def name? (text : List Char) : Option (String × List Char) :=
  if startsQuoted text then none
  else match text with
    | 'r' :: '#' :: raw =>
        let name := raw.takeWhile continuesRawName
        if name.isEmpty then none else some (String.ofList name, raw.drop name.length)
    | first :: rest =>
        if Text.startsName first then
          let more := rest.takeWhile Text.continuesName
          some (String.ofList (first :: more), rest.drop more.length)
        else none
    | [] => none

/-- Read the name of a field. A name that is not raw is not followed by a point or a sign. -/
def fieldName? (text : List Char) : Option (String × List Char) := do
  let (name, rest) ← name? text
  if ['r', '#'].isPrefixOf text then return (name, rest)
  else if rest.head?.any continuesRawName then none
  else return (name, rest)

/-- Read a field of a record. -/
def field
    {α : Type}
    (value : Reader α) :
    Reader (String × α) := fun text => do
  let (name, afterName) ← fieldName? text
  let (content, rest) ← value (← blanks (← mark? ':' (← blanks afterName)))
  return ((name, content), rest)

/-- Read an entry of a table. -/
def entry
    {α : Type}
    (value : Reader α) :
    Reader (α × α) := fun text => do
  let (key, afterKey) ← value text
  let (content, rest) ← value (← blanks (← mark? ':' (← blanks afterKey)))
  return ((key, content), rest)

/-- The text begins with a name and a colon. -/
def startsField (text : List Char) : Bool :=
  match (blanks text).bind name? with
  | some (_, rest) => ((blanks rest).bind (mark? ':')).isSome
  | none => false

/-- Read what stands in parentheses. -/
def parenthesised
    (value : Reader Value)
    (name : Option String) :
    Reader Value := fun text =>
  if startsField text then
    (separated ')' (field value) text).map fun (fields, rest) => (.record name fields, rest)
  else (separated ')' value text).map fun (items, rest) => (.tuple name items, rest)

/-- Read a value that consists of a single token. -/
def token? (text : List Char) : Option (Value × List Char) :=
  match text with
  | '"' :: _ => (quoted? .characters text).map fun (content, rest) =>
      (.text (String.ofList content), rest)
  | 'r' :: _ => (quoted? .characters text).map fun (content, rest) =>
      (.text (String.ofList content), rest)
  | '\'' :: _ => (character? .characters text).map fun (c, rest) => (.character c, rest)
  | 'b' :: '\'' :: rest => (character? .bytes ('\'' :: rest)).map fun (c, rest) =>
      (.integer c.toNat (some ⟨false, 8⟩), rest)
  | 'b' :: rest => (quoted? .bytes rest).map fun (_, rest) => (.bytes, rest)
  | _ => number? text

/-- Read a value with at most a given number of openings around any part of it. A container is an
opening itself, and so is each of its items. -/
def value : (openings : Nat) → Reader Value
  | 0, _ => none
  | 1, text => token? text
  | openings + 2, text =>
    match afterWord? "true".toList text with
    | some rest => some (.truth true, rest)
    | none =>
    match afterWord? "false".toList text with
    | some rest => some (.truth false, rest)
    | none =>
    match afterWord? "None".toList text with
    | some rest => some (.absent, rest)
    | none =>
    match afterWord? "Some".toList text with
    | some rest => do
        let start ← blanks rest
        match mark? '(' start with
        | some inner =>
            let (content, after) ← value (openings + 1) (← blanks inner)
            let (_, closing) ← comma after
            return (.present content, ← mark? ')' closing)
        | none =>
            let (content, after) ← value (openings + 1) start
            return (.present content, after)
    | none =>
    match afterUnbounded? text with
    | some rest => some (.fraction, rest)
    | none =>
    match name? text with
    | some (name, afterName) => do
        let start ← blanks afterName
        match mark? '(' start with
        | some inner => parenthesised (value openings) (some name) inner
        | none => some (.word name, afterName)
    | none =>
    match text with
    | '(' :: inner => parenthesised (value openings) none inner
    | '[' :: inner => (separated ']' (value openings) inner).map fun (items, rest) =>
        (.list items, rest)
    | '\x7b' :: inner => (separated '\x7d' (entry (value openings)) inner).map
        fun (entries, rest) => (.table entries, rest)
    | _ => token? text

/-- The number of openings that a text may have around any part of it. -/
def maxOpenings : Nat :=
  126

/-- The extensions that a text can switch on. -/
def extensions : List String :=
  ["implicit_some", "unwrap_newtypes", "unwrap_variant_newtypes"]

/-- What follows tokens with blanks in front of each. -/
def afterTokens? : List String → List Char → Option (List Char)
  | [], text => some text
  | token :: later, text => do
      let start ← blanks text
      if token.toList.isPrefixOf start then afterTokens? later (start.drop token.length)
      else none

/-- Read the name of an extension. -/
def extension : Reader String := fun text => do
  let (name, rest) ← fieldName? text
  if extensions.contains name then return (name, rest) else none

/-- What follows the attributes in front of a text. -/
def afterAttributes? (text : List Char) : Option (List Char) :=
  match blanks text with
  | some ('#' :: start) => do
      let inner ← afterTokens? ["!", "[", "enable", "("] start
      let (names, after) ← separated ')' extension inner
      let rest ← afterTokens? ["]"] after
      if names.isEmpty then none
      else if rest.length < text.length then afterAttributes? rest
      else none
  | start => start
  termination_by text.length

/-- The value that a text stands for. -/
def parse? (text : String) : Option Value := do
  let (content, after) ← value maxOpenings (← afterAttributes? text.toList)
  if (← blanks after).isEmpty then return content else none

end MmsInbox.Ron
