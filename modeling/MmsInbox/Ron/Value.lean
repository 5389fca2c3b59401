import MmsInbox.Config.Dialect

namespace MmsInbox.Ron

/-!
# Values of RON

RON is the notation of configuration files. A value is kept as it is written, as far as settings can
tell the difference: a parenthesised value may carry a name, and a whole number may carry its kind.
-/

/-- A value of RON. -/
inductive Value where
  /-- A name that stands alone. -/
  | word (name : String)
  | truth (value : Bool)
  | absent
  | present (value : Value)
  | integer (value : Int) (kind : Option IntegerKind)
  /-- A number with a fraction or an exponent, or one too great for a whole number. -/
  | fraction
  | character (value : Char)
  | text (value : String)
  | bytes
  | list (items : List Value)
  | table (entries : List (Value × Value))
  /-- Values in parentheses. -/
  | tuple (name : Option String) (items : List Value)
  /-- Named fields in parentheses. -/
  | record (name : Option String) (fields : List (String × Value))

namespace Value

/-- The fields of a record that goes without a name or has the right one. Empty parentheses are a
record without fields. -/
def fields?
    (name : String) :
    Value → Option (List (String × Value))
  | .record given fields => if given.all (· == name) then some fields else none
  | .tuple given [] => if given.all (· == name) then some [] else none
  | _ => none

/-- The value of an optional setting. A value may stand for itself. -/
def present? : Value → Option Value
  | .absent => none
  | .present value => some value
  | value => some value

/-- A whole number whose kind, if it is given, is the right one. -/
def integer?
    (kind : IntegerKind) :
    Value → Option Int
  | .integer value given => if given.all (· == kind) then some value else none
  | _ => none

/-- A truth value. -/
def truth? : Value → Option Bool
  | .truth value => some value
  | _ => none

/-- A text. -/
def text? : Value → Option String
  | .text value => some value
  | _ => none

/-- The dialect of RON. Positions do not name fields. -/
def dialect : Dialect Value where
  fields? name _ value := value.fields? name
  present? := present?
  integer? := integer?
  truth? := truth?
  text? := text?

end Value

end MmsInbox.Ron
