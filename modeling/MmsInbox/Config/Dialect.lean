namespace MmsInbox

/-!
# Dialects

Settings can be written in more than one notation. A dialect says how the values of a notation are
recognised as records, optional values, whole numbers, truth values and texts. What the settings are
called and what holds when one is missing is the same in all dialects.
-/

/-- A kind of whole number: how many bits it has, and whether it has a sign. -/
structure IntegerKind where
  signed : Bool
  bits : Nat
  deriving Repr, DecidableEq

namespace IntegerKind

/-- The number of values that a number of bits tells apart. -/
def span (bits : Nat) : Int :=
  Int.ofNat (1 <<< bits)

/-- The number fits. -/
def holds (kind : IntegerKind) (value : Int) : Bool :=
  if kind.signed then -span (kind.bits - 1) ≤ value && value < span (kind.bits - 1)
  else 0 ≤ value && value < span kind.bits

end IntegerKind

/-- How the values of a notation are recognised. -/
structure Dialect (V : Type) where
  /-- The fields of a record with a given name whose fields have a given order. -/
  fields? : (name : String) → (order : List String) → V → Option (List (String × V))
  /-- The value of an optional setting, if the value does not say that there is none. -/
  present? : V → Option V
  /-- A whole number that may be of a given kind. -/
  integer? : IntegerKind → V → Option Int
  truth? : V → Option Bool
  text? : V → Option String

namespace Dialect

variable {V α : Type}

/-- A whole number that fits its kind. -/
def fitting?
    (dialect : Dialect V)
    (kind : IntegerKind)
    (value : V) :
    Option Int :=
  (dialect.integer? kind value).filter kind.holds

/-- Read an optional setting. -/
def optional
    (dialect : Dialect V)
    (read : V → Option α)
    (value : V) :
    Option (Option α) :=
  match dialect.present? value with
  | none => some none
  | some value => (read value).map some

end Dialect

/-- Read a field that may be missing and then has its standard value. A field that is given twice
cannot be read. -/
def fieldOr
    {V α : Type}
    (fields : List (String × V))
    (name : String)
    (standard : α)
    (read : V → Option α) :
    Option α :=
  match fields.filter (·.1 == name) with
  | [] => some standard
  | [(_, value)] => read value
  | _ => none

/-- Read a field that has to be given exactly once. -/
def requiredField
    {V α : Type}
    (fields : List (String × V))
    (name : String)
    (read : V → Option α) :
    Option α :=
  match fields.filter (·.1 == name) with
  | [(_, value)] => read value
  | _ => none

end MmsInbox
