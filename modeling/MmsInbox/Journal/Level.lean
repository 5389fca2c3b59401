import MmsInbox.Text.Blank

namespace MmsInbox.Journal

/-!
# Levels and the level filter

A notice has one of five levels. What reaches the output is decided by a filter, which is read from
a text: a number from 0 to 5 or a name in any case. A text that is neither falls back to the filter
that lets everything pass.
-/

/-- How grave a notice is, the gravest first. -/
inductive Level where
  | error
  | warn
  | info
  | debug
  | trace
  deriving Repr, DecidableEq

namespace Level

/-- All levels, the gravest first. -/
def all : List Level :=
  [.error, .warn, .info, .debug, .trace]

/-- A level as it is written in the journal. -/
def name : Level → String
  | .error => "ERROR"
  | .warn => "WARN"
  | .info => "INFO"
  | .debug => "DEBUG"
  | .trace => "TRACE"

/-- The level that is written in a given way. -/
def ofName? (name : String) : Option Level :=
  all.find? (·.name = name)

/-- The place of a level, counted from the gravest, which has place 1. -/
def rank : Level → Nat
  | .error => 1
  | .warn => 2
  | .info => 3
  | .debug => 4
  | .trace => 5

end Level

/-- Which levels pass: none, or those at least as grave as a given one. -/
inductive Filter where
  | off
  | upTo (level : Level)
  deriving Repr, DecidableEq

namespace Filter

/-- The level is let pass. -/
def passes (filter : Filter) (level : Level) : Bool :=
  match filter with
  | .off => false
  | .upTo last => level.rank ≤ last.rank

/-- The filter used when none is given or the text given is none. -/
def standard : Filter :=
  .upTo .trace

/-- The filter with a given number. -/
def ofRank? : Nat → Option Filter
  | 0 => some .off
  | 1 => some (.upTo .error)
  | 2 => some (.upTo .warn)
  | 3 => some (.upTo .info)
  | 4 => some (.upTo .debug)
  | 5 => some (.upTo .trace)
  | _ => none

/-- A decimal number, with leading zeros and one leading `+` allowed. -/
def number? (text : List Char) : Option Nat :=
  let digits := if text.head? = some '+' then text.drop 1 else text
  if digits.isEmpty || !digits.all Char.isDigit then none
  else some (digits.foldl (fun value digit => value * 10 + (digit.toNat - 48)) 0)

/-- The filter with a given name; the empty name is that of the gravest level. -/
def ofName? (name : String) : Option Filter :=
  match name.toLower with
  | "" => some (.upTo .error)
  | "error" => some (.upTo .error)
  | "warn" => some (.upTo .warn)
  | "info" => some (.upTo .info)
  | "debug" => some (.upTo .debug)
  | "trace" => some (.upTo .trace)
  | "off" => some .off
  | _ => none

/-- Read a filter from a text, blanks around it ignored. -/
def parse? (text : String) : Option Filter :=
  let word := Text.trim text
  ((number? word.toList).bind ofRank?) <|> ofName? word

/-- The filter that a setting asks for. -/
def ofSetting (setting : Option String) : Filter :=
  (setting.bind parse?).getD .standard

/-- The name of a filter. -/
def name : Filter → String
  | .off => "off"
  | .upTo .error => "error"
  | .upTo .warn => "warn"
  | .upTo .info => "info"
  | .upTo .debug => "debug"
  | .upTo .trace => "trace"

end Filter

/-- The engine's own notices are those whose target starts with this text. -/
def engineTarget : String :=
  "mmsrx"

/-- A notice from a target reaches the output under a filter. -/
def reachesOutput
    (filter : Filter)
    (target : String)
    (level : Level) :
    Bool :=
  engineTarget.toList.isPrefixOf target.toList && filter.passes level

end MmsInbox.Journal
