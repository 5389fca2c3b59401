import MmsInbox.Config.Basic
import MmsInbox.Program.Basic

namespace MmsInbox.Receive

/-!
# Permits

A configuration may bound the number of runs that are under way at once. A run then waits for a
permit before it begins and gives it back when it has ended, in whatever way. A bound of zero is no
bound. A bound beyond what a permit counter can hold makes the engine panic when it is set up.
-/

/-- The greatest number of permits that a permit counter holds. -/
def maxPermits : Nat :=
  0x1FFFFFFFFFFFFFFF

/-- The permits of an engine. -/
structure Permits where
  /-- The bound, if there is one. -/
  limit : Option Nat
  /-- The number of permits that runs hold. -/
  held : Nat
  deriving Repr, DecidableEq

namespace Permits

/-- The permits of a configuration. -/
def ofConfig (config : Config) : Except Panic Permits :=
  match (config.maxConcurrentRuns.map UInt64.toNat).filter (0 < ·) with
  | none => .ok ⟨none, 0⟩
  | some limit =>
      if limit ≤ maxPermits then .ok ⟨some limit, 0⟩
      else .error ⟨s!"no more than {maxPermits} runs can be bounded"⟩

/-- Take a permit, if one is free. -/
def acquire? (permits : Permits) : Option Permits :=
  match permits.limit with
  | none => some { permits with held := permits.held + 1 }
  | some limit =>
      if permits.held < limit then some { permits with held := permits.held + 1 }
      else none

/-- The number of permits that are free, if there is a bound. -/
def free? (permits : Permits) : Option Nat :=
  permits.limit.map (· - permits.held)

/-- Give a permit back. -/
def release (permits : Permits) : Permits :=
  { permits with held := permits.held - 1 }

end Permits

end MmsInbox.Receive
