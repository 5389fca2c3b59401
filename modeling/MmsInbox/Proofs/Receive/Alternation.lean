import Mathlib.Data.List.Induction
import Mathlib.Data.Set.Card
import MmsInbox.Downloads

namespace MmsInbox

/-!
# A location begins and finishes in turn

Those who share the downloads in flight each hold a clone, and all clones are of the same locations. A call
on a clone is made in one go, so whatever they do side by side is one sequence of calls. In every such
sequence the calls for a location that succeed are a beginning, its end, the next beginning and so on
(`Downloads.Alternating`), and what is in flight can be read off them (`Downloads.Shared.orderly_after`).
-/

namespace Downloads

/-- A call on a clone. -/
inductive Operation where
  | begin (location : String) (now : Nat)
  | finish (location : String)
  deriving Repr, DecidableEq

/-- A call that has succeeded. -/
inductive Success where
  | began (location : String) (now : Nat)
  /-- The location was finished, which had begun at the given moment. -/
  | finished (location : String) (began : Nat)
  deriving Repr, DecidableEq

namespace Success

/-- The location of a call that has succeeded. -/
def location : Success → String
  | .began location _ => location
  | .finished location _ => location

/-- The call was a beginning. -/
def isBeginning : Success → Bool
  | .began _ _ => true
  | .finished _ _ => false

/-- Since when the location was in flight when the call was made. -/
def before : Success → Option Nat
  | .began _ _ => none
  | .finished _ since => some since

/-- Since when the location is in flight after the call. -/
def after : Success → Option Nat
  | .began _ now => some now
  | .finished _ _ => none

end Success

/-- Serve a call, and say whether it has succeeded. -/
def apply
    (downloads : Downloads) :
    Operation → Option Success × Downloads
  | .begin location now =>
      let (fresh, later) := downloads.begin location now
      (if fresh then some (.began location now) else none, later)
  | .finish location =>
      let (began, later) := downloads.finish location
      (began.map (.finished location), later)

section Calls

variable {downloads : Downloads} {location other : String} {now : Nat}

theorem isInProgress_eq_isSome :
    downloads.isInProgress location = downloads.inFlight[location]?.isSome :=
  Std.ExtTreeMap.isSome_getElem?_eq_contains.symm

/-- A location that is in flight does not begin again, and nothing changes. -/
theorem begin_of_inProgress (inProgress : downloads.isInProgress location = true) :
    downloads.begin location now = (false, downloads) := by
  simp [begin, inProgress]

/-- A location that is not in flight begins. -/
theorem begin_of_idle (idle : downloads.isInProgress location = false) :
    downloads.begin location now = (true, ⟨downloads.inFlight.insert location now⟩) := by
  simp [begin, idle]

@[simp] theorem getElem?_finish :
    (downloads.finish location).2.inFlight[other]? =
      if location = other then none else downloads.inFlight[other]? := by
  simp [finish, Std.ExtTreeMap.getElem?_erase]

/-- Nothing changes if a location is finished that is not in flight. -/
theorem finish_of_idle (idle : downloads.inFlight[location]? = none) :
    downloads.finish location = (none, downloads) := by
  have unchanged : (downloads.finish location).2.inFlight = downloads.inFlight := by
    refine Std.ExtTreeMap.ext_getElem? fun other => ?_
    rw [getElem?_finish]
    split
    · rename_i same
      exact same ▸ idle.symm
    · rfl
  exact Prod.ext idle (congrArg Downloads.mk unchanged)

/-- A location that begins is in flight from then on, and the others are as before. -/
theorem isInProgress_begin (idle : downloads.isInProgress location = false) :
    (downloads.begin location now).2.isInProgress other =
      (location == other || downloads.isInProgress other) := by
  rw [begin_of_idle idle, isInProgress_eq_isSome, isInProgress_eq_isSome,
    Std.ExtTreeMap.getElem?_insert]
  by_cases here : location = other
  · simp [here]
  · simp [here]

/-- A location that is finished is no longer in flight, and the others are as before. -/
theorem isInProgress_finish :
    (downloads.finish location).2.isInProgress other =
      (location != other && downloads.isInProgress other) := by
  rw [isInProgress_eq_isSome, isInProgress_eq_isSome, getElem?_finish]
  by_cases here : location = other
  · simp [here]
  · simp [here]

/-- A call that does not succeed changes nothing. -/
theorem unchanged_of_failure
    {operation : Operation}
    (failed : (downloads.apply operation).1 = none) :
    (downloads.apply operation).2 = downloads := by
  cases operation with
  | begin location now =>
      cases inProgress : downloads.isInProgress location with
      | true => simp [apply, begin_of_inProgress inProgress]
      | false => simp [apply, begin_of_idle inProgress] at failed
  | finish location =>
      have idle : downloads.inFlight[location]? = none := Option.map_eq_none_iff.mp failed
      simp [apply, finish_of_idle idle]

/-- A call that succeeds finds its location as it says and leaves it as it says, and it leaves the other
locations alone. -/
theorem inFlight_of_success
    {operation : Operation}
    {success : Success}
    (succeeded : (downloads.apply operation).1 = some success) :
    downloads.inFlight[success.location]? = success.before ∧
      ∀ other : String,
        (downloads.apply operation).2.inFlight[other]? =
          if success.location = other then success.after else downloads.inFlight[other]? := by
  cases operation with
  | begin location now =>
      cases inProgress : downloads.isInProgress location with
      | true => simp [apply, begin_of_inProgress inProgress] at succeeded
      | false =>
          obtain rfl : Success.began location now = success := by
            simpa [apply, begin_of_idle inProgress] using succeeded
          refine ⟨?_, fun other => ?_⟩
          · rw [isInProgress_eq_isSome] at inProgress
            exact Option.isNone_iff_eq_none.mp (Option.isSome_eq_false_iff.mp inProgress)
          · have begun : (downloads.apply (.begin location now)).2 =
                ⟨downloads.inFlight.insert location now⟩ := by
              rw [apply, begin_of_idle inProgress]
            rw [begun, Std.ExtTreeMap.getElem?_insert]
            simp only [Std.compare_eq_iff_eq]
            rfl
  | finish location =>
      obtain ⟨began, held, rfl⟩ := Option.map_eq_some_iff.mp succeeded
      exact ⟨held, fun other => getElem?_finish⟩

end Calls

/-- Beginnings and ends of a location take turns, and each end tells the moment of its beginning. If a
beginning comes last the location is in flight since then. -/
inductive Alternating (location : String) : Option Nat → List Success → Prop where
  | nothing : Alternating location none []
  | began
      {successes : List Success}
      (now : Nat)
      (sofar : Alternating location none successes) :
      Alternating location (some now) (successes ++ [.began location now])
  | finished
      {successes : List Success}
      {began : Nat}
      (sofar : Alternating location (some began) successes) :
      Alternating location none (successes ++ [.finished location began])

/-- A call that succeeds goes on from how the location was before. -/
theorem Alternating.concat
    {successes : List Success}
    {success : Success}
    (sofar : Alternating success.location success.before successes) :
    Alternating success.location success.after (successes ++ [success]) := by
  cases success with
  | began location now => exact sofar.began now
  | finished location began => exact sofar.finished

/-- There is one beginning more than there are ends as long as the location is in flight. -/
theorem Alternating.counted
    {location : String}
    {since : Option Nat}
    {successes : List Success}
    (alternating : Alternating location since successes) :
    successes.countP (·.isBeginning) =
      successes.countP (! ·.isBeginning) + since.isSome.toNat := by
  induction alternating with
  | nothing => rfl
  | began now _ inductionHypothesis =>
      simpa [Success.isBeginning] using inductionHypothesis
  | finished _ inductionHypothesis =>
      simpa [Success.isBeginning] using inductionHypothesis

/-- The number of locations in flight. -/
theorem size_eq_ncard (downloads : Downloads) :
    downloads.size = {location | downloads.isInProgress location = true}.ncard := by
  have listed :
      {location | downloads.isInProgress location = true} =
        (downloads.inFlight.keys.toFinset : Set String) := by
    ext location
    simp [isInProgress]
  rw [listed, Set.ncard_coe_finset, List.toFinset_card_of_nodup Std.ExtTreeMap.nodup_keys,
    Std.ExtTreeMap.length_keys]
  rfl

/-- The downloads in flight with the calls that have succeeded, the first first. -/
structure Shared where
  downloads : Downloads
  successes : List Success

namespace Shared

/-- Serve a call of one of those who share the downloads in flight. -/
def serve
    (shared : Shared)
    (operation : Operation) :
    Shared where
  downloads := (shared.downloads.apply operation).2
  successes := shared.successes ++ (shared.downloads.apply operation).1.toList

/-- What a sequence of calls comes to when nothing was in flight before. -/
def after (operations : List Operation) : Shared :=
  operations.foldl serve ⟨.empty, []⟩

@[simp] theorem after_concat
    (operations : List Operation)
    (operation : Operation) :
    after (operations ++ [operation]) = (after operations).serve operation :=
  List.foldl_append ..

/-- The downloads in flight are what calls of those who share them have made of them. -/
def Reaches (downloads : Downloads) : Prop :=
  ∃ operations, (after operations).downloads = downloads

namespace Reaches

variable {downloads : Downloads}

theorem empty : Reaches .empty :=
  ⟨[], rfl⟩

/-- One more call can be made. -/
theorem apply
    (reached : Reaches downloads)
    (operation : Operation) :
    Reaches (downloads.apply operation).2 := by
  obtain ⟨operations, rfl⟩ := reached
  exact ⟨operations ++ [operation], by rw [after_concat, serve]⟩

end Reaches

/-- The calls for a location that have succeeded. -/
def successesAt
    (shared : Shared)
    (location : String) :
    List Success :=
  shared.successes.filter (·.location == location)

/-- How often a location has begun. -/
def beginnings
    (shared : Shared)
    (location : String) :
    Nat :=
  (shared.successesAt location).countP (·.isBeginning)

/-- How often a location has been finished. -/
def ends
    (shared : Shared)
    (location : String) :
    Nat :=
  (shared.successesAt location).countP (! ·.isBeginning)

/-- At each location beginnings and ends take turns up to now. -/
def Sound (shared : Shared) : Prop :=
  ∀ location,
    Alternating location shared.downloads.inFlight[location]? (shared.successesAt location)

/-- A call that succeeds is the next one at its location, and not noticed at the others. -/
theorem successesAt_serve
    {shared : Shared}
    {operation : Operation}
    {success : Success}
    (succeeded : (shared.downloads.apply operation).1 = some success)
    (location : String) :
    (shared.serve operation).successesAt location =
      if success.location = location then shared.successesAt location ++ [success]
      else shared.successesAt location := by
  simp only [serve, successesAt, succeeded, Option.toList_some, List.filter_append]
  by_cases here : success.location = location
  · simp [here]
  · simp [here]

namespace Sound

variable {shared : Shared}

/-- A call keeps beginnings and ends in turn. -/
theorem serve
    (sound : shared.Sound)
    (operation : Operation) :
    (shared.serve operation).Sound := by
  intro location
  cases outcome : (shared.downloads.apply operation).1 with
  | none =>
      have unchanged := unchanged_of_failure outcome
      simpa [Shared.serve, successesAt, outcome, unchanged] using sound location
  | some success =>
      obtain ⟨before, after⟩ := inFlight_of_success outcome
      have later :
          (shared.serve operation).downloads.inFlight[location]? =
            if success.location = location then success.after
            else shared.downloads.inFlight[location]? :=
        after location
      rw [successesAt_serve outcome, later]
      by_cases here : success.location = location
      · subst here
        have sofar := sound success.location
        rw [before] at sofar
        rw [if_pos rfl, if_pos rfl]
        exact sofar.concat
      · rw [if_neg here, if_neg here]
        exact sound location

theorem after (operations : List Operation) : (after operations).Sound := by
  induction operations using List.reverseRecOn with
  | nil =>
      intro location
      exact .nothing
  | append_singleton operations operation inductionHypothesis =>
      rw [after_concat]
      exact inductionHypothesis.serve operation

end Sound

/-- The downloads in flight are in order after what those who share them have done. -/
structure Orderly (shared : Shared) : Prop where
  /-- Beginnings and ends take turns, a beginning first, and the recorded moment is that of the last
  beginning. -/
  alternating :
    ∀ location,
      Alternating location shared.downloads.inFlight[location]? (shared.successesAt location)
  inProgress :
    ∀ location,
      shared.downloads.isInProgress location = true ↔
        shared.beginnings location = shared.ends location + 1
  /-- A beginning that fails changes nothing, and it fails at a location that is in flight. -/
  refused :
    ∀ location now,
      ((shared.downloads.begin location now).1 = false ↔
          shared.downloads.isInProgress location = true) ∧
        ((shared.downloads.begin location now).1 = false →
          (shared.downloads.begin location now).2 = shared.downloads)
  counted :
    shared.downloads.size =
      {location | shared.beginnings location = shared.ends location + 1}.ncard

theorem Sound.inProgress_iff
    {shared : Shared}
    (sound : shared.Sound)
    (location : String) :
    shared.downloads.isInProgress location = true ↔
      shared.beginnings location = shared.ends location + 1 := by
  have counted := (sound location).counted
  rw [beginnings, ends, counted, isInProgress_eq_isSome]
  cases shared.downloads.inFlight[location]?.isSome <;> simp

theorem Sound.orderly
    {shared : Shared}
    (sound : shared.Sound) :
    shared.Orderly where
  alternating := sound
  inProgress := sound.inProgress_iff
  refused location now := by
    cases inProgress : shared.downloads.isInProgress location with
    | true => simp [begin_of_inProgress inProgress]
    | false => simp [begin_of_idle inProgress]
  counted := by
    rw [size_eq_ncard]
    exact congrArg Set.ncard (Set.ext sound.inProgress_iff)

/-- Whatever those who share the downloads in flight do, these stay in order. -/
theorem orderly_after (operations : List Operation) : (after operations).Orderly :=
  (Sound.after operations).orderly

end Shared

end Downloads

end MmsInbox
