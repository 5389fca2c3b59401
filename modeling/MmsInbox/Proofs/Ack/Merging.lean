import Mathlib.Data.List.Perm.Basic
import MmsInbox.Ack.Traffic

namespace MmsInbox

/-!
# Merges of submissions

Submitters push side by side, and each of them in order: what is pushed on a lane is an order-preserving merge
of what they push (`merges_of_pushes`). A merge contains every item once and keeps every list in order.
-/

/-- A list is an order-preserving merge of others: its items are taken from their heads. -/
inductive Merges {α : Type} : List (List α) → List α → Prop where
  | done
      {lists : List (List α)}
      (exhausted : ∀ list ∈ lists, list = []) :
      Merges lists []
  | next
      {lists : List (List α)}
      {number : Nat}
      {item : α}
      {rest merged : List α}
      (head : lists[number]? = some (item :: rest))
      (later : Merges (lists.set number rest) merged) :
      Merges lists (item :: merged)

/-- Taking an item from the head of a list takes it from among all items. -/
theorem flatten_perm_of_set
    {α : Type}
    {lists : List (List α)}
    {number : Nat}
    {item : α}
    {rest : List α}
    (head : lists[number]? = some (item :: rest)) :
    lists.flatten.Perm (item :: (lists.set number rest).flatten) := by
  induction lists generalizing number with
  | nil => simp at head
  | cons list later inductionHypothesis =>
      cases number with
      | zero =>
          obtain rfl := Option.some.inj head
          simp
      | succ number =>
          have found : later[number]? = some (item :: rest) := by simpa using head
          have moved := inductionHypothesis found
          simp only [List.set_cons_succ, List.flatten_cons]
          exact (moved.append_left list).trans List.perm_middle

namespace Merges

variable
  {α : Type}
  {lists : List (List α)}
  {merged : List α}

/-- A merge keeps every list in order. -/
theorem sublist
    {list : List α}
    (merges : Merges lists merged)
    (member : list ∈ lists) :
    list.Sublist merged := by
  induction merges generalizing list with
  | done exhausted => exact exhausted list member ▸ List.Sublist.refl _
  | @next lists number item rest merged head _ inductionHypothesis =>
      obtain ⟨other, found⟩ := List.mem_iff_getElem?.mp member
      by_cases own : number = other
      · subst own
        obtain rfl := Option.some.inj (head.symm.trans found)
        have within := (List.getElem?_eq_some_iff.mp head).1
        exact (inductionHypothesis (List.mem_set within rest)).cons_cons item
      · have kept : (lists.set number rest)[other]? = some list := by
          rw [List.getElem?_set_ne own, found]
        exact (inductionHypothesis (List.mem_of_getElem? kept)).cons item

/-- A merge contains every item of every list once. -/
theorem perm (merges : Merges lists merged) : merged.Perm lists.flatten := by
  induction merges with
  | done exhausted => rw [List.flatten_eq_nil_iff.mpr exhausted]
  | @next lists number item rest merged head _ inductionHypothesis =>
      exact (inductionHypothesis.cons item).trans (flatten_perm_of_set head).symm

end Merges

/-- The pushes on a lane are a merge of what the submitters have pushed. -/
theorem merges_of_pushes
    {lists : List (List AckTask)}
    {pushes : List Push}
    (owned :
      ∀ number,
        (pushes.filter (·.owner = number)).map (·.task) = lists[number]?.getD []) :
    Merges lists (pushes.map (·.task)) := by
  induction pushes generalizing lists with
  | nil =>
      refine .done fun list member => ?_
      obtain ⟨number, found⟩ := List.mem_iff_getElem?.mp member
      simpa [found] using (owned number).symm
  | cons push later inductionHypothesis =>
      have first := owned push.owner
      cases found : lists[push.owner]? with
      | none => simp [found] at first
      | some list =>
          obtain rfl :
              list = push.task :: (later.filter (·.owner = push.owner)).map (·.task) := by
            simpa [found] using first.symm
          have within := (List.getElem?_eq_some_iff.mp found).1
          refine .next found (inductionHypothesis fun number => ?_)
          by_cases own : push.owner = number
          · subst own
            simp [List.getElem?_set_self within]
          · have others := owned number
            simpa [own, List.getElem?_set_ne own] using others

end MmsInbox
