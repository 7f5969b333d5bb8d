import Mathlib.Data.List.MinMax
import Mathlib.Data.List.Perm.Basic

/-!
# Queues that give out the least element

A priority queue as the list of its elements, in any order. `popLeast` takes out one with the least key; which of
several with the same key is not to be relied on.

`Ahead R out left` says that what a queue has given out is in order and ahead of what is left in it; `Ahead.push` and
`Ahead.pop` are the rules by which it is kept.
-/

namespace ENavigator

open List

variable {α κ : Type} [DecidableEq α] [LinearOrder κ] {key : α → κ} {queue rest : List α} {x : α}

def popLeast (key : α → κ) (queue : List α) : Option (α × List α) :=
  (queue.argmin key).map fun x => (x, queue.erase x)

theorem argmin_of_popLeast (h : popLeast key queue = some (x, rest)) :
    x ∈ queue.argmin key ∧ rest = queue.erase x := by
  obtain ⟨y, hy, heq⟩ := Option.map_eq_some_iff.mp h
  obtain ⟨rfl, rfl⟩ := Prod.mk.inj heq
  exact ⟨hy, rfl⟩

theorem popLeast_perm (h : popLeast key queue = some (x, rest)) : queue.Perm (x :: rest) := by
  obtain ⟨hx, rfl⟩ := argmin_of_popLeast h
  exact perm_cons_erase (argmin_mem hx)

theorem popLeast_le (h : popLeast key queue = some (x, rest)) : ∀ y ∈ queue, key x ≤ key y :=
  fun _ hy => le_of_mem_argmin hy (argmin_of_popLeast h).1

theorem popLeast_eq_none : popLeast key queue = none ↔ queue = [] :=
  Option.map_eq_none_iff.trans argmin_eq_none

/-- All elements, the least first, and what `popLeast` leaves of them at the end. -/
def drainLeast (key : α → κ) : Nat → List α → List α × List α
  | 0, queue => ([], queue)
  | fuel + 1, queue =>
    match popLeast key queue with
    | none => ([], queue)
    | some (x, rest) => (x :: (drainLeast key fuel rest).1, (drainLeast key fuel rest).2)

/-- As many turns as there are elements are enough. -/
theorem drainLeast_perm (key : α → κ) {fuel : Nat} {queue : List α} (h : queue.length ≤ fuel) :
    (drainLeast key fuel queue).1.Perm queue ∧ (drainLeast key fuel queue).2 = [] := by
  induction fuel generalizing queue with
  | zero =>
    obtain rfl := length_eq_zero_iff.mp (Nat.le_zero.mp h)
    exact ⟨List.Perm.refl _, rfl⟩
  | succ fuel ih =>
    rw [drainLeast]
    rcases hpop : popLeast key queue with _ | ⟨x, rest⟩
    · obtain rfl := popLeast_eq_none.mp hpop
      exact ⟨List.Perm.refl _, rfl⟩
    · have hperm := popLeast_perm hpop
      have hlength := hperm.length_eq
      rw [length_cons] at hlength
      have hfuel : rest.length ≤ fuel := by omega
      obtain ⟨hrest, hleft⟩ := ih hfuel
      exact ⟨(hrest.cons x).trans hperm.symm, hleft⟩

/-! ## What has been given out -/

/-- What has been given out is in order, and ahead of what is left. -/
structure Ahead {α : Type} (R : α → α → Prop) (out left : List α) : Prop where
  ordered : out.Pairwise R
  ahead : ∀ a ∈ out, ∀ b ∈ left, R a b

namespace Ahead

variable {α : Type} {R : α → α → Prop} {out left rest : List α} {x : α}

theorem nil (left : List α) : Ahead R [] left := ⟨.nil, nofun⟩

theorem push (h : Ahead R out left) (hx : ∀ a ∈ out, R a x) : Ahead R out (left ++ [x]) := by
  refine ⟨h.ordered, fun a ha => ?_⟩
  exact forall_mem_append.mpr ⟨h.ahead a ha, forall_mem_singleton.mpr (hx a ha)⟩

theorem pop (h : Ahead R out left) (hleft : left.Perm (x :: rest)) (hx : ∀ b ∈ rest, R x b) :
    Ahead R (out ++ [x]) rest := by
  have hmem : ∀ b ∈ x :: rest, b ∈ left := fun b hb => hleft.mem_iff.mpr hb
  refine ⟨?_, forall_mem_append.mpr ⟨fun a ha b hb => ?_, forall_mem_singleton.mpr hx⟩⟩
  · refine pairwise_append.mpr ⟨h.ordered, pairwise_singleton _ _, fun a ha => forall_mem_singleton.mpr ?_⟩
    exact h.ahead a ha x (hmem x mem_cons_self)
  · exact h.ahead a ha b (hmem b (mem_cons_of_mem x hb))

end Ahead

end ENavigator
