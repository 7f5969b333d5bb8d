import ENavigator.Lib.Runs
import Mathlib.Logic.Function.Basic

/-!
# Threads over a shared state

Handlers run in threads, each by atomic operations on a shared state; a schedule says which thread enters a handler or
does its next operation. `Outline.run` is the rule for what holds in every state a run reaches: an invariant of the
shared state, an assertion for each point a handler may be at, and the proof that the steps of one thread keep the
assertions of the others.
-/

namespace ENavigator

/-- Handlers `H` as operations on `S`: `P` is where a handler stands between two operations. -/
structure Handlers (τ H P S : Type) where
  enter : τ → H → S → S × Option P
  advance : τ → P → S → S × Option P

inductive Move (τ H : Type) where
  | enter (t : τ) (h : H)
  | advance (t : τ)

structure Threads (τ P S : Type) where
  shared : S
  running : τ → Option P

variable {τ H P S : Type} [DecidableEq τ]

namespace Threads

/-- What thread `t` leaves behind: the shared state and where it stands now. -/
def put (s : Threads τ P S) (t : τ) (r : S × Option P) : Threads τ P S := ⟨r.1, Function.update s.running t r.2⟩

theorem running_put_self (s : Threads τ P S) (t : τ) (r : S × Option P) : (s.put t r).running t = r.2 :=
  Function.update_self ..

theorem running_put_ne (s : Threads τ P S) {t u : τ} (h : u ≠ t) (r : S × Option P) :
    (s.put t r).running u = s.running u :=
  Function.update_of_ne h ..

/-- The invariant, and of each thread the assertion at its point. -/
def Holds (J : S → Prop) (A : τ → P → S → Prop) (s : Threads τ P S) : Prop :=
  J s.shared ∧ ∀ t p, s.running t = some p → A t p s.shared

variable {J : S → Prop} {A : τ → P → S → Prop}

theorem Holds.put {s : Threads τ P S} {t : τ} {r : S × Option P} (hJ : J r.1) (hself : ∀ p, r.2 = some p → A t p r.1)
    (hframe : ∀ u q, u ≠ t → s.running u = some q → A u q r.1) : (s.put t r).Holds J A := by
  refine ⟨hJ, fun u q hq => ?_⟩
  by_cases hu : u = t
  · subst hu
    rw [running_put_self] at hq
    exact hself q hq
  · rw [running_put_ne s hu] at hq
    exact hframe u q hu hq

end Threads

namespace Handlers

variable (m : Handlers τ H P S)

/-- A thread enters a handler when it is in none, and goes on when it is in one. -/
def step (s : Threads τ P S) : Move τ H → Threads τ P S
  | .enter t h =>
    match s.running t with
    | some _ => s
    | none => s.put t (m.enter t h s.shared)
  | .advance t =>
    match s.running t with
    | none => s
    | some p => s.put t (m.advance t p s.shared)

/-- A proof outline: `own` is the proof of each thread by itself, `frame` that it does not disturb the others. `C` is
what the steps of the run are known to meet. -/
structure Outline (C : Threads τ P S → Move τ H → Prop) (J : S → Prop) (A : τ → P → S → Prop) : Prop where
  enter_own : ∀ (shared : S) t h, J shared → J (m.enter t h shared).1 ∧
    ∀ p, (m.enter t h shared).2 = some p → A t p (m.enter t h shared).1
  enter_frame : ∀ (shared : S) t h u q, u ≠ t → J shared → A u q shared → A u q (m.enter t h shared).1
  advance_own : ∀ (s : Threads τ P S) t p, s.running t = some p → C s (.advance t) → J s.shared → A t p s.shared →
    J (m.advance t p s.shared).1 ∧ ∀ p', (m.advance t p s.shared).2 = some p' → A t p' (m.advance t p s.shared).1
  advance_frame : ∀ (s : Threads τ P S) t p u q, u ≠ t → s.running t = some p → s.running u = some q →
    C s (.advance t) → J s.shared → A t p s.shared → A u q s.shared → A u q (m.advance t p s.shared).1

variable {m} {C : Threads τ P S → Move τ H → Prop} {J : S → Prop} {A : τ → P → S → Prop}

theorem Outline.step (ho : m.Outline C J A) {s : Threads τ P S} {move : Move τ H} (hs : s.Holds J A)
    (hC : C s move) : (m.step s move).Holds J A := by
  obtain ⟨hJ, hA⟩ := hs
  cases move with
  | enter t h =>
    rcases ht : s.running t with _ | p
    · simp only [Handlers.step, ht]
      obtain ⟨hJ', hself⟩ := ho.enter_own s.shared t h hJ
      exact Threads.Holds.put hJ' hself fun u q hu hq => ho.enter_frame s.shared t h u q hu hJ (hA u q hq)
    · simp only [Handlers.step, ht]
      exact ⟨hJ, hA⟩
  | advance t =>
    rcases ht : s.running t with _ | p
    · simp only [Handlers.step, ht]
      exact ⟨hJ, hA⟩
    · simp only [Handlers.step, ht]
      obtain ⟨hJ', hself⟩ := ho.advance_own s t p ht hC hJ (hA t p ht)
      exact Threads.Holds.put hJ' hself fun u q hu hq =>
        ho.advance_frame s t p u q hu ht hq hC hJ (hA t p ht) (hA u q hq)

/-- **The rule for runs**: the invariant holds in the state that a run ends in. -/
theorem Outline.run (ho : m.Outline C J A) {s : Threads τ P S} {moves : List (Move τ H)} (hs : s.Holds J A)
    (h : Along m.step C s moves) : J (moves.foldl m.step s).shared :=
  (Along.invariant (fun _ _ hs hC => ho.step hs hC) hs h).1

end Handlers

end ENavigator
