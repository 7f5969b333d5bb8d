import Mathlib.Init

/-!
# Runs over a list of events

A system that reacts to events is a function `step : σ → ε → σ`. `Along step P s events` says that `P` holds of
every event of a run and the state that the event finds, from `s` on. `Along.of_invariant` is the rule for such
statements: an invariant that carries each step from one condition to the other carries the run. `Along.invariant`
is its form for the state that the run ends in.
-/

namespace ENavigator

variable {σ ε : Type} {step : σ → ε → σ}

def Along (step : σ → ε → σ) (P : σ → ε → Prop) : σ → List ε → Prop
  | _, [] => True
  | s, e :: events => P s e ∧ Along step P (step s e) events

instance Along.decidable (P : σ → ε → Prop) [∀ s e, Decidable (P s e)] :
    ∀ (s : σ) (events : List ε), Decidable (Along step P s events)
  | _, [] => isTrue trivial
  | s, e :: events =>
    haveI := Along.decidable P (step s e) events
    inferInstanceAs (Decidable (P s e ∧ Along step P (step s e) events))

variable {C P : σ → ε → Prop} {s : σ} {events : List ε}

theorem Along.of_invariant {I : σ → Prop} (keeps : ∀ s e, I s → C s e → P s e ∧ I (step s e)) (hs : I s)
    (h : Along step C s events) : Along step P s events := by
  induction events generalizing s with
  | nil => exact trivial
  | cons e events ih =>
    obtain ⟨hC, htail⟩ := h
    obtain ⟨hP, hI⟩ := keeps s e hs hC
    exact ⟨hP, ih hI htail⟩

theorem Along.imp (himp : ∀ s e, C s e → P s e) (h : Along step C s events) : Along step P s events := by
  induction events generalizing s with
  | nil => exact trivial
  | cons e events ih => exact ⟨himp s e h.1, ih h.2⟩

theorem Along.and_mem {all : List ε} (hsub : ∀ e ∈ events, e ∈ all) (h : Along step P s events) :
    Along step (fun s e => P s e ∧ e ∈ all) s events := by
  induction events generalizing s with
  | nil => exact trivial
  | cons e events ih =>
    rw [List.forall_mem_cons] at hsub
    exact ⟨⟨h.1, hsub.1⟩, ih hsub.2 h.2⟩

theorem Along.invariant {I : σ → Prop} (keeps : ∀ s e, I s → C s e → I (step s e))
    (hs : I s) (h : Along step C s events) : I (events.foldl step s) := by
  induction events generalizing s with
  | nil => exact hs
  | cons e events ih => exact ih (keeps s e hs h.1) h.2

theorem along_append {before after : List ε} :
    Along step P s (before ++ after) ↔ Along step P s before ∧ Along step P (before.foldl step s) after := by
  induction before generalizing s with
  | nil => exact ⟨fun h => ⟨trivial, h⟩, fun h => h.2⟩
  | cons e before ih =>
    show P s e ∧ Along step P (step s e) (before ++ after) ↔ (P s e ∧ _) ∧ _
    rw [ih, and_assoc]
    rfl

end ENavigator
