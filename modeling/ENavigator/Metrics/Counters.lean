import Mathlib.Data.List.AList
import ENavigator.Metrics.Fingerprints
import ENavigator.Signals.Network

/-!
# Keyed counters

The counters of the network and DNS generators: one state per key, with a template of what is exported that is taken
from the first event of the key, a value that only grows and the window it was counted in. New keys are suppressed when
there are too many.
-/

namespace ENavigator.Metrics

open Signals

structure CounterState (τ : Type) where
  template : τ
  value : Nat
  window : MetricAggregationWindow

abbrev Counters (κ τ : Type) := AList fun _ : κ => CounterState τ

variable {κ τ : Type} [DecidableEq κ]

/-- The state after the update if it is to be emitted, and all counters. -/
def updateCounterBy (maxKeys : Nat) (key : κ) (template : τ) (windowStart windowEnd value : Nat)
    (counters : Counters κ τ) : Option (CounterState τ) × Counters κ τ :=
  if value = 0 then (none, counters)
  else
    match counters.lookup key with
    | some state =>
      let state := { state with
        value := saturatingAdd state.value value
        window := ⟨min state.window.startUnixNanos windowStart, max state.window.endUnixNanos windowEnd⟩ }
      (some state, counters.insert key state)
    | none =>
      if maxKeys ≤ counters.entries.length then (none, counters)
      else
        let state := { template, value, window := ⟨windowStart, windowEnd⟩ }
        (some state, counters.insert key state)

def updateCounter (maxKeys : Nat) (key : κ) (template : τ) (timestamp : Nat) (counters : Counters κ τ) :
    Option (CounterState τ) × Counters κ τ :=
  updateCounterBy maxKeys key template timestamp timestamp 1 counters

/-- `P` relates every counter's key to the template that its first event left. -/
def Templated (P : κ → τ → Prop) (counters : Counters κ τ) : Prop :=
  ∀ key state, counters.lookup key = some state → P key state.template

section templated

variable {P : κ → τ → Prop} {counters : Counters κ τ} {maxKeys windowStart windowEnd value : Nat} {key : κ}
  {template : τ} {state : CounterState τ}

theorem templated_empty : Templated P ∅ := by
  intro key state h
  cases h

theorem Templated.insert (h : Templated P counters) (hkey : P key state.template) :
    Templated P (counters.insert key state) := by
  intro key' state' hlookup
  by_cases hsame : key' = key
  · subst hsame
    rw [AList.lookup_insert] at hlookup
    cases hlookup
    exact hkey
  · rw [AList.lookup_insert_ne hsame] at hlookup
    exact h key' state' hlookup

variable {updated : Option (CounterState τ) × Counters κ τ}
  (hupdate : updateCounterBy maxKeys key template windowStart windowEnd value counters = updated)
include hupdate

/-- What an update can do: leave all counters alone, or put the emitted state of its key. Its template is that of the
counter or, for a new one, the given one. -/
theorem updateCounterBy_cases : updated = (none, counters) ∨
    ∃ state, updated = (some state, counters.insert key state) ∧
      (state.template = template ∨ ∃ old, counters.lookup key = some old ∧ state.template = old.template) := by
  subst hupdate
  unfold updateCounterBy
  split
  · exact .inl rfl
  · split
    next old hold => exact .inr ⟨_, rfl, .inr ⟨old, hold, rfl⟩⟩
    next =>
      split
      · exact .inl rfl
      · exact .inr ⟨_, rfl, .inl rfl⟩

/-- An update keeps the relation, and emits a state that has it. -/
theorem Templated.update (h : Templated P counters) (hkey : P key template) :
    Templated P updated.2 ∧ ∀ state ∈ updated.1, P key state.template := by
  rcases updateCounterBy_cases hupdate with rfl | ⟨state, rfl, hfrom⟩
  · exact ⟨h, nofun⟩
  · have hstate : P key state.template := by
      rcases hfrom with htemplate | ⟨old, hold, htemplate⟩
      · rw [htemplate]; exact hkey
      · rw [htemplate]; exact h key old hold
    refine ⟨h.insert hstate, ?_⟩
    rintro _ ⟨⟩
    exact hstate

theorem mem_updateCounterBy {key' : κ} (h : key' ∈ counters ∨ key' = key ∧ updated.1.isSome) : key' ∈ updated.2 := by
  rcases updateCounterBy_cases hupdate with rfl | ⟨state, rfl, -⟩
  · exact h.resolve_right fun hemitted => absurd hemitted.2 Bool.false_ne_true
  · exact (AList.mem_insert _).mpr (h.symm.imp And.left id)

theorem mem_or_eq_of_mem_updateCounterBy {key' : κ} (h : key' ∈ updated.2) : key' ∈ counters ∨ key' = key := by
  rcases updateCounterBy_cases hupdate with rfl | ⟨state, rfl, -⟩
  · exact .inl h
  · exact ((AList.mem_insert _).mp h).symm

end templated

/-! ## Workloads -/

def workloadKey (context : KubernetesContext) : Bytes :=
  context.namespaceName ++ text "/" ++ context.podUid.getD context.podName ++ text "/" ++ context.containerName.getD []

end ENavigator.Metrics
