import ENavigator.Lib.Runs
import ENavigator.Signals.Metric
import Mathlib.Data.List.AList

/-!
# Refreshing Kubernetes metadata

A lookup starts a refresh of the metadata unless one is running. If it hits the cache it does so only when the last
refresh ended half a minute ago and found the container it was started for. So after a refresh that failed, or that was
started for a container which is gone, no hit starts another one, however old the metadata gets
(`refreshes_iff_foundLast`). At most one refresh runs at a time.
-/

namespace ENavigator.Attribution

open List Signals

/-- `by_container_id`. -/
abbrev KubernetesMetadataCache := AList fun _ : Bytes => KubernetesContext

def minKubernetesMetadataRefreshInterval : Nat := 30 * 10 ^ 9

def minKubernetesMetadataMissRefreshInterval : Nat := 10 ^ 9

structure KubernetesRefreshState where
  refreshedAt : Nat
  requestedContainerFound : Bool
  immediateRetryAvailable : Bool
  inProgress : Bool
  lastSuccessAt : Option Nat

def shouldRefresh (now : Nat) (cacheHit : Bool) (state : KubernetesRefreshState) : Bool :=
  let elapsed := now - state.refreshedAt
  if cacheHit then state.requestedContainerFound ∧ minKubernetesMetadataRefreshInterval ≤ elapsed
  else if state.requestedContainerFound then true
  else state.immediateRetryAvailable ∨ minKubernetesMetadataMissRefreshInterval ≤ elapsed

def startRefreshIfNeeded (now : Nat) (cacheHit : Bool) :
    Option KubernetesRefreshState → Bool × Option KubernetesRefreshState
  | none => (true, some ⟨now, false, false, true, none⟩)
  | some state =>
    if state.inProgress then (false, some state)
    else if shouldRefresh now cacheHit state then (true, some { state with inProgress := true })
    else (false, some state)

def recordRefreshState (now : Nat) (requestedContainerFound succeeded : Bool)
    (lastRefresh : Option KubernetesRefreshState) : KubernetesRefreshState :=
  { refreshedAt := now
    requestedContainerFound
    immediateRetryAvailable :=
      if requestedContainerFound then false
      else !lastRefresh.any fun state => !state.requestedContainerFound && state.immediateRetryAvailable
    inProgress := false
    lastSuccessAt := if succeeded then some now else lastRefresh.bind (·.lastSuccessAt) }

structure KubernetesAttribution where
  enabled : Bool
  cache : KubernetesMetadataCache
  lastRefresh : Option KubernetesRefreshState := none
  /-- the containers that the running refreshes were started for -/
  running : List Bytes := []
  /-- when the last refresh ended, and whether it found its container -/
  completed : Option (Nat × Bool) := none

namespace KubernetesAttribution

def contextForContainer (now : Nat) (containerId : Bytes) (s : KubernetesAttribution) :
    Option KubernetesContext × KubernetesAttribution :=
  let cached := s.cache.lookup containerId
  if s.enabled then
    let started := startRefreshIfNeeded now cached.isSome s.lastRefresh
    (cached, { s with
      lastRefresh := started.2, running := if started.1 then containerId :: s.running else s.running })
  else (cached, s)

/-- The end of a refresh that fetched the metadata or failed. -/
def finishRefresh (now : Nat) (requestedContainerId : Bytes) (s : KubernetesAttribution) :
    Option KubernetesMetadataCache → KubernetesAttribution
  | some newCache =>
    let requestedContainerFound := (newCache.lookup requestedContainerId).isSome
    { s with
      cache := newCache
      lastRefresh := some (recordRefreshState now requestedContainerFound true s.lastRefresh)
      completed := some (now, requestedContainerFound) }
  | none => { s with
      lastRefresh := some (recordRefreshState now false false s.lastRefresh), completed := some (now, false) }

inductive Event
  | lookup (now : Nat) (containerId : Bytes)
  /-- the end of one of the running refreshes -/
  | refreshed (now index : Nat) (result : Option KubernetesMetadataCache)

def step (s : KubernetesAttribution) : Event → KubernetesAttribution
  | .lookup now containerId => (s.contextForContainer now containerId).2
  | .refreshed now index result =>
    match s.running[index]? with
    | some containerId => finishRefresh now containerId { s with running := s.running.eraseIdx index } result
    | none => s

/-- A lookup that hits the cache while no refresh runs, half a minute after the last one. -/
def StaleHit (s : KubernetesAttribution) : Event → Prop
  | .lookup now containerId => (s.cache.lookup containerId).isSome ∧ s.running = [] ∧
      ∃ last ∈ s.completed, minKubernetesMetadataRefreshInterval ≤ now - last.1
  | .refreshed .. => False

/-- Stale metadata is refreshed on use, by one refresh at a time. -/
def Refreshes (s : KubernetesAttribution) (event : Event) : Prop :=
  (s.StaleHit event → (s.step event).running ≠ []) ∧ (s.step event).running.length ≤ 1

/-- Where stale metadata is used, the last refresh found the container it was started for. -/
def FoundLast (s : KubernetesAttribution) (event : Event) : Prop :=
  s.StaleHit event → ∃ last ∈ s.completed, last.2 = true

structure Inv (s : KubernetesAttribution) : Prop where
  enabled : s.enabled = true
  single : s.running.length = (s.lastRefresh.any (·.inProgress)).toNat
  agrees : ∀ last ∈ s.completed,
    s.lastRefresh.map (fun state => (state.refreshedAt, state.requestedContainerFound)) = some last

variable {s : KubernetesAttribution}

theorem Inv.lookup (h : s.Inv) (now : Nat) (containerId : Bytes) : (s.step (.lookup now containerId)).Inv ∧
    (s.StaleHit (.lookup now containerId) →
      ((s.step (.lookup now containerId)).running ≠ [] ↔ ∃ last ∈ s.completed, last.2 = true)) := by
  obtain ⟨enabled, cache, lastRefresh, running, completed⟩ := s
  obtain ⟨rfl, hsingle, hagrees⟩ := h
  rcases lastRefresh with _ | ⟨refreshedAt, found, retry, _ | _, lastSuccessAt⟩
  · obtain rfl : running = [] := length_eq_zero_iff.mp hsingle
    refine ⟨⟨rfl, rfl, fun last hlast => absurd (hagrees last hlast) nofun⟩, ?_⟩
    rintro ⟨-, -, last, hlast, -⟩
    exact absurd (hagrees last hlast) nofun
  · obtain rfl : running = [] := length_eq_zero_iff.mp hsingle
    simp only [step, contextForContainer, startRefreshIfNeeded, if_true, Bool.false_eq_true, if_false]
    refine ⟨by split <;> exact ⟨rfl, rfl, hagrees⟩, ?_⟩
    rintro ⟨hhit, -, last, hlast, hold⟩
    obtain rfl : (refreshedAt, found) = last := Option.some.inj (hagrees last hlast)
    obtain rfl : completed = some (refreshedAt, found) := hlast
    have hhit : (cache.lookup containerId).isSome = true := hhit
    rw [hhit]
    cases found <;> simp [shouldRefresh, hold]
  · refine ⟨⟨rfl, hsingle, hagrees⟩, ?_⟩
    rintro ⟨-, rfl, -⟩
    cases hsingle

theorem Inv.refreshed (h : s.Inv) (now index : Nat) (result : Option KubernetesMetadataCache) :
    (s.step (.refreshed now index result)).Inv := by
  rw [step]
  split
  next containerId hindex =>
    have hrunning : (s.running.eraseIdx index).length = 0 := by
      have hlt := (List.getElem?_eq_some_iff.mp hindex).1
      have hle := Bool.toNat_le (s.lastRefresh.any (·.inProgress))
      rw [length_eraseIdx_of_lt hlt, h.single]
      omega
    cases result <;> exact ⟨h.enabled, hrunning, fun last hlast => hlast⟩
  next => exact h

theorem Inv.refreshes_iff (h : s.Inv) (event : Event) :
    (s.step event).Inv ∧ (s.Refreshes event ↔ s.FoundLast event) := by
  have hstep : (s.step event).Inv ∧
      (s.StaleHit event → ((s.step event).running ≠ [] ↔ ∃ last ∈ s.completed, last.2 = true)) := by
    cases event with
    | lookup now containerId => exact h.lookup now containerId
    | refreshed now index result => exact ⟨h.refreshed now index result, False.elim⟩
  have hsingle : (s.step event).running.length ≤ 1 := hstep.1.single ▸ Bool.toNat_le _
  exact ⟨hstep.1, (and_iff_left hsingle).trans (imp_congr_right hstep.2)⟩

/-- **Stale metadata is refreshed on use exactly as long as the last refresh found its container.** -/
theorem refreshes_iff_foundLast (cache : KubernetesMetadataCache) (events : List Event) :
    Along step Refreshes { enabled := true, cache } events ↔
      Along step FoundLast { enabled := true, cache } events := by
  have hinit : Inv { enabled := true, cache } := ⟨rfl, rfl, nofun⟩
  constructor
  · exact Along.of_invariant
      (fun _ event hinv h => ⟨(hinv.refreshes_iff event).2.mp h, (hinv.refreshes_iff event).1⟩) hinit
  · exact Along.of_invariant
      (fun _ event hinv h => ⟨(hinv.refreshes_iff event).2.mpr h, (hinv.refreshes_iff event).1⟩) hinit

/-- A refresh fails, and the metadata is used an hour later. -/
theorem not_refreshes_failed : ¬ Along step Refreshes
    { enabled := true, cache := AList.singleton (text "a") ⟨text "default", text "api", none, none, none⟩ }
    [.lookup 0 (text "a"), .refreshed 1 0 none, .lookup (3600 * 10 ^ 9) (text "a")] := by
  intro h
  exact h.2.2.1.1 ⟨rfl, rfl, _, rfl, by decide⟩ rfl

end KubernetesAttribution

end ENavigator.Attribution
