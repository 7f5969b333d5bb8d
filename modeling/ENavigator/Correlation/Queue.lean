import ENavigator.Correlation.Observation

/-!
# The queue of requests in flight

What every protocol with ordered responses does to its connection's queue: a request expires the old heads,
makes room and joins the end (`enqueue`); a response completes one entry (`emitCompletedRequest`). `HasRoom` is
the case in which a request pushes nothing out.
-/

namespace ENavigator.Correlation

/-- The first element that meets the condition, with those in front of it and behind it. -/
def splitFirst {α : Type} (p : α → Bool) : List α → Option (List α × α × List α)
  | [] => none
  | a :: rest =>
    if p a then some ([], a, rest) else (splitFirst p rest).map fun (front, b, back) => (a :: front, b, back)

theorem splitFirst_eq {α : Type} {p : α → Bool} {l front back : List α} {a : α}
    (h : splitFirst p l = some (front, a, back)) : l = front ++ a :: back := by
  induction l generalizing front with
  | nil => cases h
  | cons b rest ih =>
    unfold splitFirst at h
    split at h
    · cases h
      rfl
    · obtain ⟨⟨front', a', back'⟩, hrest, hsplit⟩ := Option.map_eq_some_iff.mp h
      cases hsplit
      rw [ih hrest]
      rfl

/-- A connection's queue with the counters and the observations it has produced. -/
structure Tracker (Lifecycle : Type) where
  inFlight : List (InFlightRequest Lifecycle) := []
  counters : ProtocolRegistryCounters := {}
  signals : List ProtocolRequestObservation := []

namespace Tracker

variable {Lifecycle : Type}

def count (t : Tracker Lifecycle) (add : ProtocolRegistryCounters → ProtocolRegistryCounters) : Tracker Lifecycle :=
  { t with counters := add t.counters }

def unparsedResponse (t : Tracker Lifecycle) : Tracker Lifecycle :=
  t.count fun c => { c with unparsedResponses := c.unparsedResponses + 1 }

def orphanResponse (t : Tracker Lifecycle) : Tracker Lifecycle :=
  t.count fun c => { c with orphanResponses := c.orphanResponses + 1 }

/-- The queue without the response states of its entries. -/
def erase (t : Tracker Lifecycle) : Tracker Unit where
  inFlight := t.inFlight.map fun entry => ⟨entry.parsed, entry.startedUnixNanos, ()⟩
  counters := t.counters
  signals := t.signals

def expired (observed : Nat) (entry : InFlightRequest Lifecycle) : Bool :=
  !(observed - entry.startedUnixNanos < requestMatchTimeoutNanos)

/-- The loop over the heads; the queue is what is left of it. -/
def expireFrom (observed : Nat) (counters : ProtocolRegistryCounters)
    (signals : List ProtocolRequestObservation) : List (InFlightRequest Lifecycle) → Tracker Lifecycle
  | [] => ⟨[], counters, signals⟩
  | entry :: rest =>
    if expired observed entry then
      expireFrom observed { counters with unmatchedExpired := counters.unmatchedExpired + 1 }
        (signals ++ [entry.unmatched]) rest
    else ⟨entry :: rest, counters, signals⟩

def expireInFlight (observed : Nat) (t : Tracker Lifecycle) : Tracker Lifecycle :=
  expireFrom observed t.counters t.signals t.inFlight

def evictHead (t : Tracker Lifecycle) : Tracker Lifecycle :=
  if t.inFlight.length ≥ maxInFlightRequests then
    match t.inFlight with
    | entry :: rest =>
      { inFlight := rest
        counters := { t.counters with unmatchedOverflow := t.counters.unmatchedOverflow + 1 }
        signals := t.signals ++ [entry.unmatched] }
    | [] => t
  else t

def enqueue (observed : Nat) (parsed : ParsedRequestFrame) (response : Lifecycle) (t : Tracker Lifecycle) :
    Tracker Lifecycle :=
  let t := (t.expireInFlight observed).evictHead
  { t with inFlight := t.inFlight ++ [⟨parsed, observed, response⟩] }

def emitUnmatched (parsed : ParsedRequestFrame) (observed : Nat) (t : Tracker Lifecycle) : Tracker Lifecycle :=
  { t with signals := t.signals ++ [buildObservation parsed observed none] }

def emitCompletedRequest (config : ProtocolExtractionConfig) (observed : Nat) (entry : InFlightRequest Lifecycle)
    (response : ParsedResponseFrame) (t : Tracker Lifecycle) : Tracker Lifecycle :=
  { t with
    counters := { t.counters with matchedResponses := t.counters.matchedResponses + 1 }
    signals := t.signals ++ [buildObservation (mergeResponseAttributes entry.parsed response config.maxAttributes)
      entry.startedUnixNanos (some observed)] }

/-- A request that joins now pushes no other one out. -/
def HasRoom (observed : Nat) (t : Tracker Lifecycle) : Prop :=
  (∀ entry ∈ t.inFlight.head?, expired observed entry = false) ∧ t.inFlight.length < maxInFlightRequests

instance (observed : Nat) (t : Tracker Lifecycle) : Decidable (t.HasRoom observed) :=
  inferInstanceAs (Decidable (_ ∧ _))

variable {observed : Nat} {t : Tracker Lifecycle}

theorem expireInFlight_of_hasRoom (h : t.HasRoom observed) :
    t.expireInFlight observed = t := by
  rcases t with ⟨_ | ⟨entry, rest⟩, counters, signals⟩
  · rfl
  · have hhead : expired observed entry = false := h.1 entry rfl
    rw [expireInFlight, expireFrom, hhead]
    rfl

theorem enqueue_of_hasRoom (h : t.HasRoom observed) (parsed : ParsedRequestFrame) (response : Lifecycle) :
    t.enqueue observed parsed response = { t with inFlight := t.inFlight ++ [⟨parsed, observed, response⟩] } := by
  have hroom : ¬ t.inFlight.length ≥ maxInFlightRequests := Nat.not_le.mpr h.2
  rw [enqueue, expireInFlight_of_hasRoom h, evictHead, if_neg hroom]

/-- So many requests that join now, one after the other, push none out. -/
def HasRoomFor (n observed : Nat) (t : Tracker Lifecycle) : Prop :=
  (0 < n → ∀ entry ∈ t.inFlight.head?, expired observed entry = false) ∧ t.inFlight.length + n ≤ maxInFlightRequests

instance (n observed : Nat) (t : Tracker Lifecycle) : Decidable (t.HasRoomFor n observed) :=
  inferInstanceAs (Decidable ((0 < n → ∀ entry ∈ t.inFlight.head?, expired observed entry = false) ∧ _))

theorem HasRoomFor.hasRoom {n : Nat} (h : t.HasRoomFor (n + 1) observed) :
    t.HasRoom observed := by
  refine ⟨h.1 (Nat.succ_pos n), ?_⟩
  have := h.2
  omega

/-- A request that has just joined does not expire with the next one. -/
theorem HasRoomFor.enqueue {n : Nat} (h : t.HasRoomFor (n + 1) observed)
    (parsed : ParsedRequestFrame) (response : Lifecycle) :
    (t.enqueue observed parsed response).HasRoomFor n observed := by
  rw [enqueue_of_hasRoom h.hasRoom]
  refine ⟨fun _ entry hentry => ?_, ?_⟩
  · rcases hqueue : t.inFlight with _ | ⟨first, rest⟩
    · rw [hqueue] at hentry
      cases hentry
      unfold expired
      rw [Nat.sub_self]
      decide
    · rw [hqueue] at hentry
      exact h.1 (Nat.succ_pos n) entry (by rw [hqueue]; exact hentry)
  · have := h.2
    rw [List.length_append, List.length_singleton]
    omega

end Tracker

end ENavigator.Correlation
