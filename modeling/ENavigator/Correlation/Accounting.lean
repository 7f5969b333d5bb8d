import ENavigator.Correlation.Queue
import ENavigator.Lib.Ledger

/-!
# What becomes of the requests in a queue

`Carries` says that an observation is one of a request and its responses. `Accounts` is what a tracker owes for every
step: a request that is in the queue stays there or leaves it with one observation, and the queue stays within its
bound. The lemmas here are those of the operations that every protocol uses; a protocol's turn is made of them.
-/

namespace ENavigator.Correlation

open List

structure Request where
  parsed : ParsedRequestFrame
  startedUnixNanos : Nat

/-- The observation is one of the request as responses have left it. -/
def Carries (r : Request) (o : ProtocolRequestObservation) : Prop :=
  ∃ maxAttributes parsed ended, Answered maxAttributes r.parsed parsed ∧
    o = buildObservation parsed r.startedUnixNanos ended

section Carries

variable {parsed : ParsedRequestFrame} {warning : String} {protocol : ProtocolKind} {status ended : Option Nat}
  {response : ParsedResponseFrame} {maxAttributes started : Nat}

theorem carries_buildObservation : Carries ⟨parsed, started⟩ (buildObservation parsed started ended) :=
  ⟨0, parsed, ended, answered_refl 0 parsed, rfl⟩

theorem carries_warn : Carries ⟨parsed, started⟩ (buildObservation (parsed.warn warning) started ended) :=
  ⟨0, _, ended, answered_warn 0 parsed warning, rfl⟩

theorem carries_merge :
    Carries ⟨parsed, started⟩ (buildObservation
      (mergeResponseAttributes { parsed with protocol := protocol, statusCode := status } response maxAttributes)
      started ended) := by
  refine ⟨maxAttributes, _, ended, ?_, rfl⟩
  exact ⟨rfl, rfl, rfl, .inl rfl, response.attributes, rfl⟩

end Carries

variable {Lifecycle : Type}

def InFlightRequest.request (entry : InFlightRequest Lifecycle) : Request := ⟨entry.parsed, entry.startedUnixNanos⟩

namespace Tracker

def requests (t : Tracker Lifecycle) : List Request := t.inFlight.map InFlightRequest.request

/-- Between two states of a tracker the requests `taken` came in, those `ignored` left without a trace, and every other
one that left has been reported once. -/
structure Accounts (taken ignored : List Request) (before after : Tracker Lifecycle) : Prop where
  balances : ∃ reports, after.signals = before.signals ++ reports ∧
    Balances Carries before.requests taken reports after.requests ignored
  bound : before.inFlight.length ≤ maxInFlightRequests → after.inFlight.length ≤ maxInFlightRequests

variable {taken taken' ignored ignored' : List Request} {t t' t'' : Tracker Lifecycle}

theorem Accounts.trans (h : Accounts taken ignored t t') (h' : Accounts taken' ignored' t' t'') :
    Accounts (taken ++ taken') (ignored ++ ignored') t t'' := by
  obtain ⟨reports, hsignals, hbalances⟩ := h.balances
  obtain ⟨reports', hsignals', hbalances'⟩ := h'.balances
  refine ⟨⟨reports ++ reports', ?_, hbalances.trans hbalances'⟩, fun hbound => h'.bound (h.bound hbound)⟩
  rw [hsignals', hsignals, append_assoc]

theorem accounts_of_requests (hrequests : t'.requests = t.requests) (hsignals : t'.signals = t.signals) :
    Accounts [] [] t t' := by
  refine ⟨⟨[], ?_, ?_⟩, fun hbound => ?_⟩
  · rw [hsignals, append_nil]
  · rw [hrequests]
    exact balances_refl t.requests
  · have hlen := congrArg List.length hrequests
    rw [requests, requests, length_map, length_map] at hlen
    omega

theorem accounts_same {counters : ProtocolRegistryCounters} : Accounts [] [] t { t with counters } :=
  accounts_of_requests rfl rfl

theorem Accounts.quiet (h : Accounts taken ignored t t') (hrequests : t''.requests = t'.requests)
    (hsignals : t''.signals = t'.signals) : Accounts taken ignored t t'' := by
  have hall := h.trans (accounts_of_requests hrequests hsignals)
  rw [append_nil, append_nil] at hall
  exact hall

variable {front back : List (InFlightRequest Lifecycle)} {entry : InFlightRequest Lifecycle}
  {o : ProtocolRequestObservation} {parsed : ParsedRequestFrame} {observed : Nat}

theorem accounts_remove (hqueue : t.inFlight = front ++ entry :: back) (ho : Carries entry.request o)
    (counters : ProtocolRegistryCounters) :
    Accounts [] [] t { inFlight := front ++ back, counters, signals := t.signals ++ [o] } := by
  refine ⟨⟨[o], rfl, ?_⟩, fun hbound => ?_⟩
  · simp only [requests, hqueue, map_append, map_cons]
    exact balances_remove _ _ ho
  · rw [hqueue] at hbound
    simp only [length_append, length_cons] at hbound ⊢
    omega

theorem accounts_removeHead {rest : List (InFlightRequest Lifecycle)} (hqueue : t.inFlight = entry :: rest)
    (ho : Carries entry.request o) (counters : ProtocolRegistryCounters) :
    Accounts [] [] t { inFlight := rest, counters, signals := t.signals ++ [o] } := by
  have hcut : t.inFlight = [] ++ entry :: rest := hqueue
  exact accounts_remove hcut ho counters

theorem accounts_drain (hqueue : t.inFlight = front ++ back)
    {report : InFlightRequest Lifecycle → ProtocolRequestObservation}
    (hreport : ∀ entry, Carries entry.request (report entry)) (counters : ProtocolRegistryCounters) :
    Accounts [] [] t { inFlight := back, counters, signals := t.signals ++ front.map report } := by
  refine ⟨⟨front.map report, rfl, ?_⟩, fun hbound => ?_⟩
  · simp only [requests, hqueue, map_append]
    refine balances_drain _ _ ?_
    rw [forall₂_map_left_iff, forall₂_map_right_iff]
    exact forall₂_same.mpr fun entry _ => hreport entry
  · rw [hqueue, length_append] at hbound
    exact Nat.le_trans (Nat.le_add_left _ _) hbound

theorem accounts_emitUnmatched {parsed' : ParsedRequestFrame}
    (h : Carries ⟨parsed, observed⟩ (buildObservation parsed' observed none)) :
    Accounts [⟨parsed, observed⟩] [] t (t.emitUnmatched parsed' observed) :=
  ⟨⟨_, rfl, balances_pass t.requests h⟩, id⟩

theorem accounts_expireFrom (observed : Nat) (queue : List (InFlightRequest Lifecycle))
    (counters : ProtocolRegistryCounters) (signals : List ProtocolRequestObservation) :
    Accounts [] [] ⟨queue, counters, signals⟩ (expireFrom observed counters signals queue) := by
  induction queue generalizing counters signals with
  | nil => exact accounts_same
  | cons entry rest ih =>
    unfold expireFrom
    split
    · exact (accounts_removeHead (t := ⟨entry :: rest, counters, signals⟩) rfl carries_buildObservation _).trans
        (ih _ _)
    · exact accounts_same

theorem accounts_evictHead (t : Tracker Lifecycle) : Accounts [] [] t t.evictHead := by
  unfold evictHead
  split
  · split
    next entry rest hqueue =>
      exact accounts_removeHead hqueue carries_buildObservation _
    next => exact accounts_same
  · exact accounts_same

theorem length_evictHead (h : t.inFlight.length ≤ maxInFlightRequests) :
    t.evictHead.inFlight.length < maxInFlightRequests := by
  unfold evictHead
  split
  next hfull =>
    split
    next entry rest hqueue =>
      rw [hqueue, length_cons] at h
      exact h
    next hqueue =>
      rw [hqueue]
      exact Nat.succ_pos 31
  next hroom => exact Nat.not_le.mp hroom

/-- A request joins the queue; those that expire and the one that makes room are reported. -/
theorem accounts_enqueue {response : Lifecycle} :
    Accounts [⟨parsed, observed⟩] [] t (t.enqueue observed parsed response) := by
  have hroom : Accounts [] [] t (t.expireInFlight observed).evictHead :=
    (accounts_expireFrom observed t.inFlight t.counters t.signals).trans (accounts_evictHead _)
  obtain ⟨reports, hsignals, hbalances⟩ := hroom.balances
  refine ⟨⟨reports, hsignals, ?_⟩, fun hbound => ?_⟩
  · have hadded := hbalances.trans (balances_add _ ⟨parsed, observed⟩)
    rw [nil_append, append_nil, append_nil] at hadded
    simp only [requests, enqueue, map_append]
    exact hadded
  · have hexpired := (accounts_expireFrom observed t.inFlight t.counters t.signals).bound hbound
    show ((t.expireInFlight observed).evictHead.inFlight ++ [_]).length ≤ _
    rw [length_append, length_singleton]
    exact length_evictHead hexpired

end Tracker

end ENavigator.Correlation
