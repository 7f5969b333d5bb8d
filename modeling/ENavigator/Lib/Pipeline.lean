import Mathlib.Data.List.Perm.Basic

/-!
# Requests in a pipeline

Requests are asked at any time and wait in a queue. A frame goes to the request at the head, which refuses it,
goes on waiting in another state, or is finished; a finished request may make the ones behind it be skipped, up to
a barrier that may not have been asked yet. `Service` is what a request makes of frames; `Pipeline` is the queue
with the fate of every request that has left it.

* `requests_ask`, `requests_tell` : every request is in the queue or has met one fate;
* `Holds.ask`, `Holds.tell` : the rule for what holds of the states in the queue and of the results;
* `Simulation` : what one service owes to stand for another, and `Simulation.map_tell`, that it then does.
-/

namespace ENavigator

open List

variable {Req Frame L R L' R' : Type}

inductive Reaction (L R : Type) where
  | refuse
  | advance (state : L)
  | finish (result : R) (skip : Bool)

def Reaction.map (state : L → L') (result : R → R') : Reaction L R → Reaction L' R'
  | refuse => refuse
  | advance l => advance (state l)
  | finish r skip => finish (result r) skip

instance Reaction.decidableNeRefuse : (reaction : Reaction L R) → Decidable (reaction ≠ .refuse)
  | refuse => isFalse fun h => h rfl
  | advance _ => isTrue nofun
  | finish _ _ => isTrue nofun

structure Service (Req Frame L R : Type) where
  /-- the state in which a request starts to wait; none if it has no answer -/
  start : Req → Option L
  barrier : Req → Bool
  react : Req → L → Frame → Reaction L R

inductive Fate (Req R : Type) where
  | answered (request : Req) (result : R) (time : Nat)
  | skipped (request : Req)
  | unanswered (request : Req)

namespace Fate

def request : Fate Req R → Req
  | answered request _ _ => request
  | skipped request => request
  | unanswered request => request

def map (result : Req → R → R') : Fate Req R → Fate Req R'
  | answered request r time => answered request (result request r) time
  | skipped request => skipped request
  | unanswered request => unanswered request

end Fate

structure Pipeline (Req L R : Type) where
  queue : List (Req × L) := []
  skipping : Bool := false
  fates : List (Fate Req R) := []

namespace Pipeline

variable (S : Service Req Frame L R) (p : Pipeline Req L R)

def ask (request : Req) : Pipeline Req L R :=
  if p.skipping && !S.barrier request then { p with fates := p.fates ++ [.skipped request] }
  else match S.start request with
  | none => { p with fates := p.fates ++ [.unanswered request] }
  | some state => { p with queue := p.queue ++ [(request, state)], skipping := false }

/-- The requests in front of the next barrier leave the queue. -/
def skip : Pipeline Req L R where
  queue := p.queue.dropWhile fun x => !S.barrier x.1
  skipping := (p.queue.dropWhile fun x => !S.barrier x.1).isEmpty
  fates := p.fates ++ (p.queue.takeWhile fun x => !S.barrier x.1).map fun x => .skipped x.1

/-- The head of the queue has reacted to a frame. -/
def after (time : Nat) (request : Req) (rest : List (Req × L)) : Reaction L R → Pipeline Req L R
  | .refuse => p
  | .advance state => { p with queue := (request, state) :: rest }
  | .finish result skip =>
    let p := { p with queue := rest, fates := p.fates ++ [.answered request result time] }
    if skip then p.skip S else p

def tell (time : Nat) (frame : Frame) : Pipeline Req L R :=
  match p.queue with
  | [] => p
  | (request, state) :: rest => p.after S time request rest (S.react request state frame)

theorem tell_nil {p : Pipeline Req L R} (h : p.queue = []) (time : Nat) (frame : Frame) : p.tell S time frame = p := by
  rw [tell, h]

theorem tell_cons {p : Pipeline Req L R} {request : Req} {state : L} {rest : List (Req × L)}
    (h : p.queue = (request, state) :: rest) (time : Nat) (frame : Frame) :
    p.tell S time frame = p.after S time request rest (S.react request state frame) := by
  rw [tell, h]

/-! ## Every request meets one fate -/

def requests : List Req := p.fates.map Fate.request ++ p.queue.map Prod.fst

theorem requests_ask (request : Req) : (p.ask S request).requests.Perm (p.requests ++ [request]) := by
  have hfate : ∀ fate : Fate Req R, fate.request = request →
      ({ p with fates := p.fates ++ [fate] } : Pipeline Req L R).requests.Perm (p.requests ++ [request]) := by
    intro fate hrequest
    simp only [requests, map_append, map_cons, map_nil, hrequest, append_assoc]
    exact List.Perm.append_left _ perm_append_comm
  unfold ask
  split
  · exact hfate _ rfl
  · split
    · exact hfate _ rfl
    · simp only [requests, map_append, map_cons, map_nil, append_assoc]
      exact List.Perm.refl _

theorem requests_skip : (p.skip S).requests = p.requests := by
  have hcut : p.queue = p.queue.takeWhile (fun x => !S.barrier x.1) ++ p.queue.dropWhile fun x => !S.barrier x.1 :=
    takeWhile_append_dropWhile.symm
  have hqueue := congrArg (List.map Prod.fst) hcut
  simp only [requests, skip, map_append, append_assoc, hqueue, map_map]
  rfl

theorem requests_tell (time : Nat) (frame : Frame) : (p.tell S time frame).requests = p.requests := by
  rcases hqueue : p.queue with _ | ⟨⟨request, state⟩, rest⟩
  · rw [tell_nil S hqueue]
  rw [tell_cons S hqueue]
  rcases S.react request state frame with _ | state' | ⟨result, skip⟩
  · rfl
  · simp only [after, requests, hqueue, map_cons]
  · have hfinished : ({ p with queue := rest, fates := p.fates ++ [.answered request result time] } :
        Pipeline Req L R).requests = p.requests := by
      simp only [requests, hqueue, map_append, map_cons, map_nil, append_assoc]
      rfl
    cases skip with
    | false => exact hfinished
    | true => exact (requests_skip S _).trans hfinished

/-! ## What holds of all states and results -/

/-- Each request in the queue is in a state that `I` allows, and each result is one that `J` allows. -/
structure Holds (I : Req → L → Prop) (J : Req → R → Prop) (p : Pipeline Req L R) : Prop where
  queue : ∀ x ∈ p.queue, I x.1 x.2
  answered : ∀ request result time, .answered request result time ∈ p.fates → J request result

section
variable {S} {I : Req → L → Prop} {J : Req → R → Prop} {p : Pipeline Req L R}

theorem Holds.ask (h : Holds I J p) (hstart : ∀ request state, S.start request = some state → I request state)
    (request : Req) : Holds I J (p.ask S request) := by
  have hfate : ∀ fate : Fate Req R, (∀ r result time, fate ≠ .answered r result time) →
      Holds I J { p with fates := p.fates ++ [fate] } := by
    intro fate hne
    refine ⟨h.queue, fun r result time hmem => ?_⟩
    rcases mem_append.mp hmem with hold | hnew
    · exact h.answered r result time hold
    · exact absurd (mem_singleton.mp hnew).symm (hne r result time)
  unfold Pipeline.ask
  split
  · exact hfate _ (nofun)
  split
  · exact hfate _ (nofun)
  · next state hstate =>
      refine ⟨forall_mem_append.mpr ⟨h.queue, forall_mem_singleton.mpr ?_⟩, h.answered⟩
      exact hstart request state hstate

theorem Holds.skip (h : Holds I J p) : Holds I J (p.skip S) := by
  refine ⟨fun x hx => h.queue x (dropWhile_subset _ hx), fun r result time hmem => ?_⟩
  rcases mem_append.mp hmem with hold | hnew
  · exact h.answered r result time hold
  · obtain ⟨x, -, hx⟩ := mem_map.mp hnew
    cases hx

theorem Holds.tell (h : Holds I J p)
    (hadvance : ∀ request state frame state', I request state → S.react request state frame = .advance state' →
      I request state')
    (hfinish : ∀ request state frame result skip, I request state → S.react request state frame = .finish result skip →
      J request result) (time : Nat) (frame : Frame) : Holds I J (p.tell S time frame) := by
  rcases hqueue : p.queue with _ | ⟨⟨request, state⟩, rest⟩
  · rw [tell_nil S hqueue]
    exact h
  have hhead : I request state := h.queue (request, state) (hqueue ▸ mem_cons_self)
  have hrest : ∀ x ∈ rest, I x.1 x.2 := fun x hx => h.queue x (hqueue ▸ mem_cons_of_mem _ hx)
  rw [tell_cons S hqueue]
  rcases hreact : S.react request state frame with _ | state' | ⟨result, skip⟩
  · exact h
  · refine ⟨forall_mem_cons.mpr ⟨?_, hrest⟩, h.answered⟩
    exact hadvance request state frame state' hhead hreact
  · have hfinished : Holds I J { p with queue := rest, fates := p.fates ++ [.answered request result time] } := by
      refine ⟨hrest, fun r result' time' hmem => ?_⟩
      rcases mem_append.mp hmem with hold | hnew
      · exact h.answered r result' time' hold
      · cases mem_singleton.mp hnew
        exact hfinish request state frame result skip hhead hreact
    cases skip with
    | false => exact hfinished
    | true => exact hfinished.skip

end

def map (state : Req → L → L') (result : Req → R → R') (p : Pipeline Req L R) : Pipeline Req L' R' where
  queue := p.queue.map fun x => (x.1, state x.1 x.2)
  skipping := p.skipping
  fates := p.fates.map (Fate.map result)

/-- The head of the queue, if there is one, does not refuse the frame. -/
def Accepts (p : Pipeline Req L R) (frame : Frame) : Prop :=
  ∀ x ∈ p.queue.head?, S.react x.1 x.2 frame ≠ .refuse

end Pipeline

/-! ## One service for another -/

/-- `T` does for the images of the states what `S` does for the states, as far as `S` does not refuse. -/
structure Simulation (S : Service Req Frame L R) (T : Service Req Frame L' R') where
  state : Req → L → L'
  result : Req → R → R'
  start : ∀ request, T.start request = (S.start request).map (state request)
  barrier : ∀ request, T.barrier request = S.barrier request
  react : ∀ {request : Req} {l : L} {frame : Frame}, S.react request l frame ≠ .refuse →
    T.react request (state request l) frame = (S.react request l frame).map (state request) (result request)

namespace Simulation

variable {S : Service Req Frame L R} {T : Service Req Frame L' R'} (sim : Simulation S T)
  (p : Pipeline Req L R)

def map : Pipeline Req L' R' := p.map sim.state sim.result

theorem map_ask (request : Req) : (sim.map p).ask T request = sim.map (p.ask S request) := by
  have hskipping : (sim.map p).skipping = p.skipping := rfl
  unfold Pipeline.ask
  rw [sim.barrier, hskipping, sim.start]
  split
  · simp only [map, Pipeline.map, map_append]
    rfl
  · rcases S.start request with _ | state
    · simp only [map, Pipeline.map, map_append, Option.map_none]
      rfl
    · simp only [map, Pipeline.map, map_append, Option.map_some]
      rfl

theorem map_skip : (sim.map p).skip T = sim.map (p.skip S) := by
  have hbarrier : (fun x : Req × L' => !T.barrier x.1) ∘ (fun x : Req × L => (x.1, sim.state x.1 x.2)) =
      fun x => !S.barrier x.1 := by
    funext x
    exact congrArg (!·) (sim.barrier x.1)
  simp only [Pipeline.skip, map, Pipeline.map, dropWhile_map, takeWhile_map, hbarrier, isEmpty_map,
    map_append, map_map]
  rfl

theorem map_tell {p : Pipeline Req L R} {frame : Frame} (h : p.Accepts S frame) (time : Nat) :
    (sim.map p).tell T time frame = sim.map (p.tell S time frame) := by
  rcases hqueue : p.queue with _ | ⟨⟨request, state⟩, rest⟩
  · have hmapped : (sim.map p).queue = [] := by rw [map, Pipeline.map, hqueue, map_nil]
    rw [Pipeline.tell_nil S hqueue, Pipeline.tell_nil T hmapped]
  · have hmapped : (sim.map p).queue = (request, sim.state request state) ::
        rest.map fun x => (x.1, sim.state x.1 x.2) := by
      rw [map, Pipeline.map, hqueue, map_cons]
    have haccepted := h (request, state) (by rw [hqueue]; rfl)
    rw [Pipeline.tell_cons S hqueue, Pipeline.tell_cons T hmapped, sim.react haccepted]
    rcases hreact : S.react request state frame with _ | state' | ⟨result, skip⟩
    · exact absurd hreact haccepted
    · rfl
    · show (sim.map p).after T time request _ (.finish (sim.result request result) skip) = _
      have hfinished : ({ sim.map p with
          queue := rest.map fun x => (x.1, sim.state x.1 x.2)
          fates := (sim.map p).fates ++ [.answered request (sim.result request result) time] } :
            Pipeline Req L' R') =
          sim.map { p with queue := rest, fates := p.fates ++ [.answered request result time] } := by
        simp only [map, Pipeline.map, map_append]
        rfl
      cases skip with
      | false => exact hfinished
      | true => exact (congrArg (Pipeline.skip T) hfinished).trans (sim.map_skip _)

end Simulation

end ENavigator
