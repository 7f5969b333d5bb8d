import ENavigator.Lib.Pipeline
import ENavigator.Lib.Runs

/-!
# A pipeline that hears late

Two pipelines are asked the same requests at the same time, but one of them hears the frames later than the other:
they are on the way to it. It has been asked more than the other had been when a frame was sent, and yet it comes to
the same in the end, since a frame goes to the head of the queue and a request joins the end of it.

* `Same` : the same queue, and the same fates but for their order and their times; whether a request without an answer
  was skipped is not told;
* `same_ask_tell` : a request may be asked before or after a frame that has a request to go to;
* `Behind`, `Behind.ask`, `Behind.send`, `Behind.hear` : the late pipeline, with the frames on the way to it, is the
  same as the other.
-/

namespace ENavigator

open List

variable {Req Frame L R : Type} (S : Service Req Frame L R)
variable {p q : Pipeline Req L R} {frame : Frame}

/-- What can be told of a fate, whenever it was met. -/
def Service.outcome : Fate Req R → Fate Req R
  | .answered request result _ => .answered request result 0
  | .skipped request => if (S.start request).isNone then .unanswered request else .skipped request
  | .unanswered request => .unanswered request

/-- Fates with one outcome are the same answer or the same fate, or one of them is skipped and the other unanswered. -/
theorem Service.eq_of_outcome {fate late : Fate Req R} (h : S.outcome late = S.outcome fate) :
    (∃ request result time time', late = .answered request result time ∧ fate = .answered request result time') ∨
      (late = fate ∧ ∃ request, fate = .skipped request ∨ fate = .unanswered request) ∨
      ∃ request, S.start request = none ∧
        (late = .skipped request ∧ fate = .unanswered request ∨
          late = .unanswered request ∧ fate = .skipped request) := by
  cases late <;> cases fate <;> grind [Service.outcome, Option.isNone_iff_eq_none]

namespace Pipeline

structure Same (p q : Pipeline Req L R) : Prop where
  queue : p.queue = q.queue
  skipping : p.skipping = q.skipping
  fates : (p.fates.map S.outcome).Perm (q.fates.map S.outcome)

theorem same_refl (p : Pipeline Req L R) : Same S p p := ⟨rfl, rfl, .refl _⟩

variable {S}

theorem Same.trans {r : Pipeline Req L R} (h : Same S p q) (h' : Same S q r) : Same S p r :=
  ⟨h.queue.trans h'.queue, h.skipping.trans h'.skipping, h.fates.trans h'.fates⟩

/-! ## The fates so far do not matter -/

/-- The pipeline as if nothing had left it. -/
def core (p : Pipeline Req L R) : Pipeline Req L R := { p with fates := [] }

/-- The fates of an earlier time come first. -/
def since (before : List (Fate Req R)) (p : Pipeline Req L R) : Pipeline Req L R :=
  { p with fates := before ++ p.fates }

variable (S)

theorem ask_core (p : Pipeline Req L R) (request : Req) : p.ask S request = (p.core.ask S request).since p.fates := by
  have hskipping : p.core.skipping = p.skipping := rfl
  unfold ask
  rw [hskipping]
  split
  · rfl
  · split
    · rfl
    · simp only [since, core, append_nil]

theorem skip_since (p : Pipeline Req L R) (before : List (Fate Req R)) :
    (p.since before).skip S = (p.skip S).since before := by
  simp only [skip, since, append_assoc]

theorem tell_core (p : Pipeline Req L R) (time : Nat) (frame : Frame) :
    p.tell S time frame = (p.core.tell S time frame).since p.fates := by
  have hcore : p = p.core.since p.fates := by simp only [since, core, append_nil]
  rcases hqueue : p.queue with _ | ⟨⟨request, state⟩, rest⟩
  · have hempty : p.core.queue = [] := hqueue
    rw [tell_nil S hqueue, tell_nil S hempty]
    exact hcore
  have hcons : p.core.queue = (request, state) :: rest := hqueue
  rw [tell_cons S hqueue, tell_cons S hcons]
  rcases S.react request state frame with _ | state' | ⟨result, skip⟩
  · exact hcore
  · simp only [after, since, core, append_nil]
  · have hfinished : ({ p with queue := rest, fates := p.fates ++ [.answered request result time] } :
        Pipeline Req L R) =
        since p.fates { p.core with queue := rest, fates := p.core.fates ++ [.answered request result time] } := by
      simp only [since, core, nil_append]
    unfold after
    dsimp only
    rw [hfinished]
    cases skip with
    | false => rfl
    | true => exact skip_since S _ _

variable {S} in
theorem Same.core (h : Same S p q) : p.core = q.core := by
  rw [Pipeline.core, Pipeline.core, h.queue, h.skipping]

theorem same_since (h : Same S p q) (next : Pipeline Req L R) : Same S (next.since p.fates) (next.since q.fates) := by
  refine ⟨rfl, rfl, ?_⟩
  show ((p.fates ++ next.fates).map S.outcome).Perm ((q.fates ++ next.fates).map S.outcome)
  rw [map_append, map_append]
  exact h.fates.append_right _

variable {S} in
theorem Same.ask (h : Same S p q) (request : Req) : Same S (p.ask S request) (q.ask S request) := by
  rw [ask_core S p, ask_core S q, h.core]
  exact same_since S h _

theorem same_tell (p : Pipeline Req L R) (time time' : Nat) (frame : Frame) :
    Same S (p.tell S time frame) (p.tell S time' frame) := by
  rcases hqueue : p.queue with _ | ⟨⟨request, state⟩, rest⟩
  · rw [tell_nil S hqueue, tell_nil S hqueue]
    exact same_refl S p
  rw [tell_cons S hqueue, tell_cons S hqueue]
  have hfates : ∀ skipped : List (Fate Req R), ∀ result,
      ((p.fates ++ [Fate.answered request result time] ++ skipped).map S.outcome).Perm
        ((p.fates ++ [Fate.answered request result time'] ++ skipped).map S.outcome) := by
    intro skipped result
    simp only [map_append, map_cons, map_nil, Service.outcome]
    exact .refl _
  rcases S.react request state frame with _ | state' | ⟨result, skip⟩
  · exact same_refl S p
  · exact same_refl S _
  · cases skip with
    | false =>
      have hnone := hfates [] result
      rw [append_nil, append_nil] at hnone
      exact ⟨rfl, rfl, hnone⟩
    | true => exact ⟨rfl, rfl, hfates _ result⟩

variable {S} in
theorem Same.tell (h : Same S p q) (time time' : Nat) (frame : Frame) :
    Same S (p.tell S time frame) (q.tell S time' frame) := by
  refine (same_tell S p time time' frame).trans ?_
  rw [tell_core S p, tell_core S q, h.core]
  exact same_since S h _

/-! ## A request and a frame in either order -/

/-- What is skipped was asked with nothing left in the queue. -/
def Settled (p : Pipeline Req L R) : Prop := p.skipping = true → p.queue = []

theorem Settled.not_skipping (h : p.Settled) {head : Req × L} {rest : List (Req × L)}
    (hqueue : p.queue = head :: rest) : p.skipping = false := by
  rw [← Bool.not_eq_true]
  intro hskipping
  rw [h hskipping] at hqueue
  cases hqueue

variable {request : Req} {late : Pipeline Req L R} {way : List Frame}

theorem ask_of_start (h : p.skipping = false) {state : L} (hstart : S.start request = some state) :
    p.ask S request = { p with queue := p.queue ++ [(request, state)] } := by
  rcases p with ⟨queue, skipping, fates⟩
  cases h
  simp only [Pipeline.ask, hstart, Bool.false_and, Bool.false_eq_true, if_false]

theorem settled_ask (h : p.Settled) (request : Req) : (p.ask S request).Settled := by
  unfold Pipeline.ask
  split
  · exact h
  · split
    · exact h
    · exact fun hskipping => absurd hskipping Bool.false_ne_true

theorem settled_skip (p : Pipeline Req L R) : (p.skip S).Settled := fun h => isEmpty_iff.mp h

theorem settled_tell (h : p.Settled) (time : Nat) (frame : Frame) : (p.tell S time frame).Settled := by
  rcases hqueue : p.queue with _ | ⟨⟨request, state⟩, rest⟩
  · rw [tell_nil S hqueue]
    exact h
  have hbusy := h.not_skipping hqueue
  rw [tell_cons S hqueue]
  rcases S.react request state frame with _ | state' | ⟨result, skip⟩
  · exact h
  · exact fun hskipping => absurd (hbusy.symm.trans hskipping) Bool.false_ne_true
  · cases skip with
    | false => exact fun hskipping => absurd (hbusy.symm.trans hskipping) Bool.false_ne_true
    | true => exact settled_skip S _

/-- A request that waits is skipped just as it would be if it came later. -/
theorem skip_snoc {state : L} (hstart : S.start request = some state) (p : Pipeline Req L R) :
    ({ p with queue := p.queue ++ [(request, state)] } : Pipeline Req L R).skip S = (p.skip S).ask S request := by
  have hall : (p.queue.takeWhile fun x => !S.barrier x.1).length = p.queue.length ↔
      p.queue.dropWhile (fun x => !S.barrier x.1) = [] := by
    have hcut := congrArg List.length
      (takeWhile_append_dropWhile (p := fun x : Req × L => !S.barrier x.1) (l := p.queue))
    rw [length_append] at hcut
    rw [← length_eq_zero_iff]
    omega
  unfold Pipeline.ask
  rw [hstart]
  by_cases hopen : p.queue.dropWhile (fun x => !S.barrier x.1) = []
  · have hwhole : p.queue.takeWhile (fun x => !S.barrier x.1) = p.queue := by
      have hcut := takeWhile_append_dropWhile (p := fun x : Req × L => !S.barrier x.1) (l := p.queue)
      rw [hopen, append_nil] at hcut
      exact hcut
    -- nothing in the queue ends the skipping, so it is up to the request
    cases hbarrier : S.barrier request with
    | true | false => simp [skip, dropWhile_append, takeWhile_append, hopen, hwhole, hbarrier]
  · simp [skip, dropWhile_append, takeWhile_append, hall, hopen]

/-- A request without an answer has its fate before or after a frame. -/
theorem same_ask_after {head : Req} (hstart : S.start request = none) (time : Nat) (rest : List (Req × L))
    {reaction : Reaction L R} (hreaction : reaction ≠ .refuse) :
    Same S (({ p with fates := p.fates ++ [.unanswered request] } : Pipeline Req L R).after S time head rest reaction)
      ((p.after S time head rest reaction).ask S request) := by
  have hasked : ∀ q : Pipeline Req L R, ∃ fate, S.outcome fate = .unanswered request ∧
      q.ask S request = { q with fates := q.fates ++ [fate] } := by
    intro q
    unfold Pipeline.ask
    rw [hstart]
    split
    · refine ⟨.skipped request, ?_, rfl⟩
      simp only [Service.outcome, hstart, Option.isNone_none, if_true]
    · exact ⟨.unanswered request, rfl, rfl⟩
  obtain ⟨fate, hfate, hask⟩ := hasked (p.after S time head rest reaction)
  rw [hask]
  rcases reaction with _ | state | ⟨result, skip⟩
  · exact absurd rfl hreaction
  · refine ⟨rfl, rfl, ?_⟩
    simp only [after, map_append, map_cons, map_nil, hfate]
    exact .refl _
  · have hswap : ∀ skipped : List (Fate Req R),
        ((p.fates ++ [Fate.unanswered request] ++ [Fate.answered head result time] ++ skipped).map S.outcome).Perm
          ((p.fates ++ [Fate.answered head result time] ++ skipped ++ [fate]).map S.outcome) := by
      intro skipped
      simp only [map_append, map_cons, map_nil, hfate, append_assoc]
      exact List.Perm.append_left _ perm_append_comm
    cases skip with
    | false =>
      have hnone := hswap []
      rw [append_nil, append_nil] at hnone
      exact ⟨rfl, rfl, hnone⟩
    | true => exact ⟨rfl, rfl, hswap _⟩

variable (aside : Frame → Bool)

/-- The frame has a request to go to, or goes to none. -/
def Heard (p : Pipeline Req L R) (frame : Frame) : Prop :=
  aside frame = true ∨ ∃ x ∈ p.queue.head?, S.react x.1 x.2 frame ≠ .refuse

instance (p : Pipeline Req L R) (frame : Frame) : Decidable (p.Heard S aside frame) :=
  inferInstanceAs (Decidable (aside frame = true ∨ ∃ x ∈ p.queue.head?, S.react x.1 x.2 frame ≠ .refuse))

variable {aside} (hidle : ∀ request state frame, aside frame = true → S.react request state frame = .advance state)
include hidle

theorem tell_aside (haside : aside frame = true) (p : Pipeline Req L R) (time : Nat) : p.tell S time frame = p := by
  rcases hqueue : p.queue with _ | ⟨⟨request, state⟩, rest⟩
  · exact tell_nil S hqueue time frame
  · rw [tell_cons S hqueue, hidle request state frame haside, after, ← hqueue]

/-- **A request joins the queue before or after a frame.** -/
theorem same_ask_tell (hsettled : p.Settled) (hheard : p.Heard S aside frame) (request : Req) (time : Nat) :
    Same S ((p.ask S request).tell S time frame) ((p.tell S time frame).ask S request) := by
  rcases hheard with haside | ⟨⟨head, state⟩, hhead, hreact⟩
  · rw [tell_aside S hidle haside, tell_aside S hidle haside]
    exact same_refl S _
  obtain ⟨rest, hqueue⟩ := List.head?_eq_some_iff.mp hhead
  have hbusy := hsettled.not_skipping hqueue
  rw [tell_cons S hqueue]
  rcases hstart : S.start request with _ | start
  · have hasked : p.ask S request = { p with fates := p.fates ++ [.unanswered request] } := by
      rw [Pipeline.ask, hbusy, hstart]
      rfl
    have hcons : (p.ask S request).queue = (head, state) :: rest := by rw [hasked]; exact hqueue
    rw [tell_cons S hcons, hasked]
    exact same_ask_after S hstart time rest hreact
  · have hasked := ask_of_start S hbusy hstart
    have hcons : (p.ask S request).queue = (head, state) :: (rest ++ [(request, start)]) := by
      rw [hasked, hqueue]
      rfl
    rw [tell_cons S hcons, hasked]
    rcases hreaction : S.react head state frame with _ | state' | ⟨result, skip⟩
    · exact absurd hreaction hreact
    · have hafter : (p.after S time head rest (.advance state')).skipping = false := hbusy
      rw [ask_of_start S hafter hstart]
      exact same_refl S _
    · cases skip with
      | false =>
        have hafter : (p.after S time head rest (.finish result false)).skipping = false := hbusy
        rw [ask_of_start S hafter hstart]
        exact same_refl S _
      | true =>
        have hskip := skip_snoc S hstart
          { p with queue := rest, fates := p.fates ++ [.answered head result time] }
        show Same S (Pipeline.skip S _) ((Pipeline.skip S _).ask S request)
        rw [← hskip]
        exact same_refl S _

omit hidle

/-! ## Frames on the way -/

/-- A frame is heard, at a time that makes no difference. -/
def hear (p : Pipeline Req L R) (frame : Frame) : Pipeline Req L R := p.tell S 0 frame

variable (aside) in
/-- The frames on the way to the late pipeline make it the same as the other one. -/
structure Behind (late : Pipeline Req L R) (way : List Frame) (p : Pipeline Req L R) : Prop where
  settled : late.Settled
  heard : Along (hear S) (fun p frame => p.Heard S aside frame) late way
  same : Same S (way.foldl (hear S) late) p

theorem heard_of_queue (hqueue : p.queue = q.queue) (h : p.Heard S aside frame) : q.Heard S aside frame := by
  rw [Heard, ← hqueue]
  exact h

theorem Heard.ask (h : p.Heard S aside frame) (request : Req) : (p.ask S request).Heard S aside frame := by
  rcases h with haside | ⟨x, hx, hreact⟩
  · exact .inl haside
  refine .inr ⟨x, ?_, hreact⟩
  obtain ⟨rest, hqueue⟩ := List.head?_eq_some_iff.mp hx
  unfold Pipeline.ask
  split
  · exact hx
  · split
    · exact hx
    · show (p.queue ++ _).head? = some x
      rw [hqueue]
      rfl

variable {S}

theorem Same.hear (h : Same S p q) (way : List Frame)
    (hheard : Along (Pipeline.hear S) (fun p frame => p.Heard S aside frame) q way) :
    Along (Pipeline.hear S) (fun p frame => p.Heard S aside frame) p way ∧
      Same S (way.foldl (Pipeline.hear S) p) (way.foldl (Pipeline.hear S) q) := by
  induction way generalizing p q with
  | nil => exact ⟨trivial, h⟩
  | cons frame way ih =>
    obtain ⟨hrest, hsame⟩ := ih (h.tell 0 0 frame) hheard.2
    exact ⟨⟨heard_of_queue S h.queue.symm hheard.1, hrest⟩, hsame⟩

theorem Behind.hear (h : Behind S aside late (frame :: way) p) (time : Nat) :
    Behind S aside (late.tell S time frame) way p := by
  obtain ⟨hheard, hsame⟩ := (same_tell S late time 0 frame).hear way h.heard.2
  exact ⟨settled_tell S h.settled time frame, hheard, hsame.trans h.same⟩

theorem Behind.send (h : Behind S aside late way p) (hframe : p.Heard S aside frame) (time : Nat) :
    Behind S aside late (way ++ [frame]) (p.tell S time frame) := by
  refine ⟨h.settled, along_append.mpr ⟨h.heard, ?_, trivial⟩, ?_⟩
  · exact heard_of_queue S h.same.queue.symm hframe
  · rw [foldl_append]
    exact h.same.tell 0 time frame

include hidle in
/-- A request is asked, by induction on the frames that it overtakes. -/
theorem Behind.ask (h : Behind S aside late way p) (request : Req) :
    Behind S aside (late.ask S request) way (p.ask S request) := by
  have hovertakes : Along (Pipeline.hear S) (fun p frame => p.Heard S aside frame) (late.ask S request) way ∧
      Same S (way.foldl (Pipeline.hear S) (late.ask S request)) ((way.foldl (Pipeline.hear S) late).ask S request) := by
    obtain ⟨hsettled, hheard, -⟩ := h
    induction way generalizing late with
    | nil => exact ⟨trivial, same_refl S _⟩
    | cons frame way ih =>
      obtain ⟨hrest, hsame⟩ := ih (settled_tell S hsettled 0 frame) hheard.2
      obtain ⟨hrest', hsame'⟩ := (same_ask_tell S hidle hsettled hheard.1 request 0).hear way hrest
      exact ⟨⟨hheard.1.ask S request, hrest'⟩, hsame'.trans hsame⟩
  exact ⟨settled_ask S h.settled request, hovertakes.1, hovertakes.2.trans (h.same.ask request)⟩

end Pipeline
end ENavigator
