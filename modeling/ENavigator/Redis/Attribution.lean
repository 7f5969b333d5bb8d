import ENavigator.Lib.Fifo
import ENavigator.Redis.Connection

/-!
# Replies and the commands they answer

On a connection that carries ordinary commands only, the `k`-th reply answers the `k`-th command: the server's
side is a `Fifo`. `Dialogue` is the tracker beside the commands and replies that have been handed to it, each whole and
with the time it is handled at.

`InStep` : the queue of the tracker is that of the server, and its observations are those of the pairs. Commands that
push none out keep it so (`InStep.command`), as do replies that can be read (`InStep.reply`) and frames that answer
nothing (`InStep.aside`).
-/

namespace ENavigator.Redis

open ENavigator.Correlation ENavigator.Stream List

variable (config : ProtocolExtractionConfig)

/-! ## What the server does -/

/-- A message and the time at which it is handled. -/
abbrev Timed := Bytes × Nat

/-- The command with what its reply adds to it. -/
def replied (command reply : Bytes) : ParsedRequestFrame :=
  let parsed := commandOf config (.complete command)
  match responseOf config (.complete reply) with
  | .ok response => mergeResponseAttributes parsed response config.maxAttributes
  | .error reason => parsed.warn reason

/-- The observation of a command and the reply it got. -/
def completion (pair : Timed × Timed) : ProtocolRequestObservation :=
  buildObservation (replied config pair.1.1 pair.2.1) pair.1.2 (some pair.2.2)

/-- The tracker beside the commands and replies that it was handed. -/
structure Dialogue where
  stream : RedisStream := {}
  server : Fifo Timed Timed := {}

namespace Dialogue

variable (d : Dialogue) (m : Timed)

def command : Dialogue := ⟨handleRequestFrame config m.2 (.complete m.1) d.stream, d.server.ask m⟩

def reply : Dialogue := ⟨handleResponseFrame config m.2 (.complete m.1) d.stream, d.server.answer m⟩

/-- A push or an attribute, which answers nothing. -/
def aside : Dialogue := ⟨handleResponseFrame config m.2 (.complete m.1) d.stream, d.server⟩

end Dialogue

/-- A command that has one reply, as far as the tracker can tell. -/
def IsOrdinary (command : Bytes) : Prop :=
  ∀ lifecycle ∈ lifecycleOf config (.complete command), lifecycle.ordinary = true

instance (config : ProtocolExtractionConfig) : DecidablePred (IsOrdinary config) :=
  fun command => inferInstanceAs (Decidable (∀ lifecycle ∈ lifecycleOf config (.complete command), _))

/-- The reply can be read, if the lifecycle of the command will ask for it. -/
def CanBeRead (command reply : Bytes) : Prop :=
  (lifecycleOf config (.complete command)).isSome = true → (parseRedisResponse reply config).toOption.isSome = true

instance (config : ProtocolExtractionConfig) (command reply : Bytes) : Decidable (CanBeRead config command reply) :=
  inferInstanceAs (Decidable (_ → _))

/-! ## The queue is the server's -/

def entryOf (command : Timed) : RedisRequest :=
  ⟨commandOf config (.complete command.1), command.2, lifecycleOf config (.complete command.1)⟩

structure InStep (config : ProtocolExtractionConfig) (d : Dialogue) : Prop where
  queue : d.stream.inFlight = d.server.waiting.map (entryOf config)
  signals : d.stream.signals = d.server.pairs.map (completion config)
  ordinary : ∀ command ∈ d.server.waiting, IsOrdinary config command.1
  subscription : d.stream.subscription = .none
  clear : d.stream.transportOpaque = false

theorem inStep_start : InStep config {} where
  queue := rfl
  signals := rfl
  ordinary := nofun
  subscription := rfl
  clear := rfl

variable {config : ProtocolExtractionConfig} {d : Dialogue} {observed : Nat} {m : Timed}

/-- Only the counters differ. -/
def Quiet (s s' : RedisStream) : Prop := ∃ counters, s' = { s with counters }

variable {s' : RedisStream} {bytes : Bytes} {lifecycle : RedisResponseLifecycle} {entry : RedisRequest}

theorem InStep.quiet (h : InStep config d) (hs : Quiet d.stream s') : InStep config { d with stream := s' } := by
  obtain ⟨counters, rfl⟩ := hs
  exact { h with }

/-- Every message in flight was counted once, as one in the queue or as an observation. -/
theorem InStep.length_asked (h : InStep config d) :
    d.stream.signals.length + d.stream.inFlight.length = d.server.asked.length := by
  have := d.server.answered_le
  rw [h.signals, h.queue, length_map, length_map, Fifo.length_pairs, Fifo.waiting, length_drop]
  omega

/-! ## Commands -/

theorem not_opaque_of_ordinary (h : IsOrdinary config bytes) :
    (lifecycleOf config (.complete bytes)).any (fun lifecycle => !lifecycle.expectsResponse) = false := by
  rcases hl : lifecycleOf config (.complete bytes) with _ | lifecycle
  · rfl
  · have hexpects := RedisResponseLifecycle.expectsResponse_ordinary (h lifecycle hl)
    rw [Option.any_some, hexpects]
    rfl

variable {s : RedisStream} {rest : List RedisRequest} {role : RedisResponseRole}

theorem handleRequestFrame_ordinary (hclear : s.transportOpaque = false) (hordinary : IsOrdinary config bytes) :
    handleRequestFrame config observed (.complete bytes) s =
      { s.count (countRequest config (.complete bytes)) with
        toTracker := (s.count (countRequest config (.complete bytes))).toTracker.enqueue observed
          (commandOf config (.complete bytes)) (lifecycleOf config (.complete bytes)) } := by
  have hclear' : ¬ (s.count (countRequest config (.complete bytes))).transportOpaque = true :=
    Bool.eq_false_iff.mp hclear
  have hexpects := Bool.eq_false_iff.mp (not_opaque_of_ordinary hordinary)
  dsimp only [handleRequestFrame]
  rw [if_neg hclear', if_neg hexpects]

theorem InStep.command (h : InStep config d) (hordinary : IsOrdinary config m.1)
    (hroom : d.stream.toTracker.HasRoom m.2) : InStep config (d.command config m) := by
  have hcounted : (d.stream.count (countRequest config (.complete m.1))).toTracker.HasRoom m.2 := hroom
  rw [Dialogue.command, handleRequestFrame_ordinary h.clear hordinary, Tracker.enqueue_of_hasRoom hcounted]
  refine ⟨?_, ?_, ?_, h.subscription, h.clear⟩
  · rw [Fifo.waiting_ask, map_append, ← h.queue]
    rfl
  · rw [Fifo.pairs_ask]
    exact h.signals
  · rw [Fifo.waiting_ask]
    exact forall_mem_append.mpr ⟨h.ordinary, forall_mem_singleton.mpr hordinary⟩

theorem InStep.commands {done : List Bytes} : ∀ {d : Dialogue}, InStep config d →
    (∀ bytes ∈ done, IsOrdinary config bytes) → d.stream.toTracker.HasRoomFor done.length observed →
    InStep config (done.foldl (fun d bytes => d.command config (bytes, observed)) d) := by
  induction done with
  | nil =>
    intro d h _ _
    exact h
  | cons bytes done ih =>
    intro d h hordinary hroom
    obtain ⟨hone, hmore⟩ := forall_mem_cons.mp hordinary
    have hcounted : (d.stream.count (countRequest config (.complete bytes))).toTracker.HasRoomFor (done.length + 1)
        observed := hroom
    refine ih (h.command hone hroom.hasRoom) hmore ?_
    beta_reduce
    rw [Dialogue.command, handleRequestFrame_ordinary h.clear hone]
    exact hcounted.enqueue _ _

/-! ## Replies -/

theorem commandOf_statusCode (config : ProtocolExtractionConfig) (bytes : Bytes) :
    (commandOf config (.complete bytes)).statusCode = none := by
  rcases hparse : parseRedisCommand bytes config with e | parsed
  · simp only [commandOf, hparse]
    rfl
  · simp only [commandOf, hparse]
    simp only [parseRedisCommand, bind, Except.bind] at hparse
    split at hparse
    · cases hparse
    · cases hparse
      rfl

/-- What a reply leaves of the stream: the rest of the queue and one more observation. -/
def Completed (s : RedisStream) (rest : List RedisRequest) (o : ProtocolRequestObservation) (s' : RedisStream) : Prop :=
  Quiet { s with inFlight := rest, signals := s.signals ++ [o] } s'

theorem popHead_reply {command : Timed} (hrole : redisResponseRole m.1 = .ok .reply) :
    Completed s rest (completion config (command, m))
      (popHead config m.2 (.complete m.1) (entryOf config command) rest s) := by
  have hstatus := commandOf_statusCode config command.1
  have hrole' : redisResponseRole (frameBytes (.complete m.1)) = .ok .reply := hrole
  simp only [popHead, hrole', completion, replied]
  rcases hresponse : responseOf config (.complete m.1) with reason | response
  · exact ⟨_, rfl⟩
  · have hsignal : response.signalStatusCode = none := by
      simp only [responseOf] at hresponse
      split at hresponse
      · cases hresponse
        rfl
      · cases hresponse
    have hsame : { commandOf config (.complete command.1) with statusCode := response.signalStatusCode } =
        commandOf config (.complete command.1) := by
      rw [hsignal, ← hstatus]
    simp only [entryOf, hsame]
    exact ⟨_, rfl⟩

theorem advanceHead_reply {command : Timed} {response : ParsedRedisResponse} (hnone : s.subscription = .none)
    (hordinary : lifecycle.ordinary = true) (hrole : redisResponseRole m.1 = .ok .reply)
    (hparse : parseRedisResponse m.1 config = .ok response) :
    Completed s rest (completion config (command, m))
      (advanceHead config m.2 m.1 (entryOf config command) lifecycle rest s) := by
  obtain ⟨update, hobserve, hupdate⟩ :=
    RedisResponseLifecycle.observeResponse_reply hordinary hrole hparse
  have hsubscription : update.getD s.subscription = s.subscription := by
    rcases update with _ | state
    · rfl
    · rw [Option.getD_some, hupdate state rfl, hnone]
  rw [← hnone] at hobserve
  simp only [advanceHead, hobserve, completion, replied, responseOf, hparse, hsubscription]
  exact ⟨_, rfl⟩

theorem handleResponseFrame_reply {command : Timed} (hclear : s.transportOpaque = false)
    (hnone : s.subscription = .none) (hqueue : s.inFlight = entryOf config command :: rest)
    (hordinary : IsOrdinary config command.1) (hrole : redisResponseRole m.1 = .ok .reply)
    (hread : CanBeRead config command.1 m.1) :
    Completed s rest (completion config (command, m)) (handleResponseFrame config m.2 (.complete m.1) s) := by
  rcases hlifecycle : lifecycleOf config (.complete command.1) with _ | lifecycle
  -- without a lifecycle the generic matcher takes the reply, whatever it is
  · have hresponse : (entryOf config command).response = none := hlifecycle
    simp only [handleResponseFrame, hqueue, hresponse]
    exact popHead_reply hrole
  · have hparsed := hread (by rw [hlifecycle]; rfl)
    rcases hparse : parseRedisResponse m.1 config with e | response
    · rw [hparse] at hparsed
      cases hparsed
    have hresponse : (entryOf config command).response = some lifecycle := hlifecycle
    simp only [handleResponseFrame, hqueue, hresponse]
    rw [if_neg (Bool.eq_false_iff.mp hclear)]
    exact advanceHead_reply hnone (hordinary lifecycle hlifecycle) hrole hparse

theorem InStep.reply (h : InStep config d) {command : Timed} {more : List Timed}
    (hcommand : d.server.waiting = command :: more) (hrole : redisResponseRole m.1 = .ok .reply)
    (hread : CanBeRead config command.1 m.1) : InStep config (d.reply config m) := by
  have hqueue : d.stream.inFlight = entryOf config command :: more.map (entryOf config) := by
    rw [h.queue, hcommand, map_cons]
  obtain ⟨hone, hlater⟩ := forall_mem_cons.mp (hcommand ▸ h.ordinary)
  obtain ⟨counters, hs⟩ := handleResponseFrame_reply h.clear h.subscription hqueue hone hrole hread
  rw [Dialogue.reply, hs]
  refine ⟨?_, ?_, ?_, h.subscription, h.clear⟩
  · rw [Fifo.waiting_answer hcommand]
  · rw [Fifo.pairs_answer hcommand, map_append, ← h.signals]
    rfl
  · rw [Fifo.waiting_answer hcommand]
    exact hlater

/-! ## What answers nothing -/

theorem quiet_handleUnsolicited : Quiet s (handleUnsolicited bytes s) := by
  unfold handleUnsolicited
  split
  · exact ⟨_, rfl⟩
  · exact ⟨_, rfl⟩
  · exact ⟨_, rfl⟩

theorem quiet_popHead (hrole : redisResponseRole bytes = .ok role) (haside : role ≠ .reply) :
    Quiet s (popHead config observed (.complete bytes) entry rest s) := by
  rw [popHead, show frameBytes (.complete bytes) = bytes from rfl, hrole]
  cases role with
  | reply => exact absurd rfl haside
  | _ => exact ⟨_, rfl⟩

theorem quiet_advanceHead (hnone : s.subscription = .none) (hqueue : s.inFlight = entry :: rest)
    (hresponse : entry.response = some lifecycle) (hordinary : lifecycle.ordinary = true)
    (hrole : redisResponseRole bytes = .ok role) (haside : role ≠ .reply) :
    Quiet s (advanceHead config observed bytes entry lifecycle rest s) := by
  have haside := @RedisResponseLifecycle.observeResponse_aside lifecycle bytes config role hordinary hrole haside
  rw [← hnone] at haside
  rcases haside with ⟨e, hobserve⟩ | hobserve
  · simp only [advanceHead, hobserve]
    exact ⟨_, rfl⟩
  · have hentry : { entry with response := some lifecycle } = entry := by rw [← hresponse]
    simp only [advanceHead, hobserve, hentry, ← hqueue, Option.getD_none]
    exact ⟨_, rfl⟩

theorem quiet_handleResponseFrame (hclear : s.transportOpaque = false) (hnone : s.subscription = .none)
    (hordinary : ∀ entry ∈ s.inFlight, ∀ lifecycle ∈ entry.response, lifecycle.ordinary = true)
    (hrole : redisResponseRole bytes = .ok role) (haside : role ≠ .reply) :
    Quiet s (handleResponseFrame config observed (.complete bytes) s) := by
  rcases hqueue : s.inFlight with _ | ⟨entry, rest⟩
  · simp only [handleResponseFrame, hqueue]
    rw [if_neg (Bool.eq_false_iff.mp hclear)]
    exact quiet_handleUnsolicited
  rcases hresponse : entry.response with _ | lifecycle
  · simp only [handleResponseFrame, hqueue, hresponse]
    exact quiet_popHead hrole haside
  · have hone := hordinary entry (by rw [hqueue]; exact mem_cons_self) lifecycle hresponse
    simp only [handleResponseFrame, hqueue, hresponse]
    rw [if_neg (Bool.eq_false_iff.mp hclear)]
    exact quiet_advanceHead hnone hqueue hresponse hone hrole haside

theorem InStep.aside (h : InStep config d)
    (hrole : redisResponseRole m.1 = .ok .attribute ∨ redisResponseRole m.1 = .ok .push) :
    InStep config (d.aside config m) := by
  have hqueue : ∀ entry ∈ d.stream.inFlight, ∀ lifecycle ∈ entry.response, lifecycle.ordinary = true := by
    intro entry hentry
    rw [h.queue] at hentry
    obtain ⟨command, hcommand, rfl⟩ := mem_map.mp hentry
    exact h.ordinary command hcommand
  rcases hrole with hrole | hrole
  all_goals exact h.quiet (quiet_handleResponseFrame h.clear h.subscription hqueue hrole nofun)

end ENavigator.Redis
