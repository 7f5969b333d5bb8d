import ENavigator.Http2.Accounting
import ENavigator.Registry.Connection

/-!
# Discovery hands over the stream position

The candidate and the stream that follows it each keep a segment progress of their own, and the stream starts
without one. `handed_over_iff` says when the decoder still gets the bytes collected and then every later byte of the
direction, without a gap: exactly if the segment that decided the protocol was the last of its system call, or no
other came after it. After that it is left to the stream, which takes the segments as they come as long as nothing
disturbs it (`Undisturbed`).
-/

namespace ENavigator.Registry

open ENavigator.Correlation ENavigator.Stream List SegmentProgress

/-! ## Segments in order -/

/-- The segment comes where the progress expects one, of a system call that was captured whole. -/
structure Resumes (pending : Option SegmentProgress) (raw : RawSegment) : Prop where
  place : pending.elim (raw.payloadOffset = 0) fun p => p.continuedBy raw = true
  whole : raw.payloadCapturedLen = raw.payloadTotalLen
  moves : raw.isFinal = false → 0 < raw.segmentEnd

def Continues : Option SegmentProgress → List RawSegment → Prop
  | _, [] => True
  | pending, raw :: rest => Resumes pending raw ∧ Continues raw.progress rest

variable {pending : Option SegmentProgress} {xs ys : List RawSegment} {raw : RawSegment}

theorem Continues.left (h : Continues pending (xs ++ ys)) : Continues pending xs := by
  induction xs generalizing pending with
  | nil => exact trivial
  | cons raw xs ih => exact ⟨h.1, ih h.2⟩

theorem Continues.behind (h : Continues pending (xs ++ raw :: ys)) :
    (raw.isFinal = false → 0 < raw.segmentEnd) ∧ Continues raw.progress ys := by
  induction xs generalizing pending with
  | nil => exact ⟨h.1.moves, h.2⟩
  | cons x xs ih => exact ih h.2

/-- The progress after the first `offset` bytes of a call. -/
def progressAt (call : Syscall) (offset : Nat) : Option SegmentProgress :=
  if offset = 0 ∨ call.pieces.flatten.length ≤ offset then none
  else some ⟨call.timestamp, offset, call.pieces.flatten.length, call.total⟩

theorem continues_segmentsFrom {call : Syscall} (hwhole : call.pieces.flatten.length = call.total)
    {rest : List RawSegment}
    (hrest : Continues none rest) {ps : List Bytes} (hcut : ∀ p ∈ ps, p ≠ []) (offset : Nat)
    (hend : offset + ps.flatten.length = call.pieces.flatten.length) :
    Continues (progressAt call offset) (call.segmentsFrom offset ps ++ rest) := by
  induction ps generalizing offset with
  | nil =>
    have hnone : progressAt call offset = none := by
      rw [flatten_nil, length_nil] at hend
      exact if_pos (.inr (by omega))
    rw [hnone]
    exact hrest
  | cons p ps ih =>
    have hp : 0 < p.length := length_pos_iff.mpr (hcut p mem_cons_self)
    rw [flatten_cons, length_append] at hend
    have hprogress : ∀ raw : RawSegment, raw.timestampUnixNanos = call.timestamp → raw.segmentEnd = offset + p.length →
        raw.payloadCapturedLen = call.pieces.flatten.length → raw.payloadTotalLen = call.total →
        raw.progress = progressAt call (offset + p.length) := by
      intro raw htime hstop hcaptured htotal
      unfold RawSegment.progress RawSegment.isFinal progressAt
      rw [htime, hstop, hcaptured, htotal]
      by_cases hlast : call.pieces.flatten.length ≤ offset + p.length
      · rw [if_pos (decide_eq_true hlast), if_pos (.inr hlast)]
      · have hmid : ¬ (offset + p.length = 0 ∨ call.pieces.flatten.length ≤ offset + p.length) := by omega
        rw [if_neg hmid, if_neg (by rw [decide_eq_true_eq]; exact hlast)]
    refine ⟨⟨?_, hwhole, ?_⟩, ?_⟩
    · unfold progressAt
      split
      · next h =>
        show offset = 0
        omega
      · simp [continuedBy]
    · intro _
      show 0 < offset + p.length
      omega
    · rw [hprogress _ rfl rfl rfl rfl]
      exact ih (fun q hq => hcut q (mem_cons_of_mem p hq)) _ (by omega)

theorem continues_segments {calls : List Syscall} (hwhole : ∀ call ∈ calls, call.pieces.flatten.length = call.total) :
    Continues none (calls.map Syscall.segments).flatten := by
  induction calls with
  | nil => exact trivial
  | cons call calls ih =>
    have hcall := hwhole call mem_cons_self
    have hrest := ih fun c hc => hwhole c (mem_cons_of_mem call hc)
    rw [map_cons, flatten_cons]
    rcases call.pieces_cut with hempty | hcut
    · have hsegments : call.segments = [⟨call.timestamp, 0, 0, call.total, []⟩] := by
        unfold Syscall.segments
        rw [hempty, Syscall.segmentsFrom, Syscall.segmentsFrom, hempty]
        rfl
      rw [hempty] at hcall
      rw [hsegments]
      refine ⟨⟨rfl, hcall, ?_⟩, hrest⟩
      intro hfinal
      cases hfinal
    · exact continues_segmentsFrom hcall hrest hcut 0 (Nat.zero_add _)

/-- A segment as it is, with nothing missing before or behind it. -/
def wholePush (raw : RawSegment) : Push := ⟨raw.payload, raw.payload.length, true⟩

theorem segmentPushes_of_resumes (h : Resumes pending raw) : segmentPushes pending raw = [wholePush raw] := by
  have hgaps : segmentGaps pending raw = [] := by
    unfold segmentGaps
    rcases pending with _ | p
    · have hstart : raw.payloadOffset = 0 := h.place
      simp [hstart]
    · have hnext : p.continuedBy raw = true := h.place
      rw [if_pos (by simpa using hnext)]
  have htotal : raw.chunkTotalLen = raw.payload.length := by
    unfold RawSegment.chunkTotalLen
    rw [h.whole, Nat.sub_self, Nat.add_zero, ite_self]
  rw [segmentPushes, hgaps, htotal]
  rfl

/-! ## The run -/

variable {σ : Type}

/-- The segments of a direction among the events. -/
def segmentsOf (direction : StreamDirection) : List ConnectionEvent → List RawSegment
  | [] => []
  | .data d raw _ :: events => if d = direction then raw :: segmentsOf direction events else segmentsOf direction events
  | _ :: events => segmentsOf direction events

theorem segmentsOf_append (direction : StreamDirection) (xs ys : List ConnectionEvent) :
    segmentsOf direction (xs ++ ys) = segmentsOf direction xs ++ segmentsOf direction ys := by
  induction xs with
  | nil => rfl
  | cons x xs ih =>
    cases x with
    | data d raw observed =>
      by_cases hd : d = direction
      · simp [segmentsOf, hd, ih]
      · simp [segmentsOf, hd, ih]
    | evictCandidate => exact ih
    | evictConnection => exact ih

/-- The stream takes the event's bytes. -/
def ConnectionStream.takes (s : ConnectionStream σ) (direction : StreamDirection) (raw : RawSegment) : Bool :=
  !(direction = .response && s.protocol = .nats) && !s.isOpaque && !s.failsNegotiation direction raw

namespace ProtocolStreamRegistry

variable [Base64] (registry : ProtocolStreamRegistry σ)

/-- The chunks that a run pushes into the decoder of a direction. -/
def pushesInto (direction : StreamDirection) : Connection σ → List ConnectionEvent → List Push
  | _, [] => []
  | c, e :: events =>
    (match e with
      | .data d _ _ => if d = direction then (registry.handleEvent c e).pushes else []
      | _ => []) ++ pushesInto direction (registry.step c e) events

/-- What an event tells about the protocol of a connection that has no stream yet. -/
def discovers (c : Connection σ) (direction : StreamDirection) (raw : RawSegment) (observed : Nat) :
    Option ProtocolDiscoveryMatch :=
  match c.stream with
  | some _ => none
  | none => (discoverProtocol registry.parsers registry.extraction raw direction observed c.candidate).2

/-- The handlers drop the progress of the direction `direction` at an event of the direction `d`. -/
def dropsProgress (direction d : StreamDirection) (raw : RawSegment) (observed : Nat) (s : ConnectionStream σ) : Bool :=
  let fed := (s.seen observed).fed d raw observed none
  (registry.handlers.handle d fed.2.1 fed.2.2 fed.1).1.pending direction != fed.1.pending direction

/-- The stream goes on at this event: it is not evicted, it takes the bytes of the direction, and the handlers do not
forget a system call of which more is to come. -/
def Undisturbed (direction : StreamDirection) (c : Connection σ) : ConnectionEvent → Prop
  | .data d raw observed => ∀ s ∈ c.stream, (d = direction → s.takes d raw = true) ∧
      (s.takes d raw = true → registry.dropsProgress direction d raw observed s = false)
  | .evictCandidate => True
  | .evictConnection => False

instance (direction : StreamDirection) (c : Connection σ) : ∀ e, Decidable (registry.Undisturbed direction c e)
  | .data d raw observed => inferInstanceAs (Decidable (∀ s ∈ c.stream, (d = direction → s.takes d raw = true) ∧
      (s.takes d raw = true → registry.dropsProgress direction d raw observed s = false)))
  | .evictCandidate => isTrue trivial
  | .evictConnection => isFalse id

end ProtocolStreamRegistry

namespace ConnectionStream

theorem pending_fed [Base64] (s : ConnectionStream σ) (d direction : StreamDirection) (raw : RawSegment)
    (observed : Nat) :
    (s.fed d raw observed none).1.pending direction = if d = direction then raw.progress else s.pending direction := by
  cases d <;> cases direction <;> rfl

end ConnectionStream

namespace ProtocolStreamRegistry

variable [Base64] (registry : ProtocolStreamRegistry σ) {direction d : StreamDirection} {raw : RawSegment}
  {observed : Nat} {s : ConnectionStream σ} {c : Connection σ}

theorem handleStreamEvent_of_open (hreadable : s.isOpaque = false) (hnegotiation : s.failsNegotiation d raw = false)
    (found : Option ProtocolDiscoveryMatch) (c : Connection σ) :
    registry.handleStreamEvent d raw observed found s c =
      let fed := s.fed d raw observed found
      let handled := registry.handlers.handle d fed.2.1 fed.2.2 fed.1
      ⟨{ c with stream := some handled.1 }, s.chunks d raw found, handled.2⟩ := by
  obtain ⟨hmysql, hpostgres⟩ := Bool.or_eq_false_iff.mp hreadable
  unfold handleStreamEvent
  rw [if_neg (by rw [hmysql]; exact Bool.false_ne_true), if_neg (by rw [hpostgres]; exact Bool.false_ne_true),
    if_neg (by rw [hnegotiation]; exact Bool.false_ne_true)]

theorem handleStreamEvent_of_closed (hclosed : (s.isOpaque || s.failsNegotiation d raw) = true)
    (found : Option ProtocolDiscoveryMatch) (c : Connection σ) :
    ∃ s', (registry.handleStreamEvent d raw observed found s c).connection.stream = some s' ∧
      ∀ direction, s'.pending direction = s.pending direction := by
  unfold handleStreamEvent
  split
  · exact ⟨_, rfl, fun _ => rfl⟩
  split
  · exact ⟨_, rfl, fun _ => rfl⟩
  split
  · exact ⟨_, rfl, fun direction => by cases direction <;> rfl⟩
  · next hmysql hpostgres hnegotiation =>
    have hopen : (s.isOpaque || s.failsNegotiation d raw) = false := by
      rw [Bool.or_eq_false_iff]
      refine ⟨?_, Bool.eq_false_of_not_eq_true hnegotiation⟩
      exact Bool.or_eq_false_iff.mpr ⟨Bool.eq_false_of_not_eq_true hmysql, Bool.eq_false_of_not_eq_true hpostgres⟩
    rw [hopen] at hclosed
    cases hclosed

/-- **One event.** An undisturbed stream pushes the segments of the direction as they come and keeps their progress. -/
theorem data_undisturbed (hstream : c.stream = some s)
    (h : registry.Undisturbed direction c (.data d raw observed)) :
    (∃ s', (registry.step c (.data d raw observed)).stream = some s' ∧
        s'.pending direction = if d = direction then raw.progress else s.pending direction) ∧
      (d = direction → (registry.handleEvent c (.data d raw observed)).pushes =
        segmentPushes (s.pending direction) raw) := by
  obtain ⟨htakes, hkeeps⟩ := h s hstream
  have hevent : registry.handleEvent c (.data d raw observed) = registry.handleData d raw observed c := rfl
  rw [step, hevent, handleData, hstream]
  cases htaken : s.takes d raw with
  | true =>
    have hdrops := hkeeps htaken
    unfold ConnectionStream.takes at htaken
    simp only [Bool.and_eq_true, Bool.not_eq_true'] at htaken
    obtain ⟨⟨hnats, hreadable⟩, hnegotiation⟩ := htaken
    simp only [hnats, Bool.false_eq_true, if_false]
    rw [registry.handleStreamEvent_of_open (s := s.seen observed) hreadable hnegotiation none c]
    refine ⟨⟨_, rfl, ?_⟩, ?_⟩
    · unfold dropsProgress at hdrops
      rw [bne_eq_false_iff_eq] at hdrops
      refine hdrops.trans ?_
      rw [ConnectionStream.pending_fed]
      rfl
    · intro hd
      subst hd
      rfl
  | false =>
    -- Only an event of the other direction may be refused, and it changes nothing here.
    have hd : d ≠ direction := fun hd => by
      have := htakes hd
      rw [htaken] at this
      cases this
    refine ⟨?_, fun h => absurd h hd⟩
    rw [if_neg hd]
    by_cases hnats : (decide (d = .response) && decide (s.protocol = .nats)) = true
    · simp only [hnats, if_true]
      exact ⟨s, rfl, rfl⟩
    · simp only [hnats]
      have hclosed : (s.isOpaque || s.failsNegotiation d raw) = true := by
        unfold ConnectionStream.takes at htaken
        rw [Bool.eq_false_of_not_eq_true hnats] at htaken
        revert htaken
        cases s.isOpaque <;> cases s.failsNegotiation d raw <;> simp
      obtain ⟨s', hs', hpending⟩ := registry.handleStreamEvent_of_closed (s := s.seen observed) hclosed none c
      exact ⟨s', hs', hpending direction⟩

/-- **The run.** Segments that come in order reach the decoder one by one, with nothing between them. -/
theorem pushesInto_of_continues {events : List ConnectionEvent} (hstream : c.stream = some s)
    (hcontinues : Continues (s.pending direction) (segmentsOf direction events))
    (h : Along registry.step (registry.Undisturbed direction) c events) :
    registry.pushesInto direction c events = (segmentsOf direction events).map wholePush := by
  induction events generalizing c s with
  | nil => rfl
  | cons e events ih =>
    cases e with
    | data d raw observed =>
      obtain ⟨⟨s', hs', hpending⟩, hpushes⟩ := registry.data_undisturbed hstream h.1
      by_cases hd : d = direction
      · rw [segmentsOf, if_pos hd] at hcontinues ⊢
        rw [if_pos hd] at hpending
        have htail := ih hs' (hpending ▸ hcontinues.2) h.2
        have hhead := (hpushes hd).trans (segmentPushes_of_resumes hcontinues.1)
        rw [pushesInto, htail, map_cons]
        rw [if_pos hd, hhead]
        rfl
      · rw [segmentsOf, if_neg hd] at hcontinues ⊢
        rw [if_neg hd] at hpending
        have htail := ih hs' (hpending ▸ hcontinues) h.2
        rw [pushesInto, htail]
        rw [if_neg hd, nil_append]
    | evictCandidate => exact ih hstream hcontinues h.2
    | evictConnection => exact absurd h.1 id

/-- A stream that expects a new system call takes the rest of an old one for one whose start was lost. -/
theorem gap_mem_pushesInto {events : List ConnectionEvent} {rest : List RawSegment} (hstream : c.stream = some s)
    (hpending : s.pending direction = none) (hnext : segmentsOf direction events = raw :: rest)
    (hoffset : 0 < raw.payloadOffset) (h : Along registry.step (registry.Undisturbed direction) c events) :
    Push.gap raw.payloadOffset ∈ registry.pushesInto direction c events := by
  induction events generalizing c s with
  | nil => cases hnext
  | cons e events ih =>
    cases e with
    | data d raw' observed =>
      obtain ⟨⟨s', hs', hpending'⟩, hpushes⟩ := registry.data_undisturbed hstream h.1
      rw [pushesInto, mem_append]
      by_cases hd : d = direction
      · rw [segmentsOf, if_pos hd, List.cons.injEq] at hnext
        left
        rw [if_pos hd, hpushes hd, hpending, hnext.1]
        simp [segmentPushes, segmentGaps, hoffset]
      · rw [segmentsOf, if_neg hd] at hnext
        rw [if_neg hd] at hpending'
        exact .inr (ih hs' (hpending'.trans hpending) hnext h.2)
    | evictCandidate => exact ih hstream hpending hnext h.2
    | evictConnection => exact absurd h.1 id

/-- The event that finds the protocol pushes what was collected, and the new stream expects a new system call. -/
theorem data_discovers {found : ProtocolDiscoveryMatch}
    (hfound : registry.discovers c direction raw observed = some found)
    (hnats : ¬ (direction = .response ∧ found.protocol = .nats)) :
    (registry.handleEvent c (.data direction raw observed)).pushes = [⟨found.bytes, found.bytes.length, true⟩] ∧
      ∃ s, (registry.step c (.data direction raw observed)).stream = some s ∧ s.pending direction = none := by
  have hevent : registry.handleEvent c (.data direction raw observed) =
      registry.handleData direction raw observed c := rfl
  have hnone : c.stream = none := by
    unfold discovers at hfound
    split at hfound
    · cases hfound
    · assumption
  unfold discovers at hfound
  rw [hnone] at hfound
  rw [step, hevent, handleData, hnone]
  rcases hdiscovered : discoverProtocol registry.parsers registry.extraction raw direction observed c.candidate with
    ⟨candidate, result⟩
  rw [hdiscovered] at hfound
  subst hfound
  have hreadable : (registry.newStream found.protocol observed).isOpaque = false := by
    simp [ConnectionStream.isOpaque, newStream]
  have hnegotiation : (registry.newStream found.protocol observed).failsNegotiation direction raw = false := by
    simp [ConnectionStream.failsNegotiation, newStream]
  have hother : (decide (direction = .response) && decide (found.protocol = .nats)) = false := by
    simpa using hnats
  simp only [hother, Bool.false_eq_true, if_false]
  rw [registry.handleStreamEvent_of_open hreadable hnegotiation]
  refine ⟨rfl, _, rfl, ?_⟩
  have hfed :
      ((registry.newStream found.protocol observed).fed direction raw observed (some found)).1.pending direction =
      none := by
    cases direction <;> rfl
  rcases registry.handlers.pending_handle direction _ _ _ direction with hkept | hdropped
  · exact hkept.trans hfed
  · exact hdropped

end ProtocolStreamRegistry

/-! ## The hand-over -/

/-- The chunks are `collected` and then the payloads, each as long as what was captured of it. -/
def HandedOver (collected : Bytes) (later : List RawSegment) (pushes : List Push) : Prop :=
  (pushes.map Push.captured).flatten = collected ++ (later.map RawSegment.payload).flatten ∧
    ∀ push ∈ pushes, push.totalLen = push.captured.length

instance (collected : Bytes) (later : List RawSegment) (pushes : List Push) :
    Decidable (HandedOver collected later pushes) := inferInstanceAs (Decidable (_ ∧ _))

theorem handedOver_whole (collected : Bytes) (later : List RawSegment) :
    HandedOver collected later (⟨collected, collected.length, true⟩ :: later.map wholePush) := by
  refine ⟨?_, ?_⟩
  · rw [map_cons, flatten_cons, map_map]
    rfl
  · exact forall_mem_cons.mpr ⟨rfl, forall_mem_map.mpr fun _ _ => rfl⟩

theorem payloadOffset_pos_of_resumes {first second : RawSegment} (hmoves : first.isFinal = false → 0 < first.segmentEnd)
    (hopen : first.isFinal = false) (h : Resumes first.progress second) : 0 < second.payloadOffset := by
  have hplace := h.place
  unfold RawSegment.progress at hplace
  rw [hopen] at hplace
  change continuedBy _ second = true at hplace
  simp only [continuedBy, Bool.and_eq_true, beq_iff_eq] at hplace
  have := hmoves hopen
  omega

/-- **When discovery hands over the stream position.** The system calls of the direction are captured whole and their
segments come in order; the event finds the protocol, and the stream is undisturbed from then on. -/
theorem handed_over_iff [Base64] (registry : ProtocolStreamRegistry σ) {direction : StreamDirection} {raw : RawSegment}
    {observed : Nat}
    {earlier later : List ConnectionEvent} {calls : List Syscall} {found : ProtocolDiscoveryMatch}
    (hwhole : ∀ call ∈ calls, call.pieces.flatten.length = call.total)
    (hdelivered : segmentsOf direction (earlier ++ .data direction raw observed :: later) <+:
      (calls.map Syscall.segments).flatten)
    (hfound : registry.discovers (earlier.foldl registry.step {}) direction raw observed = some found)
    (hnats : ¬ (direction = .response ∧ found.protocol = .nats))
    (h : Along registry.step (registry.Undisturbed direction)
      (registry.step (earlier.foldl registry.step {}) (.data direction raw observed)) later) :
    HandedOver found.bytes (segmentsOf direction later)
        (registry.pushesInto direction (earlier.foldl registry.step {}) (.data direction raw observed :: later)) ↔
      raw.isFinal = true ∨ segmentsOf direction later = [] := by
  obtain ⟨hpushes, s, hstream, hpending⟩ := registry.data_discovers hfound hnats
  obtain ⟨tail, htail⟩ := hdelivered
  have hcontinues := continues_segments hwhole
  rw [← htail, segmentsOf_append, segmentsOf, if_pos rfl] at hcontinues
  obtain ⟨hmoves, hbehind⟩ := hcontinues.left.behind
  have hrun : registry.pushesInto direction (earlier.foldl registry.step {}) (.data direction raw observed :: later) =
      ⟨found.bytes, found.bytes.length, true⟩ :: registry.pushesInto direction
        (registry.step (earlier.foldl registry.step {}) (.data direction raw observed)) later := by
    rw [ProtocolStreamRegistry.pushesInto]
    rw [if_pos rfl, hpushes]
    rfl
  rw [hrun]
  constructor
  · intro hover
    by_contra hcut
    rw [not_or] at hcut
    obtain ⟨hopen, hmore⟩ := hcut
    obtain ⟨second, rest, hsecond⟩ := exists_cons_of_ne_nil hmore
    have hopen := Bool.eq_false_of_not_eq_true hopen
    rw [hsecond] at hbehind
    have hoffset := payloadOffset_pos_of_resumes hmoves hopen hbehind.1
    have hgap := registry.gap_mem_pushesInto hstream hpending hsecond hoffset h
    exact absurd (hover.2 _ (mem_cons_of_mem _ hgap)) (Nat.ne_of_gt hoffset)
  · rintro (hfinal | hlast)
    · have hprogress : raw.progress = none := if_pos hfinal
      rw [registry.pushesInto_of_continues hstream (by rw [hpending, ← hprogress]; exact hbehind) h]
      exact handedOver_whole _ _
    · rw [registry.pushesInto_of_continues hstream (by rw [hlast]; exact trivial) h]
      exact handedOver_whole _ _

/-! ## HTTP/2 connections -/

/-- The handlers of a registry as far as its connections speak HTTP/2. -/
def http2Handlers (config : ProtocolExtractionConfig) : Handlers Http2.Http2Stream where
  new := fun _ => {}
  handle := fun direction frames started s =>
    let rest := frames.foldl (fun rest frame => Http2.handleHttp2Frame config direction started frame rest)
      { s.rest with signals := [] }
    ({ s with rest }, rest.signals)
  drain := fun s => (Http2.evictConnection { s.rest with signals := [] }).signals
  pending_handle := fun direction frames started s d => .inl (by cases d <;> rfl)

def http2Registry : ProtocolStreamRegistry Http2.Http2Stream where
  extraction := {}
  limits := {}
  parsers := ⟨fun _ _ => false, fun _ _ => false, fun _ _ => false, fun _ _ => false, fun _ _ => false⟩
  handlers := http2Handlers {}

attribute [local instance] Base64.refusing

def settingsPreface : Bytes := Http1.http2Preface ++ [0, 0, 0, 4, 0, 0, 0, 0, 0]
def longPreface : Bytes := Http1.http2Preface ++ List.replicate 232 0

/-- The preface and an empty SETTINGS frame, written at once. -/
def prefaceCall : Syscall where
  timestamp := 1
  total := 33
  pieces := [settingsPreface]
  pieces_small := by decide +kernel
  pieces_cut := .inr (by decide +kernel)
  captured_le := by decide +kernel

/-- The preface with 276 bytes of frames behind it, in two segments. -/
def longPrefaceCall : Syscall where
  timestamp := 1
  total := 300
  pieces := [longPreface, List.replicate 44 0]
  pieces_small := by decide +kernel
  pieces_cut := .inr (by decide +kernel)
  captured_le := by decide +kernel

def requestEvents (calls : List Syscall) : List ConnectionEvent :=
  (calls.map Syscall.segments).flatten.map fun raw => .data .request raw 5

/-- A connection whose first call is captured in one segment. -/
theorem handed_over_iff_preface :
    HandedOver settingsPreface longPrefaceCall.segments
      (http2Registry.pushesInto .request {} (requestEvents [prefaceCall, longPrefaceCall])) := by
  have hwhole : ∀ call ∈ [prefaceCall, longPrefaceCall], call.pieces.flatten.length = call.total := by
    simp only [mem_cons, not_mem_nil, or_false]
    rintro call (rfl | rfl)
    · decide +kernel
    · decide +kernel
  have hdelivered : segmentsOf .request (([] : List ConnectionEvent) ++
      .data .request ⟨1, 0, 33, 33, settingsPreface⟩ 5 ::
        requestEvents [longPrefaceCall]) <+: ([prefaceCall, longPrefaceCall].map Syscall.segments).flatten := by
    decide +kernel
  have hfound : http2Registry.discovers (([] : List ConnectionEvent).foldl http2Registry.step {}) .request
      ⟨1, 0, 33, 33, settingsPreface⟩ 5 =
        some ⟨.http2, settingsPreface, 5⟩ := by
    decide +kernel
  exact (handed_over_iff http2Registry hwhole hdelivered hfound (by decide) (by decide +kernel)).mpr
    (.inl (by decide +kernel))

/-- The protocol is found in the first of two segments. The stream knows nothing of the call, so the second one, at
offset 256, is pushed behind a gap of 256 bytes that were pushed before. -/
theorem rest_of_call_behind_gap :
    longPrefaceCall.pieces.flatten.length = longPrefaceCall.total ∧
      segmentsOf .request (requestEvents [longPrefaceCall]) = longPrefaceCall.segments ∧
      http2Registry.discovers {} .request ⟨1, 0, 300, 300, longPreface⟩ 5 =
        some ⟨.http2, longPreface, 5⟩ ∧
      http2Registry.pushesInto .request {} (requestEvents [longPrefaceCall]) =
        [⟨longPreface, 256, true⟩, Push.gap 256, ⟨List.replicate 44 0, 44, true⟩] ∧
      ¬ HandedOver longPreface [⟨1, 256, 300, 300, List.replicate 44 0⟩]
        (http2Registry.pushesInto .request {} (requestEvents [longPrefaceCall])) := by
  decide +kernel

end ENavigator.Registry
