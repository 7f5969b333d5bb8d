import ENavigator.Http1.Segmentation

/-!
# Segments out of order

The head of one request, cut into segments that are pushed in any order. The reassembler knows of the segments it
holds only when the first of them was read. If every segment is pushed next to the ones that are held (`Adjacent`),
what is handed out is the head (`eq_header_of_adjacent`). A segment that is pushed while one between is missing is
joined with those held, and a head is handed out that was never sent (`gap_spliced`).
-/

namespace ENavigator.Http1

open ENavigator.Correlation List

variable {config : ProtocolExtractionConfig} {Key : Type}

/-- The head of a request in segments, of which only the first looks like a request. -/
structure HeaderCut (config : ProtocolExtractionConfig) (key : Key) (segments : List (Read Key)) : Prop where
  ends : findHttpHeaderEnd (bytesOf segments) = some (bytesOf segments).length
  accepted : (parseHttpRequest (bytesOf segments) config).isOk = true
  same : ∀ read ∈ segments, read.raw.key = key
  whole : ∀ read ∈ segments, read.raw.requestTotalLen ≤ read.captured.length
  nonempty : ∀ read ∈ segments, read.captured ≠ []
  increasing : segments.Pairwise fun a b => a.raw.timestampUnixNanos < b.raw.timestampUnixNanos
  first : ∀ read ∈ segments.head?, startsWithHttpRequest read.captured = true
  others : ∀ read ∈ segments.tail, startsWithHttpRequest read.captured = false

/-- Where the segment read at a time starts. -/
def offset (segments : List (Read Key)) (nanos : Nat) : Nat :=
  (bytesOf (segments.filter fun read => read.raw.timestampUnixNanos < nanos)).length

/-- Nothing is held, or the segment starts where what is held ends or ends where it starts; and if what is held
then is not the start of the head, it does not look like a request. -/
def Adjacent (segments : List (Read Key)) (state : HttpStreamState) (read : Read Key) : Prop :=
  state.buffer = [] ∨
    (offset segments read.raw.timestampUnixNanos =
        offset segments state.bufferFirstMonotonicNanos + state.buffer.length ∧
      (offset segments state.bufferFirstMonotonicNanos ≠ 0 →
        startsWithHttpRequest (state.buffer ++ read.captured) = false)) ∨
    (offset segments read.raw.timestampUnixNanos + read.captured.length =
        offset segments state.bufferFirstMonotonicNanos ∧
      (offset segments read.raw.timestampUnixNanos ≠ 0 →
        startsWithHttpRequest (read.captured ++ state.buffer) = false))

instance (segments : List (Read Key)) (state : HttpStreamState) (read : Read Key) :
    Decidable (Adjacent segments state read) :=
  inferInstanceAs (Decidable (_ ∨ _ ∨ _))

/-! ## Places -/

variable {segments before after : List (Read Key)} {read : Read Key}

theorem offset_eq (hincreasing : segments.Pairwise fun a b => a.raw.timestampUnixNanos < b.raw.timestampUnixNanos)
    (hsegments : segments = before ++ read :: after) :
    offset segments read.raw.timestampUnixNanos = (bytesOf before).length := by
  rw [hsegments, pairwise_append, pairwise_cons] at hincreasing
  obtain ⟨-, ⟨hafter, -⟩, hbefore⟩ := hincreasing
  have hearlier : (before.filter fun s => s.raw.timestampUnixNanos < read.raw.timestampUnixNanos) = before :=
    filter_eq_self.mpr fun s hs => decide_eq_true (hbefore s hs read mem_cons_self)
  have hlater : (after.filter fun s => s.raw.timestampUnixNanos < read.raw.timestampUnixNanos) = [] :=
    filter_eq_nil_iff.mpr fun s hs => by
      rw [decide_eq_true_eq]
      exact Nat.lt_asymm (hafter s hs)
  rw [offset, hsegments, filter_append, filter_cons, hearlier, hlater, decide_eq_false (Nat.lt_irrefl _)]
  simp

theorem eq_nil_of_length_bytesOf {x : List (Read Key)} (hx : ∀ read ∈ x, read.captured ≠ [])
    (hzero : (bytesOf x).length = 0) : x = [] := by
  rcases x with _ | ⟨read, x⟩
  · rfl
  · have hpos := length_pos_iff.mpr (hx read mem_cons_self)
    have hsum : (bytesOf (read :: x)).length = read.captured.length + (bytesOf x).length := length_append
    omega

theorem split_unique {a b c d : List (Read Key)} (hnonempty : ∀ read ∈ segments, read.captured ≠ [])
    (hac : segments = a ++ c) (hbd : segments = b ++ d) (hlength : (bytesOf a).length = (bytesOf b).length) :
    a = b ∧ c = d := by
  subst hac
  rcases append_eq_append_iff.mp hbd with ⟨x, rfl, rfl⟩ | ⟨x, rfl, rfl⟩
  · rw [bytesOf_append, length_append] at hlength
    obtain rfl := eq_nil_of_length_bytesOf
      (fun r hr => hnonempty r (mem_append_right _ (mem_append_left _ hr))) (by omega)
    exact ⟨(append_nil a).symm, rfl⟩
  · rw [bytesOf_append, length_append] at hlength
    obtain rfl := eq_nil_of_length_bytesOf
      (fun r hr => hnonempty r (mem_append_left _ (mem_append_right _ hr))) (by omega)
    exact ⟨append_nil b, rfl⟩

theorem mem_tail_of_split (hsegments : segments = before ++ read :: after) (hne : before ≠ []) :
    read ∈ segments.tail := by
  rcases before with _ | ⟨r, before⟩
  · exact absurd rfl hne
  · rw [hsegments]
    exact mem_append_right before mem_cons_self

/-! ## One segment -/

/-- The buffer is made of segments that follow one another; without the first of all it does not look like a
request. -/
structure Holds (segments : List (Read Key)) (state : HttpStreamState) (held : List (Read Key)) : Prop where
  place : ∃ before after, segments = before ++ (held ++ after) ∧
    (before ≠ [] → startsWithHttpRequest state.buffer = false)
  buffer : state.buffer = bytesOf held
  first : ∀ read ∈ held.head?, state.bufferFirstMonotonicNanos = read.raw.timestampUnixNanos

theorem holds_nothing (segments : List (Read Key)) {state : HttpStreamState} (h : state.buffer = []) :
    Holds segments state [] :=
  ⟨⟨[], segments, rfl, fun hne => absurd rfl hne⟩, h, nofun⟩

section segment

variable {key : Key} {segments held : List (Read Key)} {state : HttpStreamState} {read : Read Key}

section

variable (hcut : HeaderCut config key segments)
include hcut

theorem join_alone (hread : read ∈ segments) (hempty : state.buffer = []) :
    Holds segments (state.join read.captured read.raw.timestampUnixNanos) [read] := by
  obtain ⟨before, after, hsegments⟩ := mem_iff_append.mp hread
  have hjoin : state.join read.captured read.raw.timestampUnixNanos =
      { state with buffer := read.captured, bufferFirstMonotonicNanos := read.raw.timestampUnixNanos } := by
    rw [HttpStreamState.join, hempty]
    rfl
  rw [hjoin]
  refine ⟨⟨before, after, hsegments, ?_⟩, ?_, ?_⟩
  · exact fun hne => hcut.others read (mem_tail_of_split hsegments hne)
  · exact (append_nil read.captured).symm
  · intro r hr
    rw [Option.mem_some_iff.mp hr]

variable {before after : List (Read Key)} {r : Read Key}

section

variable (hempty : state.buffer ≠ []) (hbuffer : state.buffer = bytesOf (r :: held))
  (hfirst : state.bufferFirstMonotonicNanos = r.raw.timestampUnixNanos)
include hempty hbuffer hfirst

theorem join_next (hsegments : segments = before ++ (r :: held ++ read :: after))
    (horphan : before ≠ [] → startsWithHttpRequest (state.buffer ++ read.captured) = false) :
    Holds segments (state.join read.captured read.raw.timestampUnixNanos) (r :: held ++ [read]) := by
  have hsplit : segments = (before ++ r :: held) ++ read :: after := by rw [hsegments, append_assoc]
  have hlooks : startsWithHttpRequest read.captured = false :=
    hcut.others read (mem_tail_of_split hsplit (append_ne_nil_of_right_ne_nil before (cons_ne_nil r held)))
  have hlater : r.raw.timestampUnixNanos < read.raw.timestampUnixNanos := by
    have hincreasing := hcut.increasing
    rw [hsegments, pairwise_append] at hincreasing
    exact (pairwise_append.mp hincreasing.2.1).2.2 r mem_cons_self read mem_cons_self
  have hne : state.buffer.isEmpty = false := isEmpty_eq_false_iff.mpr hempty
  have hjoin : state.join read.captured read.raw.timestampUnixNanos =
      { state with buffer := state.buffer ++ read.captured } := by
    unfold HttpStreamState.join
    simp only [hne, hlooks, hfirst, Nat.lt_asymm hlater, Bool.false_eq_true, if_false]
  rw [hjoin]
  refine ⟨⟨before, after, ?_, horphan⟩, ?_, ?_⟩
  · rw [hsegments, append_assoc]
    rfl
  · rw [bytesOf_append, ← hbuffer, bytesOf, map_singleton, flatten_singleton]
  · intro r' hr'
    obtain rfl : r = r' := Option.some.inj hr'
    exact hfirst

theorem join_previous (hsegments : segments = before ++ (read :: r :: held ++ after))
    (hlooks : startsWithHttpRequest state.buffer = false)
    (horphan : before ≠ [] → startsWithHttpRequest (read.captured ++ state.buffer) = false) :
    Holds segments (state.join read.captured read.raw.timestampUnixNanos) (read :: r :: held) := by
  have hearlier : read.raw.timestampUnixNanos < r.raw.timestampUnixNanos := by
    have hincreasing := hcut.increasing
    rw [hsegments, pairwise_append] at hincreasing
    exact (pairwise_cons.mp hincreasing.2.1).1 r mem_cons_self
  have hne : state.buffer.isEmpty = false := isEmpty_eq_false_iff.mpr hempty
  have hjoin : state.join read.captured read.raw.timestampUnixNanos =
      { state with
        buffer := read.captured ++ state.buffer, bufferFirstMonotonicNanos := read.raw.timestampUnixNanos } := by
    unfold HttpStreamState.join
    simp only [hne, hlooks, hfirst, hearlier, Bool.not_false, Bool.and_self, decide_true, Bool.false_eq_true, if_false,
      if_true, ite_self]
  rw [hjoin]
  refine ⟨⟨before, after, hsegments, horphan⟩, ?_, ?_⟩
  · rw [hbuffer]
    rfl
  · intro r' hr'
    rw [Option.some.inj hr']

end

/-- A segment next to those that are held is joined with them. -/
theorem Holds.join (h : Holds segments state held) (hread : read ∈ segments)
    (hadjacent : Adjacent segments state read) :
    ∃ held', Holds segments (state.join read.captured read.raw.timestampUnixNanos) held' ∧
      ∀ r ∈ held', r = read ∨ r ∈ held := by
  by_cases hempty : state.buffer = []
  · exact ⟨[read], join_alone hcut hread hempty, fun r hr => .inl (mem_singleton.mp hr)⟩
  obtain ⟨⟨before, after, hsegments, horphan⟩, hbuffer, hfirst⟩ := h
  rcases held with _ | ⟨r, held⟩
  · exact absurd hbuffer hempty
  have hstart : offset segments state.bufferFirstMonotonicNanos = (bytesOf before).length := by
    rw [hfirst r rfl]
    exact offset_eq hcut.increasing hsegments
  obtain ⟨earlier, later, hplace⟩ := mem_iff_append.mp hread
  have hhere := offset_eq hcut.increasing hplace
  have hpos : ∀ x y : List (Read Key), segments = x ++ y → x ≠ [] → (bytesOf x).length ≠ 0 := by
    intro x y hxy hne hzero
    refine hne (eq_nil_of_length_bytesOf (fun r hr => hcut.nonempty r ?_) hzero)
    rw [hxy]
    exact mem_append_left _ hr
  rcases hadjacent with hnil | ⟨hbehind, hlooks⟩ | ⟨hfront, hlooks⟩
  · exact absurd hnil hempty
  · -- the segment is the first of those behind
    have hlength : (bytesOf (before ++ r :: held)).length = (bytesOf earlier).length := by
      rw [bytesOf_append, length_append, ← hstart, ← hbuffer, ← hhere, hbehind]
    have hsplit : segments = (before ++ r :: held) ++ after := by rw [hsegments, append_assoc]
    obtain ⟨-, rfl⟩ := split_unique hcut.nonempty hsplit hplace hlength
    refine ⟨r :: held ++ [read], join_next hcut hempty hbuffer (hfirst r rfl) hsegments fun hne => hlooks ?_, ?_⟩
    · rw [hstart]
      exact hpos before _ hsegments hne
    · intro r' hr'
      rcases mem_append.mp hr' with hr' | hr'
      · exact .inr hr'
      · exact .inl (mem_singleton.mp hr')
  · -- the segment is the last of those in front
    have hlength : (bytesOf (earlier ++ [read])).length = (bytesOf before).length := by
      rw [bytesOf_append, length_append, ← hstart, ← hfront, hhere, bytesOf, bytesOf, map_singleton,
        flatten_singleton]
    have hsplit : segments = (earlier ++ [read]) ++ later := by rw [hplace, append_assoc]; rfl
    obtain ⟨rfl, rfl⟩ := split_unique hcut.nonempty hsplit hsegments hlength
    have hlooksBuffer := horphan (append_ne_nil_of_right_ne_nil _ (cons_ne_nil read []))
    refine ⟨read :: r :: held, join_previous hcut hempty hbuffer (hfirst r rfl) hplace hlooksBuffer
      fun hne => hlooks ?_,
      ?_⟩
    · rw [hhere]
      exact hpos earlier _ hplace hne
    · exact fun r' hr' => mem_cons.mp hr'

end

/-- The head as a request, with some body of the length it announces. -/
def HeaderCut.request (hcut : HeaderCut config key segments) : HttpRequest config where
  header := bytesOf segments
  body := List.replicate ((httpContentLength (bytesOf segments)).getD 0) 0
  ends := hcut.ends
  accepted := hcut.accepted
  announced := length_replicate

/-- What a segment leads to: nothing is handed out and some of the segments are held, or the head is handed out and
all of them have been held. -/
def Leads (segments held : List (Read Key)) (result : HttpStreamState × HttpReassemblyOutcome Key) : Prop :=
  (result.2.requests = [] ∧ result.1.bodyBytesRemaining = 0 ∧
      ∃ held', Holds segments result.1 held' ∧ ∀ r ∈ held', r ∈ held) ∨
    (result.2.requests = [bytesOf segments] ∧ result.1.buffer = [] ∧ held = segments)

theorem leads_of_clear {outcome : HttpReassemblyOutcome Key} (h : outcome.requests = []) :
    Leads segments held (state.clear, outcome) :=
  .inl ⟨h, rfl, [], holds_nothing segments rfl, nofun⟩

theorem leads_of_settled {result : HttpStreamState × HttpReassemblyOutcome Key} (h : Leads segments held result) :
    Leads segments held (if result.1.settled then {} else result.1, result.2) := by
  rcases h with ⟨hnone, hzero, held', hholds, hsubset⟩ | ⟨hgiven, hempty, hall⟩
  · refine .inl ⟨hnone, ?_⟩
    split
    · exact ⟨rfl, [], holds_nothing segments rfl, nofun⟩
    · exact ⟨hzero, held', hholds, hsubset⟩
  · refine .inr ⟨hgiven, ?_, hall⟩
    split
    · rfl
    · exact hempty

section

variable (hcut : HeaderCut config key segments)
include hcut

theorem extract_held {maxHeaderBytes fuel : Nat} {raw : RawHttpRequestEvent Key}
    (h : Holds segments state held) (hbody : state.bodyBytesRemaining = 0)
    (hlooks : startsWithHttpRequest state.buffer = true) :
    Leads segments held (state.extract maxHeaderBytes config raw (fuel + 1) 0 {}) := by
  by_cases hfits : state.buffer.length ≤ maxHeaderBytes
  · rcases hend : findHttpHeaderEnd state.buffer with _ | n
    · have hstop : state.extract maxHeaderBytes config raw (fuel + 1) 0 {} = (state, {}) := by
        simp only [HttpStreamState.extract, if_neg (Nat.not_lt.mpr hfits), hend, Nat.lt_irrefl, if_false]
      rw [hstop]
      exact .inl ⟨rfl, hbody, held, h, fun _ hr => hr⟩
    · -- a buffer that looks like a request starts the head, and only the whole head has its end
      obtain ⟨⟨before, after, hsegments, horphan⟩, hbuffer, -⟩ := h
      obtain rfl : before = [] := by
        by_contra hne
        rw [horphan hne] at hlooks
        cases hlooks
      have hbytes : bytesOf segments = state.buffer ++ bytesOf after := by
        rw [hsegments, nil_append, bytesOf_append, hbuffer]
      have hlength : n = (bytesOf segments).length := by
        have hfound := findHttpHeaderEnd_append hend (bytesOf after)
        rw [← hbytes, hcut.ends] at hfound
        exact (Option.some.inj hfound).symm
      obtain rfl : after = [] := by
        refine eq_nil_of_length_bytesOf (fun r hr => hcut.nonempty r ?_) ?_
        · rw [hsegments]
          exact mem_append_right held hr
        · have hle := findHttpHeaderEnd_le hend
          rw [hlength, hbytes, length_append] at hle
          omega
      have hwhole : state.buffer = hcut.request.header ++ [] := by
        rw [append_nil]
        exact (append_nil _).symm.trans hbytes.symm
      have hall : held = segments := by rw [hsegments, nil_append, append_nil]
      rw [extract_head hwhole hfits]
      dsimp only
      split
      · exact .inr ⟨rfl, drop_nil, hall⟩
      · simp only [drop_nil, isEmpty_nil, if_true]
        exact .inr ⟨rfl, rfl, hall⟩
  · have hover : state.extract maxHeaderBytes config raw (fuel + 1) 0 {} =
        (state.clear, { errors := [.reassemblyLimit raw] }) := by
      simp only [HttpStreamState.extract, if_pos (Nat.lt_of_not_le hfits), nil_append]
    rw [hover]
    exact leads_of_clear rfl

theorem not_preface_segment (hread : read ∈ segments) :
    ¬ http2Preface.isPrefixOf read.captured = true := by
  intro hpreface
  obtain ⟨before, after, hsegments⟩ := mem_iff_append.mp hread
  have hlooks : startsWithHttpRequest read.captured = true := by
    obtain ⟨tail, htail⟩ := List.isPrefixOf_iff_prefix.mp hpreface
    rw [← htail]
    rfl
  obtain rfl : before = [] := by
    by_contra hne
    rw [hcut.others read (mem_tail_of_split hsegments hne)] at hlooks
    cases hlooks
  have hbytes : read.captured ++ bytesOf after = hcut.request.header ++ [] := by
    rw [append_nil]
    exact (congrArg bytesOf hsegments).symm
  exact not_preface hbytes hpreface

theorem HeaderCut.nodup : segments.Nodup := by
  refine hcut.increasing.imp ?_
  rintro a b hlt rfl
  exact Nat.lt_irrefl _ hlt

variable {maxHeaderBytes : Nat} (h : Holds segments state held) (hbody : state.bodyBytesRemaining = 0)
  (hread : read ∈ segments) (hadjacent : Adjacent segments state read)
include h hbody hread hadjacent

theorem receive_held : ∃ held', (∀ r ∈ held', r = read ∨ r ∈ held) ∧
      Leads segments held' (state.receive maxHeaderBytes config read.raw read.captured) := by
  obtain ⟨held', hheld, hsubset⟩ := h.join hcut hread hadjacent
  refine ⟨held', hsubset, ?_⟩
  have hwhole := hcut.whole read hread
  have huncaptured : max read.raw.requestTotalLen read.captured.length - read.captured.length = 0 := by omega
  have hjoinedBody : (state.join read.captured read.raw.timestampUnixNanos).bodyBytesRemaining = 0 := by
    rw [← hbody]
    unfold HttpStreamState.join
    split_ifs
    all_goals rfl
  simp only [HttpStreamState.receive, hbody, huncaptured, Nat.lt_irrefl, if_false, HttpStreamState.accept,
    if_neg (not_preface_segment hcut hread)]
  by_cases hlooks : startsWithHttpRequest (state.join read.captured read.raw.timestampUnixNanos).buffer = true
  · simp only [hlooks, Bool.not_true, Bool.false_eq_true, if_false]
    exact extract_held hcut hheld hjoinedBody hlooks
  · simp only [Bool.not_eq_true] at hlooks
    simp only [hlooks, Bool.not_false, if_true, or_false]
    split
    · exact leads_of_clear rfl
    · exact .inl ⟨rfl, hjoinedBody, held', hheld, fun _ hr => hr⟩

theorem push_held : ∃ held', (∀ r ∈ held', r = read ∨ r ∈ held) ∧
      Leads segments held' (state.push maxHeaderBytes config read.raw read.captured read.observed) := by
  -- the segments that a connection held when it became stale are forgotten
  obtain ⟨seen, hsubset, hholds, hzero, hnext⟩ : ∃ seen, (∀ r ∈ seen, r ∈ held) ∧
      Holds segments (if state.fresh read.observed then state else {}) seen ∧
      (if state.fresh read.observed then state else {}).bodyBytesRemaining = 0 ∧
      Adjacent segments (if state.fresh read.observed then state else {}) read := by
    split
    · exact ⟨held, fun _ hr => hr, h, hbody, hadjacent⟩
    · exact ⟨[], nofun, holds_nothing segments rfl, rfl, .inl rfl⟩
  unfold HttpStreamState.push
  generalize (if state.fresh read.observed then state else {}) = current at hholds hzero hnext ⊢
  have hseen : Holds segments { current with lastSeenUnixNanos := read.observed } seen := { hholds with }
  obtain ⟨held', hheld, hleads⟩ := receive_held hcut hseen hzero hread hnext
  exact ⟨held', fun r hr => (hheld r hr).imp_right (hsubset r), leads_of_settled hleads⟩

end

end segment

/-! ## Runs -/

variable [LinearOrder Key] {key : Key} {segments : List (Read Key)}

/-- The segments that were pushed are all that can be held; the body is only known when all of them were. -/
structure Splices (key : Key) (segments : List (Read Key)) (run : Reassembled Key) (pushed : List (Read Key)) :
    Prop where
  alone : run.reassembler.Alone key
  held : ∃ held, Holds segments (run.reassembler.current key) held ∧ ∀ r ∈ held, r ∈ pushed
  body : (run.reassembler.current key).bodyBytesRemaining = 0 ∨ ∀ r ∈ segments, r ∈ pushed
  requests : ∀ request ∈ run.requests, request = bytesOf segments

def Reassembled.Adjacent (segments : List (Read Key)) (run : Reassembled Key) (read : Read Key) : Prop :=
  Http1.Adjacent segments (run.known read) read

instance (run : Reassembled Key) (read : Read Key) : Decidable (run.Adjacent segments read) :=
  inferInstanceAs (Decidable (Http1.Adjacent segments (run.known read) read))

theorem Splices.step (hcut : HeaderCut config key segments) {run : Reassembled Key} {pushed : List (Read Key)}
    {read : Read Key} (h : Splices key segments run pushed) (hread : read ∈ segments) (hnew : read ∉ pushed)
    (hadjacent : run.Adjacent segments read) : Splices key segments (run.step config read) (read :: pushed) := by
  obtain rfl := hcut.same read hread
  obtain ⟨halone, -, hknown, hrequests, -⟩ := Reassembled.step_alone h.alone rfl
  change (run.step config read).reassembler.current read.raw.key = _ at hknown
  obtain ⟨held, hholds, hpushed⟩ := h.held
  have hbody := h.body.resolve_right fun hall => hnew (hall read hread)
  obtain ⟨held', hheld, hleads⟩ := push_held hcut hholds hbody hread hadjacent
  have hsubset : ∀ r ∈ held', r ∈ read :: pushed :=
    fun r hr => mem_cons.mpr ((hheld r hr).imp_right (hpushed r))
  rcases hleads with ⟨hnone, hzero, held'', hholds', hsub⟩ | ⟨hgiven, hempty, hall⟩
  · refine ⟨halone, ⟨held'', ?_, fun r hr => hsubset r (hsub r hr)⟩, .inl ?_, ?_⟩
    · rw [hknown]
      exact hholds'
    · rw [hknown]
      exact hzero
    · rw [hrequests]
      rw [Reassembled.known, hnone, append_nil]
      exact h.requests
  · refine ⟨halone, ⟨[], ?_, fun r hr => absurd hr not_mem_nil⟩, .inr ?_, ?_⟩
    · rw [hknown]
      exact holds_nothing segments hempty
    · exact fun r hr => hsubset r (hall ▸ hr)
    · rw [hrequests, Reassembled.known, hgiven]
      exact forall_mem_append.mpr ⟨h.requests, forall_mem_singleton.mpr rfl⟩

theorem Splices.run (hcut : HeaderCut config key segments) (coming : List (Read Key)) :
    ∀ {run : Reassembled Key} {pushed : List (Read Key)}, Splices key segments run pushed →
      (∀ read ∈ coming, read ∈ segments ∧ read ∉ pushed) → coming.Nodup →
      Along (Reassembled.step config) (Reassembled.Adjacent segments) run coming →
      ∀ request ∈ (coming.foldl (Reassembled.step config) run).requests, request = bytesOf segments := by
  induction coming with
  | nil => exact fun h _ _ _ => h.requests
  | cons read coming ih =>
    intro run pushed h hcoming hnodup hadjacent
    obtain ⟨hread, hnew⟩ := hcoming read mem_cons_self
    obtain ⟨hnever, hnodup⟩ := nodup_cons.mp hnodup
    refine ih (h.step hcut hread hnew hadjacent.1) (fun r hr => ?_) hnodup hadjacent.2
    obtain ⟨hmem, hnot⟩ := hcoming r (mem_cons_of_mem read hr)
    refine ⟨hmem, fun hin => ?_⟩
    rcases mem_cons.mp hin with rfl | hin
    · exact hnever hr
    · exact hnot hin

theorem eq_header_of_adjacent {maxStreams maxHeaderBytes : Nat} {reads : List (Read Key)}
    (hcut : HeaderCut config key segments) (hperm : reads.Perm segments)
    (hadjacent : Along (Reassembled.step config) (Reassembled.Adjacent segments) (.start maxStreams maxHeaderBytes)
      reads) :
    ∀ request ∈ (reads.foldl (Reassembled.step config) (.start maxStreams maxHeaderBytes)).requests,
      request = bytesOf segments := by
  have hstart : Splices key segments (.start maxStreams maxHeaderBytes) [] :=
    ⟨HttpRequestReassembler.alone_new _ _ key, ⟨[], holds_nothing segments rfl, nofun⟩, .inl rfl, nofun⟩
  refine hstart.run hcut reads (fun read hread => ⟨hperm.mem_iff.mp hread, nofun⟩) ?_ hadjacent
  exact hperm.nodup_iff.mpr hcut.nodup

/-! ### Two orders of three segments -/

def threeSegments : List (Read Nat) := [readAt 1 "GET / HTTP/1.1\r\n", readAt 2 "A: b\r\n", readAt 3 "\r\n"]

theorem headerCut_threeSegments : HeaderCut {} 7 threeSegments :=
  ⟨by decide +kernel, by decide +kernel, by decide, by decide, by decide, by decide, by decide +kernel,
    by decide +kernel⟩

/-- Each segment in front of those that came before it. -/
def backwards : List (Read Nat) := [readAt 3 "\r\n", readAt 2 "A: b\r\n", readAt 1 "GET / HTTP/1.1\r\n"]

theorem eq_header_of_adjacent_backwards :
    (backwards.foldl (Reassembled.step {}) (.start 8 8192)).requests ≠ [] ∧
      ∀ request ∈ (backwards.foldl (Reassembled.step {}) (.start 8 8192)).requests,
        request = bytesOf threeSegments := by
  have hperm : backwards.Perm threeSegments := reverse_perm threeSegments
  refine ⟨by decide +kernel, eq_header_of_adjacent headerCut_threeSegments hperm ?_⟩
  decide +kernel

def middleLast : List (Read Nat) := [readAt 1 "GET / HTTP/1.1\r\n", readAt 3 "\r\n", readAt 2 "A: b\r\n"]

/-- The first and the last segment make a head that was not sent. -/
theorem gap_spliced :
    HeaderCut {} 7 threeSegments ∧ middleLast.Perm threeSegments ∧
      (middleLast.foldl (Reassembled.step {}) (.start 8 8192)).requests = [text "GET / HTTP/1.1\r\n\r\n"] ∧
      text "GET / HTTP/1.1\r\n\r\n" ≠ bytesOf threeSegments := by
  have hperm : middleLast.Perm threeSegments := .cons _ (.swap _ _ _)
  exact ⟨headerCut_threeSegments, hperm, by decide +kernel, by decide +kernel⟩

end ENavigator.Http1
