import ENavigator.Http1.Reassembly

/-!
# Where reassembly stands in a connection

The requests of a connection one behind the other, cut into reads anywhere. `Aligned` is where reassembly stands in
them: a part of a head in its buffer, or a part of a body still to skip. A read that does not look like a request
when it comes in the middle of a head, and that completes a head at the start of the buffer only if that looks like
one, leaves it aligned and hands out the heads that are complete (`push_aligned`).
-/

namespace ENavigator.Http1

open ENavigator.Correlation List

/-- A request on the wire: a head up to its blank line, and a body. -/
structure WireRequest where
  header : Bytes
  body : Bytes
  ends : findHttpHeaderEnd header = some header.length

/-- A request with a head that is read and the body that its content length announces. -/
structure HttpRequest (config : ProtocolExtractionConfig) extends WireRequest where
  accepted : (parseHttpRequest header config).isOk = true
  announced : body.length = (httpContentLength header).getD 0

variable {config : ProtocolExtractionConfig} {Key : Type}

def wire (requests : List (HttpRequest config)) : Bytes := (requests.map fun r => r.header ++ r.body).flatten

theorem wire_cons (r : HttpRequest config) (rs : List (HttpRequest config)) :
    wire (r :: rs) = r.header ++ (r.body ++ wire rs) := by
  rw [wire, map_cons, flatten_cons, append_assoc]
  rfl

theorem wire_append (rs rs' : List (HttpRequest config)) : wire (rs ++ rs') = wire rs ++ wire rs' := by
  rw [wire, map_append, flatten_append]
  rfl

/-! ## Heads -/

variable {bytes : Bytes} {n maxHeaderBytes : Nat} {r : HttpRequest config} {state : HttpStreamState}
  {rs : List (HttpRequest config)}

theorem findHttpHeaderEnd_append (h : findHttpHeaderEnd bytes = some n) (x : Bytes) :
    findHttpHeaderEnd (bytes ++ x) = some n := by
  obtain ⟨i, hi, rfl⟩ := Option.map_eq_some_iff.mp h
  exact Option.map_eq_some_iff.mpr ⟨i, findWindow_append x hi, rfl⟩

theorem findHttpHeaderEnd_le (h : findHttpHeaderEnd bytes = some n) : n ≤ bytes.length := by
  obtain ⟨i, hi, rfl⟩ := Option.map_eq_some_iff.mp h
  exact findWindow_add_length_le hi

theorem HttpRequest.header_ne_nil (r : HttpRequest config) : r.header ≠ [] := by
  intro hnil
  have h := r.ends
  rw [hnil] at h
  cases h

variable {buffer x y rest : Bytes} {nanos observed : Nat}

theorem length_lt_of_incomplete (h : buffer ++ x = r.header ++ y) (hincomplete : findHttpHeaderEnd buffer = none) :
    buffer.length < r.header.length := by
  by_contra hle
  have hcut := (append_split h (Nat.le_of_not_lt hle)).1
  have hsplit : buffer = r.header ++ buffer.drop r.header.length := by
    conv_lhs => rw [← take_append_drop r.header.length buffer, hcut]
  have hfound := findHttpHeaderEnd_append r.ends (buffer.drop r.header.length)
  rw [← hsplit, hincomplete] at hfound
  cases hfound

theorem headerEnd_eq (h : buffer ++ x = r.header ++ y) (hn : findHttpHeaderEnd buffer = some n) :
    n = r.header.length := by
  have hbuffer := findHttpHeaderEnd_append hn x
  have hheader := findHttpHeaderEnd_append r.ends y
  rw [h, hheader] at hbuffer
  exact (Option.some.inj hbuffer).symm

theorem headerEnd_ok {stop : Nat} (h : headerEnd bytes maxHeaderBytes = .ok stop) :
    findDoubleCrlf bytes = some (stop - 2) := by
  unfold headerEnd at h
  split at h
  · cases h
  next index hindex =>
    split at h
    · cases h
    · obtain rfl : index + 2 = stop := Except.ok.inj h
      have hfull := findWindow_append (bytes.drop (maxHeaderBytes + 1)) hindex
      rwa [take_append_drop] at hfull

/-- The preface of HTTP/2 is no request of HTTP/1. -/
theorem parseHttpRequest_preface (config : ProtocolExtractionConfig) :
    (parseHttpRequest (text "PRI * HTTP/2.0\r\n\r\n") config).isOk = false := by
  unfold parseHttpRequest
  rcases hstop : headerEnd (text "PRI * HTTP/2.0\r\n\r\n") config.maxHeaderBytes with e | stop
  · rfl
  have hfound := headerEnd_ok hstop
  have hwhere : findDoubleCrlf (text "PRI * HTTP/2.0\r\n\r\n") = some 14 := by decide +kernel
  have hutf8 : validUtf8 ((text "PRI * HTTP/2.0\r\n\r\n").take 16) = true := by decide +kernel
  have hline : (splitCrlf ((text "PRI * HTTP/2.0\r\n\r\n").take 16)).headD [] = text "PRI * HTTP/2.0" := by
    decide +kernel
  have hversion : parseRequestLine (text "PRI * HTTP/2.0") = .error .malformedRequestLine := by decide +kernel
  have hsixteen : stop = 16 := by
    rw [hwhere] at hfound
    have := Option.some.inj hfound
    omega
  subst hsixteen
  simp only [bind, Except.bind, hutf8, hline, hversion, Bool.not_true, Bool.false_eq_true, if_false]
  split
  · rfl
  · rfl

theorem not_preface {visible : Bytes} (h : visible ++ x = r.header ++ y) :
    ¬ http2Preface.isPrefixOf visible = true := by
  intro hpreface
  obtain ⟨tail, rfl⟩ := List.isPrefixOf_iff_prefix.mp hpreface
  rw [append_assoc] at h
  have hfound : findHttpHeaderEnd http2Preface = some 18 := by decide +kernel
  have hlength : 18 = r.header.length := headerEnd_eq h hfound
  have hlong : r.header.length ≤ http2Preface.length := by
    rw [← hlength]
    decide +kernel
  have htake := (append_split h hlong).1
  rw [← hlength, show http2Preface.take 18 = text "PRI * HTTP/2.0\r\n\r\n" by decide +kernel] at htake
  have haccepted := r.accepted
  rw [← htake, parseHttpRequest_preface] at haccepted
  cases haccepted

/-! ## Where reassembly stands -/

/-- `future` is what is still to be read and `rs` the requests whose heads have not been handed out. -/
structure Aligned (state : HttpStreamState) (rs : List (HttpRequest config)) (future : Bytes) : Prop where
  position : ∃ body rest, body.length = state.bodyBytesRemaining ∧ future = body ++ rest ∧
    state.buffer ++ rest = wire rs
  skipping : 0 < state.bodyBytesRemaining → state.buffer = []
  incomplete : findHttpHeaderEnd state.buffer = none

theorem aligned_start (rs : List (HttpRequest config)) : Aligned {} rs (wire rs) :=
  ⟨⟨[], wire rs, rfl, rfl, rfl⟩, fun _ => rfl, rfl⟩

theorem Aligned.of_settled {future : Bytes} (h : Aligned state rs future) (hsettled : state.settled = true) :
    Aligned {} rs future := by
  rw [HttpStreamState.settled, Bool.and_eq_true, List.isEmpty_iff, decide_eq_true_eq] at hsettled
  obtain ⟨body, rest, hlength, rfl, hwire⟩ := h.position
  obtain rfl : body = [] := length_eq_zero_iff.mp (hlength.trans hsettled.2)
  rw [hsettled.1, nil_append] at hwire
  rw [hwire]
  exact aligned_start rs

/-- The state behind a head that was handed out: its body is in the buffer, or a part of it is still to come. -/
theorem aligned_behind_head (h : buffer ++ rest = wire (r :: rs)) (hle : r.header.length ≤ buffer.length) :
    (∃ body, body.length = r.body.length - (buffer.drop r.header.length).length ∧ rest = body ++ wire rs ∧
        (buffer.drop r.header.length).drop r.body.length = []) ∨
      (r.body.length - (buffer.drop r.header.length).length = 0 ∧
        (buffer.drop r.header.length).drop r.body.length ++ rest = wire rs) := by
  rw [wire_cons] at h
  have hdrop := (append_split h hle).2
  rcases Nat.lt_or_ge (buffer.drop r.header.length).length r.body.length with hshort | hlong
  · obtain ⟨htake, hrest⟩ := append_split hdrop.symm (Nat.le_of_lt hshort)
    refine .inl ⟨r.body.drop (buffer.drop r.header.length).length, length_drop, hrest.symm, ?_⟩
    exact drop_eq_nil_of_le (Nat.le_of_lt hshort)
  · exact .inr ⟨Nat.sub_eq_zero_of_le hlong, (append_split hdrop hlong).2⟩

theorem extract_head {raw : RawHttpRequestEvent Key} {fuel : Nat} (hbuffer : state.buffer = r.header ++ x)
    (hfits : state.buffer.length ≤ maxHeaderBytes) (outcome : HttpReassemblyOutcome Key) :
    state.extract maxHeaderBytes config raw (fuel + 1) 0 outcome =
      let outcome := { outcome with requests := outcome.requests ++ [r.header] }
      let state := { state with buffer := x.drop r.body.length, bodyBytesRemaining := r.body.length - x.length }
      if state.bodyBytesRemaining > 0 then (state, outcome)
      else if state.buffer.isEmpty then ({ state with bufferFirstMonotonicNanos := 0 }, outcome)
      else state.extract maxHeaderBytes config raw fuel 0 outcome := by
  have hend : findHttpHeaderEnd state.buffer = some r.header.length := by
    rw [hbuffer]
    exact findHttpHeaderEnd_append r.ends x
  have htake : state.buffer.take r.header.length = r.header := by
    rw [hbuffer, take_left]
  have hdrop : state.buffer.drop r.header.length = x := by
    rw [hbuffer, drop_left]
  obtain ⟨parsed, hparsed⟩ : ∃ parsed, parseHttpRequest r.header config = .ok parsed := by
    have haccepted := r.accepted
    rcases hparse : parseHttpRequest r.header config with e | parsed
    · rw [hparse] at haccepted
      cases haccepted
    · exact ⟨parsed, rfl⟩
  rw [HttpStreamState.extract, if_neg (Nat.not_lt.mpr hfits)]
  simp only [hend, htake, hdrop, hparsed, ← r.announced, Nat.sub_zero, Nat.zero_sub, Nat.lt_irrefl, if_false]

/-- The induction is on the fuel; each turn hands out the head of the first request that is left. -/
theorem extract_aligned {raw : RawHttpRequestEvent Key} (fuel : Nat) :
    ∀ (state : HttpStreamState) (outcome : HttpReassemblyOutcome Key) (rs : List (HttpRequest config)),
      state.buffer.length < fuel → state.buffer.length ≤ maxHeaderBytes → state.bodyBytesRemaining = 0 →
      state.buffer ++ rest = wire rs →
      ∃ taken rs', rs = taken ++ rs' ∧
        (state.extract maxHeaderBytes config raw fuel 0 outcome).2 =
          { outcome with requests := outcome.requests ++ taken.map (·.header) } ∧
        Aligned (state.extract maxHeaderBytes config raw fuel 0 outcome).1 rs' rest ∧
        ((state.extract maxHeaderBytes config raw fuel 0 outcome).1.buffer ≠ [] →
          (state.extract maxHeaderBytes config raw fuel 0 outcome).1.bufferFirstMonotonicNanos =
            state.bufferFirstMonotonicNanos) := by
  induction fuel with
  | zero => exact fun _ _ _ h => absurd h (Nat.not_lt_zero _)
  | succ fuel ih =>
    intro state outcome rs hfuel hfits hbody hwire
    rcases hend : findHttpHeaderEnd state.buffer with _ | n
    · have hstop : state.extract maxHeaderBytes config raw (fuel + 1) 0 outcome = (state, outcome) := by
        simp only [HttpStreamState.extract, if_neg (Nat.not_lt.mpr hfits), hend, Nat.lt_irrefl, if_false]
      rw [hstop]
      refine ⟨[], rs, rfl, ?_, ⟨⟨[], rest, hbody.symm, rfl, hwire⟩, ?_, hend⟩, fun _ => rfl⟩
      · rw [map_nil, append_nil]
      · exact fun hpos => absurd hbody (Nat.ne_of_gt hpos)
    rcases rs with _ | ⟨r, rs⟩
    · have hnil : state.buffer = [] := (append_eq_nil_iff.mp hwire).1
      rw [hnil] at hend
      cases hend
    obtain rfl : n = r.header.length := headerEnd_eq (hwire.trans (wire_cons r rs)) hend
    have hle := findHttpHeaderEnd_le hend
    have hhead : state.buffer = r.header ++ state.buffer.drop r.header.length := by
      conv_lhs => rw [← take_append_drop r.header.length state.buffer,
        (append_split (hwire.trans (wire_cons r rs)) hle).1]
    rw [extract_head hhead hfits]
    dsimp only
    have hnone : findHttpHeaderEnd [] = none := rfl
    rcases aligned_behind_head hwire hle with ⟨body, hlength, hrest, hempty⟩ | ⟨hzero, hnext⟩
    · -- the buffer is empty, whether or not some of the body is still to come
      rw [hempty]
      split <;> exact ⟨[r], rs, rfl, rfl, ⟨⟨body, wire rs, hlength, hrest, rfl⟩, fun _ => rfl, hnone⟩, absurd rfl⟩
    · rw [hzero]
      simp only [Nat.lt_irrefl, if_false]
      split
      next hempty =>
        have hnil := List.isEmpty_iff.mp hempty
        refine ⟨[r], rs, rfl, rfl, ⟨⟨[], rest, rfl, rfl, hnext⟩, fun h => absurd h (Nat.lt_irrefl 0), ?_⟩, ?_⟩
        · exact hnil ▸ hnone
        · exact fun h => absurd hnil h
      next hmore =>
        have hshorter : ((state.buffer.drop r.header.length).drop r.body.length).length < state.buffer.length := by
          have hpos := length_pos_iff.mpr r.header_ne_nil
          rw [length_drop, length_drop]
          omega
        obtain ⟨taken, rs', hrs, houtcome, haligned, hfirst⟩ := ih
          { state with buffer := (state.buffer.drop r.header.length).drop r.body.length, bodyBytesRemaining := 0 }
          { outcome with requests := outcome.requests ++ [r.header] } rs (by dsimp only; omega) (by dsimp only; omega)
          rfl hnext
        refine ⟨r :: taken, rs', congrArg (r :: ·) hrs, ?_, haligned, hfirst⟩
        rw [houtcome, map_cons, append_assoc]
        rfl

/-! ## Reads -/

/-- What a read shows behind the body that is still to come. -/
def HttpStreamState.visible (state : HttpStreamState) (captured : Bytes) : Bytes :=
  captured.drop state.bodyBytesRemaining

/-- A read in the middle of a head does not look like a request, and a head that it completes at the start of the
buffer does. -/
structure CleanRead (state : HttpStreamState) (captured : Bytes) : Prop where
  inside : state.buffer ≠ [] → startsWithHttpRequest (state.visible captured) = false
  complete : startsWithHttpRequest (state.buffer ++ state.visible captured) = true ∨
    findHttpHeaderEnd (state.buffer ++ state.visible captured) = none

instance (state : HttpStreamState) (captured : Bytes) : Decidable (CleanRead state captured) :=
  decidable_of_iff ((state.buffer ≠ [] → startsWithHttpRequest (state.visible captured) = false) ∧
      (startsWithHttpRequest (state.buffer ++ state.visible captured) = true ∨
        findHttpHeaderEnd (state.buffer ++ state.visible captured) = none))
    ⟨fun h => ⟨h.1, h.2⟩, fun h => ⟨h.inside, h.complete⟩⟩

/-- What a read at time `nanos` has brought: the heads of the next requests, and a state aligned with the others,
whose buffer is not younger than the read. -/
def Brings (nanos : Nat) (rs : List (HttpRequest config)) (future : Bytes)
    (result : HttpStreamState × HttpReassemblyOutcome Key) : Prop :=
  ∃ taken rs', rs = taken ++ rs' ∧ result.2.requests = taken.map (·.header) ∧ result.2.errors = [] ∧
    Aligned result.1 rs' future ∧ (result.1.buffer ≠ [] → result.1.bufferFirstMonotonicNanos ≤ nanos)

theorem brings_nothing {future : Bytes} (h : Aligned state rs future)
    (hfirst : state.buffer ≠ [] → state.bufferFirstMonotonicNanos ≤ nanos) :
    Brings nanos rs future (state, ({} : HttpReassemblyOutcome Key)) :=
  ⟨[], rs, rfl, rfl, rfl, h, hfirst⟩

variable {maxHeaderBytes : Nat} {raw : RawHttpRequestEvent Key} {state : HttpStreamState}
  {rs : List (HttpRequest config)} {captured future : Bytes}

/-- A read that is not older than the buffer and does not look like a request goes behind it. -/
theorem join_behind {visible : Bytes} (hinside : state.buffer ≠ [] → startsWithHttpRequest visible = false)
    (hlater : state.buffer ≠ [] → state.bufferFirstMonotonicNanos ≤ nanos) :
    (state.join visible nanos).buffer = state.buffer ++ visible ∧
      (state.join visible nanos).bodyBytesRemaining = state.bodyBytesRemaining ∧
      (state.join visible nanos).bufferFirstMonotonicNanos ≤ nanos := by
  unfold HttpStreamState.join
  rcases hbuffer : state.buffer with _ | ⟨b, bs⟩
  · exact ⟨rfl, rfl, Nat.le_refl nanos⟩
  · have hne : state.buffer ≠ [] := by
      rw [hbuffer]
      exact cons_ne_nil b bs
    simp only [isEmpty_cons, hinside hne, Nat.not_lt.mpr (hlater hne), Bool.false_eq_true, if_false]
    exact ⟨trivial, trivial, hlater hne⟩

theorem accept_aligned {visible : Bytes} (hbody : state.bodyBytesRemaining = 0)
    (hwire : state.buffer ++ (visible ++ future) = wire rs)
    (hinside : state.buffer ≠ [] → startsWithHttpRequest visible = false)
    (hcomplete : startsWithHttpRequest (state.buffer ++ visible) = true ∨
      findHttpHeaderEnd (state.buffer ++ visible) = none)
    (hlater : state.buffer ≠ [] → state.bufferFirstMonotonicNanos ≤ raw.timestampUnixNanos)
    (hfits : (state.buffer ++ visible).length ≤ maxHeaderBytes) :
    Brings raw.timestampUnixNanos rs future (state.accept maxHeaderBytes config raw visible 0) := by
  obtain ⟨hjoined, hjoinedBody, hjoinedFirst⟩ := join_behind hinside hlater
  have hpreface : ¬ http2Preface.isPrefixOf visible = true := by
    rcases hbuffer : state.buffer with _ | ⟨b, bs⟩
    · rw [hbuffer, nil_append] at hwire
      rcases rs with _ | ⟨r, rs⟩
      · rw [(append_eq_nil_iff.mp hwire).1]
        exact Bool.false_ne_true
      · exact not_preface (hwire.trans (wire_cons r rs))
    · intro hpreface
      have hne : state.buffer ≠ [] := by
        rw [hbuffer]
        exact cons_ne_nil b bs
      obtain ⟨tail, rfl⟩ := List.isPrefixOf_iff_prefix.mp hpreface
      have hlooks := hinside hne
      cases hlooks
  rw [← append_assoc, ← hjoined] at hwire
  rw [← hjoined] at hcomplete hfits
  rw [hbody] at hjoinedBody
  simp only [HttpStreamState.accept, if_neg hpreface]
  by_cases hlooks : startsWithHttpRequest (state.join visible raw.timestampUnixNanos).buffer = true
  · simp only [hlooks, Bool.not_true, Bool.false_eq_true, if_false]
    obtain ⟨taken, rs', hrs, houtcome, haligned, hfirst⟩ := extract_aligned
      ((state.join visible raw.timestampUnixNanos).buffer.length + 1) (state.join visible raw.timestampUnixNanos)
      ({} : HttpReassemblyOutcome Key) rs (Nat.lt_succ_self _) hfits hjoinedBody hwire
    refine ⟨taken, rs', hrs, ?_, ?_, haligned, fun hne => ?_⟩
    · rw [houtcome]
      rfl
    · rw [houtcome]
    · rw [hfirst hne]
      exact hjoinedFirst
  · have hnone := hcomplete.resolve_left hlooks
    simp only [hlooks, Bool.not_false, if_true, Nat.not_lt.mpr hfits, Nat.lt_irrefl, or_self, if_false]
    refine brings_nothing ⟨⟨[], future, hjoinedBody.symm, rfl, hwire⟩, fun hpos => ?_, hnone⟩ fun _ => hjoinedFirst
    exact absurd hjoinedBody (Nat.ne_of_gt hpos)

theorem kept_of_fresh (h : state.fresh observed = true ∨ state = {}) :
    (if state.fresh observed then state else {}) = state := by
  rcases h with hfresh | rfl
  · rw [if_pos hfresh]
  · exact ite_self _

variable (h : Aligned state rs (captured ++ future)) (hwhole : raw.requestTotalLen ≤ captured.length)
  (hclean : CleanRead state captured)
  (hlater : state.buffer ≠ [] → state.bufferFirstMonotonicNanos ≤ raw.timestampUnixNanos)
  (hfits : (state.buffer ++ state.visible captured).length ≤ maxHeaderBytes)
include h hwhole hclean hlater hfits

theorem receive_aligned :
    Brings raw.timestampUnixNanos rs future (state.receive maxHeaderBytes config raw captured) := by
  obtain ⟨body, rest, hlength, hfuture, hwire⟩ := h.position
  have huncaptured : max raw.requestTotalLen captured.length - captured.length = 0 := by omega
  simp only [HttpStreamState.receive, huncaptured, Nat.sub_zero, Nat.zero_sub, Nat.lt_irrefl, if_false]
  by_cases hbody : state.bodyBytesRemaining > 0
  · have hbuffer := h.skipping hbody
    rw [if_pos hbody]
    by_cases hmore : state.bodyBytesRemaining - captured.length > 0
    · -- the whole read is body
      rw [if_pos hmore]
      obtain ⟨htake, hdrop⟩ := append_split hfuture.symm (by omega)
      refine brings_nothing ⟨⟨body.drop captured.length, rest, ?_, hdrop.symm, hwire⟩, fun _ => hbuffer, h.incomplete⟩
        fun hne => absurd hbuffer hne
      rw [length_drop, hlength]
    · rw [if_neg hmore]
      have hzero : state.bodyBytesRemaining - captured.length = 0 := by omega
      have hrest : rest = captured.drop state.bodyBytesRemaining ++ future := by
        rw [← hlength]
        exact (append_split hfuture (by omega)).2.symm
      rw [hzero]
      by_cases hempty : (captured.drop state.bodyBytesRemaining).isEmpty = true
      · rw [if_pos hempty]
        rw [List.isEmpty_iff.mp hempty, nil_append] at hrest
        refine brings_nothing ⟨⟨[], future, rfl, rfl, ?_⟩, fun hpos => absurd hpos (Nat.lt_irrefl 0), h.incomplete⟩
          fun hne => absurd hbuffer hne
        rw [← hrest]
        exact hwire
      · rw [if_neg hempty]
        refine accept_aligned rfl ?_ hclean.inside hclean.complete hlater hfits
        rw [← hrest]
        exact hwire
  · have hzero : state.bodyBytesRemaining = 0 := by omega
    have hvisible : state.visible captured = captured := by
      rw [HttpStreamState.visible, hzero]
      rfl
    rw [if_neg hbody]
    obtain rfl : body = [] := length_eq_zero_iff.mp (hlength.trans hzero)
    obtain ⟨hinside, hcomplete⟩ := hclean
    rw [hvisible] at hinside hcomplete hfits
    refine accept_aligned hzero ?_ hinside hcomplete hlater hfits
    rw [hfuture, nil_append]
    exact hwire

theorem push_aligned (hfresh : state.fresh observed = true ∨ state = {}) :
    Brings raw.timestampUnixNanos rs future (state.push maxHeaderBytes config raw captured observed) := by
  have hseen : Aligned { state with lastSeenUnixNanos := observed } rs (captured ++ future) := { h with }
  have hreceived : Brings raw.timestampUnixNanos rs future
      ({ state with lastSeenUnixNanos := observed }.receive maxHeaderBytes config raw captured) :=
    receive_aligned hseen hwhole { hclean with } hlater hfits
  rw [HttpStreamState.push, kept_of_fresh hfresh]
  obtain ⟨taken, rs', hrs, hrequests, herrors, haligned, hfirst⟩ := hreceived
  dsimp only
  split
  next hsettled => exact ⟨taken, rs', hrs, hrequests, herrors, haligned.of_settled hsettled, fun hne => absurd rfl hne⟩
  · exact ⟨taken, rs', hrs, hrequests, herrors, haligned, hfirst⟩

end ENavigator.Http1
