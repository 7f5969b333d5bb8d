import ENavigator.Http1.Segmentation
import ENavigator.Stream.Http1

/-!
# Bodies are not requests

Requests whose heads are not cut: a read holds some whole requests and the head of another with a part of its body,
and the reads behind it hold the rest of that body, cut anywhere (`Laid`). If every request is `Announced`, a head
that is read and the body its content length says, and every read at a request looks like one and is within the
limit, then nothing but the heads is handed out (`mem_heads_of_laid`). A body in chunks has no content length, and
a part of it that looks like a request is handed out as one (`chunkedBody_handed_out`).
-/

namespace ENavigator.Http1

open ENavigator.Correlation List

variable {config : ProtocolExtractionConfig} {Key : Type}

def wireOf (rs : List WireRequest) : Bytes := (rs.map fun r => r.header ++ r.body).flatten

/-- How requests lie in reads when no head is cut. -/
inductive Laid : List WireRequest → List Bytes → Prop
  | nil : Laid [] []
  | reads (whole : List WireRequest) (last : WireRequest) (first : Bytes) (more : List Bytes) {rs : List WireRequest}
      {chunks : List Bytes} (body : last.body = first ++ more.flatten) (rest : Laid rs chunks) :
      Laid (whole ++ last :: rs) ((wireOf whole ++ (last.header ++ first)) :: (more ++ chunks))

/-- The head is read, and its content length is that of the body. -/
structure WireRequest.Announced (config : ProtocolExtractionConfig) (r : WireRequest) : Prop where
  accepted : (parseHttpRequest r.header config).isOk = true
  length : r.body.length = (httpContentLength r.header).getD 0

instance (r : WireRequest) : Decidable (r.Announced config) :=
  decidable_of_iff ((parseHttpRequest r.header config).isOk = true ∧
    r.body.length = (httpContentLength r.header).getD 0) ⟨fun h => ⟨h.1, h.2⟩, fun h => ⟨h.1, h.2⟩⟩

theorem exists_httpRequests {rs : List WireRequest} (h : ∀ r ∈ rs, r.Announced config) :
    ∃ requests : List (HttpRequest config), requests.map (·.toWireRequest) = rs := by
  induction rs with
  | nil => exact ⟨[], rfl⟩
  | cons r rs ih =>
    obtain ⟨requests, rfl⟩ := ih fun r' hr' => h r' (mem_cons_of_mem r hr')
    obtain ⟨haccepted, hlength⟩ := h r mem_cons_self
    exact ⟨⟨r, haccepted, hlength⟩ :: requests, rfl⟩

theorem wireOf_map (requests : List (HttpRequest config)) :
    wireOf (requests.map (·.toWireRequest)) = wire requests := by
  rw [wireOf, map_map]
  rfl

/-! ## One read -/

/-- No part of a head is waiting, and `n` bytes of a body are still to come. -/
structure HttpStreamState.Awaits (state : HttpStreamState) (n : Nat) : Prop where
  buffer : state.buffer = []
  body : state.bodyBytesRemaining = n

/-- The requests that a read gives out, and how much of a body is to come behind it. -/
def Leaves (result : HttpStreamState × HttpReassemblyOutcome Key) (given : List Bytes) (n : Nat) : Prop :=
  result.2.requests = given ∧ result.1.Awaits n

section read

variable {maxHeaderBytes : Nat} {raw : RawHttpRequestEvent Key} {last : HttpRequest config} {first rest : Bytes}

/-- The induction is on the whole requests in front; each takes a turn of the loop. -/
theorem extract_laid (hbody : last.body = first ++ rest) :
    ∀ (whole : List (HttpRequest config)) (fuel : Nat) (state : HttpStreamState) (outcome : HttpReassemblyOutcome Key),
      whole.length < fuel → state.buffer = wire whole ++ (last.header ++ first) →
      state.buffer.length ≤ maxHeaderBytes →
      (state.extract maxHeaderBytes config raw fuel 0 outcome).2 =
          { outcome with requests := outcome.requests ++ (whole ++ [last]).map (·.header) } ∧
        (state.extract maxHeaderBytes config raw fuel 0 outcome).1.Awaits rest.length := by
  have hlength : last.body.length = first.length + rest.length := by rw [hbody, length_append]
  intro whole
  induction whole with
  | nil =>
    intro fuel state outcome hfuel hbuffer hfits
    obtain ⟨fuel, rfl⟩ := Nat.exists_eq_succ_of_ne_zero (Nat.ne_of_gt hfuel)
    have hempty : first.drop last.body.length = [] := drop_eq_nil_of_le (by omega)
    have hmissing : last.body.length - first.length = rest.length := by omega
    rw [extract_head (r := last) hbuffer hfits]
    simp only [hempty, hmissing]
    split <;> exact ⟨rfl, rfl, rfl⟩
  | cons r whole ih =>
    intro fuel state outcome hfuel hbuffer hfits
    obtain ⟨fuel, rfl⟩ := Nat.exists_eq_succ_of_ne_zero (Nat.ne_of_gt (Nat.zero_lt_of_lt hfuel))
    have hhead : state.buffer = r.header ++ (r.body ++ (wire whole ++ (last.header ++ first))) := by
      rw [hbuffer, wire_cons, append_assoc, append_assoc]
    have hmissing : r.body.length - (r.body ++ (wire whole ++ (last.header ++ first))).length = 0 := by
      rw [length_append]
      omega
    have hmore : (wire whole ++ (last.header ++ first)).isEmpty = false := by
      rw [isEmpty_eq_false_iff]
      exact append_ne_nil_of_right_ne_nil _ (append_ne_nil_of_left_ne_nil last.header_ne_nil _)
    have hfitsNext : (wire whole ++ (last.header ++ first)).length ≤ maxHeaderBytes := by
      rw [hhead, length_append, length_append] at hfits
      omega
    rw [extract_head (r := r) hhead hfits]
    simp only [hmissing, drop_left, hmore, Nat.lt_irrefl, Bool.false_eq_true, if_false]
    obtain ⟨houtcome, hawaits⟩ := ih fuel
      { state with buffer := wire whole ++ (last.header ++ first), bodyBytesRemaining := 0 }
      { outcome with requests := outcome.requests ++ [r.header] } (Nat.lt_of_succ_lt_succ hfuel) rfl hfitsNext
    refine ⟨houtcome.trans ?_, hawaits⟩
    rw [append_assoc]
    rfl

theorem length_le_wire (requests : List (HttpRequest config)) : requests.length ≤ (wire requests).length := by
  induction requests with
  | nil => exact Nat.zero_le _
  | cons r requests ih =>
    have hpos := length_pos_iff.mpr r.header_ne_nil
    rw [wire_cons, length_append, length_append, length_cons]
    omega

variable {state : HttpStreamState} {captured : Bytes}

theorem receive_laid {whole : List (HttpRequest config)} (h : state.Awaits 0) (hbody : last.body = first ++ rest)
    (hcaptured : captured = wire whole ++ (last.header ++ first)) (htotal : raw.requestTotalLen ≤ captured.length)
    (hlooks : startsWithHttpRequest captured = true) (hfits : captured.length ≤ maxHeaderBytes) :
    Leaves (state.receive maxHeaderBytes config raw captured) ((whole ++ [last]).map (·.header)) rest.length := by
  have huncaptured : max raw.requestTotalLen captured.length - captured.length = 0 := by omega
  have hpreface : ¬ http2Preface.isPrefixOf captured = true := by
    rcases whole with _ | ⟨r, whole⟩
    · exact not_preface (r := last) ((append_nil captured).trans hcaptured)
    · rw [wire_cons, append_assoc] at hcaptured
      exact not_preface (r := r) ((append_nil captured).trans hcaptured)
  have hjoin : state.join captured raw.timestampUnixNanos =
      ⟨captured, raw.timestampUnixNanos, 0, state.lastSeenUnixNanos⟩ := by
    rw [HttpStreamState.join, h.buffer, ← h.body]
    rfl
  have hfuel : whole.length < captured.length + 1 := by
    have hle := length_le_wire whole
    rw [hcaptured, length_append]
    omega
  obtain ⟨houtcome, hawaits⟩ := extract_laid hbody whole (captured.length + 1)
    ⟨captured, raw.timestampUnixNanos, 0, state.lastSeenUnixNanos⟩ {} hfuel hcaptured hfits
  simp only [HttpStreamState.receive, h.body, huncaptured, Nat.lt_irrefl, if_false, HttpStreamState.accept,
    if_neg hpreface, hjoin, hlooks, Bool.not_true, Bool.false_eq_true]
  refine ⟨?_, hawaits⟩
  rw [houtcome]
  rfl

theorem receive_body {n : Nat} (h : state.Awaits n) (hcaptured : captured.length ≤ n)
    (htotal : raw.requestTotalLen ≤ captured.length) :
    Leaves (state.receive maxHeaderBytes config raw captured) [] (n - captured.length) := by
  have huncaptured : max raw.requestTotalLen captured.length - captured.length = 0 := by omega
  simp only [HttpStreamState.receive, h.body, huncaptured, Nat.sub_zero, Nat.zero_sub, Nat.lt_irrefl, if_false]
  by_cases hpos : n > 0
  · rw [if_pos hpos]
    have hvisible : (captured.drop n).isEmpty = true := by
      rw [drop_eq_nil_of_le hcaptured]
      rfl
    by_cases hmore : n - captured.length > 0
    · rw [if_pos hmore]
      exact ⟨rfl, h.buffer, rfl⟩
    · rw [if_neg hmore, if_pos hvisible]
      exact ⟨rfl, h.buffer, rfl⟩
  · -- the body is complete and the read is empty
    obtain rfl : n = 0 := by omega
    obtain rfl : captured = [] := length_eq_zero_iff.mp (Nat.le_zero.mp hcaptured)
    have hjoin : state.join [] raw.timestampUnixNanos =
        { state with buffer := [], bufferFirstMonotonicNanos := raw.timestampUnixNanos } := by
      rw [HttpStreamState.join, h.buffer]
      rfl
    rw [if_neg hpos, HttpStreamState.accept, hjoin]
    exact ⟨rfl, rfl, h.body⟩

theorem push_awaits {observed n : Nat} {given : List Bytes} (hfresh : state.fresh observed = true ∨ state = {})
    (h : Leaves ({ state with lastSeenUnixNanos := observed }.receive maxHeaderBytes config raw captured) given n) :
    Leaves (state.push maxHeaderBytes config raw captured observed) given n := by
  rw [HttpStreamState.push, kept_of_fresh hfresh]
  refine ⟨h.1, ?_⟩
  dsimp only
  split
  next hsettled =>
    rw [HttpStreamState.settled, Bool.and_eq_true, decide_eq_true_eq] at hsettled
    exact ⟨rfl, hsettled.2.symm.trans h.2.body⟩
  · exact h.2

end read

/-! ## Runs -/

variable [LinearOrder Key]

/-- A read between two requests looks like one and is within the limit. -/
def Reassembled.Starts (run : Reassembled Key) (read : Read Key) : Prop :=
  (run.known read).bodyBytesRemaining = 0 → read.captured ≠ [] →
    startsWithHttpRequest read.captured = true ∧ read.captured.length ≤ run.reassembler.maxHeaderBytes

instance (run : Reassembled Key) (read : Read Key) : Decidable (run.Starts read) :=
  inferInstanceAs (Decidable (_ → _ → _))

/-- The run follows one connection and `n` bytes of a body are still to come. -/
structure InBody (key : Key) (run : Reassembled Key) (n : Nat) : Prop where
  alone : run.reassembler.Alone key
  awaits : (run.reassembler.current key).Awaits n

theorem InBody.step {run : Reassembled Key} {read : Read Key} {n n' : Nat} {given : List Bytes}
    (h : InBody read.raw.key run n) (hstale : run.NotStale read)
    (hreceive : ∀ state : HttpStreamState, state.Awaits n →
      Leaves (state.receive run.reassembler.maxHeaderBytes config read.raw read.captured) given n') :
    InBody read.raw.key (run.step config read) n' ∧ (run.step config read).requests = run.requests ++ given := by
  obtain ⟨halone, -, hknown, hrequests, -⟩ := Reassembled.step_alone h.alone rfl
  obtain ⟨hgiven, hawaits⟩ := push_awaits (fresh_or_unknown hstale)
    (hreceive { run.known read with lastSeenUnixNanos := read.observed } { h.awaits with })
  refine ⟨⟨halone, ?_⟩, ?_⟩
  · rw [← hknown] at hawaits
    exact hawaits
  · rw [hrequests, hgiven]

theorem InBody.body {key : Key} (bodyReads : List (Read Key)) :
    ∀ {run : Reassembled Key} {n : Nat}, InBody key run n → (bytesOf bodyReads).length = n →
      (∀ read ∈ bodyReads, read.raw.key = key ∧ read.raw.requestTotalLen ≤ read.captured.length) →
      Along (Reassembled.step config) Reassembled.NotStale run bodyReads →
      InBody key (bodyReads.foldl (Reassembled.step config) run) 0 ∧
        (bodyReads.foldl (Reassembled.step config) run).requests = run.requests := by
  induction bodyReads with
  | nil =>
    rintro run n h rfl _ _
    exact ⟨h, rfl⟩
  | cons read bodyReads ih =>
    rintro run n h hlength hreads hstale
    obtain ⟨rfl, hwhole⟩ := hreads read mem_cons_self
    have hsum : read.captured.length + (bytesOf bodyReads).length = n := by
      rw [← hlength, ← length_append]
      rfl
    obtain ⟨hnext, hrequests⟩ := h.step hstale.1 fun state hstate => receive_body hstate (by omega) hwhole
    obtain ⟨hend, hall⟩ := ih hnext (by omega) (fun r hr => hreads r (mem_cons_of_mem read hr)) hstale.2
    refine ⟨hend, hall.trans ?_⟩
    rw [hrequests, append_nil]

/-- The induction is on how the requests lie in the reads. -/
theorem InBody.laid {key : Key} {rs : List WireRequest} {chunks : List Bytes} (hlaid : Laid rs chunks) :
    ∀ {reads : List (Read Key)} {run : Reassembled Key}, reads.map Read.captured = chunks → InBody key run 0 →
      (∀ r ∈ rs, r.Announced config) →
      (∀ read ∈ reads, read.raw.key = key ∧ read.raw.requestTotalLen ≤ read.captured.length) →
      Along (Reassembled.step config) Reassembled.NotStale run reads →
      Along (Reassembled.step config) Reassembled.Starts run reads →
      (reads.foldl (Reassembled.step config) run).requests = run.requests ++ rs.map (·.header) := by
  induction hlaid with
  | nil =>
    intro reads run hchunks _ _ _ _ _
    rw [map_eq_nil_iff.mp hchunks, map_nil, append_nil]
    rfl
  | @reads whole last first more rs chunks hbody _ ih =>
    intro reads run hchunks h hannounced hreads hstale hstarts
    obtain ⟨read, tail, rfl, hcaptured, htail⟩ := map_eq_cons_iff.mp hchunks
    obtain ⟨bodyReads, reads, rfl, hmore, hrest⟩ := map_eq_append_iff.mp htail
    obtain ⟨rfl, htotal⟩ := hreads read mem_cons_self
    obtain ⟨requests, hrequests⟩ := exists_httpRequests fun r hr => hannounced r (mem_append_left _ hr)
    obtain ⟨request, rfl⟩ : ∃ request : HttpRequest config, request.toWireRequest = last := by
      obtain ⟨haccepted, hlength⟩ := hannounced last (mem_append_right _ mem_cons_self)
      exact ⟨⟨last, haccepted, hlength⟩, rfl⟩
    -- the read at the requests
    rw [← hrequests, wireOf_map] at hcaptured
    have hne : read.captured ≠ [] := by
      rw [hcaptured]
      exact append_ne_nil_of_right_ne_nil _
        (append_ne_nil_of_left_ne_nil request.header_ne_nil _)
    obtain ⟨hlooks, hfits⟩ := hstarts.1 h.awaits.body hne
    obtain ⟨hfirst, hgiven⟩ := h.step hstale.1 fun state hstate =>
      receive_laid hstate hbody hcaptured htotal hlooks hfits
    -- the reads of the body behind them
    obtain ⟨hstaleBody, hstaleRest⟩ := along_append.mp hstale.2
    obtain ⟨-, hstartsRest⟩ := along_append.mp hstarts.2
    have hreadsTail := fun r hr => hreads r (mem_cons_of_mem read hr)
    obtain ⟨hend, hnone⟩ := hfirst.body bodyReads (by rw [bytesOf, hmore])
      (fun r hr => hreadsTail r (mem_append_left _ hr)) hstaleBody
    have hlater := ih hrest hend (fun r hr => hannounced r (mem_append_right _ (mem_cons_of_mem _ hr)))
      (fun r hr => hreadsTail r (mem_append_right _ hr)) hstaleRest hstartsRest
    rw [foldl_cons, foldl_append, hlater, hnone, hgiven, ← hrequests]
    simp only [map_append, map_cons, map_nil, map_map, append_assoc]
    rfl

theorem mem_heads_of_laid {key : Key} {maxStreams maxHeaderBytes : Nat} {rs : List WireRequest}
    {reads : List (Read Key)} (hlaid : Laid rs (reads.map Read.captured))
    (hreads : ∀ read ∈ reads, read.raw.key = key ∧ read.raw.requestTotalLen ≤ read.captured.length)
    (hannounced : ∀ r ∈ rs, r.Announced config)
    (hstale : Along (Reassembled.step config) Reassembled.NotStale (.start maxStreams maxHeaderBytes) reads)
    (hstarts : Along (Reassembled.step config) Reassembled.Starts (.start maxStreams maxHeaderBytes) reads) :
    ∀ request ∈ (reads.foldl (Reassembled.step config) (.start maxStreams maxHeaderBytes)).requests,
      ∃ r ∈ rs, request = r.header := by
  intro request hrequest
  have hstart : InBody key (.start maxStreams maxHeaderBytes) 0 :=
    ⟨HttpRequestReassembler.alone_new _ _ key, rfl, rfl⟩
  rw [hstart.laid hlaid rfl hannounced hreads hstale hstarts] at hrequest
  obtain ⟨r, hr, rfl⟩ := mem_map.mp hrequest
  exact ⟨r, hr, rfl⟩

/-! ### Two bodies that look like requests -/

/-- Two requests, the second with a body of which each part is a read of its own. -/
def announcedReads : List (Read Nat) :=
  [readAt 1 "GET / HTTP/1.1\r\n\r\nPOST /items HTTP/1.1\r\nContent-Length: 9\r\n\r\n", readAt 2 "GET / ",
    readAt 3 "now"]

theorem mem_heads_of_laid_announced :
    Laid [getRoot.toWireRequest, postItem.toWireRequest] (announcedReads.map Read.captured) ∧
      ∀ request ∈ (announcedReads.foldl (Reassembled.step {}) (.start 8 8192)).requests,
        ∃ r ∈ [getRoot.toWireRequest, postItem.toWireRequest], request = r.header := by
  have hlaid : Laid [getRoot.toWireRequest, postItem.toWireRequest] (announcedReads.map Read.captured) :=
    .reads [getRoot.toWireRequest] postItem.toWireRequest [] [text "GET / ", text "now"] (by decide +kernel) .nil
  have hreads : ∀ read ∈ announcedReads, read.raw.key = 7 ∧ read.raw.requestTotalLen ≤ read.captured.length := by decide
  refine ⟨hlaid, mem_heads_of_laid hlaid hreads ?_ ?_ ?_⟩
  · decide +kernel
  · decide +kernel
  · decide +kernel

/-- A body in one chunk of 22 bytes, which are the head of a request. -/
def chunkedUpload : WireRequest where
  header := text "POST /items HTTP/1.1\r\nTransfer-Encoding: chunked\r\n\r\n"
  body := text "16\r\nGET /evil HTTP/1.1\r\n\r\n\r\n0\r\n\r\n"
  ends := by decide +kernel

def chunkedReads : List (Read Nat) :=
  [readAt 1 "POST /items HTTP/1.1\r\nTransfer-Encoding: chunked\r\n\r\n16\r\n", readAt 2 "GET /evil HTTP/1.1\r\n\r\n",
    readAt 3 "\r\n0\r\n\r\n"]

/-- The stream decoder takes the request for one message. -/
theorem chunkedBody_handed_out :
    Stream.http1Boundary (chunkedUpload.header ++ chunkedUpload.body) 8192 true =
        .frame (chunkedUpload.header ++ chunkedUpload.body).length ∧
      (parseHttpRequest chunkedUpload.header {}).isOk = true ∧
      Laid [chunkedUpload] (chunkedReads.map Read.captured) ∧
      (∀ read ∈ chunkedReads, read.raw.key = 7 ∧ read.raw.requestTotalLen ≤ read.captured.length) ∧
      Along (Reassembled.step {}) Reassembled.NotStale (.start 8 8192) chunkedReads ∧
      text "GET /evil HTTP/1.1\r\n\r\n" ∈ (chunkedReads.foldl (Reassembled.step {}) (.start 8 8192)).requests ∧
      ¬ ∀ request ∈ (chunkedReads.foldl (Reassembled.step {}) (.start 8 8192)).requests,
        ∃ r ∈ [chunkedUpload], request = r.header := by
  have hchunks : chunkedReads.map Read.captured = [wireOf [] ++ (chunkedUpload.header ++ text "16\r\n"),
      text "GET /evil HTTP/1.1\r\n\r\n", text "\r\n0\r\n\r\n"] := by decide +kernel
  have hrequests : (chunkedReads.foldl (Reassembled.step {}) (.start 8 8192)).requests =
      [chunkedUpload.header, text "GET /evil HTTP/1.1\r\n\r\n"] := by decide +kernel
  have hother : text "GET /evil HTTP/1.1\r\n\r\n" ≠ chunkedUpload.header := by decide +kernel
  refine ⟨by decide +kernel, by decide +kernel, ?_, by decide, by decide +kernel, ?_, ?_⟩
  · rw [hchunks]
    exact .reads [] chunkedUpload (text "16\r\n") [text "GET /evil HTTP/1.1\r\n\r\n", text "\r\n0\r\n\r\n"]
      (by decide +kernel) .nil
  · rw [hrequests]
    exact mem_cons_of_mem _ mem_cons_self
  · rw [hrequests]
    intro h
    obtain ⟨r, hr, heq⟩ := h _ (mem_cons_of_mem _ mem_cons_self)
    rw [mem_singleton.mp hr] at heq
    exact hother heq

end ENavigator.Http1
