import ENavigator.Http1.Alignment
import ENavigator.Lib.Runs

/-!
# Requests do not depend on how they are read

The runs of a reassembler over the reads of one connection. If every read is clean (`Reassembled.Clean`), what is
handed out are the heads of the requests, in their order and without an error, wherever the connection was cut
(`requests_of_clean`). A cut in the middle of a head such that the second part looks like a request loses the first
part (`splitMethod_misread`).
-/

namespace ENavigator.Http1

open ENavigator.Correlation List

variable {maxHeaderBytes : Nat}

variable {config : ProtocolExtractionConfig} {Key : Type}

/-- A captured read and when it is handed to the reassembler. -/
structure Read (Key : Type) where
  raw : RawHttpRequestEvent Key
  captured : Bytes
  observed : Nat

def bytesOf (reads : List (Read Key)) : Bytes := (reads.map Read.captured).flatten

theorem bytesOf_append (reads reads' : List (Read Key)) :
    bytesOf (reads ++ reads') = bytesOf reads ++ bytesOf reads' := by
  rw [bytesOf, map_append, flatten_append]
  rfl

/-! ## Positions -/

/-- The head of a request and the read that completes it are together within the limit. -/
def HeadsFit (maxHeaderBytes : Nat) (rs : List (HttpRequest config)) (reads : List (Read Key)) : Prop :=
  ∀ before read after, reads = before ++ read :: after → ∀ rsBefore r rsAfter, rs = rsBefore ++ r :: rsAfter →
    (bytesOf before).length < (wire rsBefore).length + r.header.length →
    (wire rsBefore).length + r.header.length ≤ (bytesOf before).length + read.captured.length →
    r.header.length + read.captured.length ≤ maxHeaderBytes

variable {rs : List (HttpRequest config)} {reads : List (Read Key)} {read : Read Key}

theorem headsFit_of_small (h : ∀ r ∈ rs, ∀ read ∈ reads, r.header.length + read.captured.length ≤ maxHeaderBytes) :
    HeadsFit maxHeaderBytes rs reads := by
  rintro before read after rfl rsBefore r rsAfter rfl - -
  exact h r (mem_append_right _ mem_cons_self) read (mem_append_right _ mem_cons_self)

/-- Every position behind the first byte is reached by one read. -/
theorem exists_read_at {n : Nat} (hpos : 0 < n) (hle : n ≤ (bytesOf reads).length) :
    ∃ before read after, reads = before ++ read :: after ∧ (bytesOf before).length < n ∧
      n ≤ (bytesOf before).length + read.captured.length := by
  induction reads generalizing n with
  | nil =>
    have hzero : n ≤ 0 := hle
    omega
  | cons read reads ih =>
    have hbytes : bytesOf (read :: reads) = read.captured ++ bytesOf reads := rfl
    rw [hbytes, length_append] at hle
    rcases Nat.lt_or_ge read.captured.length n with hlater | hhere
    · obtain ⟨before, read', after, rfl, hlt, hreach⟩ := ih (Nat.sub_pos_of_lt hlater) (by omega)
      refine ⟨read :: before, read', after, rfl, ?_, ?_⟩
      · show (read.captured ++ bytesOf before).length < n
        rw [length_append]
        omega
      · show n ≤ (read.captured ++ bytesOf before).length + _
        rw [length_append]
        omega
    · exact ⟨[], read, reads, rfl, hpos, by rw [show bytesOf ([] : List (Read Key)) = [] from rfl]; simpa using hhere⟩

theorem header_le_of_headsFit {rsBefore rsAfter : List (HttpRequest config)} {r : HttpRequest config}
    (hfit : HeadsFit maxHeaderBytes rs reads) (hwire : bytesOf reads = wire rs) (hrs : rs = rsBefore ++ r :: rsAfter) :
    r.header.length ≤ maxHeaderBytes := by
  have hlength : (wire rsBefore).length + r.header.length ≤ (bytesOf reads).length := by
    rw [hwire, hrs, wire_append, wire_cons, length_append, length_append]
    omega
  have hpos : 0 < (wire rsBefore).length + r.header.length := by
    have := length_pos_iff.mpr r.header_ne_nil
    omega
  obtain ⟨before, read, after, hreads, hlt, hreach⟩ := exists_read_at hpos hlength
  have := hfit before read after hreads rsBefore r rsAfter hrs hlt hreach
  omega

/-- What the buffer holds with the next read is within the limit: a part of a head, or a head and the read that
completes it. -/
theorem fits_of_headsFit {rsDone rsLeft : List (HttpRequest config)} {done coming : List (Read Key)}
    {state : HttpStreamState} (hfit : HeadsFit maxHeaderBytes rs reads)
    (hwire : bytesOf reads = wire rs) (hrs : rs = rsDone ++ rsLeft) (hreads : reads = done ++ read :: coming)
    (haligned : Aligned state rsLeft (read.captured ++ bytesOf coming)) :
    (state.buffer ++ state.visible read.captured).length ≤ maxHeaderBytes := by
  obtain ⟨body, rest, hbody, hfuture, hleft⟩ := haligned.position
  -- where the read starts, by the requests that are done
  have hplace : (bytesOf done).length + state.bodyBytesRemaining = (wire rsDone).length + state.buffer.length := by
    have htotal := congrArg List.length hwire
    rw [hreads, hrs, bytesOf_append, wire_append, ← hleft, length_append, length_append,
      length_append] at htotal
    have hnext : (bytesOf (read :: coming)).length = body.length + rest.length := by
      rw [← length_append, ← hfuture]
      rfl
    omega
  rcases rsLeft with _ | ⟨r, rsLeft⟩
  · have hnil := append_eq_nil_iff.mp hleft
    rw [hnil.2, append_nil] at hfuture
    have hlength := congrArg List.length hfuture
    rw [length_append] at hlength
    rw [hnil.1, nil_append, HttpStreamState.visible, length_drop]
    omega
  have hpartial : state.buffer.length < r.header.length :=
    length_lt_of_incomplete (hleft.trans (wire_cons r rsLeft)) haligned.incomplete
  have hwhole := header_le_of_headsFit hfit hwire hrs
  rw [length_append, HttpStreamState.visible, length_drop]
  by_cases hreach : (wire rsDone).length + r.header.length ≤ (bytesOf done).length + read.captured.length
  · have hskipping : 0 < state.bodyBytesRemaining → state.buffer.length = 0 :=
      fun hpos => congrArg List.length (haligned.skipping hpos)
    have := hfit done read coming hreads rsDone r rsLeft hrs (by omega) hreach
    omega
  · omega

/-! ## One read -/

variable [LinearOrder Key]

/-- The reassembler with all that it has returned. -/
structure Reassembled (Key : Type) [LinearOrder Key] where
  reassembler : HttpRequestReassembler Key
  requests : List Bytes := []
  errors : List (RawHttpDecodeError Key) := []

namespace Reassembled

def start (maxStreams maxHeaderBytes : Nat) : Reassembled Key where
  reassembler := .new maxStreams maxHeaderBytes

def step (config : ProtocolExtractionConfig) (run : Reassembled Key) (read : Read Key) : Reassembled Key :=
  let (reassembler, outcome) := run.reassembler.push read.raw read.captured read.observed config
  ⟨reassembler, run.requests ++ outcome.requests, run.errors ++ outcome.errors⟩

def known (run : Reassembled Key) (read : Read Key) : HttpStreamState := run.reassembler.current read.raw.key

def NotStale (run : Reassembled Key) (read : Read Key) : Prop :=
  ∀ e ∈ run.reassembler.streams.entries, e.2.fresh read.observed = true

def Clean (run : Reassembled Key) (read : Read Key) : Prop := CleanRead (run.known read) read.captured

instance (run : Reassembled Key) (read : Read Key) : Decidable (run.NotStale read) :=
  inferInstanceAs (Decidable (∀ e ∈ run.reassembler.streams.entries, e.2.fresh read.observed = true))

instance (run : Reassembled Key) (read : Read Key) : Decidable (run.Clean read) :=
  inferInstanceAs (Decidable (CleanRead (run.known read) read.captured))

theorem step_alone {run : Reassembled Key} {read : Read Key} (h : run.reassembler.Alone read.raw.key)
    {pushed : HttpStreamState × HttpReassemblyOutcome Key}
    (hpushed : (run.known read).push run.reassembler.maxHeaderBytes config read.raw read.captured read.observed =
      pushed) :
    (run.step config read).reassembler.Alone read.raw.key ∧
      (run.step config read).reassembler.maxHeaderBytes = run.reassembler.maxHeaderBytes ∧
      (run.step config read).known read = pushed.1 ∧
      (run.step config read).requests = run.requests ++ pushed.2.requests ∧
      (run.step config read).errors = run.errors ++ pushed.2.errors := by
  obtain ⟨halone, hlimit, hpush⟩ := HttpRequestReassembler.push_alone h read.captured read.observed config
  obtain rfl := hpush.trans hpushed
  exact ⟨halone, hlimit, rfl, rfl, rfl⟩

end Reassembled

/-- The run follows one connection: `rs` are the requests whose heads it has not handed out. -/
structure Follows (key : Key) (maxHeaderBytes : Nat) (run : Reassembled Key) (rs : List (HttpRequest config))
    (future : Bytes) : Prop where
  alone : run.reassembler.Alone key
  limit : run.reassembler.maxHeaderBytes = maxHeaderBytes
  aligned : Aligned (run.reassembler.current key) rs future

/-- The reads of one connection, each captured whole. -/
structure InOrder (key : Key) (reads : List (Read Key)) : Prop where
  same : ∀ read ∈ reads, read.raw.key = key
  whole : ∀ read ∈ reads, read.raw.requestTotalLen ≤ read.captured.length
  increasing : reads.Pairwise fun a b => a.raw.timestampUnixNanos < b.raw.timestampUnixNanos

theorem fresh_or_unknown {run : Reassembled Key} (h : run.NotStale read) :
    (run.known read).fresh read.observed = true ∨ run.known read = {} := by
  rw [Reassembled.known, HttpRequestReassembler.current, SortedMap.lookup]
  rcases hfound : run.reassembler.streams.entries.find? (fun e => e.1 == read.raw.key) with _ | e
  · rw [hfound]
    exact .inr rfl
  · rw [hfound]
    exact .inl (h e (mem_of_find?_eq_some hfound))

theorem Follows.step {run : Reassembled Key} {future : Bytes}
    (h : Follows read.raw.key maxHeaderBytes run rs (read.captured ++ future))
    (hwhole : read.raw.requestTotalLen ≤ read.captured.length) (hstale : run.NotStale read) (hclean : run.Clean read)
    (hlater : (run.known read).buffer ≠ [] → (run.known read).bufferFirstMonotonicNanos ≤ read.raw.timestampUnixNanos)
    (hfits : ((run.known read).buffer ++ (run.known read).visible read.captured).length ≤ maxHeaderBytes) :
    ∃ taken rs', rs = taken ++ rs' ∧ (run.step config read).requests = run.requests ++ taken.map (·.header) ∧
      (run.step config read).errors = run.errors ∧
      Follows read.raw.key maxHeaderBytes (run.step config read) rs' future ∧
      (((run.step config read).known read).buffer ≠ [] →
        ((run.step config read).known read).bufferFirstMonotonicNanos ≤ read.raw.timestampUnixNanos) := by
  obtain ⟨halone, hlimit, hknown, hgiven, hfailed⟩ := Reassembled.step_alone h.alone (by rw [h.limit])
  obtain ⟨taken, rs', hrs, hrequests, herrors, haligned, hfirst⟩ : Brings read.raw.timestampUnixNanos rs future
      ((run.known read).push maxHeaderBytes config read.raw read.captured read.observed) :=
    push_aligned h.aligned hwhole hclean hlater hfits (fresh_or_unknown hstale)
  rw [← hknown] at haligned hfirst
  refine ⟨taken, rs', hrs, ?_, ?_, ⟨halone, hlimit.trans h.limit, haligned⟩, hfirst⟩
  · rw [hgiven, hrequests]
  · rw [hfailed, herrors, append_nil]

theorem Aligned.eq_nil {state : HttpStreamState} (h : Aligned state rs []) : rs = [] := by
  obtain ⟨body, rest, -, hfuture, hwire⟩ := h.position
  obtain ⟨-, rfl⟩ := append_eq_nil_iff.mp hfuture.symm
  rcases rs with _ | ⟨r, rs⟩
  · rfl
  · rw [wire_cons] at hwire
    have hlt := length_lt_of_incomplete hwire h.incomplete
    have hlength := congrArg List.length hwire
    rw [length_append, length_append, length_nil] at hlength
    omega

/-! ## Runs -/

/-- The induction is on the reads to come; `done` have been pushed and `rsDone` handed out. -/
theorem Follows.run {key : Key} (hfit : HeadsFit maxHeaderBytes rs reads) (hwire : bytesOf reads = wire rs) :
    ∀ (coming done : List (Read Key)) (rsDone rsLeft : List (HttpRequest config)) (run : Reassembled Key),
      reads = done ++ coming → rs = rsDone ++ rsLeft → InOrder key coming →
      Follows key maxHeaderBytes run rsLeft (bytesOf coming) →
      ((run.reassembler.current key).buffer ≠ [] →
        ∀ read ∈ coming, (run.reassembler.current key).bufferFirstMonotonicNanos ≤ read.raw.timestampUnixNanos) →
      Along (Reassembled.step config) Reassembled.NotStale run coming →
      Along (Reassembled.step config) Reassembled.Clean run coming →
      (coming.foldl (Reassembled.step config) run).requests = run.requests ++ rsLeft.map (·.header) ∧
        (coming.foldl (Reassembled.step config) run).errors = run.errors := by
  intro coming
  induction coming with
  | nil =>
    intro done rsDone rsLeft run _ _ _ hfollows _ _ _
    rw [hfollows.aligned.eq_nil, map_nil, append_nil]
    exact ⟨rfl, rfl⟩
  | cons read coming ih =>
    intro done rsDone rsLeft run hreads hrs horder hfollows hlater hstale hclean
    obtain rfl := horder.same read mem_cons_self
    obtain ⟨hbefore, hincreasing⟩ := pairwise_cons.mp horder.increasing
    obtain ⟨taken, rs', rfl, hrequests, herrors, hnext, hfirst⟩ :=
      hfollows.step (horder.whole read mem_cons_self) hstale.1 hclean.1
        (fun hne => hlater hne read mem_cons_self)
        (fits_of_headsFit hfit hwire hrs hreads hfollows.aligned)
    obtain ⟨hallRequests, hallErrors⟩ := ih (done ++ [read]) (rsDone ++ taken) rs' (run.step config read)
      (by rw [hreads, append_assoc]; rfl) (by rw [hrs, append_assoc])
      ⟨fun r hr => horder.same r (mem_cons_of_mem read hr),
        fun r hr => horder.whole r (mem_cons_of_mem read hr), hincreasing⟩ hnext
      (fun hne r hr => (hfirst hne).trans (Nat.le_of_lt (hbefore r hr))) hstale.2 hclean.2
    refine ⟨?_, hallErrors.trans herrors⟩
    rw [foldl_cons, hallRequests, hrequests, map_append, append_assoc]

theorem requests_of_clean {key : Key} {maxStreams maxHeaderBytes : Nat} {rs : List (HttpRequest config)}
    {reads : List (Read Key)} (hwire : bytesOf reads = wire rs) (horder : InOrder key reads)
    (hfit : HeadsFit maxHeaderBytes rs reads)
    (hstale : Along (Reassembled.step config) Reassembled.NotStale (.start maxStreams maxHeaderBytes) reads)
    (hclean : Along (Reassembled.step config) Reassembled.Clean (.start maxStreams maxHeaderBytes) reads) :
    (reads.foldl (Reassembled.step config) (.start maxStreams maxHeaderBytes)).requests = rs.map (·.header) ∧
      (reads.foldl (Reassembled.step config) (.start maxStreams maxHeaderBytes)).errors = [] := by
  have hlimit : HeadsFit (max maxHeaderBytes 1) rs reads :=
    fun before read after hreads rsBefore r rsAfter hrs hlt hreach =>
      (hfit before read after hreads rsBefore r rsAfter hrs hlt hreach).trans (Nat.le_max_left _ _)
  have hfollows : Follows key (max maxHeaderBytes 1) (.start maxStreams maxHeaderBytes) rs (bytesOf reads) :=
    ⟨HttpRequestReassembler.alone_new _ _ key, rfl, hwire ▸ aligned_start rs⟩
  exact Follows.run hlimit hwire reads [] [] rs _ rfl rfl horder hfollows (fun hne => absurd rfl hne) hstale hclean

/-! ### Two connections -/

def readAt (time : Nat) (captured : String) : Read Nat :=
  ⟨⟨7, time, (text captured).length⟩, text captured, time⟩

def postItem : HttpRequest {} where
  header := text "POST /items HTTP/1.1\r\nContent-Length: 9\r\n\r\n"
  body := text "GET / now"
  ends := by decide +kernel
  accepted := by decide +kernel
  announced := by decide +kernel

def getRoot : HttpRequest {} where
  header := text "GET / HTTP/1.1\r\n\r\n"
  body := []
  ends := by decide +kernel
  accepted := by decide +kernel
  announced := by decide +kernel

def cleanReads : List (Read Nat) :=
  [readAt 1 "POST /items HTTP/1.1\r\nCont", readAt 2 "ent-Length: 9\r\n\r\nGET", readAt 3 " / nowGET / HTTP/1.1\r\n\r",
    readAt 4 "\n"]

theorem requests_of_clean_pipelined :
    (cleanReads.foldl (Reassembled.step {}) (.start 8 8192)).requests = [postItem.header, getRoot.header] ∧
      (cleanReads.foldl (Reassembled.step {}) (.start 8 8192)).errors = [] := by
  have hwire : bytesOf cleanReads = wire [postItem, getRoot] := by decide +kernel
  have horder : InOrder 7 cleanReads := ⟨by decide, by decide, by decide⟩
  refine requests_of_clean hwire horder (headsFit_of_small ?_) ?_ ?_
  · decide +kernel
  · decide +kernel
  · decide +kernel

def splitMethod : List (Read Nat) := [readAt 1 "GE", readAt 2 "T / HTTP/1.1\r\n\r\n"]

/-- The second read looks like a request, so it takes the place of the first. -/
theorem splitMethod_misread :
    bytesOf splitMethod = wire [getRoot] ∧ InOrder 7 splitMethod ∧ HeadsFit 8192 [getRoot] splitMethod ∧
      Along (Reassembled.step {}) Reassembled.NotStale (.start 8 8192) splitMethod ∧
      (splitMethod.foldl (Reassembled.step {}) (.start 8 8192)).requests = [text "T / HTTP/1.1\r\n\r\n"] ∧
      (splitMethod.foldl (Reassembled.step {}) (.start 8 8192)).requests ≠ [getRoot.header] := by
  refine ⟨by decide +kernel, ⟨by decide, by decide, by decide⟩, headsFit_of_small ?_, ?_, ?_, ?_⟩
  · decide +kernel
  · decide +kernel
  · decide +kernel
  · decide +kernel

end ENavigator.Http1
