import ENavigator.Propagation.SkMsg

/-!
# What injection changes on the wire

* `advances_writeHeaders` : the stores fill the room with the headers, for every length of the `tracestate`, and
  wherever they stop nothing outside the room has changed;
* `skMsg_outcomes` : the message is passed as it was, or with the headers at the planned place, or it is dropped because
  the room could not be taken out again;
* `skMsg_injects` : when the helpers do not fail the headers are written.
-/

namespace ENavigator.Propagation

open Filling List

/-- The header lines of a planned injection. -/
def insertedHeaders (p : RawHttpPropagationContext) : Bytes :=
  formatTraceparentHeader p.context ++
    if p.tracestateLen = 0 then [] else tracestateHeaderPrefix ++ (p.tracestate.take p.tracestateLen ++ crlf)

theorem length_tracestateHeaderPrefix : tracestateHeaderPrefix.length = 12 := by decide

theorem length_insertedHeaders (p : RawHttpPropagationContext) (h : p.tracestateLen ≤ maxTracestateBytes) :
    (insertedHeaders p).length = insertedLen p := by
  rw [insertedHeaders, insertedLen, length_append]
  split
  · rfl
  · rw [length_append, length_append, length_take, p.tracestate_length, Nat.min_eq_left h, Nat.add_assoc]

/-! ## The stores -/

def Window.Holds (w : Window) (n : Nat) : Prop := w.data + n ≤ w.dataEnd ∧ w.data + n < usizeBound

section stores

variable {w : Window} {before content after data : Bytes} {wide : Prop} {i j address : Nat}

theorem advances_store (hdata : data <+: content.drop i) (haddress : address = w.data + i) (hj : j = i + data.length) :
    Advances before content after wide (store w before.length address data) i j := by
  refine advances_write hdata ?_ hj
  omega

variable {header tracestate : Bytes} {len : Nat}

/-- The headers with a `tracestate` of `len` octets. -/
abbrev withTracestate (header tracestate : Bytes) (len : Nat) : Bytes :=
  header ++ (tracestateHeaderPrefix ++ (tracestate.take len ++ crlf))

section

variable (hcontent : content = withTracestate header tracestate len) (hlen : len ≤ tracestate.length)
include hcontent hlen

theorem drop_withTracestate {n : Nat} (h : n ≤ len) :
    content.drop (header.length + 12 + n) = (tracestate.drop n).take (len - n) ++ crlf := by
  rw [hcontent, Nat.add_assoc, drop_length_add_append, ← length_tracestateHeaderPrefix, drop_length_add_append,
    drop_append_of_le_length (by rw [length_take]; omega), drop_take]

theorem length_withTracestate : content.length = header.length + 12 + len + 2 := by
  rw [hcontent, length_append, length_append, length_append, length_take, length_tracestateHeaderPrefix, length_crlf]
  omega

theorem advances_piece {n m : Nat} (h : n + m ≤ len) :
    Advances before content after (w.Holds content.length)
      (if w.data + header.length + 12 + n + m > w.dataEnd then throw ()
        else store w before.length (w.data + header.length + 12 + n) ((tracestate.drop n).take m))
      (header.length + 12 + n) (header.length + 12 + n + m) := by
  have hpiece : (tracestate.drop n).take m <+: content.drop (header.length + 12 + n) := by
    rw [drop_withTracestate hcontent hlen (by omega)]
    exact (take_prefix_take_left (by omega)).trans (prefix_append _ _)
  rw [length_withTracestate hcontent hlen]
  refine Advances.guard (fun hstop hwide => ?_) (advances_store hpiece ?_ ?_)
  · have := hwide.1
    omega
  · omega
  · rw [length_take, length_drop]
    omega

/-- After `k` chunks the whole chunks among the first `k` are there. -/
theorem advances_chunk (k : Nat) :
    Advances before content after (w.Holds content.length)
      (copyTracestateChunk w before.length (w.data + header.length + 12) tracestate len (16 * k))
      (header.length + 12 + 16 * min k (len / 16)) (header.length + 12 + 16 * min (k + 1) (len / 16)) := by
  rw [copyTracestateChunk]
  by_cases hchunk : len ≥ 16 * k + 16
  · rw [if_pos hchunk]
    exact (advances_piece hcontent hlen hchunk).of_eq _ _ (by omega) (by omega)
  · rw [if_neg hchunk, Nat.min_eq_right (by omega), Nat.min_eq_right (by omega)]
    exact advances_pure

theorem advances_tailByte (k : Nat) :
    Advances before content after (w.Holds content.length)
      (copyTracestateTailByte w before.length (w.data + header.length + 12) tracestate (len - len % 16) (len % 16) k)
      (header.length + 12 + (len - len % 16 + min k (len % 16)))
      (header.length + 12 + (len - len % 16 + min (k + 1) (len % 16))) := by
  rw [copyTracestateTailByte]
  by_cases hbyte : len % 16 > k
  · rw [if_pos hbyte]
    exact (advances_piece hcontent hlen (by omega)).of_eq _ _ (by omega) (by omega)
  · rw [if_neg hbyte, Nat.min_eq_right (by omega), Nat.min_eq_right (by omega)]
    exact advances_pure

theorem advances_writeTracestate (hmax : len ≤ 512) :
    Advances before content after (w.Holds content.length)
      (writeTracestate w before.length (w.data + header.length) tracestate len) header.length content.length := by
  have hlength := length_withTracestate hcontent hlen
  have hwide : w.Holds content.length → w.data + (header.length + 12 + len + 2) ≤ w.dataEnd := by
    rw [hlength]
    exact And.left
  have hand : len &&& 15 = len % 16 := Nat.and_two_pow_sub_one_eq_mod len 4
  have hname : tracestateHeaderPrefix <+: content.drop header.length := by
    rw [hcontent, drop_left]
    exact prefix_append _ _
  have hend : crlf <+: content.drop (header.length + 12 + len) := by
    rw [drop_withTracestate hcontent hlen (Nat.le_refl len), Nat.sub_self, take_zero]
    exact prefix_rfl
  rw [writeTracestate, length_tracestateHeaderPrefix, length_crlf, hand]
  refine Advances.guard (fun hstop hw => ?_) ?_
  · have := hwide hw
    omega
  refine Advances.bind (advances_store hname rfl rfl) ?_
  rw [length_tracestateHeaderPrefix]
  refine Advances.bind ((advances_range (fun k => header.length + 12 + 16 * min k (len / 16))
    (advances_chunk hcontent hlen) 32 0).of_eq _ (header.length + 12 + (len - len % 16)) (by omega) (by omega)) ?_
  refine Advances.bind ((advances_range (fun k => header.length + 12 + (len - len % 16 + min k (len % 16)))
    (advances_tailByte hcontent hlen) 15 0).of_eq _ (header.length + 12 + len) (by omega) (by omega)) ?_
  refine Advances.guard (fun hstop hw => ?_) (advances_store hend ?_ ?_)
  · have := hwide hw
    omega
  · omega
  · rw [hlength, length_crlf]

end

/-- **The stores fill the room with the headers.** -/
theorem advances_writeHeaders (p : RawHttpPropagationContext) (hmax : p.tracestateLen ≤ maxTracestateBytes) :
    Advances before (insertedHeaders p) after (w.Holds (insertedHeaders p).length)
      (writeHeaders w before.length (insertedHeaders p).length (formatTraceparentHeader p.context) p.tracestate
        p.tracestateLen) 0 (insertedHeaders p).length := by
  have hlength := length_insertedHeaders p hmax
  rw [insertedLen] at hlength
  rw [writeHeaders, checkedAdd, checkedAdd]
  by_cases hfits : w.data + (insertedHeaders p).length < usizeBound
  · rw [if_pos hfits, if_pos (by omega)]
    refine Advances.guard (fun hstop hw => ?_) ?_
    · have := hw.1
      omega
    refine Advances.bind (advances_store (prefix_append _ _) rfl rfl) ?_
    rw [Nat.zero_add]
    by_cases hempty : p.tracestateLen = 0
    · rw [hempty, if_pos rfl] at hlength
      rw [if_neg (by omega), hlength]
      exact advances_pure
    · have hcontent : insertedHeaders p = withTracestate (formatTraceparentHeader p.context) p.tracestate
          p.tracestateLen := by
        rw [insertedHeaders, if_neg hempty]
      rw [if_pos (by omega)]
      exact advances_writeTracestate hcontent (by rw [p.tracestate_length]; exact hmax) hmax
  · intro buffer hbuffer
    rw [if_neg hfits]
    exact ⟨fun hw => hfits hw.2, 0, hbuffer⟩

end stores

/-! ## Room, stores and rollback -/

section outcome

variable {message : Bytes} {event : RawHttpRequestEvent} {helpers : Helpers}

def injected (message : Bytes) (p : RawHttpPropagationContext) : Bytes :=
  message.take p.insertAt ++ (insertedHeaders p ++ message.drop p.insertAt)

/-- The room in the message holds the first `j` octets of the headers. -/
abbrev InRoom (message : Bytes) (p : RawHttpPropagationContext) (j : Nat) (written : Bytes) : Prop :=
  Filled (message.take p.insertAt) (insertedHeaders p) (message.drop p.insertAt) j written

theorem inRoom_openAt (message : Bytes) {p : RawHttpPropagationContext} (hmax : p.tracestateLen ≤ maxTracestateBytes)
    (room : Nat → UInt8) : InRoom message p 0 (openAt message p.insertAt ((List.range (insertedLen p)).map room)) :=
  filled_zero (by rw [length_map, length_range, length_insertedHeaders p hmax])

variable {pushed : Bytes} {p : RawHttpPropagationContext} (hinsert : p.insertAt ≤ message.length)
  (hmax : p.tracestateLen ≤ maxTracestateBytes)
include hinsert hmax

/-- However far the room is filled, it is taken out or the message is dropped. -/
theorem rollback_cases {written : Bytes} {j : Nat} (hfilled : InRoom message p j written)
    (event : RawHttpRequestEvent) (popData : Bool) :
    rollbackHttpPropagation written event popData p.insertAt (insertedLen p) = bypassMessage message event ∨
    ((rollbackHttpPropagation written event popData p.insertAt (insertedLen p)).action = .drop ∧ popData = false) := by
  cases popData with
  | false => exact .inr ⟨rfl, rfl⟩
  | true =>
    have hcut := hfilled.cut
    rw [length_take, Nat.min_eq_left hinsert, take_append_drop, length_insertedHeaders _ hmax] at hcut
    left
    rw [rollbackHttpPropagation, if_pos rfl, hcut]
    rfl

theorem writeHeaders_cases (w : Window) (hpushed : InRoom message p 0 pushed) :
    match writeHeaders w p.insertAt (insertedLen p) (formatTraceparentHeader p.context) p.tracestate p.tracestateLen
      pushed with
    | (.ok _, written) => written = injected message p
    | (.error _, written) => ¬ w.Holds (insertedLen p) ∧ ∃ j, InRoom message p j written := by
  have hadvances := advances_writeHeaders (w := w) p hmax pushed hpushed
  rw [length_take, Nat.min_eq_left hinsert, length_insertedHeaders _ hmax] at hadvances
  split
  next hrun =>
    rw [hrun] at hadvances
    rw [← length_insertedHeaders _ hmax] at hadvances
    exact hadvances.whole
  next hrun =>
    rw [hrun] at hadvances
    exact hadvances

variable (hp : event.propagation = p)
include hp

theorem fillRoom_cases (hpushed : InRoom message p 0 pushed) :
    fillRoom event helpers pushed = bypassMessage message event ∨
    fillRoom event helpers pushed = ⟨.pass, injected message p, some event⟩ ∨
    ((fillRoom event helpers pushed).action = .drop ∧ helpers.popData = false) := by
  have hback := rollback_cases hinsert hmax hpushed event helpers.popData
  unfold fillRoom
  dsimp only
  rw [hp]
  rcases checkedAdd p.insertAt (insertedLen p) with _ | inserted
  · exact hback.imp_right .inr
  rcases helpers.pullData with _ | w
  · exact hback.imp_right .inr
  have hstores := writeHeaders_cases hinsert hmax w hpushed
  dsimp only
  split
  next written hrun =>
    rw [hrun] at hstores
    obtain rfl : written = injected message p := hstores
    exact .inr (.inl rfl)
  next written hrun =>
    rw [hrun] at hstores
    obtain ⟨-, j, hfilled⟩ := hstores
    exact (rollback_cases hinsert hmax hfilled event helpers.popData).imp_right .inr

theorem injectHeaders_cases :
    injectHeaders message event helpers = bypassMessage message event ∨
    injectHeaders message event helpers = ⟨.pass, injected message p, some event⟩ ∨
    ((injectHeaders message event helpers).action = .drop ∧ helpers.pushData.isSome ∧ helpers.popData = false) := by
  unfold injectHeaders
  rw [hp]
  rcases helpers.pushData with _ | room
  · exact .inl rfl
  · exact (fillRoom_cases hinsert hmax hp (inRoom_openAt message hmax room)).imp_right
      fun h => h.imp_right fun h => ⟨h.1, rfl, h.2⟩

/-- If the helpers do not fail and the window holds the room, the headers are injected. -/
theorem injectHeaders_ok {room : Nat → UInt8} {w : Window} (hpush : helpers.pushData = some room)
    (hpull : helpers.pullData = some w) (hw : w.Holds (insertedLen p)) :
    injectHeaders message event helpers = ⟨.pass, injected message p, some event⟩ := by
  have hstores := writeHeaders_cases hinsert hmax w (inRoom_openAt message hmax room)
  have hend : checkedAdd p.insertAt (insertedLen p) = some (p.insertAt + insertedLen p) := by
    have hlt := p.insertAt_lt
    have hlength : insertedLen p ≤ 70 + (12 + 512 + 2) := by
      rw [insertedLen, length_formatTraceparentHeader, length_tracestateHeaderPrefix, length_crlf]
      simp only [maxTracestateBytes] at hmax
      split <;> omega
    rw [checkedAdd, if_pos (by simp only [usizeBound]; omega)]
  simp only [injectHeaders, hpush, fillRoom, hp, hend, hpull]
  split
  next written hrun =>
    rw [hrun] at hstores
    obtain rfl : written = injected message p := hstores
    rfl
  next written hrun =>
    rw [hrun] at hstores
    exact absurd hw hstores.1

end outcome

/-! ## The message that was planned for -/

section planned

variable {ctx : SkMsgContext} {captured : Bytes} {len : Nat}

/-- What the window shows of the message agrees with the capture in the octet `i`. -/
def Shows (ctx : SkMsgContext) (captured : Bytes) (i : Nat) : Prop :=
  ctx.window.data + i + 1 ≤ ctx.window.dataEnd ∧ ctx.message[i]? = captured[i]?

theorem matchesFrom_iff {fuel index : Nat} (hlen : len ≤ index + fuel) :
    matchesFrom ctx captured len fuel index = true ↔ ∀ i, index ≤ i → i < len → Shows ctx captured i := by
  induction fuel generalizing index with
  | zero => exact ⟨fun _ i hi hlt => absurd hlt (by omega), fun _ => rfl⟩
  | succ fuel ih =>
    rw [matchesFrom]
    by_cases hend : index ≥ len
    · rw [if_pos hend]
      exact ⟨fun _ i hi hlt => absurd hlt (by omega), fun _ => rfl⟩
    rw [if_neg hend]
    by_cases hshown : ctx.window.data + index + 1 > ctx.window.dataEnd
    · rw [if_pos hshown]
      exact ⟨nofun, fun h => absurd (h index (Nat.le_refl index) (by omega)).1 (by omega)⟩
    rw [if_neg hshown]
    by_cases hsame : ctx.message[index]? = captured[index]?
    · rw [if_neg (not_not_intro hsame), ih (by omega)]
      constructor
      · intro h i hi hlt
        rcases Nat.eq_or_lt_of_le hi with rfl | hi
        · exact ⟨by omega, hsame⟩
        · exact h i hi hlt
      · exact fun h i hi hlt => h i (by omega) hlt
    · rw [if_pos hsame]
      exact ⟨nofun, fun h => absurd (h index (Nat.le_refl index) (by omega)).2 hsame⟩

theorem take_isPrefix_iff {message : Bytes} (hlen : len ≤ captured.length) :
    captured.take len <+: message ↔ ∀ i, i < len → message[i]? = captured[i]? := by
  have htake : (captured.take len).length = len := by rw [length_take, Nat.min_eq_left hlen]
  rw [prefix_iff_getElem?]
  constructor
  all_goals
    intro h i hi
    rw [h i (by omega), getElem_take, List.getElem?_eq_getElem (by omega)]

/-- With a window on the first octets, the loop compares them with the capture. -/
theorem httpMessageMatchesCapture_iff {event : RawHttpRequestEvent} (hlen : len ≤ httpRequestBytes)
    (hwindow : ctx.window.data + len ≤ ctx.window.dataEnd) :
    httpMessageMatchesCapture ctx event len = true ↔ event.request.take len <+: ctx.message := by
  rw [httpMessageMatchesCapture, if_neg (by omega), matchesFrom_iff (by omega),
    take_isPrefix_iff (by rw [event.request_length]; exact hlen)]
  constructor
  · exact fun h i hi => (h i (Nat.zero_le i) hi).2
  · exact fun h i _ hi => ⟨by omega, h i hi⟩

/-- The message has the length that was planned for and begins with the capture, and the plan is not too old. -/
structure Planned (event : RawHttpRequestEvent) (now ttl : Nat) (message : Bytes) : Prop where
  fresh : contextIsFresh event.propagation.startedAtNanos now ttl = true
  size : message.length = event.requestTotalLen
  captured : event.request.take event.requestLen <+: message

/-- What the program checks before it makes room. -/
structure Checked (event : RawHttpRequestEvent) (now ttl : Nat) (ctx : SkMsgContext) : Prop
    extends Planned event now ttl ctx.message where
  nonempty : ctx.message ≠ []
  requestLen_le : event.requestLen ≤ httpRequestBytes
  window : ctx.window.data + event.requestLen ≤ ctx.window.dataEnd
  bound : ctx.window.data + event.requestLen < usizeBound
  insertAt_le : event.propagation.insertAt ≤ ctx.message.length
  tracestateLen_le : event.propagation.tracestateLen ≤ maxTracestateBytes

theorem checkedAdd_all_gt {a b limit : Nat} :
    (checkedAdd a b).all (· > limit) = true ↔ ¬ (a + b ≤ limit ∧ a + b < usizeBound) := by
  rw [checkedAdd]
  split
  next h => simp only [Option.all_some, decide_eq_true_eq]; omega
  next h => simp only [Option.all_none, true_iff]; omega

variable {event : RawHttpRequestEvent} {now ttl : Nat} {helpers : Helpers}

theorem skMsg_of_checked (h : Checked event now ttl ctx) :
    trySkMsgHttpContextPropagation true (some event) now ttl ctx helpers
      = injectHeaders ctx.message event helpers := by
  have hempty : ctx.message.length ≠ 0 := fun h0 => h.nonempty (length_eq_zero_iff.mp h0)
  have hsize := h.size
  have hlen := h.requestLen_le
  have hmatches := (httpMessageMatchesCapture_iff h.requestLen_le h.window).mpr h.captured
  have hall : (checkedAdd ctx.window.data event.requestLen).all (· > ctx.window.dataEnd) = false := by
    rw [← Bool.not_eq_true, checkedAdd_all_gt, not_not]
    exact ⟨h.window, h.bound⟩
  have hinsert := h.insertAt_le
  have hmax := h.tracestateLen_le
  simp only [trySkMsgHttpContextPropagation, h.fresh, hmatches, hall]
  rw [if_neg (by decide), if_neg (by decide), if_neg (by simp only [Bool.false_eq_true, or_false]; omega),
    if_neg (by decide), if_neg (by omega), if_neg (by omega)]

/-- A message that fails one of the checks is left alone. -/
theorem skMsg_of_not_checked (h : ¬ Checked event now ttl ctx) :
    trySkMsgHttpContextPropagation true (some event) now ttl ctx helpers = bypassMessage ctx.message event := by
  simp only [trySkMsgHttpContextPropagation, Bool.not_true, Bool.false_eq_true, if_false]
  split
  next => rfl
  next hfresh =>
  split
  next => rfl
  next hsize =>
  split
  next => rfl
  next hmatches =>
  split
  next => rfl
  next hinsert =>
  split
  next => rfl
  next hmax =>
  rw [checkedAdd_all_gt] at hsize
  obtain ⟨hempty, htotal, hlen, hwindow, hbound⟩ : ctx.message.length ≠ 0 ∧
      ctx.message.length = event.requestTotalLen ∧ event.requestLen ≤ httpRequestBytes ∧
      ctx.window.data + event.requestLen ≤ ctx.window.dataEnd ∧ ctx.window.data + event.requestLen < usizeBound := by
    omega
  rw [Bool.not_eq_true', Bool.not_eq_false] at hfresh hmatches
  refine absurd ⟨⟨hfresh, htotal, ?_⟩, ?_, hlen, hwindow, hbound, by omega, by omega⟩ h
  · exact (httpMessageMatchesCapture_iff hlen hwindow).mp hmatches
  · exact fun hnil => hempty (by rw [hnil]; rfl)

/-- For every plan, every message and whatever the helpers give: the message is passed as it was; or it is the one that
was planned for and is passed with the headers at the planned place and nothing else changed; or it is dropped, after
room was made that could not be taken out. -/
theorem skMsg_outcomes (enabled : Bool) (pending : Option RawHttpRequestEvent) (now ttl : Nat) (ctx : SkMsgContext)
    (helpers : Helpers) :
    let result := trySkMsgHttpContextPropagation enabled pending now ttl ctx helpers
    (result.action = .pass ∧ result.message = ctx.message) ∨
    (∃ event, pending = some event ∧ enabled = true ∧ Planned event now ttl ctx.message ∧ result.action = .pass ∧
      result.message = injected ctx.message event.propagation) ∨
    (result.action = .drop ∧ helpers.pushData.isSome ∧ helpers.popData = false) := by
  intro result
  cases enabled with
  | false => exact .inl ⟨rfl, rfl⟩
  | true =>
    rcases pending with _ | event
    · exact .inl ⟨rfl, rfl⟩
    by_cases hchecked : Checked event now ttl ctx
    · have hresult : result = injectHeaders ctx.message event helpers := skMsg_of_checked hchecked
      rcases injectHeaders_cases hchecked.insertAt_le hchecked.tracestateLen_le rfl with h | h | h
      · exact .inl (by rw [hresult, h]; exact ⟨rfl, rfl⟩)
      · exact .inr (.inl ⟨event, rfl, rfl, hchecked.toPlanned, by rw [hresult, h], by rw [hresult, h]⟩)
      · exact .inr (.inr (by rw [hresult]; exact h))
    · have hresult : result = bypassMessage ctx.message event := skMsg_of_not_checked hchecked
      exact .inl (by rw [hresult]; exact ⟨rfl, rfl⟩)

/-- A message that passes the checks gets its headers if the helpers do their work. -/
theorem skMsg_injects {room : Nat → UInt8} {w : Window} (hchecked : Checked event now ttl ctx)
    (hpush : helpers.pushData = some room) (hpull : helpers.pullData = some w)
    (hw : w.Holds (insertedLen event.propagation)) :
    trySkMsgHttpContextPropagation true (some event) now ttl ctx helpers
      = ⟨.pass, injected ctx.message event.propagation, some event⟩ :=
  (skMsg_of_checked hchecked).trans (injectHeaders_ok hchecked.insertAt_le hchecked.tracestateLen_le rfl hpush hpull hw)

end planned

end ENavigator.Propagation
