import ENavigator.Stream.Binary

/-!
# HTTP/1 message boundaries

A message ends where its head and the body that the head announces end. The head is found by
searching the blank line; the body is absent, of a fixed length, chunked, or delimited by the end of
the connection, in which case the head is framed alone.

The chunked walk is cut into `chunkStep`, one turn of the source's loop, and `chunkedScan`, which
repeats it. A turn that finds a chunk moves the cursor forward inside the bytes, so `bytes.length + 1`
turns always suffice (`chunkedScan_fuel`). `settles_http1Boundary` is the result reassembly uses.
-/

namespace ENavigator.Stream

open List

variable {max n : Nat} {bytes : Bytes}

def maxFrameLengthDigits : Nat := 10
def http1MaxChunkSizeDigits : Nat := 16

/-- Message body length semantics derived from a header block. -/
inductive Http1BodyLength where
  | none
  | fixed (length : Nat)
  | chunked
  | closeDelimited

inductive ChunkedScan where
  | complete (length : Nat)
  | needMoreBytes
  | invalid
  deriving DecidableEq, Repr

/-! ## Numbers and tokens -/

def parseAsciiUsize (bytes : Bytes) : Option Nat :=
  if bytes.isEmpty || decide (bytes.length > maxFrameLengthDigits) then none
  else bytes.foldlM (fun value byte =>
    if isAsciiDigit byte then
      (checkedMul value 10).bind fun v => checkedAdd v (byte - 48).toNat
    else none) 0

def hexDigit (byte : UInt8) : Option Nat :=
  if isAsciiDigit byte then some (byte - 48).toNat
  else if 97 ≤ byte && byte ≤ 102 then some ((byte - 97).toNat + 10)
  else if 65 ≤ byte && byte ≤ 70 then some ((byte - 65).toNat + 10)
  else none

def parseAsciiHex (bytes : Bytes) : Option Nat :=
  bytes.foldlM (fun value byte =>
    (hexDigit byte).bind fun digit => (checkedMul value 16).bind fun v => checkedAdd v digit) 0

def headerNameEq (name expected : Bytes) : Bool := eqIgnoreAsciiCase (trimAscii name) expected

def containsTokenIgnoreAsciiCase (value token : Bytes) : Bool :=
  if token.isEmpty || decide (value.length < token.length) then false
  else value.tails.any fun tail => eqIgnoreAsciiCase (tail.take token.length) token

/-! ## The head -/

def http1HeadIsValid (headerBlock : Bytes) (isRequest : Bool) : Bool :=
  let firstLine := headerBlock.takeWhile (· != cr)
  if isRequest then
    match firstLine.splitOn 32 with
    | method :: _ :: version :: _ =>
      !method.isEmpty && method.all isAsciiUppercase && (text "HTTP/1.").isPrefixOf version
    | _ => false
  else (text "HTTP/1.").isPrefixOf firstLine

def http1StatusCode (statusLine : Bytes) : Option Nat :=
  match statusLine.splitOn 32 with
  | _ :: code :: _ => (parseAsciiUsize code).filter (· < 2 ^ 16)
  | _ => none

/-- One header line's contribution to the content length and the chunked flag. -/
def http1HeaderLine (acc : Option Nat × Bool) (line : Bytes) : Option Nat × Bool :=
  let line := stripSuffix [cr] line
  match findByte line 58 with
  | none => acc
  | some colon =>
    let name := line.take colon
    let value := line.drop (colon + 1)
    if headerNameEq name (text "content-length") then
      match parseAsciiUsize (trimAscii value) with
      | some parsed => (some parsed, acc.2)
      | none => acc
    else if headerNameEq name (text "transfer-encoding")
        && containsTokenIgnoreAsciiCase value (text "chunked") then (acc.1, true)
    else acc

def http1BodyLength (headerBlock : Bytes) (isRequest : Bool) : Http1BodyLength :=
  let lines := headerBlock.splitOn lf
  let (contentLength, chunked) := lines.tail.foldl http1HeaderLine (none, false)
  if chunked then .chunked
  else match contentLength with
  | some length => .fixed length
  | none =>
    if isRequest then .none
    else match http1StatusCode (stripSuffix [cr] (lines.headD [])) with
    | some code =>
      if (100 ≤ code && code < 200) || code == 204 || code == 304 then .none else .closeDelimited
    | none => .closeDelimited

/-! ## The chunked body -/

/-- What one turn of the chunked walk decides. -/
inductive ChunkStep where
  | stop (scan : ChunkedScan)
  | next (cursor : Nat)
  deriving DecidableEq, Repr

/-- Where a chunk of `chunkSize` bytes that starts after its size line leads. -/
def chunkData (bytes : Bytes) (maxBodyBytes chunkSize afterSize : Nat) : ChunkStep :=
  if chunkSize = 0 then
    match checkedAdd afterSize 2 with
    | none => .stop .invalid
    | some stop =>
      if stop > maxBodyBytes then .stop .invalid
      else if stop > bytes.length then .stop .needMoreBytes
      else .stop (.complete stop)
  else
    match (checkedAdd afterSize chunkSize).bind fun v => checkedAdd v 2 with
    | none => .stop .invalid
    | some next =>
      if next > maxBodyBytes then .stop .invalid
      else if next > bytes.length then .stop .needMoreBytes
      else .next next

def chunkStep (bytes : Bytes) (maxBodyBytes cursor : Nat) : ChunkStep :=
  if cursor > maxBodyBytes then .stop .invalid
  else match findCrlf (bytes.drop cursor) with
  | none => .stop (if cursor ≥ maxBodyBytes then .invalid else .needMoreBytes)
  | some lineLen =>
    let sizeToken := ((bytes.drop cursor).take lineLen).takeWhile (· != 59)
    if sizeToken.isEmpty || decide (sizeToken.length > http1MaxChunkSizeDigits) then .stop .invalid
    else match parseAsciiHex sizeToken with
    | none => .stop .invalid
    | some chunkSize =>
      match (checkedAdd cursor lineLen).bind fun v => checkedAdd v 2 with
      | none => .stop .invalid
      | some afterSize => chunkData bytes maxBodyBytes chunkSize afterSize

def chunkedScan (bytes : Bytes) (maxBodyBytes : Nat) : Nat → Nat → ChunkedScan
  | 0, _ => .needMoreBytes
  | fuel + 1, cursor =>
    match chunkStep bytes maxBodyBytes cursor with
    | .stop scan => scan
    | .next cursor => chunkedScan bytes maxBodyBytes fuel cursor

def chunkedBodyLength (bytes : Bytes) (maxBodyBytes : Nat) : ChunkedScan :=
  chunkedScan bytes maxBodyBytes (bytes.length + 1) 0

/-! ## The message -/

def http1Boundary (bytes : Bytes) (maxFrameBytes : Nat) (isRequest : Bool) : FrameBoundary :=
  match findDoubleCrlf (bytes.take maxFrameBytes) with
  | none => if bytes.length ≥ maxFrameBytes then .invalid else .needMoreBytes
  | some headerEnd =>
    let headLen := headerEnd + 4
    let headerBlock := bytes.take headerEnd
    if !http1HeadIsValid headerBlock isRequest then .invalid
    else match http1BodyLength headerBlock isRequest with
    | .none => checkedFrame headLen maxFrameBytes
    | .fixed bodyLen => checkedFrame? (checkedAdd headLen bodyLen) maxFrameBytes
    | .chunked =>
      match chunkedBodyLength (bytes.drop headLen) (maxFrameBytes - headLen) with
      | .complete bodyLen => checkedFrame (headLen + bodyLen) maxFrameBytes
      | .needMoreBytes => if bytes.length ≥ maxFrameBytes then .invalid else .needMoreBytes
      | .invalid => .invalid
    | .closeDelimited => checkedFrame headLen maxFrameBytes

/-! ## What is settled on a part of a message -/

theorem chunkData_far {size after : Nat} (h : max < after) : chunkData bytes max size after = .stop .invalid := by
  unfold chunkData
  split
  · split
    · rfl
    next stop hstop => exact if_pos (by rw [← (checkedAdd_eq_some_iff.mp hstop).2]; omega)
  · split
    · rfl
    next next hnext =>
      simp only [Option.bind_eq_some_iff, checkedAdd_eq_some_iff] at hnext
      exact if_pos (by omega)

theorem chunkStep_far {cursor : Nat} (h : ∀ l, findCrlf (bytes.drop cursor) = some l → max < cursor + l + 2) :
    chunkStep bytes max cursor = .stop .invalid ∨ cursor < max ∧ chunkStep bytes max cursor = .stop .needMoreBytes := by
  unfold chunkStep
  split
  · exact .inl rfl
  cases hl : findCrlf (bytes.drop cursor) with
  | none =>
    by_cases hfull : cursor ≥ max
    · exact .inl (by rw [if_pos hfull])
    · exact .inr ⟨Nat.not_le.mp hfull, by rw [if_neg hfull]⟩
  | some lineLen =>
    refine .inl ?_
    dsimp only
    split
    · rfl
    · split
      · rfl
      · split
        · rfl
        next after hafter =>
          simp only [Option.bind_eq_some_iff, checkedAdd_eq_some_iff] at hafter
          exact chunkData_far (by have := h lineLen hl; omega)

theorem chunkStep_full {cursor : Nat} (h : max ≤ cursor) : chunkStep bytes max cursor = .stop .invalid :=
  (chunkStep_far fun _ _ => by omega).resolve_right fun hlt => absurd hlt.1 (Nat.not_lt.mpr h)

/-- Where a chunk leads is not known yet on a part of a body shorter than the limit, or is known for the whole. -/
theorem chunkData_part (x : Bytes) (size after : Nat) :
    (chunkData bytes max size after = .stop .needMoreBytes ∧ bytes.length < max) ∨
      chunkData bytes max size after = chunkData (bytes ++ x) max size after := by
  have hlen : ∀ {n : Nat}, ¬ n > bytes.length → ¬ n > (bytes ++ x).length := by
    intro n hn
    rw [length_append]
    omega
  unfold chunkData
  split
  all_goals
    split
    · exact .inr rfl
    · split
      · exact .inr rfl
      · split
        · exact .inl ⟨rfl, by omega⟩
        next hfits => exact .inr (by rw [if_neg (hlen hfits)])

/-- A turn on a part of a body waits, and at the limit in vain, or it is the turn on the whole. -/
theorem chunkStep_part (x : Bytes) {cursor : Nat} (hcursor : cursor ≤ bytes.length) :
    (chunkStep bytes max cursor = .stop .needMoreBytes ∧ (max ≤ bytes.length →
        chunkStep (bytes ++ x) max cursor = .stop .needMoreBytes ∨
          chunkStep (bytes ++ x) max cursor = .stop .invalid)) ∨
      chunkStep bytes max cursor = chunkStep (bytes ++ x) max cursor := by
  have hdrop : (bytes ++ x).drop cursor = bytes.drop cursor ++ x := drop_append_of_le_length hcursor
  cases hl : findCrlf (bytes.drop cursor) with
  | none =>
    -- A line end that the whole has lies behind the part.
    have hlate : ∀ l, findCrlf ((bytes ++ x).drop cursor) = some l → bytes.length < cursor + l + 2 := by
      intro l h
      rw [hdrop] at h
      have := findCrlf_late hl h
      rw [length_drop] at this
      omega
    by_cases hmax : max ≤ cursor
    · exact .inr (by rw [chunkStep_full hmax, chunkStep_full hmax])
    · refine .inl ⟨?_, fun hfull => ?_⟩
      · unfold chunkStep
        rw [if_neg (by omega), hl]
        exact congrArg ChunkStep.stop (if_neg hmax)
      · rcases chunkStep_far fun l h => Nat.lt_of_le_of_lt hfull (hlate l h) with hinvalid | ⟨-, hwait⟩
        · exact .inr hinvalid
        · exact .inl hwait
  | some lineLen =>
    have hfit := findCrlf_add_two_le hl
    have htake : (bytes.drop cursor ++ x).take lineLen = (bytes.drop cursor).take lineLen :=
      take_append_of_le_length (by omega)
    unfold chunkStep
    simp only [hdrop, hl, findCrlf_append x hl, htake]
    split
    · exact .inr rfl
    · split
      · exact .inr rfl
      · split
        · exact .inr rfl
        · split
          · exact .inr rfl
          · exact (chunkData_part x _ _).imp_left fun ⟨hwait, hlt⟩ => ⟨hwait, fun hfull => by omega⟩

/-- A turn that moves on moves forward and stays inside the bytes. -/
theorem chunkStep_next {cursor : Nat} (h : chunkStep bytes max cursor = .next n) : cursor < n ∧ n ≤ bytes.length := by
  unfold chunkStep at h
  split at h
  · cases h
  · split at h
    · cases h
    · simp only at h
      split at h
      · cases h
      · split at h
        · cases h
        · split at h
          · cases h
          next afterSize ha =>
            unfold chunkData at h
            split at h
            · split at h
              · cases h
              · split at h
                · cases h
                · split at h <;> cases h
            · split at h
              · cases h
              next next hn =>
                split at h
                · cases h
                · split at h
                  · cases h
                  next hb =>
                    cases h
                    simp only [checkedAdd, Option.bind_eq_some_iff, Option.ite_none_right_eq_some,
                      Option.some.injEq] at ha hn
                    omega

/-- The walk over a part of a body waits, and at the limit in vain, or it ends where the walk over the whole does. -/
theorem chunkedScan_part (x : Bytes) : ∀ {fuel fuel' cursor : Nat}, fuel ≤ fuel' → bytes.length - cursor < fuel →
    cursor ≤ bytes.length →
    (chunkedScan bytes max fuel cursor = .needMoreBytes ∧ (max ≤ bytes.length →
        ∀ n, chunkedScan (bytes ++ x) max fuel' cursor ≠ .complete n)) ∨
      chunkedScan bytes max fuel cursor = chunkedScan (bytes ++ x) max fuel' cursor := by
  intro fuel
  induction fuel with
  | zero => exact fun _ hfuel _ => absurd hfuel (Nat.not_lt_zero _)
  | succ fuel ih =>
    intro fuel' cursor hle hfuel hcursor
    obtain ⟨fuel', rfl⟩ : ∃ k, fuel' = k + 1 := ⟨fuel' - 1, by omega⟩
    rw [chunkedScan, chunkedScan]
    rcases chunkStep_part x hcursor with ⟨hwait, hfull⟩ | hsame
    · rw [hwait]
      refine .inl ⟨rfl, fun hmax n => ?_⟩
      rcases hfull hmax with h | h <;> rw [h] <;> exact nofun
    · rw [← hsame]
      cases hstep : chunkStep bytes max cursor with
      | stop scan => exact .inr rfl
      | next cursor' =>
        obtain ⟨hlt, hin⟩ := chunkStep_next hstep
        exact ih (by omega) (by omega) hin

/-- **The walk never runs out of turns.** -/
theorem chunkedScan_fuel : ∀ {fuel cursor : Nat} (extra : Nat), bytes.length - cursor < fuel →
      chunkedScan bytes max (fuel + extra) cursor = chunkedScan bytes max fuel cursor := by
  intro fuel
  induction fuel with
  | zero => intro cursor extra h; omega
  | succ fuel ih =>
    intro cursor extra h
    rw [show fuel + 1 + extra = fuel + extra + 1 by omega, chunkedScan, chunkedScan]
    cases hs : chunkStep bytes max cursor with
    | stop scan => rfl
    | next cursor' =>
      obtain ⟨hlt, hle⟩ := chunkStep_next hs
      exact ih extra (by omega)

theorem settles_http1Boundary (max : Nat) (isRequest : Bool) (p x : Bytes) :
    Settles max (http1Boundary p max isRequest) (http1Boundary (p ++ x) max isRequest) := by
  have hlong : p.length ≥ max → (p ++ x).length ≥ max := by
    rw [length_append]
    omega
  unfold http1Boundary
  cases hf : findDoubleCrlf (p.take max) with
  | none =>
    refine settles_of_full fun hfull => ?_
    rw [take_append_of_le_length hfull, hf]
    exact if_pos (hlong hfull)
  | some stop =>
    have hfit : stop + 4 ≤ (p.take max).length := findWindow_add_length_le hf
    rw [length_take] at hfit
    have hf' : findDoubleCrlf ((p ++ x).take max) = some stop := findWindow_take_append x hf
    have htake : (p ++ x).take stop = p.take stop := take_append_of_le_length (by omega)
    have hdrop : (p ++ x).drop (stop + 4) = p.drop (stop + 4) ++ x := drop_append_of_le_length (by omega)
    simp only [hf', htake, hdrop]
    split
    · exact .invalid
    cases http1BodyLength (p.take stop) isRequest with
    | none | closeDelimited => exact settles_checkedFrame max (Nat.succ_pos _)
    | fixed bodyLen =>
      exact settles_checkedAdd max (by omega)
    | chunked =>
      have hbody : max ≤ p.length → max - (stop + 4) ≤ (p.drop (stop + 4)).length := by
        rw [length_drop]
        omega
      have hfuel : (p.drop (stop + 4)).length + 1 ≤ (p.drop (stop + 4) ++ x).length + 1 := by
        rw [length_append]
        omega
      dsimp only [chunkedBodyLength]
      rcases chunkedScan_part x hfuel (Nat.lt_succ_self _) (Nat.zero_le _) with ⟨hwait, hvain⟩ | hsame
      · rw [hwait]
        refine settles_of_full fun hfull => ?_
        have hvain := hvain (hbody hfull)
        split
        next n hn => exact absurd hn (hvain n)
        · exact if_pos (hlong hfull)
        · rfl
      · rw [hsame]
        generalize chunkedScan (p.drop (stop + 4) ++ x) _ _ 0 = scan
        cases scan with
        | complete bodyLen => exact settles_checkedFrame max (by omega)
        | needMoreBytes => exact settles_of_full fun hfull => if_pos (hlong hfull)
        | invalid => exact .invalid

end ENavigator.Stream
