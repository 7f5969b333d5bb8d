import ENavigator.Stream.Http1

/-!
# Boundaries of line protocols: NATS and Redis

A NATS message is a command line, followed by a payload when the verb carries one. A Redis request is
an inline line or an array of bulk strings; a Redis response is any RESP value, walked to a bounded
depth.

A walker that completes has read only bytes that were there, so it completes at the same place on
every extension, and one that still waits at the limit waits in vain: `settles_natsLineBoundary`,
`settles_redisBoundary`, `settles_redisResponseBoundary`.
-/

namespace ENavigator.Stream

open List

variable (bytes : Bytes) (maxFrameBytes : Nat)

def maxRedisBoundaryItems : Nat := 1024
def maxRespValueDepth : Nat := 4

/-! ## NATS -/

/-- `str::parse::<usize>`: decimal digits, with an optional leading plus sign. -/
def parseUsize (token : Bytes) : Option Nat :=
  let digits := match token with
    | 43 :: rest => rest
    | _ => token
  if digits.isEmpty then none
  else digits.foldlM (fun value byte =>
    if isAsciiDigit byte then
      (checkedMul value 10).bind fun v => checkedAdd v (byte - 48).toNat
    else none) 0

def isVerb (verbs : List String) (verb : Bytes) : Bool :=
  verbs.any fun v => eqIgnoreAsciiCase verb (text v)

/-- The length of a message whose command line is `line`. -/
def natsMessageLength (payloadVerbs plainVerbs : List String) (line : Bytes) : Option Nat :=
  if !validUtf8 line then none
  else match asciiFields line with
  | [] => none
  | verb :: arguments =>
    let lineTotal := line.length + 2
    if isVerb payloadVerbs verb then
      match arguments.getLast? with
      | none => none
      | some sizeToken =>
        if sizeToken.length > maxFrameLengthDigits then none
        else (parseUsize sizeToken).bind fun size =>
          (checkedAdd lineTotal size).bind fun v => checkedAdd v 2
    else if isVerb plainVerbs verb then some lineTotal
    else none

def natsLineBoundary (payloadVerbs plainVerbs : List String) (bytes : Bytes) (maxFrameBytes : Nat) :
    FrameBoundary :=
  match findCrlf (bytes.take maxFrameBytes) with
  | none => if bytes.length ≥ maxFrameBytes then .invalid else .needMoreBytes
  | some lineLen =>
    checkedFrame? (natsMessageLength payloadVerbs plainVerbs (bytes.take lineLen)) maxFrameBytes

def natsBoundary : FrameBoundary :=
  natsLineBoundary ["pub", "hpub"] ["connect", "sub", "unsub", "ping", "pong"] bytes maxFrameBytes

def natsResponseBoundary : FrameBoundary :=
  natsLineBoundary ["msg", "hmsg"] ["+ok", "-err", "ping", "pong", "info"] bytes maxFrameBytes

/-! ## Decimal lines -/

/-- A decimal line read from a cursor; a value comes with the cursor behind its line end. -/
inductive DecimalLine (α : Type) where
  | value (value : α) (cursor : Nat)
  | needMoreBytes
  | invalid

/-- The line feed that must follow the carriage return at `index`. -/
def readLineFeed (value index : Nat) : Bytes → DecimalLine Nat
  | [] => .needMoreBytes
  | next :: _ => if next ≠ lf then .invalid else .value value (index + 2)

/-- The loop of `readDecimalLine`; the list is what is left from `index` on. -/
def readDecimalFrom (digits value index : Nat) : Bytes → DecimalLine Nat
  | [] => if digits > maxFrameLengthDigits then .invalid else .needMoreBytes
  | byte :: rest =>
    if isAsciiDigit byte then
      if digits + 1 > maxFrameLengthDigits then .invalid
      else readDecimalFrom (digits + 1) (value * 10 + (byte - 48).toNat) (index + 1) rest
    else if byte = cr then
      if digits = 0 then .invalid else readLineFeed value index rest
    else .invalid

def readDecimalLine (cursor : Nat) : DecimalLine Nat :=
  readDecimalFrom 0 0 cursor (bytes.drop cursor)

def readSignedDecimalLine (cursor : Nat) : DecimalLine Int :=
  let negative := bytes[cursor]? == some 45
  match readDecimalLine bytes (if negative then cursor + 1 else cursor) with
  | .value value cursor => .value (if negative then -(value : Int) else value) cursor
  | .needMoreBytes => .needMoreBytes
  | .invalid => .invalid

/-! ## Redis requests -/

/-- `items` bulk strings from `cursor` on. -/
def redisItems (bytes : Bytes) (maxFrameBytes : Nat) : Nat → Nat → FrameBoundary
  | 0, cursor => checkedFrame cursor maxFrameBytes
  | items + 1, cursor =>
    match bytes[cursor]? with
    | none => if cursor > maxFrameBytes then .invalid else .needMoreBytes
    | some byte =>
      if byte ≠ 36 then .invalid
      else match readDecimalLine bytes (cursor + 1) with
      | .needMoreBytes => .needMoreBytes
      | .invalid => .invalid
      | .value bulkLen cursor =>
        match (checkedAdd cursor bulkLen).bind fun v => checkedAdd v 2 with
        | none => .invalid
        | some next => if next > maxFrameBytes then .invalid else redisItems bytes maxFrameBytes items next

def redisBoundary : FrameBoundary :=
  if bytes.head? ≠ some 42 then
    match findCrlf (bytes.take maxFrameBytes) with
    | none => if bytes.length ≥ maxFrameBytes then .invalid else .needMoreBytes
    | some lineLen => checkedFrame (lineLen + 2) maxFrameBytes
  else match readDecimalLine bytes 1 with
  | .needMoreBytes => .needMoreBytes
  | .invalid => .invalid
  | .value itemCount cursor =>
    if itemCount = 0 || decide (itemCount > maxRedisBoundaryItems) then .invalid
    else redisItems bytes maxFrameBytes itemCount cursor

/-! ## Redis responses -/

inductive RespWalk where
  | complete (cursor : Nat)
  | needMoreBytes
  | invalid

def isRespScalar (b : UInt8) : Bool :=
  b == 43 || b == 45 || b == 58 || b == 35 || b == 44 || b == 40 || b == 95
def isRespBlob (b : UInt8) : Bool := b == 36 || b == 61 || b == 33
def isRespPairs (b : UInt8) : Bool := b == 37 || b == 124
def isRespAggregate (b : UInt8) : Bool := b == 42 || b == 126 || b == 62 || isRespPairs b

/-- A value that runs to the end of its line. -/
def respScalarEnd (maxFrameBytes cursor : Nat) : RespWalk :=
  match findCrlf ((bytes.take maxFrameBytes).drop cursor) with
  | some lineLen => .complete (cursor + lineLen + 2)
  | none => if bytes.length ≥ maxFrameBytes then .invalid else .needMoreBytes

/-- A value that declares its length. -/
def respBlobEnd (maxFrameBytes cursor : Nat) : RespWalk :=
  match readSignedDecimalLine bytes cursor with
  | .needMoreBytes => .needMoreBytes
  | .invalid => .invalid
  | .value length cursor =>
    if length < 0 then .complete cursor
    else match (checkedAdd cursor length.toNat).bind fun v => checkedAdd v 2 with
    | none => .invalid
    | some stop =>
      if stop > maxFrameBytes then .invalid
      else if stop > bytes.length then .needMoreBytes
      else .complete stop

/-- `items` values in a row, each walked by `walk`. -/
def respItems (walk : Nat → RespWalk) : Nat → Nat → RespWalk
  | 0, cursor => .complete cursor
  | items + 1, cursor =>
    match walk cursor with
    | .complete cursor => respItems walk items cursor
    | other => other

/-- How many values an aggregate of `count` entries holds, if that is within bounds. -/
def respItemCount (typeByte : UInt8) (count : Nat) : Option Nat :=
  if count > maxRedisBoundaryItems then none
  else if isRespPairs typeByte then
    (checkedMul count 2).filter fun items => items ≤ maxRedisBoundaryItems
  else some count

def respValueEnd (bytes : Bytes) (maxFrameBytes : Nat) : Nat → Nat → RespWalk
  | 0, _ => .invalid
  | depth + 1, cursor =>
    if cursor ≥ maxFrameBytes then .invalid
    else match bytes[cursor]? with
    | none => .needMoreBytes
    | some typeByte =>
      if isRespScalar typeByte then respScalarEnd bytes maxFrameBytes (cursor + 1)
      else if isRespBlob typeByte then respBlobEnd bytes maxFrameBytes (cursor + 1)
      else if isRespAggregate typeByte then
        match readSignedDecimalLine bytes (cursor + 1) with
        | .needMoreBytes => .needMoreBytes
        | .invalid => .invalid
        | .value count cursor =>
          if count < 0 then .complete cursor
          else match respItemCount typeByte count.toNat with
          | none => .invalid
          | some items => respItems (respValueEnd bytes maxFrameBytes depth) items cursor
      else .invalid

def redisResponseBoundary : FrameBoundary :=
  match respValueEnd bytes maxFrameBytes maxRespValueDepth 0 with
  | .complete cursor => checkedFrame cursor maxFrameBytes
  | .needMoreBytes => if bytes.length ≥ maxFrameBytes then .invalid else .needMoreBytes
  | .invalid => .invalid

/-! ## What is settled on a part of a message -/

theorem settles_natsLineBoundary (payloadVerbs plainVerbs : List String) (max : Nat) (bytes x : Bytes) :
    Settles max (natsLineBoundary payloadVerbs plainVerbs bytes max)
      (natsLineBoundary payloadVerbs plainVerbs (bytes ++ x) max) := by
  unfold natsLineBoundary
  cases hf : findCrlf (bytes.take max) with
  | none =>
    refine settles_of_full fun hfull => ?_
    rw [take_append_of_le_length hfull, hf]
    exact if_pos (by rw [length_append]; omega)
  | some lineLen =>
    have hfit : lineLen + 2 ≤ (bytes.take max).length := findCrlf_add_two_le hf
    have hf' : findCrlf ((bytes ++ x).take max) = some lineLen := findWindow_take_append x hf
    have hline : (bytes ++ x).take lineLen = bytes.take lineLen :=
      take_append_of_le_length (by rw [length_take] at hfit; omega)
    simp only [hf', hline]
    refine settles_checkedFrame? max fun n h => ?_
    unfold natsMessageLength at h
    grind [checkedAdd_eq_some_iff, Option.bind_eq_some_iff]

variable {bytes : Bytes} {cursor max c n v value index lo lo' : Nat} {rest : Bytes} {walk : Nat → RespWalk}

theorem readLineFeed_value (h : readLineFeed value index rest = .value v c) : c = index + 2 ∧ rest ≠ [] := by
  cases rest with
  | nil => cases h
  | cons next rest =>
    rw [readLineFeed] at h
    split at h
    · cases h
    · cases h
      exact ⟨rfl, cons_ne_nil _ _⟩

theorem readDecimalFrom_lt {digits : Nat} (h : readDecimalFrom digits value index rest = .value v c) : index < c := by
  fun_induction readDecimalFrom digits value index rest with grind [readLineFeed_value]

/-- A line that starts at `lo`, read in the first `len` bytes, against the same line with more bytes behind them: it
is not complete and ends behind them, or it is settled. -/
inductive Lines {α : Type} (lo len : Nat) : DecimalLine α → DecimalLine α → Prop
  | wait {r : DecimalLine α} (hlate : ∀ v c, r = .value v c → len < c) : Lines lo len .needMoreBytes r
  | invalid : Lines lo len .invalid .invalid
  | value {v : α} {c : Nat} (hlo : lo < c) (hin : c ≤ len) : Lines lo len (.value v c) (.value v c)

theorem Lines.mono {α : Type} {len : Nat} {r r' : DecimalLine α} (h : Lines lo' len r r') (hle : lo ≤ lo') :
    Lines lo len r r' := by
  cases h with
  | wait hlate => exact .wait hlate
  | invalid => exact .invalid
  | value hlo hin => exact .value (Nat.lt_of_le_of_lt hle hlo) hin

variable (x : Bytes)

theorem lines_readDecimalFrom :
    ∀ {digits value index : Nat},
    digits ≤ maxFrameLengthDigits → Lines index (index + rest.length) (readDecimalFrom digits value index rest)
      (readDecimalFrom digits value index (rest ++ x)) := by
  induction rest with
  | nil =>
    intro digits value index hdigits
    rw [readDecimalFrom, if_neg (Nat.not_lt.mpr hdigits)]
    exact .wait fun _ _ => readDecimalFrom_lt
  | cons byte rest ih =>
    intro digits value index hdigits
    simp only [cons_append, readDecimalFrom, length_cons]
    split
    · split
      · exact .invalid
      next hmax =>
        rw [show index + (rest.length + 1) = index + 1 + rest.length by omega]
        exact (ih (Nat.not_lt.mp hmax)).mono (Nat.le_succ index)
    · split
      · split
        · exact .invalid
        cases rest with
        | nil =>
          refine .wait fun v c h => ?_
          rw [(readLineFeed_value h).1]
          exact Nat.lt_succ_self _
        | cons next rest =>
          dsimp only [cons_append, readLineFeed]
          split
          · exact .invalid
          · exact .value (by omega) (by rw [length_cons]; omega)
      · exact .invalid

theorem lines_readDecimalLine (hcursor : cursor ≤ bytes.length) :
    Lines cursor bytes.length (readDecimalLine bytes cursor) (readDecimalLine (bytes ++ x) cursor) := by
  have hlen : cursor + (bytes.drop cursor).length = bytes.length := by
    rw [length_drop]
    omega
  unfold readDecimalLine
  rw [drop_append_of_le_length hcursor, ← hlen]
  exact lines_readDecimalFrom x (Nat.zero_le _)

theorem lines_readSignedDecimalLine (hcursor : cursor ≤ bytes.length) :
    Lines cursor bytes.length (readSignedDecimalLine bytes cursor) (readSignedDecimalLine (bytes ++ x) cursor) := by
  rcases Nat.lt_or_eq_of_le hcursor with hlt | hend
  · have hstart : (if bytes[cursor]? == some 45 then cursor + 1 else cursor) ≤ bytes.length := by
      split <;> omega
    have hline : Lines cursor _ _ _ := (lines_readDecimalLine x hstart).mono (by split <;> omega)
    unfold readSignedDecimalLine
    rw [List.getElem?_append_left hlt]
    dsimp only
    generalize readDecimalLine bytes _ = r, readDecimalLine (bytes ++ x) _ = r' at hline ⊢
    cases hline with
    | wait hlate =>
      refine .wait fun v c h => ?_
      cases r' with
      | value value stop =>
        cases h
        exact hlate _ _ rfl
      | needMoreBytes => cases h
      | invalid => cases h
    | invalid => exact .invalid
    | value hlo hin => exact .value hlo hin
  · -- Nothing of the line is there.
    have hempty : readSignedDecimalLine bytes cursor = .needMoreBytes := by
      simp [readSignedDecimalLine, readDecimalLine, readDecimalFrom, hend]
    rw [hempty]
    refine .wait fun v c h => ?_
    unfold readSignedDecimalLine at h
    dsimp only at h
    split at h
    next hvalue =>
      cases h
      have := readDecimalFrom_lt hvalue
      split at this <;> omega
    · cases h
    · cases h

theorem settles_redisItems : ∀ {items cursor : Nat}, 0 < cursor → cursor ≤ max ∨ cursor < bytes.length →
    Settles max (redisItems bytes max items cursor) (redisItems (bytes ++ x) max items cursor) := by
  intro items
  induction items with
  | zero =>
    intro cursor hpos _
    exact settles_checkedFrame max hpos
  | succ items ih =>
    intro cursor hpos hroom
    rw [redisItems, redisItems]
    cases hb : bytes[cursor]? with
    | none =>
      have hout := List.getElem?_eq_none_iff.mp hb
      rw [if_neg (by omega)]
      exact .wait _
    | some byte =>
      have hin : cursor + 1 ≤ bytes.length := (List.getElem?_eq_some_iff.mp hb).1
      have hline := lines_readDecimalLine x hin
      simp only [getElem?_append_some x hb]
      generalize readDecimalLine bytes (cursor + 1) = r, readDecimalLine (bytes ++ x) (cursor + 1) = r' at hline ⊢
      split
      · exact .invalid
      cases hline with
      | wait _ => exact .wait _
      | invalid => exact .invalid
      | @value bulkLen stop hlo hin =>
        dsimp only
        cases hn : (checkedAdd stop bulkLen).bind fun v => checkedAdd v 2 with
        | none => exact .invalid
        | some next =>
          simp only [Option.bind_eq_some_iff, checkedAdd_eq_some_iff] at hn
          dsimp only
          split
          · exact .invalid
          next hle => exact ih (by omega) (.inl (Nat.not_lt.mp hle))

/-- The first line of a request, which says how many bulk strings follow, and nothing else. -/
def isCountLine (bytes : Bytes) : Bool :=
  bytes.head? == some 42 && match readDecimalLine bytes 1 with
  | .value itemCount cursor => cursor == bytes.length && !(itemCount = 0 || decide (itemCount > maxRedisBoundaryItems))
  | _ => false

/-- **The verdict on a request is settled**, except that a count line longer than the limit is refused only as long
as nothing follows it. -/
theorem settles_redisBoundary (max : Nat) (x : Bytes) (hne : bytes ≠ []) :
    Settles max (redisBoundary bytes max) (redisBoundary (bytes ++ x) max) ∨
      (redisBoundary bytes max = .invalid ∧ max < bytes.length ∧ isCountLine bytes = true) := by
  unfold redisBoundary isCountLine
  rw [List.head?_append_of_ne_nil _ hne]
  split
  · refine .inl ?_
    cases hf : findCrlf (bytes.take max) with
    | none =>
      refine settles_of_full fun hfull => ?_
      rw [take_append_of_le_length hfull, hf]
      exact if_pos (by rw [length_append]; omega)
    | some lineLen =>
      have hf' : findCrlf ((bytes ++ x).take max) = some lineLen := findWindow_take_append x hf
      simp only [hf']
      exact settles_checkedFrame max (Nat.succ_pos _)
  next hstar =>
    have hline := lines_readDecimalLine x (length_pos_iff.mpr hne)
    generalize readDecimalLine bytes _ = r, readDecimalLine (bytes ++ x) _ = r' at hline ⊢
    cases hline with
    | wait _ => exact .inl (.wait _)
    | invalid => exact .inl .invalid
    | @value itemCount cursor hlo hin =>
      dsimp only
      split
      · exact .inl .invalid
      next hcount =>
        by_cases hroom : cursor ≤ max ∨ cursor < bytes.length
        · exact .inl (settles_redisItems x (Nat.zero_lt_of_lt hlo) hroom)
        · have hend : cursor = bytes.length := by omega
          obtain ⟨items, rfl⟩ : ∃ k, itemCount = k + 1 := ⟨itemCount - 1, by simp at hcount; omega⟩
          refine .inr ⟨?_, by omega, ?_⟩
          · rw [redisItems, List.getElem?_eq_none (Nat.le_of_eq hend.symm)]
            exact if_pos (by omega)
          · simp only [hend, Decidable.not_not.mp hstar, beq_self_eq_true, Bool.true_and]
            simpa using hcount

/-! ## Redis responses

A RESP value ends where its last byte is, so its length is known only when all of it is there. -/

/-- A walk over a part of the bytes against the walk over the whole: it waits, in vain once the limit is reached, or
it is settled; what it completes starts at `lo` and ends inside the part. -/
inductive Walks (max lo : Nat) (bytes : Bytes) : RespWalk → RespWalk → Prop
  | wait {w : RespWalk} (hlate : max ≤ bytes.length → ∀ c, w = .complete c → max < c) :
      Walks max lo bytes .needMoreBytes w
  | invalid : Walks max lo bytes .invalid .invalid
  | complete {c : Nat} (hlo : lo ≤ c) (hin : c ≤ bytes.length) : Walks max lo bytes (.complete c) (.complete c)

theorem Walks.mono {w w' : RespWalk} (h : Walks max lo' bytes w w') (hle : lo ≤ lo') : Walks max lo bytes w w' := by
  cases h with
  | wait hlate => exact .wait hlate
  | invalid => exact .invalid
  | complete hlo hin => exact .complete (Nat.le_trans hle hlo) hin

theorem walks_respScalarEnd (max cursor : Nat) :
    Walks max cursor bytes (respScalarEnd bytes max cursor) (respScalarEnd (bytes ++ x) max cursor) := by
  unfold respScalarEnd
  cases hf : findCrlf ((bytes.take max).drop cursor) with
  | none =>
    by_cases hfull : bytes.length ≥ max
    · rw [take_append_of_le_length hfull, hf, if_pos hfull, if_pos (by rw [length_append]; omega)]
      exact .invalid
    · rw [if_neg hfull]
      exact .wait fun h => absurd h hfull
  | some lineLen =>
    have hfit := findCrlf_add_two_le hf
    rw [length_drop, length_take] at hfit
    have hf' : findCrlf (((bytes ++ x).take max).drop cursor) = some lineLen := by
      rw [take_append, drop_append_of_le_length (by rw [length_take]; omega)]
      exact findCrlf_append _ hf
    rw [hf']
    exact .complete (by omega) (by omega)

theorem walks_respBlobEnd (max : Nat) (hcursor : cursor ≤ bytes.length) :
    Walks max cursor bytes (respBlobEnd bytes max cursor) (respBlobEnd (bytes ++ x) max cursor) := by
  have hline := lines_readSignedDecimalLine x hcursor
  unfold respBlobEnd
  generalize readSignedDecimalLine bytes cursor = r, readSignedDecimalLine (bytes ++ x) cursor = r' at hline ⊢
  cases hline with
  | wait hlate =>
    refine .wait fun hfull c h => ?_
    cases r' with
    | needMoreBytes => cases h
    | invalid => cases h
    | value length stop =>
      have hbehind := hlate _ _ rfl
      dsimp only at h
      split at h
      · cases h
        omega
      · split at h
        · cases h
        next stop' hs =>
          simp only [Option.bind_eq_some_iff, checkedAdd_eq_some_iff] at hs
          split at h
          · cases h
          · omega
  | invalid => exact .invalid
  | @value length stop hlo hin =>
    dsimp only
    split
    · exact .complete (Nat.le_of_lt hlo) hin
    cases hs : (checkedAdd stop length.toNat).bind fun v => checkedAdd v 2 with
    | none => exact .invalid
    | some stop' =>
      simp only [Option.bind_eq_some_iff, checkedAdd_eq_some_iff] at hs
      dsimp only
      split
      · exact .invalid
      split
      · exact .wait fun hfull => by omega
      next hlen =>
        rw [if_neg (by rw [length_append]; omega)]
        exact .complete (by omega) (Nat.not_lt.mp hlen)

theorem respItems_far (hstop : ∀ c, max ≤ c → walk c = .invalid) {items : Nat} (hfar : max < cursor)
    (h : respItems walk items cursor = .complete c) : max < c := by
  cases items with
  | zero =>
    cases h
    exact hfar
  | succ items =>
    rw [respItems, hstop cursor (Nat.le_of_lt hfar)] at h
    cases h

theorem walks_respItems {walk' : Nat → RespWalk} (hwalk : ∀ c, Walks max (c + 1) bytes (walk c) (walk' c))
    (hstop : ∀ c, max ≤ c → walk' c = .invalid) (items : Nat) (hcursor : cursor ≤ bytes.length) :
    Walks max cursor bytes (respItems walk items cursor) (respItems walk' items cursor) := by
  induction items generalizing cursor with
  | zero => exact .complete (Nat.le_refl _) hcursor
  | succ items ih =>
    have hw := hwalk cursor
    rw [respItems, respItems]
    generalize walk cursor = w, walk' cursor = w' at hw ⊢
    cases hw with
    | wait hlate =>
      refine .wait fun hfull c h => ?_
      cases w' with
      | complete next => exact respItems_far hstop (hlate hfull next rfl) h
      | needMoreBytes => cases h
      | invalid => cases h
    | invalid => exact .invalid
    | complete hlo hin => exact (ih hin).mono (Nat.le_of_succ_le hlo)

theorem respValueEnd_full (bytes : Bytes) (depth : Nat) (h : max ≤ cursor) :
    respValueEnd bytes max depth cursor = .invalid := by
  cases depth with
  | zero => rfl
  | succ depth => exact if_pos h

theorem walks_respValueEnd (max depth cursor : Nat) :
    Walks max (cursor + 1) bytes (respValueEnd bytes max depth cursor)
      (respValueEnd (bytes ++ x) max depth cursor) := by
  -- The nested values of an aggregate are one level less deep.
  induction depth generalizing cursor with
  | zero => exact .invalid
  | succ depth ih =>
    have hstop : ∀ c, max ≤ c → respValueEnd (bytes ++ x) max depth c = .invalid := fun c => respValueEnd_full _ _
    unfold respValueEnd
    split
    · exact .invalid
    next hcur =>
      cases hb : bytes[cursor]? with
      | none =>
        have hout := List.getElem?_eq_none_iff.mp hb
        exact .wait fun hfull => by omega
      | some typeByte =>
        have hcursor : cursor + 1 ≤ bytes.length := (List.getElem?_eq_some_iff.mp hb).1
        simp only [getElem?_append_some x hb]
        split
        · exact walks_respScalarEnd x max (cursor + 1)
        split
        · exact walks_respBlobEnd x max hcursor
        split
        · have hline := lines_readSignedDecimalLine x hcursor
          generalize readSignedDecimalLine bytes _ = r, readSignedDecimalLine (bytes ++ x) _ = r' at hline ⊢
          cases hline with
          | wait hlate =>
            refine .wait fun hfull c h => ?_
            cases r' with
            | needMoreBytes => cases h
            | invalid => cases h
            | value count stop =>
              have hbehind : max < stop := Nat.lt_of_le_of_lt hfull (hlate _ _ rfl)
              dsimp only at h
              split at h
              · cases h
                exact hbehind
              · split at h
                · cases h
                · exact respItems_far hstop hbehind h
          | invalid => exact .invalid
          | value hlo hin =>
            dsimp only
            split
            · exact .complete (Nat.le_of_lt hlo) hin
            split
            · exact .invalid
            · exact (walks_respItems ih hstop _ hin).mono (Nat.le_of_lt hlo)
        · exact .invalid

theorem settles_redisResponseBoundary (max : Nat) (bytes x : Bytes) :
    Settles max (redisResponseBoundary bytes max) (redisResponseBoundary (bytes ++ x) max) := by
  have hwalk : Walks max 1 bytes (respValueEnd bytes max maxRespValueDepth 0) _ := walks_respValueEnd x max _ 0
  unfold redisResponseBoundary
  generalize respValueEnd bytes max maxRespValueDepth 0 = w,
    respValueEnd (bytes ++ x) max maxRespValueDepth 0 = w' at hwalk ⊢
  cases hwalk with
  | wait hlate =>
    refine settles_of_full fun hfull => ?_
    cases w' with
    | complete cursor => exact if_pos (hlate hfull cursor rfl)
    | needMoreBytes => exact if_pos (by rw [length_append]; omega)
    | invalid => rfl
  | invalid => exact .invalid
  | complete hlo _ => exact settles_checkedFrame max hlo

/-- A response is named only when all of it is there. -/
theorem redisResponseBoundary_le (h : redisResponseBoundary bytes max = .frame n) : n ≤ bytes.length := by
  have hwalk : Walks max 1 bytes (respValueEnd bytes max maxRespValueDepth 0) _ := walks_respValueEnd [] max _ 0
  unfold redisResponseBoundary checkedFrame at h
  generalize respValueEnd bytes max maxRespValueDepth 0 = w,
    respValueEnd (bytes ++ []) max maxRespValueDepth 0 = w' at hwalk h
  cases hwalk with
  | wait _ =>
    dsimp only at h
    split at h <;> cases h
  | invalid => cases h
  | complete _ hin =>
    dsimp only at h
    split at h
    · cases h
    · cases h
      exact hin

end ENavigator.Stream
