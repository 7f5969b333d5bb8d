import ENavigator.Propagation.Http1

/-!
# The `traceparent` line reads back

`formatTraceparentHeader` writes a context as one header line of 70 bytes; the reader gives the same
context back (`parseTraceparentValue_value`). The rest of the module is what a header scanner sees of
the line: it ends at its own line end (`cr_not_mem_traceparentLine`), its name is `traceparent`
(`findByte_traceparentLine`) and its value has nothing to trim (`trimOws_value`).
-/

namespace ENavigator.Propagation

open List

/-! ## Hex -/

/-- What the proofs use of the two digits of a byte. -/
structure HexDigits (b : UInt8) : Prop where
  high : parseHexDigit (hexDigit (b >>> 4)) = some (b >>> 4)
  low : parseHexDigit (hexDigit (b &&& 0x0f)) = some (b &&& 0x0f)
  join : ((b >>> 4) <<< 4) ||| (b &&& 0x0f) = b

theorem hexDigits (b : UInt8) : HexDigits b := by
  have key : ∀ n < 256, parseHexDigit (hexDigit (UInt8.ofNat n >>> 4)) = some (UInt8.ofNat n >>> 4) ∧
      parseHexDigit (hexDigit (UInt8.ofNat n &&& 0x0f)) = some (UInt8.ofNat n &&& 0x0f) ∧
      ((UInt8.ofNat n >>> 4) <<< 4) ||| (UInt8.ofNat n &&& 0x0f) = UInt8.ofNat n := by
    decide +kernel
  exact forall_byte (P := HexDigits) (fun n hn => ⟨(key n hn).1, (key n hn).2.1, (key n hn).2.2⟩) b

/-- A byte that may stand in a hex number: printable, and neither a blank nor a line end. -/
def isHexByte (b : UInt8) : Bool := (parseHexDigit b).isSome

theorem isHexByte_writeHex (input : Bytes) : ∀ b ∈ writeHex input, isHexByte b := by
  intro b hb
  obtain ⟨a, -, ha⟩ := mem_flatMap.mp hb
  rcases mem_cons.mp ha with rfl | ha
  · simp [isHexByte, (hexDigits a).high]
  · rw [mem_singleton.mp ha]
    simp [isHexByte, (hexDigits a).low]

theorem length_writeHex (input : Bytes) : (writeHex input).length = 2 * input.length := by
  induction input with
  | nil => rfl
  | cons b bs ih =>
    rw [writeHex, flatMap_cons, length_append, ← writeHex, ih]
    simp only [length_cons, length_nil]
    omega

theorem parseHex_writeHex (input : Bytes) : parseHex (writeHex input) = some input := by
  induction input with
  | nil => rfl
  | cons b bs ih =>
    have hd := hexDigits b
    show parseHex (hexDigit (b >>> 4) :: hexDigit (b &&& 0x0f) :: writeHex bs) = _
    rw [parseHex, hd.high, Option.bind_some, hd.low, Option.bind_some, ih, Option.map_some, hd.join]

theorem parseHexArray_writeHex {n : Nat} {input : Bytes} (h : input.length = n) :
    parseHexArray n (writeHex input) = some ⟨input, h⟩ := by
  rw [parseHexArray, parseHex_writeHex, Option.bind_some, dif_pos h]

/-! ## The value -/

def traceparentValue (c : TraceContext) : Bytes :=
  text "00-" ++ (writeHex c.traceId ++ (text "-" ++ (writeHex c.spanId ++ (text "-"
    ++ [hexDigit (c.traceFlags >>> 4), hexDigit (c.traceFlags &&& 0x0f)]))))

/-- The header line without its line end. -/
def traceparentLine (c : TraceContext) : Bytes := text "traceparent:" ++ (32 :: traceparentValue c)

variable (c : TraceContext)

theorem formatTraceparentHeader_eq :
    formatTraceparentHeader c = traceparentLine c ++ crlf := by
  have htext : text "traceparent: 00-" = text "traceparent:" ++ (32 :: text "00-") := by decide
  simp only [formatTraceparentHeader, traceparentLine, traceparentValue, htext, append_assoc,
    cons_append]

theorem length_traceparentValue : (traceparentValue c).length = 55 := by
  simp only [traceparentValue, length_append, length_writeHex, c.traceId_length, c.spanId_length]
  rfl

theorem length_traceparentLine : (traceparentLine c).length = 68 := by
  rw [traceparentLine, length_append, length_cons, length_traceparentValue]
  rfl

theorem length_formatTraceparentHeader : (formatTraceparentHeader c).length = 70 := by
  rw [formatTraceparentHeader_eq, length_append, length_traceparentLine]
  rfl

theorem mem_traceparentValue {c : TraceContext} {b : UInt8} (h : b ∈ traceparentValue c) :
    isHexByte b ∨ b = 45 := by
  have hd := hexDigits c.traceFlags
  simp only [traceparentValue, mem_append, mem_cons, not_mem_nil, or_false] at h
  rcases h with h | h | h | h | h | h | h
  · revert h
    revert b
    decide +kernel
  · exact .inl (isHexByte_writeHex _ b h)
  · exact .inr (by simpa [text] using h)
  · exact .inl (isHexByte_writeHex _ b h)
  · exact .inr (by simpa [text] using h)
  · subst h
    exact .inl (by simp [isHexByte, hd.high])
  · subst h
    exact .inl (by simp [isHexByte, hd.low])

theorem valueByte_spec {b : UInt8} (h : isHexByte b ∨ b = 45) :
    b ≠ cr ∧ isOws b = false ∧ (b == 9 || (b ≥ 0x20 && b != 0x7f)) = true := by
  revert h
  exact forall_byte (P := fun b => isHexByte b ∨ b = 45 →
    b ≠ cr ∧ isOws b = false ∧ (b == 9 || (b ≥ 0x20 && b != 0x7f)) = true) (by decide +kernel) b

/-! ## What a header scanner sees of the line -/

theorem cr_not_mem_traceparentLine : cr ∉ traceparentLine c := by
  intro h
  rw [traceparentLine, mem_append, mem_cons] at h
  rcases h with h | h | h
  · revert h
    decide
  · revert h
    decide
  · exact (valueByte_spec (mem_traceparentValue h)).1 rfl

theorem findByte_traceparentLine : findByte (traceparentLine c) 58 = some 11 := rfl

theorem take_traceparentLine : (traceparentLine c).take 11 = text "traceparent" := rfl

theorem validFieldValue_traceparentValue :
    validFieldValue (traceparentValue c) = true := by
  rw [validFieldValue, all_eq_true]
  intro b hb
  exact (valueByte_spec (mem_traceparentValue hb)).2.2

theorem trimOws_traceparentLine :
    trimOws ((traceparentLine c).drop (11 + 1)) = traceparentValue c := by
  have hdrop : ∀ l : Bytes, (∀ b ∈ l, b ∈ traceparentValue c) → l.dropWhile isOws = l := by
    intro l hl
    cases l with
    | nil => rfl
    | cons b bs =>
      have hb := (valueByte_spec (mem_traceparentValue (hl b mem_cons_self))).2.1
      rw [dropWhile_cons_of_neg (by simp [hb])]
  show trimOws (32 :: traceparentValue c) = _
  rw [trimOws, dropWhile_cons_of_pos (by decide), hdrop _ (fun b hb => hb),
    hdrop _ (fun b hb => mem_reverse.mp hb), reverse_reverse]

/-! ## Reading the value back -/

theorem length_version : (text "00-").length = 3 := rfl

theorem length_dash : (text "-").length = 1 := rfl

theorem traceId_traceparentValue :
    ((traceparentValue c).drop 3).take 32 = writeHex c.traceId := by
  have ht : (writeHex c.traceId).length = 32 := by rw [length_writeHex, c.traceId_length]
  rw [traceparentValue, drop_left' length_version, take_left' ht]

theorem drop_traceparentValue :
    (traceparentValue c).drop 35 = text "-" ++ (writeHex c.spanId ++ (text "-"
      ++ [hexDigit (c.traceFlags >>> 4), hexDigit (c.traceFlags &&& 0x0f)])) := by
  have ht : (writeHex c.traceId).length = 32 := by rw [length_writeHex, c.traceId_length]
  rw [traceparentValue, ← drop_drop (i := 32) (j := 3), drop_left' length_version, drop_left' ht]

theorem spanId_traceparentValue :
    ((traceparentValue c).drop 36).take 16 = writeHex c.spanId := by
  have hs : (writeHex c.spanId).length = 16 := by rw [length_writeHex, c.spanId_length]
  rw [← drop_drop (i := 1) (j := 35), drop_traceparentValue, drop_left' length_dash, take_left' hs]

theorem drop_traceparentValue_flags :
    (traceparentValue c).drop 52 =
      text "-" ++ [hexDigit (c.traceFlags >>> 4), hexDigit (c.traceFlags &&& 0x0f)] := by
  have hs : (writeHex c.spanId).length = 16 := by rw [length_writeHex, c.spanId_length]
  rw [← drop_drop (i := 17) (j := 35), drop_traceparentValue, ← drop_drop (i := 16) (j := 1),
    drop_left' length_dash, drop_left' hs]

/-- **The value reads back as the context it was written from**, up to the refusal of zero ids. -/
theorem parseTraceparentValue_value :
    parseTraceparentValue (traceparentValue c) =
      TraceContext.new c.traceId c.spanId c.traceFlags c.traceId_length c.spanId_length := by
  have hd := hexDigits c.traceFlags
  have h35 : (traceparentValue c)[35]? = some 45 := by
    rw [← Nat.add_zero 35, ← List.getElem?_drop, drop_traceparentValue]
    rfl
  have hflags : ∀ i, (traceparentValue c)[52 + i]? =
      (text "-" ++ [hexDigit (c.traceFlags >>> 4), hexDigit (c.traceFlags &&& 0x0f)])[i]? := by
    intro i
    rw [← List.getElem?_drop, drop_traceparentValue_flags]
  have h52 : (traceparentValue c)[52]? = some 45 := hflags 0
  have h53 : (traceparentValue c)[53]? = some (hexDigit (c.traceFlags >>> 4)) := hflags 1
  have h54 : (traceparentValue c)[54]? = some (hexDigit (c.traceFlags &&& 0x0f)) := hflags 2
  have hcut : (traceparentValue c).take 3 = text "00-" := by rw [traceparentValue, take_left' length_version]
  rw [parseTraceparentValue, if_neg (by rw [length_traceparentValue, hcut, h35, h52]; decide),
    traceId_traceparentValue, spanId_traceparentValue, parseHexArray_writeHex c.traceId_length,
    parseHexArray_writeHex c.spanId_length, h53, h54]
  simp only [Option.bind_some, hd.high, hd.low, hd.join]

end ENavigator.Propagation
