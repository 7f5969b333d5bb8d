import ENavigator.Http2.Primitives

/-!
# HPACK round trip

A decoder fed with the blocks of a conforming encoder returns the headers the encoder was given, and
its dynamic table is the encoder's after every block (`decodeBlocks_encoderRun`). The table side is
`mirror`: the decoder whose state is the encoder's table; every field keeps the two in step
(`decodeField_fieldCode`).
-/

namespace ENavigator.Http2

open List HpackDecoder

open SizedTable (total fit)
open PrefixCode (bitsMsb IsWord)

variable {t t' : EncoderTable} {code : Bytes} {bits tag p : Nat} {entry : Header}

/-! ## Strings -/

theorem decodeString_stringCode {s : Bytes} (h : StringCode s code) {maxBytes : Nat} (hlen : s.length ≤ maxBytes)
    (hmax : maxBytes ≤ maxHpackValueBytes) (hutf : validUtf8 s = true) (rest : Bytes) :
    decodeString maxBytes (code ++ rest) = .ok (s, rest) := by
  have hvalue : maxHpackValueBytes = 1024 := rfl
  cases h with
  | @plain code h =>
    obtain ⟨p, hp, tail, rfl⟩ := h.first
    have hflag : UInt8.ofNat (0 + p) &&& 0x80 = 0 := by
      rw [Nat.zero_add]
      exact lastGroup hp
    have hint := decodeInteger_integerCode h (by decide) (by decide) (by omega) (s ++ rest)
    rw [cons_append] at hint
    rw [append_assoc, cons_append, decodeString, hint, hflag]
    simp only [bind, Except.bind, pure, Except.pure, take_left, drop_left, length_append]
    rw [if_neg (by omega)]
    simp only [bne_self_eq_false, Bool.false_eq_true, if_false]
    rw [if_neg (by omega)]
    simp only [hutf, if_true]
  | @huffman raw code hraw h =>
    obtain ⟨p, hp, tail, rfl⟩ := h.first
    have hflag : (UInt8.ofNat (128 + p) &&& 0x80 != 0) = true := bne_iff_ne.mpr (markedGroup hp)
    have hshort := length_huffmanCoded hraw
    have hint := decodeInteger_integerCode h (by decide) (by decide) (by omega) (raw ++ rest)
    rw [cons_append] at hint
    rw [append_assoc, cons_append, decodeString, hint, hflag]
    simp only [bind, Except.bind, pure, Except.pure, take_left, drop_left, length_append]
    rw [if_neg (by omega)]
    simp only [if_true, huffmanDecode_eq_ok_iff.mpr ⟨hlen, hraw⟩, hutf]

/-! ## The tables in step -/

/-- The decoder whose table is the encoder's. -/
def mirror (t : EncoderTable) : HpackDecoder := ⟨t.entries, total entryBytes t.entries, t.maxSize, false⟩

theorem insertDynamic_mirror (t : EncoderTable) (entry : Header) :
    (mirror t).insertDynamic entry = mirror (t.insert entry) := by
  rw [insertDynamic]
  split
  next h =>
    have h : t.maxSize < entryBytes entry := h
    simp only [mirror, EncoderTable.insert, EncoderTable.inserted, if_neg (Nat.not_le.mpr h),
      SizedTable.total_nil]
  next h =>
    have hbytes : (mirror t).dynamicBytes + entryBytes entry = total entryBytes (entry :: t.entries) := by
      rw [SizedTable.total_cons, Nat.add_comm]
      rfl
    rw [hbytes]
    exact evictToLimit_eq rfl

theorem entryAt_mirror {index : Nat} (h : t.At index entry) : entryAt (mirror t).dynamic index = some entry := by
  obtain ⟨hpos, hat⟩ := h
  rw [entryAt, if_neg (Nat.ne_of_gt hpos)]
  split
  next hle => rwa [List.getElem?_append_left (by omega)] at hat
  next hgt =>
    rw [List.getElem?_append_right (by omega)] at hat
    exact hat

theorem length_le_total (entries : List Header) : entries.length ≤ total entryBytes entries := by
  induction entries with
  | nil => exact Nat.le_refl _
  | cons e es ih =>
    have hsize : entryBytes e = e.1.length + e.2.length + 32 := rfl
    rw [SizedTable.total_cons, length_cons]
    omega

theorem EncoderTable.At.lt {index : Nat} (h : t.At index entry) : index < 2 ^ 32 := by
  have hbound := (List.getElem?_eq_some_iff.mp h.2).1
  have hstatic : hpackStaticTable.length = 61 := by decide
  have hmax : maxHpackDynamicTableBytes = 65536 := rfl
  have := length_le_total t.entries
  have := t.fits
  have := t.maxSize_le
  rw [length_append] at hbound
  omega

/-! ## Fields -/

theorem decodeName_nameCode {name : Bytes} (h : NameCode t bits tag name code) (htag : 2 ^ bits ∣ tag)
    (hfit : tag + 2 ^ bits ≤ 256) (hlen : name.length ≤ maxHpackNameBytes) (hutf : validUtf8 name = true) (rest : Bytes)
    : ∃ index tail, decodeInteger bits (code ++ rest) = .ok (index, tail) ∧
      (mirror t).decodeName index tail = .ok (name, rest) := by
  cases h with
  | @index index value code hat hcode =>
    refine ⟨index, rest, decodeInteger_integerCode hcode htag hfit hat.lt rest, ?_⟩
    rw [decodeName, if_neg (Nat.ne_of_gt hat.1), entryAt_mirror hat]
  | @literal zero code hzero hcode =>
    refine ⟨0, code ++ rest, ?_, ?_⟩
    · rw [append_assoc]
      exact decodeInteger_integerCode hzero htag hfit (by decide) _
    · rw [decodeName, if_pos rfl]
      exact decodeString_stringCode hcode hlen (by decide) hutf rest

theorem decodeLiteral_coded {name value : Bytes} (hname : NameCode t bits tag entry.1 name)
    (hvalue : StringCode entry.2 value) (hb : Bounded entry) (htag : 2 ^ bits ∣ tag) (hfit : tag + 2 ^ bits ≤ 256)
    (rest : Bytes) : (mirror t).decodeLiteral bits (name ++ value ++ rest) = .ok (entry, rest) := by
  obtain ⟨index, tail, hint, hdec⟩ :=
    decodeName_nameCode hname htag hfit hb.name_length hb.name_utf8 (value ++ rest)
  rw [append_assoc, decodeLiteral, hint]
  simp only [bind, Except.bind, pure, Except.pure, hdec,
    decodeString_stringCode hvalue hb.value_length (Nat.le_refl _) hb.value_utf8 rest]

theorem NameCode.first {name : Bytes} (h : NameCode t bits tag name code) :
    ∃ p < 2 ^ bits, ∃ tail, code = UInt8.ofNat (tag + p) :: tail := by
  rcases h with ⟨_, hcode⟩ | ⟨hzero, _⟩
  · exact hcode.first
  · obtain ⟨p, hp, tail, rfl⟩ := hzero.first
    exact ⟨p, hp, tail ++ _, rfl⟩

theorem decodeField_plain {name value : Bytes} (hname : NameCode t 4 tag entry.1 name)
    (hvalue : StringCode entry.2 value) (hb : Bounded entry) (htag : 2 ^ 4 ∣ tag) (hfit : tag ≤ 16) (rest : Bytes) :
    (mirror t).decodeField (name ++ value ++ rest) = .ok (mirror t, some entry, rest) := by
  have hlit := decodeLiteral_coded hname hvalue hb htag (by omega) rest
  obtain ⟨p, hp, tail, rfl⟩ := hname.first
  rw [cons_append, cons_append] at hlit ⊢
  obtain ⟨hhigh, hmid, hlow⟩ := octet_tests (show tag + p < 256 by omega)
  rw [decodeField, if_neg (not_not.mpr (hhigh.mpr (by omega))), if_neg (mt hmid.mp (by omega)),
    if_neg (mt hlow.mp (by omega)), hlit]
  rfl

/-- **One field keeps decoder and encoder in step.** -/
theorem decodeField_fieldCode (h : FieldCode t entry code t') (hb : Bounded entry) (rest : Bytes) :
    (mirror t).decodeField (code ++ rest) = .ok (mirror t', some entry, rest) := by
  cases h with
  | @indexed index code hat hcode =>
    have hint := decodeInteger_integerCode hcode (by decide) (by decide) hat.lt rest
    obtain ⟨p, hp, tail, rfl⟩ := hcode.first
    rw [cons_append] at hint ⊢
    rw [decodeField, if_pos (markedGroup hp), hint]
    simp only [bind, Except.bind, pure, Except.pure, indexedEntry, entryAt_mirror hat]
  | @incremental name value hname hvalue =>
    have hlit := decodeLiteral_coded hname hvalue hb (by decide) (by decide) rest
    obtain ⟨p, hp, tail, rfl⟩ := hname.first
    rw [cons_append, cons_append] at hlit ⊢
    obtain ⟨hhigh, hmid, -⟩ := octet_tests (show 64 + p < 256 by omega)
    rw [decodeField, if_neg (not_not.mpr (hhigh.mpr (by omega))), if_pos (hmid.mpr (by omega)), hlit]
    simp only [bind, Except.bind, pure, Except.pure, insertDynamic_mirror]
  | @withoutIndexing name value hname hvalue => exact decodeField_plain hname hvalue hb (by decide) (by decide) rest
  | @neverIndexed name value hname hvalue => exact decodeField_plain hname hvalue hb (by decide) (by decide) rest

theorem decodeField_update {size : Nat} (h : size ≤ maxHpackDynamicTableBytes) (hcode : IntegerCode 5 32 size code)
    (rest : Bytes) : (mirror t).decodeField (code ++ rest) = .ok (mirror (t.setMaxSize size h), none, rest) := by
  have hmax : maxHpackDynamicTableBytes = 65536 := rfl
  have hint := decodeInteger_integerCode hcode (by decide) (by decide) (by omega) rest
  obtain ⟨p, hp, tail, rfl⟩ := hcode.first
  rw [cons_append] at hint ⊢
  obtain ⟨hhigh, hmid, hlow⟩ := octet_tests (show 32 + p < 256 by omega)
  rw [decodeField, if_neg (not_not.mpr (hhigh.mpr (by omega))), if_neg (mt hmid.mp (by omega)),
    if_pos (hlow.mpr (by omega)), hint]
  simp only [bind, Except.bind, pure, Except.pure, if_neg (Nat.not_lt.mpr h)]
  congr 2
  exact evictToLimit_eq rfl

/-! ## Blocks and connections -/

theorem FieldCode.ne_nil (h : FieldCode t entry code t') : code ≠ [] := by
  rcases h with ⟨_, hcode⟩ | ⟨hname, _⟩ | ⟨hname, _⟩ | ⟨hname, _⟩
  · obtain ⟨p, -, tail, rfl⟩ := hcode.first
    exact cons_ne_nil _ _
  all_goals
    obtain ⟨p, -, tail, rfl⟩ := hname.first
    exact cons_ne_nil _ _

theorem decodeFields_fieldsCode {entries : List Header} (h : FieldsCode t entries code t')
    (hb : ∀ entry ∈ entries, Bounded entry) {fuel : Nat} {headers : List Header} (hfuel : code.length < fuel)
    (hcount : headers.length + entries.length ≤ maxHpackHeadersPerBlock) :
    decodeFields fuel (mirror t) headers code = (.ok (headers ++ entries), mirror t') := by
  induction h generalizing fuel headers with
  | nil =>
    obtain ⟨fuel, rfl⟩ := Nat.exists_eq_succ_of_ne_zero (Nat.ne_of_gt hfuel)
    rw [append_nil]
    rfl
  | @cons t t' t'' entry entries code rest hfield _ ih =>
    obtain ⟨fuel, rfl⟩ := Nat.exists_eq_succ_of_ne_zero (Nat.ne_of_gt (Nat.zero_lt_of_lt hfuel))
    have hpos := length_pos_iff.mpr hfield.ne_nil
    rw [length_append] at hfuel
    rw [length_cons] at hcount
    have hne : (code ++ rest).isEmpty = false := by
      rw [isEmpty_eq_false_iff, ← length_pos_iff, length_append]
      omega
    rw [decodeFields, hne, if_neg Bool.false_ne_true, if_neg (by omega),
      decodeField_fieldCode hfield (hb entry mem_cons_self)]
    dsimp only [Option.toList]
    have ih := ih (fun e he => hb e (mem_cons_of_mem _ he)) (show rest.length < fuel by omega)
      (show (headers ++ [entry]).length + entries.length ≤ maxHpackHeadersPerBlock by
        rw [length_append, length_singleton]
        omega)
    rw [ih, append_assoc, singleton_append]

/-- The size updates in front of a block leave the decoder in step, with turns for the rest. -/
theorem decodeFields_updatesCode {updates : Bytes} (h : UpdatesCode t updates t') (fields : Bytes) {fuel : Nat}
    (hfuel : (updates ++ fields).length < fuel) :
    ∃ fuel', fields.length < fuel' ∧ decodeFields fuel (mirror t) [] (updates ++ fields) =
      decodeFields fuel' (mirror t') [] fields := by
  induction h generalizing fuel with
  | nil => exact ⟨fuel, hfuel, rfl⟩
  | @cons t t' size code rest hsize hcode _ ih =>
    obtain ⟨fuel, rfl⟩ := Nat.exists_eq_succ_of_ne_zero (Nat.ne_of_gt (Nat.zero_lt_of_lt hfuel))
    have hpos : 0 < code.length := by
      obtain ⟨p, -, tail, rfl⟩ := hcode.first
      exact Nat.succ_pos _
    rw [append_assoc] at hfuel ⊢
    rw [length_append] at hfuel
    obtain ⟨fuel', hfuel', heq⟩ := ih (show (rest ++ fields).length < fuel by omega)
    refine ⟨fuel', hfuel', ?_⟩
    have hne : (code ++ (rest ++ fields)).isEmpty = false := by
      rw [isEmpty_eq_false_iff, ← length_pos_iff, length_append]
      omega
    rw [decodeFields, hne, if_neg Bool.false_ne_true, if_neg (by decide),
      decodeField_update hsize hcode]
    exact heq

theorem decodeHeaderBlock_conforms {b : EncodedBlock} (h : b.Conforms t) :
    (mirror t).decodeHeaderBlock b.bytes = (.ok b.headers, mirror b.tableAfter) := by
  obtain ⟨t', updates, fields, hbytes, hupdates, hfields⟩ := h.coded
  obtain ⟨fuel, hfuel, hskip⟩ := decodeFields_updatesCode hupdates fields (Nat.lt_succ_self _)
  have hcount : ([] : List Header).length + b.headers.length ≤ maxHpackHeadersPerBlock := by
    rw [length_nil, Nat.zero_add]
    exact h.count
  have hinner : (mirror t).decodeBlockInner b.bytes = (.ok b.headers, mirror b.tableAfter) := by
    rw [decodeBlockInner, hbytes, hskip,
      decodeFields_fieldsCode hfields h.bounded hfuel hcount, nil_append]
  rw [decodeHeaderBlock, if_neg (show ¬ (mirror t).poisoned = true from Bool.false_ne_true), hinner]

/-- The blocks of a direction, decoded in order: what each gives and the decoder behind it. -/
def decodeBlocks : HpackDecoder → List Bytes → List (Except Http2Extraction (List Header) × HpackDecoder)
  | _, [] => []
  | d, block :: blocks =>
    let result := d.decodeHeaderBlock block
    result :: decodeBlocks result.2 blocks

theorem decodeBlocks_mirror {blocks : List EncodedBlock} (h : EncoderRun t blocks) :
    decodeBlocks (mirror t) (blocks.map EncodedBlock.bytes) =
      blocks.map fun b => (.ok b.headers, mirror b.tableAfter) := by
  induction h with
  | nil => rfl
  | @cons t b bs hb _ ih =>
    rw [map_cons, map_cons, decodeBlocks, decodeHeaderBlock_conforms hb, ih]

/-- **HPACK round trip over a connection.** The blocks of any conforming encoder decode to the header
lists they were made for, and the decoder's table is the encoder's after every block. -/
theorem decodeBlocks_encoderRun {blocks : List EncodedBlock} (h : EncoderRun EncoderTable.initial blocks) :
    decodeBlocks HpackDecoder.new (blocks.map EncodedBlock.bytes) =
      blocks.map fun b => (.ok b.headers, mirror b.tableAfter) :=
  decodeBlocks_mirror h

/-- A connection of two blocks: a size update with a byte more than it needs and an indexed literal
field with a Huffman coded name; then the same field by its index. -/
theorem decodeBlocks_encoderRun_two :
    decodeBlocks HpackDecoder.new [[0x3f, 0xc5, 0x00, 0x40, 0x81, 0x1f, 0x01, 0x62], [0xbe]] =
      [(.ok [(text "a", text "b")], ⟨[(text "a", text "b")], 34, 100, false⟩),
       (.ok [(text "a", text "b")], ⟨[(text "a", text "b")], 34, 100, false⟩)] := by
  let sized := EncoderTable.initial.setMaxSize 100 (by decide)
  let entry : Header := (text "a", text "b")
  have hsize : IntegerCode 5 32 (2 ^ 5 - 1 + (69 + 128 * 0)) [0x3f, 0xc5, 0x00] :=
    .long (.more (by decide) (.last (by decide))) (by decide)
  have hupdates : UpdatesCode EncoderTable.initial ([0x3f, 0xc5, 0x00] ++ []) sized :=
    .cons (by decide) hsize .nil
  have hname : StringCode entry.1 ([0x81] ++ [0x1f]) :=
    .huffman ⟨3, by decide, by decide⟩ (.short (by decide))
  have hvalue : StringCode entry.2 ([0x01] ++ text "b") := .plain (.short (by decide))
  have hzero : IntegerCode 6 64 0 [0x40] := .short (by decide)
  have hliteral : FieldsCode sized [entry] ([0x40] ++ ([0x81] ++ [0x1f]) ++ ([0x01] ++ text "b") ++ [])
      (sized.insert entry) := .cons (.incremental (.literal hzero hname) hvalue) .nil
  have hat : (sized.insert entry).At 62 entry := ⟨by decide, by decide⟩
  have hindexed : FieldsCode (sized.insert entry) [entry] ([0xbe] ++ []) (sized.insert entry) :=
    .cons (.indexed hat (.short (by decide))) .nil
  have hbounded : ∀ e ∈ [entry], Bounded e := by
    intro e he
    rw [mem_singleton.mp he]
    exact ⟨by decide, by decide, by decide, by decide⟩
  have hrun : EncoderRun EncoderTable.initial
      [⟨[entry], [0x3f, 0xc5, 0x00, 0x40, 0x81, 0x1f, 0x01, 0x62], sized.insert entry⟩,
       ⟨[entry], [0xbe], sized.insert entry⟩] :=
    .cons ⟨by decide, hbounded, _, _, _, rfl, hupdates, hliteral⟩
      (.cons ⟨by decide, hbounded, _, [], _, rfl, .nil, hindexed⟩ .nil)
  exact decodeBlocks_encoderRun hrun

end ENavigator.Http2
