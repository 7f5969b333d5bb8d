import ENavigator.Mysql.Lifecycle

/-!
# What a MySQL server sends

Integers and texts with an encoded length, column definitions, rows and terminators, as the protocol writes them,
and what the readers of `Mysql.Parser` make of them:

* `readLengthEncodedInteger_append` : an integer is read at any cursor;
* `isTextResultsetRow_payload` : a row is recognised as one;
* `validateColumnDefinition41_payload` : a column definition is accepted unless a component is too long;
* `packetParts_packet` : a packet gives back its payload.
-/

namespace ENavigator.Mysql

open ENavigator.Correlation List

/-! ## Integers -/

inductive IntWidth where
  | one | two | three | eight

def IntWidth.bound : IntWidth → Nat
  | one => 251
  | two => 2 ^ 16
  | three => 2 ^ 24
  | eight => 2 ^ 64

def IntWidth.encode : IntWidth → Nat → Bytes
  | one, n => [UInt8.ofNat n]
  | two, n => 0xfc :: leBytes 2 n
  | three, n => 0xfd :: leBytes 3 n
  | eight, n => 0xfe :: leBytes 8 n

structure LengthEncodedInteger where
  width : IntWidth
  value : Nat
  fits : value < width.bound

def LengthEncodedInteger.bytes (i : LengthEncodedInteger) : Bytes := i.width.encode i.value

def u16Le (n : UInt16) : Bytes := leBytes 2 n.toNat

theorem length_u16Le (n : UInt16) : (u16Le n).length = 2 := length_leBytes 2 n.toNat

theorem leNat_u16Le (n : UInt16) : leNat (u16Le n) = n.toNat := by
  rw [u16Le, leNat_leBytes]
  exact Nat.mod_eq_of_lt n.toNat_lt

theorem getRange_append (before value after : Bytes) :
    getRange (before ++ (value ++ after)) before.length (before.length + value.length) = some value := by
  have hbounds : before.length ≤ before.length + value.length ∧
      before.length + value.length ≤ (before ++ (value ++ after)).length := by
    simp only [length_append]
    omega
  rw [getRange, if_pos hbounds, drop_left, Nat.add_sub_cancel_left, take_left]

theorem getElem?_length_append (before : Bytes) (b : UInt8) (after : Bytes) :
    (before ++ b :: after)[before.length]? = some b := by
  rw [List.getElem?_append_right (Nat.le_refl _), Nat.sub_self]
  rfl

theorem readFixedWidthInteger_append (before : Bytes) (marker : UInt8) (width n : Nat) (after : Bytes) :
    readFixedWidthInteger (before ++ (marker :: leBytes width n ++ after)) (before.length + 1) width =
      .ok (n % 256 ^ width, before.length + 1 + width) := by
  have hcut : before ++ (marker :: leBytes width n ++ after) = (before ++ [marker]) ++ (leBytes width n ++ after) := by
    rw [append_assoc]
    rfl
  have hrange : getRange (before ++ (marker :: leBytes width n ++ after)) (before.length + 1)
      (before.length + 1 + width) = some (leBytes width n) := by
    have h := getRange_append (before ++ [marker]) (leBytes width n) after
    rw [length_append, length_leBytes] at h
    rw [hcut]
    exact h
  rw [readFixedWidthInteger, hrange]
  exact congrArg (fun value => Except.ok (value, before.length + 1 + width)) (leNat_leBytes width n)

theorem readLengthEncodedInteger_marker {marker : UInt8} {width n : Nat}
    (hselects : ∀ (bytes : Bytes) (cursor : Nat), bytes[cursor]? = some marker →
      readLengthEncodedInteger bytes cursor = readFixedWidthInteger bytes (cursor + 1) width)
    (hfits : n < 256 ^ width) (before after : Bytes) :
    readLengthEncodedInteger (before ++ (marker :: leBytes width n ++ after)) before.length =
      .ok (n, before.length + (marker :: leBytes width n).length) := by
  have hmarker : (before ++ (marker :: leBytes width n ++ after))[before.length]? = some marker :=
    getElem?_length_append before marker (leBytes width n ++ after)
  rw [hselects _ _ hmarker, readFixedWidthInteger_append, Nat.mod_eq_of_lt hfits, length_cons, length_leBytes,
    Nat.add_assoc, Nat.add_comm 1 width]

theorem readLengthEncodedInteger_append (before : Bytes) (i : LengthEncodedInteger) (after : Bytes) :
    readLengthEncodedInteger (before ++ (i.bytes ++ after)) before.length =
      .ok (i.value, before.length + i.bytes.length) := by
  rcases i with ⟨width, n, hfits⟩
  cases width with
  | one =>
    have hn : (UInt8.ofNat n).toNat = n := UInt8.toNat_ofNat_of_lt' (Nat.lt_trans hfits (by decide))
    have hmarker : UInt8.ofNat n ≤ 0xfa := by
      rw [UInt8.le_iff_toNat_le, hn]
      exact Nat.le_of_lt_succ hfits
    simp only [LengthEncodedInteger.bytes, IntWidth.encode, readLengthEncodedInteger, cons_append,
      nil_append, getElem?_length_append, if_pos hmarker, hn, length_singleton]
  | two | three | eight =>
    refine readLengthEncodedInteger_marker (fun bytes cursor h => ?_) hfits before after
    rw [readLengthEncodedInteger, h]
    rfl

theorem IntWidth.encode_ne_nil (width : IntWidth) (n : Nat) : width.encode n ≠ [] := by
  cases width with
  | one | two | three | eight => exact cons_ne_nil _ _

theorem IntWidth.toNat_of_head?_one {n : Nat} (h : n < 251) {b : UInt8} (hhead : (one.encode n).head? = some b) :
    b.toNat = n := by
  rw [← Option.some.inj hhead]
  exact UInt8.toNat_ofNat_of_lt' (Nat.lt_trans h (by decide))

/-- An integer starts with no byte that has another meaning at its place. -/
theorem IntWidth.head?_encode {width : IntWidth} {n : Nat} (h : n < width.bound) (b : UInt8)
    (hb : b = mysqlLocalInfilePacket ∨ b = mysqlErrPacket) : (width.encode n).head? ≠ some b := by
  cases width with
  | one =>
    intro hhead
    have hvalue := toNat_of_head?_one h hhead
    have hlarge : 251 ≤ b.toNat := by
      rcases hb with rfl | rfl
      · decide
      · decide
    have hsmall : n < 251 := h
    omega
  | two | three | eight =>
    intro hhead
    have hmarker := Option.some.inj hhead
    rcases hb with rfl | rfl <;> exact absurd hmarker (by decide)

theorem IntWidth.nine_le_length {width : IntWidth} {n : Nat} (h : n < width.bound)
    (hhead : (width.encode n).head? = some mysqlEofPacket) : 9 ≤ (width.encode n).length := by
  cases width with
  | one =>
    have hvalue := toNat_of_head?_one h hhead
    have hsmall : n < 251 := h
    have hlarge : mysqlEofPacket.toNat = 254 := rfl
    omega
  | two | three => exact absurd (Option.some.inj hhead) (by decide)
  | eight => exact Nat.le_of_eq (by rw [encode, length_cons, length_leBytes])

/-! ## Texts and rows -/

structure LengthEncodedString where
  width : IntWidth
  value : Bytes
  fits : value.length < width.bound

namespace LengthEncodedString

def length (s : LengthEncodedString) : LengthEncodedInteger := ⟨s.width, s.value.length, s.fits⟩

def bytes (s : LengthEncodedString) : Bytes := s.length.bytes ++ s.value

theorem length_bytes (s : LengthEncodedString) : s.bytes.length = s.length.bytes.length + s.value.length :=
  length_append

theorem read_append (before : Bytes) (s : LengthEncodedString) (after : Bytes) :
    readLengthEncodedInteger (before ++ (s.bytes ++ after)) before.length =
      .ok (s.value.length, before.length + s.length.bytes.length) := by
  rw [bytes, append_assoc]
  exact readLengthEncodedInteger_append before s.length (s.value ++ after)

end LengthEncodedString

/-- The values of a row; `none` is the null value. -/
abbrev Row := List (Option LengthEncodedString)

def valueBytes : Option LengthEncodedString → Bytes
  | none => [mysqlLocalInfilePacket]
  | some value => value.bytes

def rowPayload (row : Row) : Bytes := (row.map valueBytes).flatten

/-- What a value starts with tells the null value from the others, and neither is an error. -/
theorem exists_valueBytes (value : Option LengthEncodedString) :
    ∃ marker rest, valueBytes value = marker :: rest ∧ (marker = mysqlLocalInfilePacket ↔ value = none) ∧
      marker ≠ mysqlErrPacket := by
  rcases value with _ | s
  · exact ⟨mysqlLocalInfilePacket, [], rfl, ⟨fun _ => rfl, fun _ => rfl⟩, by decide⟩
  · have hhead := IntWidth.head?_encode s.fits
    obtain ⟨marker, rest, hencode⟩ := exists_cons_of_ne_nil (s.width.encode_ne_nil s.value.length)
    rw [hencode] at hhead
    refine ⟨marker, rest ++ s.value, ?_, ⟨?_, nofun⟩, ?_⟩
    · show s.width.encode s.value.length ++ s.value = _
      rw [hencode]
      rfl
    · exact fun h => absurd (congrArg some h) (hhead _ (.inl rfl))
    · exact fun h => hhead _ (.inr rfl) (congrArg some h)

theorem skipRowValues_append (row : Row) (before after : Bytes) :
    skipRowValues (before ++ (rowPayload row ++ after)) row.length before.length =
      some (before.length + (rowPayload row).length) := by
  induction row generalizing before with
  | nil => rfl
  | cons value row ih =>
    have hpayload : rowPayload (value :: row) = valueBytes value ++ rowPayload row := rfl
    have hend : before.length + (rowPayload (value :: row)).length =
        before.length + (valueBytes value).length + (rowPayload row).length := by
      rw [hpayload, length_append, Nat.add_assoc]
    have hnext := ih (before ++ valueBytes value)
    rw [append_assoc, length_append] at hnext
    obtain ⟨marker, rest, hvalue, hnull, -⟩ := exists_valueBytes value
    have hmarker : (before ++ (valueBytes value ++ (rowPayload row ++ after)))[before.length]? = some marker := by
      rw [hvalue]
      exact getElem?_length_append before marker (rest ++ (rowPayload row ++ after))
    rw [hend, hpayload, append_assoc, length_cons, skipRowValues, hmarker]
    dsimp only
    rcases value with _ | s
    · rw [if_pos (hnull.mpr rfl)]
      exact hnext
    · have hread := s.read_append before (rowPayload row ++ after)
      have hfits : ¬ before.length + s.length.bytes.length + s.value.length >
          (before ++ (valueBytes (some s) ++ (rowPayload row ++ after))).length := by
        have hlength := s.length_bytes
        simp only [valueBytes, length_append]
        omega
      rw [if_neg (fun h => by cases hnull.mp h)]
      simp only [valueBytes] at hread hfits hnext ⊢
      rw [hread]
      refine (if_neg hfits).trans ?_
      rw [s.length_bytes, ← Nat.add_assoc] at hnext
      rw [s.length_bytes, ← Nat.add_assoc]
      exact hnext

theorem isTextResultsetRow_payload (row : Row) : isTextResultsetRow (rowPayload row) row.length = true := by
  have h := skipRowValues_append row [] []
  rw [append_nil, nil_append, length_nil, Nat.zero_add] at h
  exact decide_eq_true h

theorem rowPayload_head? {row : Row} (h : row ≠ []) : (rowPayload row).head? ≠ some mysqlErrPacket := by
  obtain ⟨value, row, rfl⟩ := exists_cons_of_ne_nil h
  obtain ⟨marker, rest, hvalue, -, hmarker⟩ := exists_valueBytes value
  rw [show rowPayload (value :: row) = valueBytes value ++ rowPayload row from rfl, hvalue]
  exact fun hhead => hmarker (Option.some.inj hhead)

theorem isEofPacket_rowPayload (row : Row) : isEofPacket (rowPayload row) = false := by
  refine decide_eq_false ?_
  rintro ⟨hhead, hshort⟩
  rcases row with _ | ⟨_ | s, row⟩
  · cases hhead
  · exact absurd (Option.some.inj hhead) (by decide)
  · have hpayload : rowPayload (some s :: row) = s.width.encode s.value.length ++ (s.value ++ rowPayload row) :=
      append_assoc _ _ _
    rw [hpayload, List.head?_append_of_ne_nil _ (s.width.encode_ne_nil _)] at hhead
    have hlong := IntWidth.nine_le_length s.fits hhead
    rw [hpayload, length_append] at hshort
    omega

/-! ## Column definitions -/

/-- Catalog, schema, table, original table, name and original name, and the fields of fixed width. -/
structure ColumnDefinition41 where
  components : List LengthEncodedString
  fixedFields : Bytes
  six : components.length = 6
  twelve : fixedFields.length = 12

def componentBytes (components : List LengthEncodedString) : Bytes :=
  (components.map LengthEncodedString.bytes).flatten

def ColumnDefinition41.payload (column : ColumnDefinition41) : Bytes :=
  componentBytes column.components ++ (0x0c :: column.fixedFields)

/-- No component is longer than the tracker reads. -/
def ColumnDefinition41.readable (maxComponentBytes : Nat) (column : ColumnDefinition41) : Bool :=
  column.components.all fun component => component.value.length ≤ maxComponentBytes

theorem skipComponents_append (maxComponentBytes : Nat) (components : List LengthEncodedString) (before after : Bytes) :
    skipComponents (before ++ (componentBytes components ++ after)) maxComponentBytes components.length before.length =
      if components.all (fun component => component.value.length ≤ maxComponentBytes) then
        .ok (before.length + (componentBytes components).length)
      else .error .queryTooLong := by
  induction components generalizing before with
  | nil => rfl
  | cons s components ih =>
    have hbytes : componentBytes (s :: components) = s.bytes ++ componentBytes components := rfl
    have hend : before.length + (componentBytes (s :: components)).length =
        before.length + s.bytes.length + (componentBytes components).length := by
      rw [hbytes, length_append, Nat.add_assoc]
    have hread := s.read_append before (componentBytes components ++ after)
    have hnext := ih (before ++ s.bytes)
    rw [append_assoc, length_append] at hnext
    have hlength := s.length_bytes
    rw [hend, hbytes, append_assoc, length_cons, skipComponents, hread, all_cons]
    by_cases hlong : s.value.length > maxComponentBytes
    · simp only [Nat.not_le.mpr hlong, decide_false, Bool.false_and, Bool.false_eq_true, if_false]
      exact if_pos hlong
    · have hfits : ¬ before.length + s.length.bytes.length + s.value.length >
          (before ++ (s.bytes ++ (componentBytes components ++ after))).length := by
        simp only [length_append]
        omega
      simp only [Nat.not_lt.mp hlong, decide_true, Bool.true_and]
      refine (if_neg hlong).trans ((if_neg hfits).trans ?_)
      rw [Nat.add_assoc, ← hlength]
      exact hnext

theorem validateColumnDefinition41_payload (maxComponentBytes : Nat) (column : ColumnDefinition41) :
    validateColumnDefinition41 column.payload maxComponentBytes =
      if column.readable maxComponentBytes then .ok () else .error .queryTooLong := by
  have hskip := skipComponents_append maxComponentBytes column.components [] (0x0c :: column.fixedFields)
  rw [column.six, nil_append, length_nil, Nat.zero_add] at hskip
  rw [validateColumnDefinition41, ColumnDefinition41.payload, hskip, ColumnDefinition41.readable]
  split
  · have hfixed := readLengthEncodedInteger_append (componentBytes column.components) ⟨.one, 0x0c, by decide⟩
      column.fixedFields
    have hend : (componentBytes column.components).length + 1 + 12 =
        (componentBytes column.components ++ (0x0c :: column.fixedFields)).length := by
      rw [length_append, length_cons, column.twelve]
    show (readLengthEncodedInteger _ _ >>= _) = _
    rw [show componentBytes column.components ++ (0x0c :: column.fixedFields) = componentBytes column.components ++
      ((LengthEncodedInteger.mk .one 0x0c (by decide)).bytes ++ column.fixedFields) from rfl] at hend ⊢
    rw [hfixed]
    exact if_neg fun h => h hend
  · rfl

theorem ColumnDefinition41.head?_payload (column : ColumnDefinition41) :
    column.payload.head? ≠ some mysqlErrPacket := by
  obtain ⟨s, components, hcomponents⟩ := exists_cons_of_length_eq_add_one column.six
  obtain ⟨marker, rest, hvalue, -, hmarker⟩ := exists_valueBytes (some s)
  rw [ColumnDefinition41.payload, hcomponents, show componentBytes (s :: components) = valueBytes (some s) ++
    componentBytes components from rfl, hvalue]
  exact fun hhead => hmarker (Option.some.inj hhead)

/-! ## Terminators -/

structure EofPacket where
  warnings : UInt16
  status : UInt16

namespace EofPacket

variable (eof : EofPacket)

def payload : Bytes := mysqlEofPacket :: (u16Le eof.warnings ++ u16Le eof.status)

theorem length_payload : eof.payload.length = 5 := by
  rw [payload, length_cons, length_append, length_u16Le, length_u16Le]

theorem isEofPacket_payload : isEofPacket eof.payload = true := by
  refine decide_eq_true ⟨rfl, ?_⟩
  rw [length_payload]
  decide

theorem isOkPacket_payload : isOkPacket eof.payload = false := rfl

theorem mysqlStatusFlags_payload : mysqlStatusFlags eof.payload = some eof.status.toNat := by
  have hlength : eof.payload.length ≥ 5 := Nat.le_of_eq eof.length_payload.symm
  have hstatus : readU16Le eof.payload 3 = eof.status.toNat := by
    have hdrop : eof.payload.drop 3 = u16Le eof.status := by
      show ((mysqlEofPacket :: u16Le eof.warnings) ++ u16Le eof.status).drop 3 = _
      exact drop_left' (by rw [length_cons, length_u16Le])
    rw [readU16Le, hdrop, take_of_length_le (Nat.le_of_eq (length_u16Le _)), leNat_u16Le]
  rw [mysqlStatusFlags, if_pos eof.isEofPacket_payload, if_pos hlength, hstatus]

theorem parseResponsePayload_payload (maxAttributes : Nat) :
    parseResponsePayload eof.payload maxAttributes = .ok (mysqlEofResponse maxAttributes) := by
  have hhead : eof.payload.head? = some mysqlEofPacket := rfl
  have hnotOk : ¬ some mysqlEofPacket = some mysqlOkPacket := by decide
  have hnot : ¬ isOkPacket eof.payload = true := by
    rw [isOkPacket_payload]
    decide
  rw [parseResponsePayload, hhead, if_neg hnotOk, if_pos rfl, if_neg hnot, if_pos (.inr eof.length_payload)]

end EofPacket

/-- The OK packet that ends a result set when no EOF packets are sent. -/
structure OkTerminator where
  affectedRows : LengthEncodedInteger
  lastInsertId : LengthEncodedInteger
  status : UInt16
  warnings : UInt16
  info : Bytes

namespace OkTerminator

variable (ok : OkTerminator)

def payload : Bytes :=
  mysqlEofPacket :: (ok.affectedRows.bytes ++ (ok.lastInsertId.bytes ++
    (u16Le ok.status ++ (u16Le ok.warnings ++ ok.info))))

def front : Bytes := mysqlEofPacket :: (ok.affectedRows.bytes ++ ok.lastInsertId.bytes)

theorem payload_eq : ok.payload = ok.front ++ (u16Le ok.status ++ (u16Le ok.warnings ++ ok.info)) := by
  rw [front, cons_append, append_assoc]
  rfl

theorem afterLastInsertId_payload : afterLastInsertId ok.payload = .ok ok.front.length := by
  have hrows := readLengthEncodedInteger_append [mysqlEofPacket] ok.affectedRows
    (ok.lastInsertId.bytes ++ (u16Le ok.status ++ (u16Le ok.warnings ++ ok.info)))
  have hinsert := readLengthEncodedInteger_append (mysqlEofPacket :: ok.affectedRows.bytes) ok.lastInsertId
    (u16Le ok.status ++ (u16Le ok.warnings ++ ok.info))
  have hfront : ok.front.length = (mysqlEofPacket :: ok.affectedRows.bytes).length + ok.lastInsertId.bytes.length := by
    rw [front, ← cons_append, length_append]
  rw [hfront, afterLastInsertId]
  rw [show readLengthEncodedInteger ok.payload 1 = _ from hrows]
  show (readLengthEncodedInteger _ _ >>= _) = _
  rw [show [mysqlEofPacket].length + ok.affectedRows.bytes.length =
    (mysqlEofPacket :: ok.affectedRows.bytes).length from
    Nat.add_comm 1 _, show readLengthEncodedInteger ok.payload (mysqlEofPacket :: ok.affectedRows.bytes).length = _ from
    hinsert]
  rfl

theorem front_add_four_le : ok.front.length + 4 ≤ ok.payload.length := by
  rw [payload_eq, length_append, length_append, length_append, length_u16Le, length_u16Le]
  omega

theorem isOkPacket_payload : isOkPacket ok.payload = decide (9 ≤ ok.payload.length) := by
  have hhead : ok.payload.head? = some mysqlEofPacket := rfl
  simp only [isOkPacket, hhead, afterLastInsertId_payload]
  by_cases hlong : 9 ≤ ok.payload.length
  · simp only [if_neg (Nat.not_lt.mpr hlong), decide_eq_true ok.front_add_four_le, decide_eq_true hlong]
    rfl
  · simp only [if_pos (Nat.not_le.mp hlong), decide_eq_false hlong]
    rfl

theorem isEofPacket_payload : isEofPacket ok.payload = decide (ok.payload.length < 9) :=
  decide_eq_decide.mpr (and_iff_right rfl)

theorem mysqlStatusFlags_payload (h : 9 ≤ ok.payload.length) :
    mysqlStatusFlags ok.payload = some ok.status.toNat := by
  have hnotEof : ¬ isEofPacket ok.payload = true := by
    rw [isEofPacket_payload, decide_eq_true_eq]
    omega
  have hok : ¬ (!isOkPacket ok.payload) = true := by
    rw [isOkPacket_payload, decide_eq_true h]
    decide
  have hrange : getRange ok.payload ok.front.length (ok.front.length + 2) = some (u16Le ok.status) := by
    have h := getRange_append ok.front (u16Le ok.status) (u16Le ok.warnings ++ ok.info)
    rw [payload_eq]
    exact h
  rw [mysqlStatusFlags, if_neg hnotEof, if_neg hok, afterLastInsertId_payload]
  show (getRange _ _ _).map leNat = _
  rw [hrange, Option.map_some, leNat_u16Le]

theorem seven_le_length : 7 ≤ ok.payload.length := by
  have hrows : ∀ i : LengthEncodedInteger, 1 ≤ i.bytes.length :=
    fun i => length_pos_iff.mpr (i.width.encode_ne_nil i.value)
  have hfront := ok.front_add_four_le
  have haffected := hrows ok.affectedRows
  have hinsert := hrows ok.lastInsertId
  rw [front, length_cons, length_append] at hfront
  omega

theorem parseResponsePayload_payload (maxAttributes : Nat) :
    parseResponsePayload ok.payload maxAttributes =
      if 9 ≤ ok.payload.length then .ok (mysqlOkResponse maxAttributes) else .error .unsupportedResponse := by
  have hhead : ok.payload.head? = some mysqlEofPacket := rfl
  have hnotOk : ¬ some mysqlEofPacket = some mysqlOkPacket := by decide
  have hseven := ok.seven_le_length
  rw [parseResponsePayload, hhead, if_neg hnotOk, if_pos rfl, isOkPacket_payload]
  by_cases hlong : 9 ≤ ok.payload.length
  · rw [if_pos (decide_eq_true hlong), if_pos hlong]
  · rw [if_neg (by simpa using hlong), if_neg hlong, if_neg (by omega)]

end OkTerminator

/-! ## Packets -/

def packet (sequence : UInt8) (payload : Bytes) : Bytes := leBytes 3 payload.length ++ sequence :: payload

theorem length_packet (sequence : UInt8) (payload : Bytes) : (packet sequence payload).length = payload.length + 4 := by
  rw [packet, length_append, length_leBytes, length_cons]
  omega

theorem packetParts_packet (sequence : UInt8) {payload : Bytes} {maxPacketBytes : Nat}
    (hphysical : payload.length < 2 ^ 24) (hmax : payload.length + 4 ≤ maxPacketBytes) :
    packetParts (packet sequence payload) maxPacketBytes = .ok (sequence, payload) := by
  have hlen : mysqlPayloadLen (packet sequence payload) = payload.length := by
    have htake : (packet sequence payload).take 3 = leBytes 3 payload.length :=
      take_left' (length_leBytes 3 payload.length)
    rw [mysqlPayloadLen, htake, leNat_leBytes]
    exact Nat.mod_eq_of_lt hphysical
  have hdrop : (packet sequence payload).drop 4 = payload := by
    show (leBytes 3 payload.length ++ ([sequence] ++ payload)).drop 4 = payload
    rw [← append_assoc]
    exact drop_left' (by rw [length_append, length_leBytes]; rfl)
  have hsequence : (packet sequence payload).getD 3 0 = sequence := rfl
  rw [packetParts, hlen, hdrop, hsequence, take_length, length_packet, if_neg (by omega), if_neg (by omega),
    if_neg (by omega)]

end ENavigator.Mysql
