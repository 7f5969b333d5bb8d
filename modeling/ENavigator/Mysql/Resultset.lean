import ENavigator.Mysql.Completion

/-!
# Text result sets

The answer to a query that returns rows, with EOF packets or without. `textResultset_completes_iff` says when the
lifecycle completes at its last packet: every column definition has components that the tracker reads, and the
terminator counts as one. The OK packet without a text that usually ends the rows where EOF packets are deprecated
does not (`emptyResultset_goes_on`): it is shorter than nine bytes, so it is taken for an EOF packet.
-/

namespace ENavigator.Mysql

open ENavigator.Correlation List

variable {config : ProtocolExtractionConfig}

inductive ResultsetEnding where
  | legacy (metadata terminal : EofPacket)
  | ok (terminal : OkTerminator)

/-- The answer to a query: the metadata EOF packet is there exactly if an EOF packet ends the rows. -/
structure TextResultset where
  columns : List ColumnDefinition41
  rows : List Row
  ending : ResultsetEnding
  columns_pos : 1 ≤ columns.length
  columns_le : columns.length ≤ maxMysqlResultColumns
  rows_length : ∀ row ∈ rows, row.length = columns.length
  final : ∀ terminal, ending = .ok terminal → terminal.status.toNat &&& mysqlServerMoreResultsExists = 0

/-- The number of columns, in as few bytes as it needs. -/
def columnCount (n : Nat) (h : n ≤ maxMysqlResultColumns) : LengthEncodedInteger :=
  if hsmall : n < 251 then ⟨.one, n, hsmall⟩ else ⟨.two, n, Nat.lt_of_le_of_lt h (by decide)⟩

namespace ResultsetEnding

/-- What comes between the columns and the rows. -/
def metadata : ResultsetEnding → List Bytes
  | legacy metadata _ => [metadata.payload]
  | ok _ => []

def terminal : ResultsetEnding → Bytes
  | legacy _ terminal => terminal.payload
  | ok terminal => terminal.payload

/-- The terminator counts as one: an EOF packet announces no further results; an OK packet is not as short as an EOF
packet and does not read as a row. -/
def recognised (columns : Nat) : ResultsetEnding → Bool
  | legacy _ terminal => terminal.status.toNat &&& mysqlServerMoreResultsExists = 0
  | ok terminal => 9 ≤ terminal.payload.length && !isTextResultsetRow terminal.payload columns

theorem ne_nil (ending : ResultsetEnding) : ∀ payload ∈ ending.metadata ++ [ending.terminal], payload ≠ [] := by
  rcases ending with ⟨metadata, terminal⟩ | terminal
  · exact forall_mem_cons.mpr ⟨cons_ne_nil _ _, forall_mem_singleton.mpr (cons_ne_nil _ _)⟩
  · exact forall_mem_singleton.mpr (cons_ne_nil _ _)

end ResultsetEnding

namespace TextResultset

def payloads (r : TextResultset) : List Bytes :=
  (columnCount r.columns.length r.columns_le).bytes ::
    (r.columns.map ColumnDefinition41.payload ++ (r.ending.metadata ++ (r.rows.map rowPayload ++ [r.ending.terminal])))

/-- Every column definition can be read and the terminator counts as one. -/
def recognised (config : ProtocolExtractionConfig) (r : TextResultset) : Bool :=
  r.columns.all (ColumnDefinition41.readable config.maxRequestLineBytes) && r.ending.recognised r.columns.length

end TextResultset

/-- Where the lifecycle is when `remaining` column definitions are still to come. -/
def columnsPhase (total remaining : Nat) : MysqlResponsePhase :=
  if remaining = 0 then .rows total false else .columns remaining total

theorem exists_columnCount {n : Nat} (hpos : 1 ≤ n) (h : n ≤ maxMysqlResultColumns) :
    ∃ marker rest, (columnCount n h).bytes = marker :: rest ∧ marker ≠ mysqlOkPacket ∧ marker ≠ mysqlEofPacket ∧
      marker ≠ mysqlLocalInfilePacket ∧ marker ≠ mysqlErrPacket := by
  unfold columnCount
  split
  · next hsmall =>
    have hn : (UInt8.ofNat n).toNat = n := UInt8.toNat_ofNat_of_lt' (Nat.lt_trans hsmall (by decide))
    have hne : ∀ b : UInt8, b.toNat = 0 ∨ 251 ≤ b.toNat → UInt8.ofNat n ≠ b := by
      rintro b hb rfl
      omega
    refine ⟨UInt8.ofNat n, [], rfl, ?_, ?_, ?_, ?_⟩
    · exact hne _ (.inl rfl)
    all_goals exact hne _ (.inr (by decide))
  · exact ⟨0xfc, leBytes 2 n, rfl, by decide, by decide, by decide, by decide⟩

theorem value_columnCount (n : Nat) (h : n ≤ maxMysqlResultColumns) : (columnCount n h).value = n := by
  unfold columnCount
  split
  · rfl
  · rfl

theorem responseTransition_columnCount {n : Nat} (hpos : 1 ≤ n) (h : n ≤ maxMysqlResultColumns) (bytes : Bytes) :
    responseTransition .command .initial (columnCount n h).bytes bytes config = .ok (.continue (.columns n n)) := by
  have hread := readLengthEncodedInteger_append [] (columnCount n h) []
  rw [append_nil, nil_append, value_columnCount, length_nil, Nat.zero_add] at hread
  obtain ⟨marker, rest, hbytes, hok, heof, hinfile, herr⟩ := exists_columnCount hpos h
  have hhead : (columnCount n h).bytes.head? = some marker := by rw [hbytes]; rfl
  have hne : ∀ b, marker ≠ b → ¬ some marker = some b := fun b hb heq => hb (Option.some.inj heq)
  have hnotOk : isOkPacket (columnCount n h).bytes = false := by
    simp only [isOkPacket, hhead, if_neg (hne _ hok), if_neg (hne _ heof)]
  have hnotEof : isEofPacket (columnCount n h).bytes = false := by
    refine decide_eq_false fun heofPacket => hne _ heof ?_
    exact hhead.symm.trans heofPacket.1
  have hcount : ¬ ((columnCount n h).bytes.length ≠ (columnCount n h).bytes.length ∨ n = 0 ∨
      n > maxMysqlResultColumns) := by
    omega
  simp only [responseTransition, initialTransition, hhead, if_neg (hne _ herr), if_neg (hne _ hinfile), hnotOk, hnotEof,
    Bool.or_self, Bool.false_eq_true, if_false]
  rw [hread]
  exact if_neg hcount

/-! ### Rows and terminators -/

theorem responseTransition_rows {columns : Nat} {payload : Bytes} (herr : payload.head? ≠ some mysqlErrPacket)
    (metadataTerminated : Bool) (bytes : Bytes) :
    responseTransition .command (.rows columns metadataTerminated) payload bytes config =
      if !metadataTerminated && isEofPacket payload then .ok (.continue (.rows columns true))
      else if isTextResultsetRow payload columns then .ok (.continue (.rows columns true))
      else if isOkPacket payload || isEofPacket payload then terminalTransition bytes payload config
      else .error .unsupportedResponse := by
  have hkind : ∀ p : Prop, ¬ (MysqlResponseKind.command = .binaryResultset ∧ p) := fun _ h => nomatch h.1
  simp only [responseTransition, if_neg herr, rowsTransition, if_neg (hkind _)]

theorem completes_rows {columns : Nat} (hpos : 1 ≤ columns) {rows : List Row} (h : ∀ row ∈ rows, row.length = columns)
    (metadataTerminated : Bool) (rest : List Bytes) :
    completes .command config (.rows columns metadataTerminated) (rows.map rowPayload ++ rest) =
      completes .command config (.rows columns (metadataTerminated || !rows.isEmpty)) rest := by
  induction rows generalizing metadataTerminated with
  | nil => rw [isEmpty_nil, Bool.not_true, Bool.or_false]; rfl
  | cons row rows ih =>
    have hlength := h row mem_cons_self
    have hne : row ≠ [] := ne_nil_of_length_pos (by omega)
    have hrow : isTextResultsetRow (rowPayload row) columns = true := hlength ▸ isTextResultsetRow_payload row
    have hstep : responseTransition .command (.rows columns metadataTerminated) (rowPayload row)
        (packet 0 (rowPayload row)) config = .ok (.continue (.rows columns true)) := by
      rw [responseTransition_rows (rowPayload_head? hne), isEofPacket_rowPayload, Bool.and_false,
        if_neg Bool.false_ne_true, if_pos hrow]
    rw [map_cons, cons_append, completes_continue hstep,
      ih (fun r hr => h r (mem_cons_of_mem row hr)), Bool.true_or, isEmpty_cons, Bool.not_false, Bool.or_true]

theorem completes_legacy {columns : Nat} (hpos : 1 ≤ columns) (terminal : EofPacket)
    (hwithin : Within config terminal.payload) :
    completes .command config (.rows columns true) [terminal.payload] =
      decide (terminal.status.toNat &&& mysqlServerMoreResultsExists = 0) := by
  obtain ⟨n, rfl⟩ : ∃ n, columns = n + 1 := ⟨columns - 1, by omega⟩
  have hstep : responseTransition .command (.rows (n + 1) true) terminal.payload (packet 0 terminal.payload) config =
      terminalTransition (packet 0 terminal.payload) terminal.payload config := rfl
  exact completes_eof hwithin hstep

/-- An OK packet that reads as an EOF packet ends nothing: it counts as the metadata terminator, as a row or as an
error. -/
theorem completes_ok {columns : Nat} (terminal : OkTerminator)
    (hfinal : terminal.status.toNat &&& mysqlServerMoreResultsExists = 0) (hwithin : Within config terminal.payload)
    (metadataTerminated : Bool) :
    completes .command config (.rows columns metadataTerminated) [terminal.payload] =
      (ResultsetEnding.ok terminal).recognised columns := by
  have herr : terminal.payload.head? ≠ some mysqlErrPacket := by
    show some mysqlEofPacket ≠ some mysqlErrPacket
    decide
  have hne : terminal.payload ≠ [] := cons_ne_nil _ _
  have hstep : responseTransition .command (.rows columns metadataTerminated) terminal.payload
      (packet 0 terminal.payload) config = _ :=
    responseTransition_rows herr metadataTerminated (packet 0 terminal.payload)
  rw [terminal.isEofPacket_payload, terminal.isOkPacket_payload] at hstep
  rw [ResultsetEnding.recognised]
  by_cases hlong : 9 ≤ terminal.payload.length
  · rw [decide_eq_true hlong, decide_eq_false (Nat.not_lt.mpr hlong), Bool.and_false,
      if_neg Bool.false_ne_true] at hstep
    rw [decide_eq_true hlong, Bool.true_and]
    rcases hrow : isTextResultsetRow terminal.payload columns with _ | _
    · rw [hrow] at hstep
      have hflag : hasFlag mysqlServerMoreResultsExists terminal.payload = false := by
        rw [hasFlag, terminal.mysqlStatusFlags_payload hlong]
        exact decide_eq_false fun h => h hfinal
      have hresponse := terminal.parseResponsePayload_payload config.maxAttributes
      rw [if_pos hlong] at hresponse
      rw [completes_terminal hwithin hne hstep hresponse, hflag]
    · rw [hrow] at hstep
      exact completes_continue hstep []
  · rw [decide_eq_false hlong, decide_eq_true (Nat.not_le.mp hlong), Bool.and_true] at hstep
    rw [decide_eq_false hlong, Bool.false_and]
    cases metadataTerminated with
    | false => exact completes_continue hstep []
    | true =>
      rcases hrow : isTextResultsetRow terminal.payload columns with _ | _
      · rw [hrow] at hstep
        have hresponse := terminal.parseResponsePayload_payload config.maxAttributes
        rw [if_neg hlong] at hresponse
        have herror : terminalTransition (packet 0 terminal.payload) terminal.payload config =
            .error .unsupportedResponse := by
          rw [terminalTransition_packet hwithin hne, hresponse]
          rfl
        exact completes_error (hstep.trans herror) []
      · rw [hrow] at hstep
        exact completes_continue hstep []

namespace TextResultset

theorem completes_payloads {r : TextResultset} (h : ∀ payload ∈ r.payloads, Within config payload) :
    completes .command config .initial r.payloads = r.recognised config := by
  have hterminal : Within config r.ending.terminal := h _ (by simp [payloads])
  have hcolumns : ∀ rest, completes .command config (.columns r.columns.length r.columns.length)
      (r.columns.map ColumnDefinition41.payload ++ rest) =
        (r.columns.all (ColumnDefinition41.readable config.maxRequestLineBytes) &&
          completes .command config (.rows r.columns.length false) rest) :=
    completes_definitions (columnsPhase r.columns.length) (fun _ _ _ herr => if_neg herr)
      (.columns · r.columns.length) (fun _ => rfl) (length_pos_iff.mp r.columns_pos)
  rw [payloads, completes_continue (responseTransition_columnCount r.columns_pos r.columns_le _), hcolumns, recognised]
  refine congrArg _ ?_
  rcases hending : r.ending with ⟨metadata, terminal⟩ | terminal
  · rw [hending] at hterminal
    have hmetadata : responseTransition .command (.rows r.columns.length false) metadata.payload
        (packet 0 metadata.payload) config = .ok (.continue (.rows r.columns.length true)) := by
      rw [responseTransition_rows metadata.head?_payload, metadata.isEofPacket_payload]
      rfl
    show completes _ _ _ (metadata.payload :: (r.rows.map rowPayload ++ [terminal.payload])) = _
    rw [completes_continue hmetadata, completes_rows r.columns_pos r.rows_length, Bool.true_or]
    exact completes_legacy r.columns_pos terminal hterminal
  · rw [hending] at hterminal
    show completes _ _ _ (r.rows.map rowPayload ++ [terminal.payload]) = _
    rw [completes_rows r.columns_pos r.rows_length]
    exact completes_ok terminal (r.final terminal hending) hterminal _

theorem payloads_ne_nil {r : TextResultset} : ∀ payload ∈ r.payloads, payload ≠ [] := by
  obtain ⟨marker, rest, hcount, -⟩ := exists_columnCount r.columns_pos r.columns_le
  have hrow : ∀ row ∈ r.rows, rowPayload row ≠ [] := by
    intro row hrow hempty
    have hlength := r.rows_length row hrow
    have hpos := r.columns_pos
    have hread := isTextResultsetRow_payload row
    rw [hempty] at hread
    rcases row with _ | ⟨value, row⟩
    · simp only [length_nil] at hlength
      omega
    · exact absurd hread (by simp [isTextResultsetRow, skipRowValues])
  obtain ⟨hmetadata, hterminal⟩ := forall_mem_append.mp r.ending.ne_nil
  refine forall_mem_cons.mpr ⟨?_, forall_mem_append.mpr ⟨forall_mem_map.mpr fun column _ => ?_, ?_⟩⟩
  · rw [hcount]
    exact cons_ne_nil _ _
  · exact append_ne_nil_of_right_ne_nil _ (cons_ne_nil _ _)
  · exact forall_mem_append.mpr ⟨hmetadata, forall_mem_append.mpr ⟨forall_mem_map.mpr hrow, hterminal⟩⟩

end TextResultset

theorem textResultset_completes_iff {request : Bytes} {lifecycle : MysqlResponseLifecycle}
    (hrequest : MysqlResponseLifecycle.fromRequest request config = .ok lifecycle)
    (hquery : request[4]? = some mysqlComQuery) (r : TextResultset)
    (hwithin : ∀ payload ∈ r.payloads, Within config payload) :
    completesAtLast config lifecycle (sequenced 1 r.payloads) = true ↔ r.recognised config = true := by
  have hpayloads : ∀ payload ∈ r.payloads, Within config payload ∧ payload ≠ [] :=
    fun payload hpayload => ⟨hwithin payload hpayload, TextResultset.payloads_ne_nil payload hpayload⟩
  have hkind : responseKind mysqlComQuery = .command := rfl
  rw [completesAtLast_request hrequest hquery hpayloads, hkind, TextResultset.completes_payloads hwithin]

/-! ### Two result sets -/

def shortString (value : Bytes) (h : value.length < 251) : LengthEncodedString := ⟨.one, value, h⟩

def idColumn : ColumnDefinition41 where
  components := [shortString (text "def") (by decide), shortString [] (by decide), shortString [] (by decide),
    shortString [] (by decide), shortString (text "id") (by decide), shortString [] (by decide)]
  fixedFields := [63, 0, 11, 0, 0, 0, 3, 1, 0, 0, 0, 0]
  six := rfl
  twelve := rfl

def selectRequest : Bytes := packet 0 (mysqlComQuery :: text "SELECT id FROM t")

def legacyResultset : TextResultset where
  columns := [idColumn]
  rows := [[some (shortString (text "7") (by decide))]]
  ending := .legacy ⟨0, 2⟩ ⟨0, 2⟩
  columns_pos := by decide
  columns_le := by decide
  rows_length := by decide
  final := nofun

theorem textResultset_completes_iff_legacy :
    completesAtLast {} { kind := .command } (sequenced 1 legacyResultset.payloads) = true := by
  have hrequest : MysqlResponseLifecycle.fromRequest selectRequest {} = .ok { kind := .command } := by decide +kernel
  refine (textResultset_completes_iff hrequest (by decide +kernel) legacyResultset (by decide +kernel)).mpr ?_
  decide +kernel

def emptyResultset : TextResultset where
  columns := [idColumn]
  rows := []
  ending := .ok ⟨⟨.one, 0, by decide⟩, ⟨.one, 0, by decide⟩, 2, 0, []⟩
  columns_pos := by decide
  columns_le := by decide
  rows_length := nofun
  final := by rintro terminal h; cases h; rfl

/-- The lifecycle goes on waiting behind the last packet. -/
theorem emptyResultset_goes_on :
    MysqlResponseLifecycle.fromRequest selectRequest {} = .ok { kind := .command } ∧
      selectRequest[4]? = some mysqlComQuery ∧ (∀ payload ∈ emptyResultset.payloads, Within {} payload) ∧
      completesAtLast {} { kind := .command } (sequenced 1 emptyResultset.payloads) = false := by
  decide +kernel

end ENavigator.Mysql
