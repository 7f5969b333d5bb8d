import ENavigator.Mysql.Completion

/-!
# The answer to a prepare

A prepare is answered by a packet that announces the parameters and the columns of the statement, and by their
definitions; an EOF packet follows either list unless both sides deprecate it. The lifecycle knows nothing of what
they agreed on and waits for the EOF packets in any case, so `prepare_completes_iff` has it complete at the last
packet only if they are sent or there is nothing for them to end.
-/

namespace ENavigator.Mysql

open ENavigator.Correlation List

variable {config : ProtocolExtractionConfig}

structure PrepareResponse where
  statementId : UInt32
  warnings : UInt16
  parameters : List ColumnDefinition41
  columns : List ColumnDefinition41
  /-- what the two sides have agreed on -/
  deprecateEof : Bool
  parameterTerminator : EofPacket
  columnTerminator : EofPacket
  parameters_lt : parameters.length < 2 ^ 16
  columns_lt : columns.length < 2 ^ 16

namespace PrepareResponse

variable (p : PrepareResponse)

def okPayload : Bytes :=
  (mysqlOkPacket :: leBytes 4 p.statementId.toNat) ++ (leBytes 2 p.columns.length ++
    (leBytes 2 p.parameters.length ++ (0 :: u16Le p.warnings)))

/-- A list of definitions and the packet that ends it. -/
def definitions (definitions : List ColumnDefinition41) (terminator : EofPacket) : List Bytes :=
  definitions.map ColumnDefinition41.payload ++
    if definitions.isEmpty || p.deprecateEof then [] else [terminator.payload]

def payloads : List Bytes :=
  p.okPayload :: (p.definitions p.parameters p.parameterTerminator ++ p.definitions p.columns p.columnTerminator)

def lastTerminator : EofPacket := if p.columns.isEmpty then p.parameterTerminator else p.columnTerminator

/-- There is nothing to end, or EOF packets are sent, every definition can be read and the last EOF packet announces
no further results. -/
def recognised (config : ProtocolExtractionConfig) : Bool :=
  (p.parameters.isEmpty && p.columns.isEmpty) ||
    (!p.deprecateEof && (p.parameters ++ p.columns).all (ColumnDefinition41.readable config.maxRequestLineBytes) &&
      p.lastTerminator.status.toNat &&& mysqlServerMoreResultsExists = 0)

end PrepareResponse

/-! ## The announcement -/

theorem readU16Le_append (before : Bytes) {n : Nat} (h : n < 2 ^ 16) (after : Bytes) :
    readU16Le (before ++ (leBytes 2 n ++ after)) before.length = n := by
  rw [readU16Le, drop_left, take_left' (length_leBytes 2 n), leNat_leBytes]
  exact Nat.mod_eq_of_lt h

namespace PrepareResponse

variable (p : PrepareResponse)

theorem length_okPayload : p.okPayload.length = 12 := by
  simp only [okPayload, length_append, length_cons, length_leBytes, length_u16Le]

theorem responseTransition_okPayload (bytes : Bytes) :
    responseTransition .statementPrepare .initial p.okPayload bytes config =
      .ok (if p.parameters.length > 0 then .continue (.prepareParameters p.parameters.length p.columns.length)
        else if p.columns.length > 0 then .continue (.prepareColumns p.columns.length)
        else .complete (mysqlOkResponse config.maxAttributes)) := by
  have hhead : p.okPayload.head? = some mysqlOkPacket := rfl
  have hlength := p.length_okPayload
  have hcolumns : readU16Le p.okPayload 5 = p.columns.length := by
    have h := readU16Le_append (mysqlOkPacket :: leBytes 4 p.statementId.toNat) p.columns_lt
      (leBytes 2 p.parameters.length ++ (0 :: u16Le p.warnings))
    rwa [length_cons, length_leBytes] at h
  have hparameters : readU16Le p.okPayload 7 = p.parameters.length :=
    readU16Le_append ((mysqlOkPacket :: leBytes 4 p.statementId.toNat) ++ leBytes 2 p.columns.length)
      p.parameters_lt (0 :: u16Le p.warnings)
  have hfiller : p.okPayload[9]? = some 0 :=
    getElem?_length_append (((mysqlOkPacket :: leBytes 4 p.statementId.toNat) ++
      leBytes 2 p.columns.length) ++ leBytes 2 p.parameters.length) 0 (u16Le p.warnings)
  have herr : ¬ p.okPayload.head? = some mysqlErrPacket := by
    rw [hhead]
    decide
  have hprepare : responseTransition .statementPrepare .initial p.okPayload bytes config =
      prepareInitialTransition p.okPayload config := if_neg herr
  rw [hprepare, prepareInitialTransition, if_neg (by rw [hhead, hlength]; decide),
    if_neg (by rw [hfiller, hlength]; decide), if_neg (by rw [hlength]; decide), hcolumns, hparameters]
  dsimp only
  split
  · rfl
  split
  · rfl
  · rfl

end PrepareResponse

/-! ## The definitions -/

/-- Where the lifecycle is when `remaining` parameters are still to come. -/
def parametersPhase (columns remaining : Nat) : MysqlResponsePhase :=
  if remaining = 0 then .prepareParameterTerminator columns else .prepareParameters remaining columns

/-- Where it is when `remaining` columns are. -/
def preparedColumnsPhase (remaining : Nat) : MysqlResponsePhase :=
  if remaining = 0 then .prepareFinalTerminator else .prepareColumns remaining

theorem isEofPacket_columnPayload (column : ColumnDefinition41) : isEofPacket column.payload = false := by
  refine decide_eq_false ?_
  rintro ⟨-, hshort⟩
  rw [ColumnDefinition41.payload, length_append, length_cons, column.twelve] at hshort
  omega

namespace PrepareResponse

variable {p : PrepareResponse}

theorem definitions_of_ne_nil {columns : List ColumnDefinition41} (hne : columns ≠ []) (terminator : EofPacket) :
    p.definitions columns terminator =
      columns.map ColumnDefinition41.payload ++ if p.deprecateEof then [] else [terminator.payload] := by
  rw [definitions, isEmpty_eq_false_iff.mpr hne, Bool.false_or]

theorem lastTerminator_of_ne_nil (hne : p.columns ≠ []) : p.lastTerminator = p.columnTerminator := by
  rw [lastTerminator, isEmpty_eq_false_iff.mpr hne]
  rfl

theorem completes_lastTerminator {phase : MysqlResponsePhase} {terminator : EofPacket}
    (hphase : responseTransition .statementPrepare phase terminator.payload (packet 0 terminator.payload) config =
      terminalTransition (packet 0 terminator.payload) terminator.payload config)
    (hwithin : Within config terminator.payload) :
    completes .statementPrepare config phase (if p.deprecateEof then [] else [terminator.payload]) =
      (!p.deprecateEof && decide (terminator.status.toNat &&& mysqlServerMoreResultsExists = 0)) := by
  rcases hdeprecate : p.deprecateEof with _ | _
  · exact (completes_eof hwithin hphase).trans (Bool.true_and _).symm
  · rfl

theorem completes_columnDefinitions (hne : p.columns ≠ []) (hwithin : Within config p.columnTerminator.payload) :
    completes .statementPrepare config (.prepareColumns p.columns.length)
        (p.definitions p.columns p.columnTerminator) =
      (!p.deprecateEof && p.columns.all (ColumnDefinition41.readable config.maxRequestLineBytes) &&
        decide (p.columnTerminator.status.toNat &&& mysqlServerMoreResultsExists = 0)) := by
  have hcolumns : ∀ rest, completes .statementPrepare config (.prepareColumns p.columns.length)
      (p.columns.map ColumnDefinition41.payload ++ rest) =
        (p.columns.all (ColumnDefinition41.readable config.maxRequestLineBytes) &&
          completes .statementPrepare config .prepareFinalTerminator rest) :=
    completes_definitions preparedColumnsPhase (fun _ _ _ herr => if_neg herr) .prepareColumns (fun _ => rfl) hne
  have hphase : responseTransition .statementPrepare .prepareFinalTerminator p.columnTerminator.payload
      (packet 0 p.columnTerminator.payload) config =
        terminalTransition (packet 0 p.columnTerminator.payload) p.columnTerminator.payload config := by
    simp only [responseTransition, if_neg p.columnTerminator.head?_payload, p.columnTerminator.isEofPacket_payload,
      Bool.not_true, Bool.false_and, Bool.false_eq_true, if_false]
  rw [definitions_of_ne_nil hne, hcolumns, completes_lastTerminator hphase hwithin, Bool.and_left_comm, Bool.and_assoc]

theorem completes_behindParameters (hwithin : ∀ terminator : EofPacket, Within config terminator.payload) :
    completes .statementPrepare config (.prepareParameterTerminator p.columns.length)
        ((if p.deprecateEof then [] else [p.parameterTerminator.payload]) ++
          p.definitions p.columns p.columnTerminator) =
      (!p.deprecateEof && p.columns.all (ColumnDefinition41.readable config.maxRequestLineBytes) &&
        decide (p.lastTerminator.status.toNat &&& mysqlServerMoreResultsExists = 0)) := by
  have heof := p.parameterTerminator.isEofPacket_payload
  have herr := p.parameterTerminator.head?_payload
  by_cases hcolumns : p.columns = []
  · have hnone : p.definitions [] p.columnTerminator = [] := rfl
    have hphase : responseTransition .statementPrepare (.prepareParameterTerminator 0) p.parameterTerminator.payload
        (packet 0 p.parameterTerminator.payload) config =
          terminalTransition (packet 0 p.parameterTerminator.payload) p.parameterTerminator.payload config := by
      simp only [responseTransition, if_neg herr, heof, Bool.not_true, Bool.false_eq_true, if_false, if_true]
    rw [lastTerminator, hcolumns, hnone, append_nil, length_nil, completes_lastTerminator hphase (hwithin _)]
    simp only [all_nil, Bool.and_true, isEmpty_nil, if_true]
  rw [lastTerminator_of_ne_nil hcolumns]
  rcases hdeprecate : p.deprecateEof with _ | _
  · have hnext : responseTransition .statementPrepare (.prepareParameterTerminator p.columns.length)
        p.parameterTerminator.payload (packet 0 p.parameterTerminator.payload) config =
          .ok (.continue (.prepareColumns p.columns.length)) := by
      have hpos := Nat.pos_iff_ne_zero.mp (length_pos_iff.mpr hcolumns)
      simp only [responseTransition, if_neg herr, heof, Bool.not_true, Bool.false_eq_true, if_false, if_neg hpos]
    have hrest := completes_columnDefinitions hcolumns (hwithin _)
    rw [hdeprecate] at hrest
    exact (completes_continue hnext _).trans hrest
  · -- the first column definition stands where the EOF packet is due
    obtain ⟨column, columns, hcons⟩ := exists_cons_of_ne_nil hcolumns
    have herror : responseTransition .statementPrepare (.prepareParameterTerminator p.columns.length) column.payload
        (packet 0 column.payload) config = .error .unsupportedResponse := by
      simp only [responseTransition, if_neg column.head?_payload, isEofPacket_columnPayload, Bool.not_false, if_true]
    rw [definitions_of_ne_nil hcolumns, hdeprecate, hcons]
    exact completes_error (hcons ▸ herror) _

theorem within_eof (h : Within config p.okPayload) (eof : EofPacket) : Within config eof.payload := by
  have hlimit := h.limit
  rw [length_okPayload] at hlimit
  refine ⟨?_, ?_⟩
  · rw [eof.length_payload]
    decide
  · rw [eof.length_payload]
    omega

theorem completes_payloads (h : ∀ payload ∈ p.payloads, Within config payload) :
    completes .statementPrepare config .initial p.payloads = p.recognised config := by
  have hwithin := within_eof (h p.okPayload mem_cons_self)
  have hannounced : responseTransition .statementPrepare .initial p.okPayload (packet 0 p.okPayload) config = _ :=
    p.responseTransition_okPayload (packet 0 p.okPayload)
  rw [payloads, recognised, all_append]
  by_cases hparameters : p.parameters = []
  · have hnone : p.definitions [] p.parameterTerminator = [] := rfl
    rw [hparameters, length_nil, if_neg (Nat.lt_irrefl 0)] at hannounced
    rw [hparameters, hnone, nil_append, all_nil, isEmpty_nil, Bool.true_and, Bool.true_and]
    by_cases hcolumns : p.columns = []
    · rw [hcolumns, length_nil, if_neg (Nat.lt_irrefl 0)] at hannounced
      rw [completes, hannounced, hcolumns]
      rfl
    · rw [if_pos (length_pos_iff.mpr hcolumns)] at hannounced
      rw [completes_continue hannounced, completes_columnDefinitions hcolumns (hwithin _),
        lastTerminator_of_ne_nil hcolumns, isEmpty_eq_false_iff.mpr hcolumns, Bool.false_or]
  · have hread : ∀ rest, completes .statementPrepare config (.prepareParameters p.parameters.length p.columns.length)
        (p.parameters.map ColumnDefinition41.payload ++ rest) =
          (p.parameters.all (ColumnDefinition41.readable config.maxRequestLineBytes) &&
            completes .statementPrepare config (.prepareParameterTerminator p.columns.length) rest) :=
      completes_definitions (parametersPhase p.columns.length) (fun _ _ _ herr => if_neg herr)
        (.prepareParameters · p.columns.length) (fun _ => rfl) hparameters
    rw [if_pos (length_pos_iff.mpr hparameters)] at hannounced
    rw [completes_continue hannounced, definitions_of_ne_nil hparameters, append_assoc, hread,
      completes_behindParameters hwithin, isEmpty_eq_false_iff.mpr hparameters, Bool.false_and, Bool.false_or]
    ac_rfl

theorem definitions_ne_nil {columns : List ColumnDefinition41} {terminator : EofPacket} :
    ∀ payload ∈ p.definitions columns terminator, payload ≠ [] := by
  refine forall_mem_append.mpr ⟨forall_mem_map.mpr fun column _ => ?_, ?_⟩
  · exact append_ne_nil_of_right_ne_nil _ (cons_ne_nil _ _)
  · split
    · exact nofun
    · exact forall_mem_singleton.mpr (cons_ne_nil _ _)

theorem payloads_ne_nil : ∀ payload ∈ p.payloads, payload ≠ [] := by
  refine forall_mem_cons.mpr ⟨cons_ne_nil _ _, ?_⟩
  exact forall_mem_append.mpr ⟨definitions_ne_nil, definitions_ne_nil⟩

end PrepareResponse

theorem prepare_completes_iff {request : Bytes} {lifecycle : MysqlResponseLifecycle}
    (hrequest : MysqlResponseLifecycle.fromRequest request config = .ok lifecycle)
    (hprepare : request[4]? = some mysqlComStmtPrepare) (p : PrepareResponse)
    (hwithin : ∀ payload ∈ p.payloads, Within config payload) :
    completesAtLast config lifecycle (sequenced 1 p.payloads) = true ↔ p.recognised config = true := by
  have hpayloads : ∀ payload ∈ p.payloads, Within config payload ∧ payload ≠ [] :=
    fun payload hpayload => ⟨hwithin payload hpayload, PrepareResponse.payloads_ne_nil payload hpayload⟩
  have hkind : responseKind mysqlComStmtPrepare = .statementPrepare := rfl
  rw [completesAtLast_request hrequest hprepare hpayloads, hkind, PrepareResponse.completes_payloads hwithin]

/-! ### Two answers -/

def prepareRequest : Bytes := packet 0 (mysqlComStmtPrepare :: text "SELECT ?")

def parameterDefinition : ColumnDefinition41 where
  components := [⟨.one, text "def", by decide⟩, ⟨.one, [], by decide⟩, ⟨.one, [], by decide⟩, ⟨.one, [], by decide⟩,
    ⟨.one, text "?", by decide⟩, ⟨.one, [], by decide⟩]
  fixedFields := [63, 0, 0, 0, 0, 0, 253, 128, 0, 0, 0, 0]
  six := rfl
  twelve := rfl

def selectPrepared (deprecateEof : Bool) : PrepareResponse where
  statementId := 1
  warnings := 0
  parameters := [parameterDefinition]
  columns := [parameterDefinition]
  deprecateEof := deprecateEof
  parameterTerminator := ⟨0, 2⟩
  columnTerminator := ⟨0, 2⟩
  parameters_lt := by decide
  columns_lt := by decide

theorem prepare_completes_iff_eof :
    completesAtLast {} { kind := .statementPrepare } (sequenced 1 (selectPrepared false).payloads) = true := by
  have hrequest : MysqlResponseLifecycle.fromRequest prepareRequest {} = .ok { kind := .statementPrepare } := by
    decide +kernel
  refine (prepare_completes_iff hrequest (by decide +kernel) (selectPrepared false) (by decide +kernel)).mpr ?_
  decide +kernel

/-- Without EOF packets the column definition is refused where one is due. -/
theorem selectPrepared_refused :
    MysqlResponseLifecycle.fromRequest prepareRequest {} = .ok { kind := .statementPrepare } ∧
      prepareRequest[4]? = some mysqlComStmtPrepare ∧
      (∀ payload ∈ (selectPrepared true).payloads, Within {} payload) ∧
      completesAtLast {} { kind := .statementPrepare } (sequenced 1 (selectPrepared true).payloads) = false := by
  decide +kernel

end ENavigator.Mysql
