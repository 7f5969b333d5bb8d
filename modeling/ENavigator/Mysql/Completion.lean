import ENavigator.Mysql.Encoding

/-!
# Where the answer to a MySQL command ends

`completesAtLast` says of the packets of an answer that the lifecycle goes on with each but the last and completes
with that. `completes` is the same for the payloads alone, where the sequence numbers are right.

* `completesAtLast_request` : the two agree for the lifecycle of a request;
* `completes_columns` : the column definitions that a family of phases counts down are all read.
-/

namespace ENavigator.Mysql

open ENavigator.Correlation List MysqlResponseLifecycle

/-- Every packet but the last goes on with the answer and the last one completes it. -/
def completesAtLast (config : ProtocolExtractionConfig) : MysqlResponseLifecycle → List Bytes → Bool
  | _, [] => false
  | lifecycle, bytes :: rest =>
    match lifecycle.observePacket bytes config with
    | .ok (.continue, lifecycle) => completesAtLast config lifecycle rest
    | .ok (.complete _, _) => rest.isEmpty
    | .error _ => false

/-- The payloads in packets with consecutive sequence numbers. -/
def sequenced : UInt8 → List Bytes → List Bytes
  | _, [] => []
  | sequence, payload :: rest => packet sequence payload :: sequenced (sequence + 1) rest

/-- The payload has a length that a packet can state, and the packet is within the limit. -/
structure Within (config : ProtocolExtractionConfig) (payload : Bytes) : Prop where
  physical : payload.length < 2 ^ 24
  limit : payload.length + 4 ≤ config.maxHeaderBytes

instance (config : ProtocolExtractionConfig) (payload : Bytes) : Decidable (Within config payload) :=
  decidable_of_iff (payload.length < 2 ^ 24 ∧ payload.length + 4 ≤ config.maxHeaderBytes)
    ⟨fun h => ⟨h.1, h.2⟩, fun h => ⟨h.physical, h.limit⟩⟩

/-! ## Payloads for packets -/

variable {config : ProtocolExtractionConfig}

variable {payload : Bytes} {lifecycle : MysqlResponseLifecycle}

theorem Within.packetParts (h : Within config payload) (sequence : UInt8) :
    packetParts (packet sequence payload) config.maxHeaderBytes = .ok (sequence, payload) :=
  packetParts_packet sequence h.physical h.limit

theorem parseMysqlResponse_packet (h : Within config payload) (hne : payload ≠ []) (sequence : UInt8) :
    parseMysqlResponse (packet sequence payload) config = parseResponsePayload payload config.maxAttributes := by
  have hlimit := h.limit
  have hpos := length_pos_iff.mpr hne
  rw [parseMysqlResponse, length_packet, if_neg (by omega), if_neg (by omega), packetPayload, h.packetParts]
  rfl

theorem terminalTransition_packet (h : Within config payload) (hne : payload ≠ []) (sequence : UInt8) :
    terminalTransition (packet sequence payload) payload config =
      (parseResponsePayload payload config.maxAttributes).map fun response =>
        if hasFlag mysqlServerMoreResultsExists payload then .moreResults else .complete response := by
  rw [terminalTransition, parseMysqlResponse_packet h hne]
  rcases parseResponsePayload payload config.maxAttributes with e | response
  · rfl
  · show (if _ then _ else _) = Except.ok (if _ then _ else _)
    split
    · rfl
    · rfl

/-- `completesAtLast` for payloads whose packets have the sequence numbers that are due. -/
def completes (kind : MysqlResponseKind) (config : ProtocolExtractionConfig) : MysqlResponsePhase → List Bytes → Bool
  | _, [] => false
  | phase, payload :: rest =>
    match responseTransition kind phase payload (packet 0 payload) config with
    | .ok (.continue phase) => completes kind config phase rest
    | .ok .moreResults => completes kind config .initial rest
    | .ok (.complete _) => rest.isEmpty
    | .error _ => false

theorem observePacket_packet (hrequest : lifecycle.requestContinuation = false)
    (hresponse : lifecycle.responseContinuation = false) (h : Within config payload) (hne : payload ≠ []) :
    lifecycle.observePacket (packet lifecycle.nextSequence payload) config =
      (responseTransition lifecycle.kind lifecycle.phase payload (packet 0 payload) config).map lifecycle.advance := by
  have hlimit := h.limit
  have hsame :
      responseTransition lifecycle.kind lifecycle.phase payload (packet lifecycle.nextSequence payload) config =
      responseTransition lifecycle.kind lifecycle.phase payload (packet 0 payload) config := by
    simp only [responseTransition, initialTransition, rowsTransition, terminalTransition_packet h hne]
  have hlong : ¬ (packet lifecycle.nextSequence payload).length > config.maxHeaderBytes := by
    rw [length_packet]
    omega
  rw [observePacket, hrequest, hresponse, h.packetParts, ← hsame]
  simp only [Bool.false_eq_true, if_false, if_neg hlong]
  show (if lifecycle.nextSequence ≠ lifecycle.nextSequence then _ else _) = _
  rw [if_neg (fun hne => hne rfl)]
  rcases responseTransition lifecycle.kind lifecycle.phase payload (packet lifecycle.nextSequence payload) config with
    e | transition
  · rfl
  · rfl

theorem completesAtLast_sequenced {payloads : List Bytes}
    (hpayloads : ∀ payload ∈ payloads, Within config payload ∧ payload ≠ []) (lifecycle : MysqlResponseLifecycle)
    (hrequest : lifecycle.requestContinuation = false) (hresponse : lifecycle.responseContinuation = false) :
    completesAtLast config lifecycle (sequenced lifecycle.nextSequence payloads) =
      completes lifecycle.kind config lifecycle.phase payloads := by
  induction payloads generalizing lifecycle with
  | nil => rfl
  | cons payload rest ih =>
    obtain ⟨hwithin, hne⟩ := hpayloads payload mem_cons_self
    have hrest := fun p hp => hpayloads p (mem_cons_of_mem payload hp)
    have hempty : (sequenced (lifecycle.nextSequence + 1) rest).isEmpty = rest.isEmpty := by
      cases rest with
      | nil => rfl
      | cons p ps => rfl
    rw [sequenced, completesAtLast, completes, observePacket_packet hrequest hresponse hwithin hne]
    rcases responseTransition lifecycle.kind lifecycle.phase payload (packet 0 payload) config with
      e | phase | _ | response
    · rfl
    · exact ih hrest { lifecycle with phase := phase, nextSequence := lifecycle.nextSequence + 1 } hrequest hresponse
    · exact ih hrest { lifecycle with phase := .initial, nextSequence := lifecycle.nextSequence + 1 } hrequest
        hresponse
    · exact hempty

/-! ## One packet of an answer -/

section Step

variable {kind : MysqlResponseKind} {phase : MysqlResponsePhase} {payload : Bytes}

theorem completes_continue {next : MysqlResponsePhase}
    (h : responseTransition kind phase payload (packet 0 payload) config = .ok (.continue next)) (rest : List Bytes) :
    completes kind config phase (payload :: rest) = completes kind config next rest := by
  rw [completes, h]

theorem completes_error {e : MysqlExtraction}
    (h : responseTransition kind phase payload (packet 0 payload) config = .error e) (rest : List Bytes) :
    completes kind config phase (payload :: rest) = false := by
  rw [completes, h]

theorem completes_terminal (hwithin : Within config payload) (hne : payload ≠ [])
    (h : responseTransition kind phase payload (packet 0 payload) config =
      terminalTransition (packet 0 payload) payload config) {response : ParsedMysqlResponse}
    (hresponse : parseResponsePayload payload config.maxAttributes = .ok response) :
    completes kind config phase [payload] = !hasFlag mysqlServerMoreResultsExists payload := by
  rw [completes, h, terminalTransition_packet hwithin hne, hresponse]
  rcases hmore : hasFlag mysqlServerMoreResultsExists payload with _ | _
  · simp only [Except.map, Bool.false_eq_true, if_false]
    rfl
  · simp only [Except.map, if_true]
    rfl

theorem EofPacket.head?_payload (eof : EofPacket) : ¬ eof.payload.head? = some mysqlErrPacket := by
  show ¬ some mysqlEofPacket = some mysqlErrPacket
  decide

theorem completes_eof {terminator : EofPacket} (hwithin : Within config terminator.payload)
    (h : responseTransition kind phase terminator.payload (packet 0 terminator.payload) config =
      terminalTransition (packet 0 terminator.payload) terminator.payload config) :
    completes kind config phase [terminator.payload] =
      decide (terminator.status.toNat &&& mysqlServerMoreResultsExists = 0) := by
  rw [completes_terminal hwithin (cons_ne_nil _ _) h (terminator.parseResponsePayload_payload _),
    hasFlag, terminator.mysqlStatusFlags_payload]
  simp only [Option.any_some, ne_eq, decide_not, Bool.not_not]

end Step

/-! ## Column definitions -/

section Columns

variable {kind : MysqlResponseKind} (phases : Nat → MysqlResponsePhase)
  (hphases : ∀ (remaining : Nat) (payload bytes : Bytes), payload.head? ≠ some mysqlErrPacket →
    responseTransition kind (phases (remaining + 1)) payload bytes config =
      columnTransition payload config (remaining + 1) phases)

include hphases

/-- The definitions that a family of phases counts down are all read. -/
theorem completes_columns (columns : List ColumnDefinition41) (rest : List Bytes) :
    completes kind config (phases columns.length) (columns.map ColumnDefinition41.payload ++ rest) =
      (columns.all (ColumnDefinition41.readable config.maxRequestLineBytes) &&
        completes kind config (phases 0) rest) := by
  induction columns with
  | nil => rfl
  | cons column columns ih =>
    have hstep := hphases columns.length column.payload (packet 0 column.payload) column.head?_payload
    rw [columnTransition, validateColumnDefinition41_payload] at hstep
    rw [map_cons, cons_append, length_cons, all_cons]
    rcases hreadable : column.readable config.maxRequestLineBytes with _ | _
    · rw [hreadable] at hstep
      exact completes_error hstep _
    · rw [hreadable] at hstep
      rw [completes_continue hstep, ih, Bool.true_and]

/-- So are those of a list that is not empty, where the phases before the last are `counting`. -/
theorem completes_definitions (counting : Nat → MysqlResponsePhase)
    (hcounting : ∀ remaining, phases (remaining + 1) = counting (remaining + 1)) {columns : List ColumnDefinition41}
    (hne : columns ≠ []) (rest : List Bytes) :
    completes kind config (counting columns.length) (columns.map ColumnDefinition41.payload ++ rest) =
      (columns.all (ColumnDefinition41.readable config.maxRequestLineBytes) &&
        completes kind config (phases 0) rest) := by
  obtain ⟨column, columns, rfl⟩ := exists_cons_of_ne_nil hne
  rw [length_cons, ← hcounting]
  exact completes_columns phases hphases (column :: columns) rest

end Columns

/-! ## The request -/

theorem fromRequest_eq {request : Bytes} {command : UInt8}
    (h : fromRequest request config = .ok lifecycle) (hcommand : request[4]? = some command) :
    lifecycle = { kind := responseKind command } := by
  unfold fromRequest at h
  by_cases hlong : request.length > config.maxHeaderBytes
  · rw [if_pos hlong] at h
    cases h
  unfold packetParts at h
  split at h
  · cases h
  split at h
  · cases h
  split at h
  · cases h
  -- the payload is what follows the header, so its first byte is the command
  have hhead : ∀ b, ((request.drop 4).take (mysqlPayloadLen request)).head? = some b → b = command := by
    intro b hb
    rw [List.head?_take, List.head?_drop, hcommand] at hb
    split at hb
    · cases hb
    · exact (Option.some.inj hb).symm
  dsimp only [bind, Except.bind, pure, Except.pure] at h
  split at h
  · cases h
  split at h
  · cases h
  · next b hb =>
    rw [hhead b hb] at h
    exact (Except.ok.inj h).symm

theorem completesAtLast_request {request : Bytes} {command : UInt8}
    (hrequest : fromRequest request config = .ok lifecycle)
    (hcommand : request[4]? = some command) {payloads : List Bytes}
    (hpayloads : ∀ payload ∈ payloads, Within config payload ∧ payload ≠ []) :
    completesAtLast config lifecycle (sequenced 1 payloads) =
      completes (responseKind command) config .initial payloads := by
  rw [fromRequest_eq hrequest hcommand]
  exact completesAtLast_sequenced hpayloads { kind := responseKind command } rfl rfl

end ENavigator.Mysql
