import ENavigator.Correlation.Accounting
import ENavigator.Http1.Connection
import ENavigator.Kafka.Connection
import ENavigator.Mongodb.Connection
import ENavigator.Mysql.Connection
import ENavigator.Postgres.Connection
import ENavigator.Redis.Connection
import Mathlib.Data.List.TakeWhile

/-!
# One turn of each protocol

For each protocol with a queue: the requests that a frame brings in (`taken`), and that a turn of the loop accounts for
them and for those in the queue (`accounts_request`, `accounts_response`). A request counts as taken in when it joins
the queue or is reported at once.
-/

namespace ENavigator

open ENavigator.Correlation ENavigator.Correlation.Tracker ENavigator.Stream List

/-! ## Redis -/

namespace Redis

variable (config : ProtocolExtractionConfig) (observed : Nat) (frame : StreamFrame) (s : RedisStream)

def taken : List Request :=
  match frame with
  | .protocolSwitch _ _ => []
  | _ => [⟨commandOf config frame, observed⟩]

variable {config observed frame s}

theorem accounts_becomeOpaque : Accounts [] [] s.toTracker (becomeOpaque s).toTracker := by
  have hqueue : s.toTracker.inFlight = s.inFlight ++ [] := (append_nil _).symm
  exact accounts_drain hqueue (fun _ => carries_warn) _

theorem accounts_request :
    Accounts (taken config observed frame) [] s.toTracker (handleRequestFrame config observed frame s).toTracker := by
  have hcounted : Accounts [] [] s.toTracker (s.count (countRequest config frame)).toTracker := accounts_same
  have hwarned : ∀ t : Tracker (Option RedisResponseLifecycle), Accounts [⟨commandOf config frame, observed⟩] [] t
      (t.emitUnmatched ((commandOf config frame).warn redisAmbiguousSubscriptionWarning) observed) :=
    fun t => accounts_emitUnmatched carries_warn
  by_cases hswitch : ∃ bytes protocol, frame = .protocolSwitch bytes protocol
  · obtain ⟨bytes, protocol, rfl⟩ := hswitch
    exact hcounted
  · have htaken : taken config observed frame = [⟨commandOf config frame, observed⟩] := by
      unfold taken
      split
      · exact absurd ⟨_, _, rfl⟩ hswitch
      · rfl
    rw [htaken]
    unfold handleRequestFrame
    dsimp only
    split
    · exact absurd ⟨_, _, rfl⟩ hswitch
    split
    · exact hcounted.trans (hwarned _)
    split
    · exact hcounted.trans (accounts_becomeOpaque.trans (hwarned _))
    · exact hcounted.trans accounts_enqueue

variable {bytes : Bytes} {entry : RedisRequest} {rest : List RedisRequest}

theorem accounts_unsolicited : Accounts [] [] s.toTracker (handleUnsolicited bytes s).toTracker := by
  unfold handleUnsolicited
  split
  · exact accounts_same
  · exact accounts_same
  · exact accounts_same

theorem accounts_advanceHead (hqueue : s.inFlight = entry :: rest) {lifecycle : RedisResponseLifecycle} :
    Accounts [] [] s.toTracker (advanceHead config observed bytes entry lifecycle rest s).toTracker := by
  unfold advanceHead
  split
  · exact accounts_same
  · refine accounts_of_requests ?_ rfl
    simp only [requests, hqueue]
    rfl
  · exact accounts_removeHead hqueue carries_merge _

theorem accounts_popHead (hqueue : s.inFlight = entry :: rest) :
    Accounts [] [] s.toTracker (popHead config observed frame entry rest s).toTracker := by
  unfold popHead
  split
  · dsimp only
    split
    · exact accounts_removeHead hqueue carries_merge _
    · exact accounts_removeHead hqueue carries_warn _
  · exact accounts_same

theorem accounts_response :
    Accounts [] [] s.toTracker (handleResponseFrame config observed frame s).toTracker := by
  unfold handleResponseFrame
  split
  · exact accounts_same
  · split
    · split
      · exact accounts_same
      · exact accounts_unsolicited
    next entry rest hqueue =>
      split
      · split
        · exact accounts_same
        · exact accounts_advanceHead hqueue
      · exact accounts_popHead hqueue
  · dsimp only
    have hcounted : Accounts [] [] s.toTracker
        (s.count fun c => { c with truncatedFrames := c.truncatedFrames + 1 }).toTracker := accounts_same
    split
    next entry rest hqueue =>
      split
      · exact hcounted.trans accounts_same
      · exact hcounted.trans (accounts_popHead hqueue)
    · exact hcounted.trans accounts_same

end Redis

/-! ## HTTP/1 -/

namespace Http1

variable (config : ProtocolExtractionConfig) (observed : Nat) (frame : StreamFrame) (s : Http1Stream)

/-- A frame of WebSocket is reported by itself. -/
def webSocketRequest (direction : WebSocketDirection) (bytes : Bytes) (captureComplete : Bool) : ParsedRequestFrame :=
  match webSocketFrame config direction bytes captureComplete with
  | .ok parsed => parsed
  | .error _ => placeholderRequest .webSocket
      (if captureComplete then "unparsed_websocket_frame" else "truncated_websocket_frame_header")

def takenWebSocket (direction : WebSocketDirection) : List Request :=
  match frame with
  | .complete bytes => [⟨webSocketRequest config direction bytes true, observed⟩]
  | .truncated bytes _ => [⟨webSocketRequest config direction bytes false, observed⟩]
  | .protocolSwitch _ _ => []

def taken [Base64] (direction : StreamDirection) : List Request :=
  if s.protocol = .webSocket then
    match direction, frame with
    | .request, _ => takenWebSocket config observed frame .clientToServer
    -- a second upgrade is refused
    | .response, .protocolSwitch _ _ => []
    | .response, _ => takenWebSocket config observed frame .serverToClient
  else
    match direction, frame with
    | .request, .complete _ => [⟨frameRequest config frame, observed⟩]
    | .request, .truncated _ _ => [⟨frameRequest config frame, observed⟩]
    | _, _ => []

variable {config observed frame s}

variable {direction : WebSocketDirection} {bytes : Bytes} {response : Except String ParsedResponseFrame}

theorem accounts_webSocketFrame {captureComplete : Bool} :
    Accounts [⟨webSocketRequest config direction bytes captureComplete, observed⟩] [] s.toTracker
      (emitWebSocketFrame config direction observed bytes captureComplete s).toTracker := by
  unfold emitWebSocketFrame webSocketRequest
  rcases webSocketFrame config direction bytes captureComplete with _ | parsed
  · exact .trans accounts_same (accounts_emitUnmatched carries_buildObservation)
  · exact .trans accounts_same (accounts_emitUnmatched carries_buildObservation)

theorem accounts_truncatedFrame : Accounts [] [] s.toTracker s.truncatedFrame.toTracker :=
  accounts_same

theorem accounts_webSocket :
    Accounts (takenWebSocket config observed frame direction) [] s.toTracker
      (emitWebSocketObservation config direction observed frame s).toTracker := by
  unfold emitWebSocketObservation takenWebSocket
  split
  · exact accounts_webSocketFrame
  · exact accounts_truncatedFrame.trans accounts_webSocketFrame
  · exact accounts_same

theorem carries_answered {parsed : ParsedRequestFrame} {started : Nat} {ended : Option Nat} :
    Carries ⟨parsed, started⟩ (buildObservation (answered config parsed response) started ended) := by
  rcases response with reason | response
  · exact carries_warn
  · exact carries_merge

theorem accounts_completeFront {entry : Http1Request} {rest : List Http1Request} (hqueue : s.inFlight = entry :: rest) :
    Accounts [] [] s.toTracker (completeFront config observed response entry rest s).toTracker :=
  accounts_removeHead hqueue carries_answered _

variable [Base64]

theorem accounts_request :
    Accounts (taken config observed frame s .request) [] s.toTracker
      (handleRequestFrame config observed frame s).toTracker := by
  unfold handleRequestFrame taken
  split
  · exact accounts_webSocket
  cases frame with
  | complete _ | truncated _ _ => exact .trans accounts_same accounts_enqueue
  | protocolSwitch bytes protocol => exact accounts_same

theorem accounts_popFront : Accounts [] [] s.toTracker (popFront config observed frame s).toTracker := by
  unfold popFront
  split
  · exact accounts_same
  next entry rest hqueue => exact accounts_completeFront hqueue

theorem accounts_enterWebSocket : Accounts [] [] s.toTracker (enterWebSocket config observed bytes s).toTracker := by
  have hrejected : Accounts [] [] s.toTracker (rejectTransition s).toTracker := accounts_same
  unfold enterWebSocket
  split
  · exact hrejected
  next entry rest hqueue =>
    split
    · exact hrejected
    · exact (accounts_completeFront hqueue).trans accounts_same

theorem accounts_response :
    Accounts (taken config observed frame s .response) [] s.toTracker
      (handleResponseFrame config observed frame s).toTracker := by
  have hswitched : ∀ bytes protocol, frame = .protocolSwitch bytes protocol →
      taken config observed frame s .response = [] := by
    rintro bytes protocol rfl
    exact ite_self []
  unfold handleResponseFrame
  split
  · rw [hswitched _ _ rfl]
    exact accounts_enterWebSocket
  · rw [hswitched _ _ rfl]
    exact accounts_same
  · unfold taken
    split
    · exact accounts_webSocket
    · exact accounts_popFront
  · unfold taken
    split
    · exact accounts_webSocket
    · exact accounts_truncatedFrame.trans accounts_popFront

end Http1

/-! ## Kafka -/

namespace Kafka

variable (parsers : KafkaParsers) (config : ProtocolExtractionConfig) (observed : Nat) (frame : StreamFrame)
  (s : KafkaStream)

def taken : List Request :=
  match frame with
  | .protocolSwitch _ _ => []
  | _ => [⟨frameRequest parsers config frame, observed⟩]

variable {parsers config observed frame s}

theorem accounts_request :
    Accounts (taken parsers config observed frame) [] s (handleRequestFrame parsers config observed frame s) := by
  cases frame with
  | complete _ | truncated _ _ => exact .trans accounts_same accounts_enqueue
  | protocolSwitch bytes protocol => exact accounts_same

theorem accounts_completeEntry {bytes : Bytes} {front back : List KafkaRequest} {entry : KafkaRequest}
    (hqueue : s.inFlight = front ++ entry :: back) :
    Accounts [] [] s (completeEntry parsers config observed bytes front entry back s) := by
  unfold completeEntry
  split
  · exact accounts_remove hqueue carries_merge _
  · exact accounts_remove hqueue carries_warn _

theorem accounts_kafkaResponse {bytes : Bytes} {truncated : Bool} :
    Accounts [] [] s (handleKafkaResponseFrame parsers config observed bytes truncated s) := by
  unfold handleKafkaResponseFrame
  split
  · exact accounts_same
  split
  · exact accounts_same
  dsimp only
  split
  · split
    · exact accounts_same
    · exact accounts_same
  next front entry back hsplit =>
    split
    · exact accounts_same
    · exact accounts_completeEntry (splitFirst_eq hsplit)

theorem accounts_response : Accounts [] [] s (handleResponseFrame parsers config observed frame s) := by
  unfold handleResponseFrame
  split
  · exact accounts_same
  · exact accounts_kafkaResponse
  · exact .trans accounts_same accounts_kafkaResponse

end Kafka

/-! ## MongoDB -/

namespace Mongodb

variable (parsers : MongodbParsers) (config : ProtocolExtractionConfig) (observed : Nat) (frame : StreamFrame)
  (s : MongodbStream)

def taken : List Request :=
  match frame with
  | .protocolSwitch _ _ => []
  | _ => [⟨frameRequest parsers config frame, observed⟩]

variable {parsers config observed frame s}

theorem accounts_request :
    Accounts (taken parsers config observed frame) [] s (handleRequestFrame parsers config observed frame s) := by
  have hmessage : ∀ t : MongodbStream, Accounts [⟨frameRequest parsers config frame, observed⟩] [] t
      (if (lifecycleOf parsers config frame).any (fun lifecycle => !lifecycle.expectsResponse) then
        (t.count fun c => { c with mongodbFireAndForgetRequests := c.mongodbFireAndForgetRequests + 1 }).emitUnmatched
          (frameRequest parsers config frame) observed
      else t.enqueue observed (frameRequest parsers config frame) (lifecycleOf parsers config frame)) := by
    intro t
    split
    · exact .trans accounts_same (accounts_emitUnmatched carries_buildObservation)
    · exact accounts_enqueue
  cases frame with
  | complete _ | truncated _ _ => exact .trans accounts_same (hmessage _)
  | protocolSwitch bytes protocol => exact accounts_same

theorem accounts_advanceEntry {response : ParsedMongodbResponse} {front back : List MongodbRequest}
    {entry : MongodbRequest} (hqueue : s.inFlight = front ++ entry :: back) :
    Accounts [] [] s (advanceEntry config observed response front entry back s) := by
  unfold advanceEntry
  split
  · exact accounts_same
  split
  · exact accounts_same
  · refine accounts_of_requests ?_ rfl
    simp only [requests, Tracker.count, hqueue, map_append, map_cons]
    rfl
  · exact accounts_remove hqueue carries_merge _

theorem accounts_mongodbResponse {bytes : Bytes} {truncated : Bool} :
    Accounts [] [] s (handleMongodbResponseFrame parsers config observed bytes truncated s) := by
  unfold handleMongodbResponseFrame
  split
  · exact accounts_same
  split
  · exact accounts_same
  dsimp only
  split
  · split
    · exact accounts_same
    · exact accounts_same
  next front entry back hsplit =>
    split
    · exact accounts_same
    · exact accounts_advanceEntry (splitFirst_eq hsplit)

theorem accounts_response : Accounts [] [] s (handleResponseFrame parsers config observed frame s) := by
  unfold handleResponseFrame
  split
  · exact accounts_same
  · exact accounts_mongodbResponse
  · exact .trans accounts_same accounts_mongodbResponse

end Mongodb

/-! ## MySQL -/

namespace Mysql

variable (config : ProtocolExtractionConfig) (observed : Nat) (frame : StreamFrame) (s : MysqlStream)

/-- A packet is a command, unless an entry of the queue takes it. -/
def takenPacket (queue : List MysqlRequest) : List Request :=
  if (continuing queue).isSome || (uploading queue).isSome || frame = .complete [0, 0, 0, 0] then []
  else [⟨frameRequest config frame, observed⟩]

def taken : List Request :=
  match handleMysqlConnectionRequestFrame config frame s, frame with
  | (_, true), _ => []
  | (_, false), .protocolSwitch _ _ => []
  | (s, false), _ => takenPacket config observed frame s.inFlight

variable {config observed frame s}

theorem SameQueue.accounts {s s' : MysqlStream} (h : SameQueue s s') : Accounts [] [] s.toTracker s'.toTracker :=
  accounts_of_requests (congrArg (List.map InFlightRequest.request) h.inFlight) h.signals

theorem countTruncated_queue : SameQueue s (s.countTruncated frame) := by
  unfold MysqlStream.countTruncated
  split
  · exact ⟨rfl, rfl⟩
  · exact ⟨rfl, rfl⟩

theorem countRequest_queue : SameQueue s (countRequest config frame s) := by
  unfold countRequest
  split
  · exact countTruncated_queue
  · exact countTruncated_queue.trans ⟨rfl, rfl⟩

variable {entry : MysqlRequest} {rest : List MysqlRequest}

variable {queue front : List MysqlRequest} {lifecycle : MysqlResponseLifecycle}

theorem continuing_eq (h : continuing queue = some (front, entry, lifecycle)) : queue = front ++ [entry] := by
  unfold continuing at h
  split at h
  · cases h
  next last hlast =>
    split at h
    · cases h
    split at h
    · cases h
      exact (dropLast_append_getLast? _ hlast).symm
    · cases h

theorem uploading_eq (h : uploading queue = some (entry, rest, lifecycle)) : queue = entry :: rest := by
  unfold uploading at h
  split at h
  · cases h
  · split at h
    · cases h
    split at h
    · cases h
      rfl
    · cases h

theorem accounts_command :
    Accounts [⟨frameRequest config frame, observed⟩] [] s.toTracker
      (handleCommand config observed frame s).toTracker := by
  have hcounted : Accounts [] [] s.toTracker (countRequest config frame s).toTracker := countRequest_queue.accounts
  unfold handleCommand
  split
  · exact hcounted.trans (accounts_emitUnmatched carries_buildObservation)
  · exact hcounted.trans accounts_enqueue

theorem accounts_continueCommand (hqueue : s.inFlight = front ++ [entry]) :
    Accounts [] [] s.toTracker (continueCommand frame front entry lifecycle s).toTracker := by
  unfold continueCommand
  split
  · exact accounts_same
  · dsimp only
    split
    · have hremoved := accounts_remove hqueue (@carries_buildObservation _ none _)
        { s.counters with mysqlLogicalRequestContinuations := s.counters.mysqlLogicalRequestContinuations + 1 }
      rw [append_nil] at hremoved
      exact hremoved
    · refine accounts_of_requests ?_ rfl
      simp only [requests, hqueue, map_append]
      rfl

theorem accounts_uploadPacket (hqueue : s.inFlight = entry :: rest) :
    Accounts [] [] s.toTracker (uploadPacket frame entry rest lifecycle s).toTracker := by
  unfold uploadPacket
  split
  · exact accounts_same
  · refine accounts_of_requests ?_ rfl
    simp only [requests, hqueue]
    rfl

theorem accounts_packet :
    Accounts (takenPacket config observed frame s.inFlight) [] s.toTracker
      (handleRequestPacket config observed frame s).toTracker := by
  have hcounted : SameQueue s (s.countTruncated frame) := countTruncated_queue
  unfold handleRequestPacket takenPacket
  cases hcontinuing : continuing s.inFlight with
  | some found =>
    obtain ⟨front, entry, lifecycle⟩ := found
    have hqueue := hcounted.inFlight.trans (continuing_eq hcontinuing)
    exact hcounted.accounts.trans (accounts_continueCommand hqueue)
  | none =>
    cases huploading : uploading s.inFlight with
    | some found =>
      obtain ⟨entry, rest, lifecycle⟩ := found
      have hqueue := hcounted.inFlight.trans (uploading_eq huploading)
      exact hcounted.accounts.trans (accounts_uploadPacket hqueue)
    | none =>
      by_cases hempty : frame = .complete [0, 0, 0, 0]
      · simp only [hempty, if_true, decide_true, Bool.or_true]
        exact accounts_same
      · simp only [hempty, if_false, decide_false, Bool.or_false, Option.isSome_none, Bool.false_eq_true]
        exact accounts_command

theorem accounts_request :
    Accounts (taken config observed frame s) [] s.toTracker (handleRequestFrame config observed frame s).toTracker := by
  have hconnection := (handleMysqlConnectionRequestFrame_queue config frame s).accounts
  unfold handleRequestFrame taken
  rcases hhandled : handleMysqlConnectionRequestFrame config frame s with ⟨s', _ | _⟩
  · rw [hhandled] at hconnection
    cases frame with
    | complete _ | truncated _ _ => exact hconnection.trans accounts_packet
    | protocolSwitch bytes protocol => exact hconnection.trans accounts_same
  · rw [hhandled] at hconnection
    exact hconnection

theorem accounts_advanceFront (hqueue : s.inFlight = entry :: rest) :
    Accounts [] [] s.toTracker (advanceFront config observed frame entry rest lifecycle s).toTracker := by
  unfold advanceFront
  split
  · refine accounts_of_requests ?_ rfl
    simp only [requests, hqueue]
    rfl
  · exact accounts_removeHead hqueue carries_merge _
  · exact accounts_same

theorem accounts_mysqlResponse :
    Accounts [] [] s.toTracker (handleMysqlResponse config observed frame s).toTracker := by
  unfold handleMysqlResponse
  split
  · exact accounts_same
  next entry rest hqueue =>
    split
    · exact accounts_advanceFront hqueue
    · exact accounts_same

theorem accounts_response : Accounts [] [] s.toTracker (handleResponseFrame config observed frame s).toTracker := by
  have hconnection := (handleMysqlConnectionResponseFrame_queue config frame s).accounts
  unfold handleResponseFrame
  split
  · exact accounts_same
  rcases hhandled : handleMysqlConnectionResponseFrame config frame s with ⟨s', _ | _⟩
  · rw [hhandled] at hconnection
    exact hconnection.trans (countTruncated_queue.accounts.trans accounts_mysqlResponse)
  · rw [hhandled] at hconnection
    exact hconnection

end Mysql

/-! ## PostgreSQL -/

namespace Postgres

variable (config : ProtocolExtractionConfig) (observed : Nat) (frame : StreamFrame) (s : PostgresStream)

/-- A whole message is a request, unless it belongs to the startup or the backend ignores it while it copies in. -/
def takenMessage (bytes : Bytes) : List Request :=
  if (frontInStartup s && bytes.head? = some 112) || (copyControl s.copyIn bytes.head?).1 then []
  else [⟨messageOf config (.complete bytes), observed⟩]

def taken : List Request :=
  match frame with
  | .protocolSwitch _ _ => []
  | .truncated _ _ => [⟨messageOf config frame, observed⟩]
  | .complete bytes =>
    match startupOf config bytes with
    | none => takenMessage config observed s bytes
    | some startup =>
      match startup.kind with
      | .sslRequest => []
      | .gssEncryptionRequest => []
      | .cancelRequest => [⟨postgresStartupRequestFrame startup, observed⟩]
      | .startup => takenMessage config observed s bytes

def isSyncEntry (entry : PostgresRequest) : Bool := entry.response.isSync

/-- The Syncs behind the front, which leave the queue when the front learns that a copy begins. -/
def syncsIgnored (bytes : Bytes) (rest : List PostgresRequest) :
    Except PostgresExtraction (PostgresProgress × PostgresLifecycles) → List PostgresRequest
  | .ok (.continue, _) => if bytes.head? = some 71 then rest.takeWhile isSyncEntry else []
  | _ => []

def ignoredBy (bytes : Bytes) (truncated : Bool) : List PostgresRequest :=
  match truncated, s.inFlight with
  | false, entry :: rest =>
    match observeFront config bytes entry.response with
    | some progress => syncsIgnored bytes rest progress
    | none => []
  | _, _ => []

def ignoredSyncs : List PostgresRequest :=
  match frame, s.negotiation with
  | .complete bytes, none => ignoredBy config s bytes false
  | _, _ => []

variable {config observed frame s} {rest : List PostgresRequest} {entry : PostgresRequest}

theorem isSync_of_mem_ignoredSyncs (h : entry ∈ ignoredSyncs config frame s) :
    isSyncEntry entry = true := by
  unfold ignoredSyncs at h
  split at h
  · unfold ignoredBy syncsIgnored at h
    split at h
    · split at h
      · split at h
        · split at h
          · exact mem_takeWhile_imp h
          · cases h
        · cases h
      · cases h
    · cases h
  · cases h

/-! ### The counter of ignored controls -/

def ignoredControls (s : PostgresStream) : Nat := s.counters.postgresCopyIgnoredControls

/-- The turn accounts for the requests, and counts those that leave the queue without an observation. A request that the
backend ignores is counted too, but it has never been in the queue. -/
structure Counts (taken ignored : List Request) (before after : Tracker PostgresLifecycles) : Prop
    extends Accounts taken ignored before after where
  controls : before.counters.postgresCopyIgnoredControls + ignored.length ≤ after.counters.postgresCopyIgnoredControls

section Counts

variable {t t' t'' : Tracker PostgresLifecycles} {taken taken' ignored ignored' : List Request}

theorem Counts.trans (h : Counts taken ignored t t') (h' : Counts taken' ignored' t' t'') :
    Counts (taken ++ taken') (ignored ++ ignored') t t'' := by
  have hfirst := h.controls
  have hsecond := h'.controls
  refine ⟨h.toAccounts.trans h'.toAccounts, ?_⟩
  rw [length_append]
  omega

theorem counts_of_accounts (h : Accounts taken [] t t')
    (hcontrols : t.counters.postgresCopyIgnoredControls ≤ t'.counters.postgresCopyIgnoredControls) :
    Counts taken [] t t' :=
  ⟨h, hcontrols⟩

theorem counts_same {counters : ProtocolRegistryCounters}
    (hcontrols : t.counters.postgresCopyIgnoredControls ≤ counters.postgresCopyIgnoredControls) :
    Counts [] [] t { t with counters } :=
  counts_of_accounts accounts_same hcontrols

end Counts

variable {parsed : ParsedRequestFrame} {lifecycles : PostgresLifecycles} {bytes : Bytes}
  {negotiation : PostgresNegotiation} {truncated : Bool}

theorem counts_emit {parsed' : ParsedRequestFrame}
    (h : Carries ⟨parsed, observed⟩ (buildObservation parsed' observed none)) :
    Counts [⟨parsed, observed⟩] [] s.toTracker (s.emitUnmatched parsed' observed).toTracker :=
  counts_of_accounts (accounts_emitUnmatched h) le_rfl

theorem ignoredControls_expireFrom (queue : List PostgresRequest) (counters : ProtocolRegistryCounters)
    (signals : List ProtocolRequestObservation) :
    (expireFrom observed counters signals queue).counters.postgresCopyIgnoredControls =
      counters.postgresCopyIgnoredControls := by
  induction queue generalizing counters signals with
  | nil => rfl
  | cons entry rest ih =>
    unfold expireFrom
    split
    · exact ih _ _
    · rfl

theorem ignoredControls_enqueue {t : Tracker PostgresLifecycles} :
    (t.enqueue observed parsed lifecycles).counters.postgresCopyIgnoredControls =
      t.counters.postgresCopyIgnoredControls := by
  have hexpired := @ignoredControls_expireFrom observed t.inFlight t.counters t.signals
  show ((t.expireInFlight observed).evictHead).counters.postgresCopyIgnoredControls = _
  unfold evictHead expireInFlight
  split
  · split
    · exact hexpired
    · exact hexpired
  · exact hexpired

theorem counts_queueMessage :
    Counts [⟨parsed, observed⟩] [] s.toTracker (queueMessage observed parsed lifecycles s).toTracker := by
  unfold queueMessage
  split
  · have hcounted : Counts [] [] s.toTracker
        (s.count fun c => { c with postgresSkippedRequests := c.postgresSkippedRequests + 1 }).toTracker :=
      counts_same le_rfl
    exact hcounted.trans (counts_emit carries_warn)
  split
  · exact counts_emit carries_buildObservation
  split
  · exact counts_emit carries_buildObservation
  · exact counts_of_accounts accounts_enqueue ignoredControls_enqueue.ge

theorem counts_message :
    Counts [⟨messageOf config frame, observed⟩] [] s.toTracker (handleMessage config observed frame s).toTracker := by
  have hcontrols : (countRequest config frame s.counters).postgresCopyIgnoredControls = ignoredControls s := by
    unfold countRequest
    split
    · split
      · rfl
      · rfl
    · rfl
    · rfl
  have hcounted : Counts [] [] s.toTracker (s.count (countRequest config frame)).toTracker :=
    counts_same hcontrols.ge
  exact hcounted.trans counts_queueMessage

theorem counts_wholeMessage :
    Counts (takenMessage config observed s bytes) [] s.toTracker
      (handleWholeMessage config observed bytes s).toTracker := by
  unfold handleWholeMessage takenMessage
  by_cases hstartup : (frontInStartup s && bytes.head? = some 112) = true
  · simp only [hstartup, Bool.true_or, if_true]
    exact counts_same le_rfl
  · simp only [hstartup, Bool.false_or]
    rcases copyControl s.copyIn bytes.head? with ⟨_ | _, copyIn⟩
    · have hmode : Counts [] [] s.toTracker ({ s with copyIn := copyIn } : PostgresStream).toTracker :=
        counts_same le_rfl
      exact hmode.trans counts_message
    · exact counts_same (Nat.le_succ _)

theorem counts_negotiation : Counts [] [] s.toTracker (beginPostgresNegotiation negotiation s).toTracker := by
  unfold beginPostgresNegotiation
  split
  · exact counts_same le_rfl
  · exact counts_same le_rfl

theorem counts_request :
    Counts (taken config observed frame s) [] s.toTracker (handleRequestFrame config observed frame s).toTracker := by
  unfold handleRequestFrame taken
  cases frame with
  | protocolSwitch bytes protocol => exact counts_same le_rfl
  | truncated bytes declared => exact counts_message
  | complete bytes =>
    dsimp only
    rcases startupOf config bytes with _ | startup
    · exact counts_wholeMessage
    · dsimp only
      cases startup.kind with
      | startup => exact counts_wholeMessage
      | sslRequest | gssEncryptionRequest => exact counts_negotiation
      | cancelRequest => exact counts_emit carries_buildObservation

theorem dropIgnoredSyncs_eq {queue : List PostgresRequest} : dropIgnoredSyncs queue =
    (queue.dropWhile isSyncEntry, (queue.takeWhile isSyncEntry).length) := by
  induction queue with
  | nil => rfl
  | cons entry rest ih =>
    unfold dropIgnoredSyncs
    by_cases hsync : isSyncEntry entry = true
    · rw [if_pos (show entry.response.isSync = true from hsync), ih, dropWhile_cons_of_pos hsync,
        takeWhile_cons_of_pos hsync]
      rfl
    · rw [if_neg (show ¬ entry.response.isSync = true from hsync), dropWhile_cons_of_neg hsync,
        takeWhile_cons_of_neg hsync]
      rfl

theorem counts_enterCopyIn (hqueue : s.inFlight = entry :: rest) :
    Counts [] ((rest.takeWhile isSyncEntry).map InFlightRequest.request) s.toTracker
      (enterPostgresCopyIn s).toTracker := by
  have hcut : rest = rest.takeWhile isSyncEntry ++ rest.dropWhile isSyncEntry :=
    takeWhile_append_dropWhile.symm
  unfold enterPostgresCopyIn
  simp only [hqueue, dropIgnoredSyncs_eq]
  refine ⟨⟨⟨[], (append_nil _).symm, ?_⟩, fun hbound => ?_⟩, ?_⟩
  · have hrequests : s.toTracker.requests = [entry.request] ++
        (rest.takeWhile isSyncEntry).map InFlightRequest.request ++
        (rest.dropWhile isSyncEntry).map InFlightRequest.request := by
      rw [requests, hqueue, map_cons, append_assoc, ← map_append, ← hcut]
      rfl
    rw [hrequests]
    exact balances_writeOff _ _ _
  · rw [hqueue, length_cons] at hbound
    exact Nat.le_trans (Nat.succ_le_succ (dropWhile_suffix _).length_le) hbound
  · rw [length_map]
    exact le_rfl

theorem counts_discardUntilSync (s : PostgresStream) (queue : List PostgresRequest) :
    Counts [] [] ({ s with inFlight := queue } : PostgresStream).toTracker (discardUntilSync s queue).toTracker := by
  induction queue generalizing s with
  | nil => exact counts_same le_rfl
  | cons entry rest ih =>
    unfold discardUntilSync
    split
    · exact counts_same le_rfl
    · have hskipped := accounts_removeHead (t := ⟨entry :: rest, s.counters, s.signals⟩) rfl
        (@carries_warn _ postgresSkippedAfterErrorWarning none _)
        { s.counters with postgresSkippedRequests := s.counters.postgresSkippedRequests + 1 }
      have hrest := ih
        ((s.count fun c => { c with postgresSkippedRequests := c.postgresSkippedRequests + 1 }).emitUnmatched
        (entry.parsed.warn postgresSkippedAfterErrorWarning) entry.startedUnixNanos)
      exact (counts_of_accounts hskipped le_rfl).trans hrest

theorem counts_advanceFront {progress : Except PostgresExtraction (PostgresProgress × PostgresLifecycles)}
    (hqueue : s.inFlight = entry :: rest) :
    Counts [] ((syncsIgnored bytes rest progress).map InFlightRequest.request) s.toTracker
      (advanceFront config observed bytes entry rest s progress).toTracker := by
  unfold advanceFront syncsIgnored
  rcases progress with e | ⟨_ | ⟨response, discard⟩, lifecycles⟩
  · exact counts_same le_rfl
  · have hadvanced : Counts [] [] s.toTracker
        ({ s with inFlight := { entry with response := lifecycles } :: rest } : PostgresStream).toTracker := by
      refine counts_of_accounts (accounts_of_requests ?_ rfl) le_rfl
      simp only [requests, hqueue]
      rfl
    dsimp only
    split
    · have hcopy := counts_enterCopyIn (s := { s with inFlight := { entry with response := lifecycles } :: rest }) rfl
      have hall := hadvanced.trans hcopy
      exact ⟨hall.toAccounts.quiet rfl rfl, hall.controls⟩
    · exact ⟨hadvanced.toAccounts.quiet rfl rfl, hadvanced.controls⟩
  · have hcompleted := accounts_removeHead hqueue (@carries_merge _ entry.parsed.protocol entry.parsed.statusCode
      (some observed) (responseFrame response) config.maxAttributes _)
      { s.counters with matchedResponses := s.counters.matchedResponses + 1 }
    dsimp only
    split
    · have hdiscarded := counts_discardUntilSync { s with
        toTracker := ({ s.toTracker with inFlight := rest } : Tracker PostgresLifecycles).emitCompletedRequest config
          observed entry (responseFrame response) } rest
      exact (counts_of_accounts hcompleted le_rfl).trans hdiscarded
    · exact counts_of_accounts hcompleted le_rfl

theorem counts_popFront : Counts [] [] s.toTracker (popFront config observed bytes truncated s).toTracker := by
  unfold popFront
  split
  · exact counts_same le_rfl
  split
  · exact counts_same le_rfl
  next entry rest hqueue =>
    split
    · exact counts_of_accounts (accounts_removeHead hqueue carries_warn _) le_rfl
    split
    · exact counts_of_accounts (accounts_removeHead hqueue carries_merge _) le_rfl
    · exact counts_of_accounts (accounts_removeHead hqueue carries_warn _) le_rfl

theorem counts_databaseResponse :
    Counts [] ((ignoredBy config s bytes truncated).map InFlightRequest.request) s.toTracker
      (handleDatabaseResponse config observed bytes truncated s).toTracker := by
  -- whether an error ends a copy has no bearing on the queue
  have hcopy : ∀ ended : Bool, Counts [] [] s.toTracker (if ended then { s with copyIn := false } else s).toTracker ∧
      (if ended then { s with copyIn := false } else s).inFlight = s.inFlight := by
    intro ended
    cases ended with
    | true => exact ⟨counts_same le_rfl, rfl⟩
    | false => exact ⟨counts_same le_rfl, rfl⟩
  unfold handleDatabaseResponse ignoredBy
  rcases hqueue : s.inFlight with _ | ⟨entry, rest⟩
  · cases truncated with
    | true => exact counts_popFront
    | false => exact counts_popFront
  obtain ⟨hmode, hkept⟩ := hcopy (entry.response.startup.isNone && bytes.head? = some 69)
  cases truncated with
  | true =>
    dsimp only
    split
    · exact counts_popFront
    · exact hmode.trans (counts_same le_rfl)
  | false =>
    dsimp only
    rcases observeFront config bytes entry.response with _ | progress
    · exact counts_popFront
    · exact hmode.trans (counts_advanceFront (hkept.trans hqueue))

theorem counts_negotiationResponse :
    Counts [] [] s.toTracker (handlePostgresNegotiationResponse negotiation bytes truncated s).toTracker := by
  unfold handlePostgresNegotiationResponse
  split
  · exact counts_same le_rfl
  split
  · split
    · exact counts_same le_rfl
    split
    · exact counts_same le_rfl
    · exact counts_same le_rfl
  · exact counts_same le_rfl

/-- **Each Sync that leaves the queue without an observation is counted.** -/
theorem counts_response :
    Counts [] ((ignoredSyncs config frame s).map InFlightRequest.request) s.toTracker
      (handleResponseFrame config observed frame s).toTracker := by
  unfold handleResponseFrame ignoredSyncs
  cases frame with
  | protocolSwitch bytes protocol => exact counts_same le_rfl
  | complete bytes =>
    dsimp only
    rcases s.negotiation with _ | negotiation
    · exact counts_databaseResponse
    · exact counts_negotiationResponse
  | truncated bytes declared =>
    have hcounted : Counts [] [] s.toTracker
        (s.count fun c => { c with truncatedFrames := c.truncatedFrames + 1 }).toTracker :=
      counts_same le_rfl
    have hsame : (s.count fun c => { c with truncatedFrames := c.truncatedFrames + 1 }).negotiation =
        s.negotiation := rfl
    dsimp only
    rw [hsame]
    rcases s.negotiation with _ | negotiation
    · exact hcounted.trans (@counts_databaseResponse config observed _ bytes true)
    · exact hcounted.trans counts_negotiationResponse

end Postgres

end ENavigator
