import ENavigator.Mysql.Transport

/-!
# A MySQL connection

One turn of the loops over request and response frames, on a connection that speaks MySQL. The handshake comes first;
then the last command takes the packets that continue it, the oldest one the packets of a file it uploads and the
server's packets, and every other packet of the client is a command. A command without an answer waits only as long as
packets of it are missing.
-/

namespace ENavigator.Mysql

open ENavigator.Correlation ENavigator.Stream

variable (config : ProtocolExtractionConfig)

abbrev MysqlRequest := InFlightRequest (Option MysqlResponseLifecycle)

def declaredLen : StreamFrame → Nat
  | .complete bytes => bytes.length
  | .truncated _ declaredLen => declaredLen
  | .protocolSwitch bytes _ => bytes.length

def isTruncated : StreamFrame → Bool
  | .truncated _ _ => true
  | _ => false

variable (observed : Nat) (frame : StreamFrame) (s : MysqlStream)

namespace MysqlStream

def countTruncated (frame : StreamFrame) : MysqlStream :=
  if isTruncated frame then s.count fun c => { c with truncatedFrames := c.truncatedFrames + 1 } else s

def unparsedFrame : MysqlStream :=
  s.count fun c => { c with unparsedFrames := c.unparsedFrames + 1 }

def sequenceFailure : MysqlStream :=
  s.count fun c => { c with mysqlLogicalSequenceFailures := c.mysqlLogicalSequenceFailures + 1 }

end MysqlStream

/-! ## Requests -/

def commandFrame (parsed : ParsedMysqlCommand) : ParsedRequestFrame :=
  { protocol := .mysql, operation := parsed.operation, attributes := parsed.attributes }

/-- The command of a frame, or what stands for it. -/
def parseCommandFrame : Except ParsedRequestFrame ParsedRequestFrame :=
  match frame with
  | .complete bytes =>
    match parseMysqlCommand bytes config with
    | .ok parsed => .ok (commandFrame parsed)
    | .error _ => .error (placeholderRequest .mysql "unparsed_request_frame")
  | _ =>
    match parseMysqlCommandPrefix (frameBytes frame) (declaredLen frame) config with
    | .ok parsed => .ok (commandFrame parsed)
    | .error _ => .error (placeholderRequest .mysql "truncated_request_frame")

def frameRequest : ParsedRequestFrame :=
  match parseCommandFrame config frame with
  | .ok parsed => parsed
  | .error placeholder => placeholder

def countRequest : MysqlStream :=
  match parseCommandFrame config frame with
  | .ok _ => s.countTruncated frame
  | .error _ => (s.countTruncated frame).unparsedFrame

def lifecycleOf : StreamFrame → Option MysqlResponseLifecycle
  | .complete bytes => (MysqlResponseLifecycle.fromRequest bytes config).toOption
  | .truncated bytes declaredLen => (MysqlResponseLifecycle.fromRequestPrefix bytes declaredLen config).toOption
  | .protocolSwitch _ _ => none

/-- Nothing more is to come for the command, neither from the client nor from the server. -/
def isOver (lifecycle : MysqlResponseLifecycle) : Bool :=
  !lifecycle.expectsResponse && !lifecycle.ownsRequestContinuation

/-- A command joins the queue, unless it is over with its first packet. -/
def handleCommand : MysqlStream :=
  let counted := countRequest config frame s
  if (lifecycleOf config frame).any isOver then
    { counted with toTracker := counted.toTracker.emitUnmatched (frameRequest config frame) observed }
  else { counted with
    toTracker := counted.toTracker.enqueue observed (frameRequest config frame) (lifecycleOf config frame) }

/-- The packet continues the last command, `entry`; without an answer to wait for, the last packet ends it. -/
def continueCommand (front : List MysqlRequest) (entry : MysqlRequest)
    (lifecycle : MysqlResponseLifecycle) (s : MysqlStream) : MysqlStream :=
  match lifecycle.observeRequestContinuation (frameBytes frame) (declaredLen frame) with
  | .error _ => s.sequenceFailure
  | .ok (_, lifecycle) =>
    let counted := s.count fun c =>
      { c with mysqlLogicalRequestContinuations := c.mysqlLogicalRequestContinuations + 1 }
    if isOver lifecycle then
      { counted with inFlight := front, signals := counted.signals ++ [entry.unmatched] }
    else { counted with inFlight := front ++ [{ entry with response := some lifecycle }] }

/-- The packet belongs to the file that the oldest command, `entry`, uploads. -/
def uploadPacket (entry : MysqlRequest) (rest : List MysqlRequest)
    (lifecycle : MysqlResponseLifecycle) (s : MysqlStream) : MysqlStream :=
  match lifecycle.observeClientPacket (frameBytes frame) (declaredLen frame) with
  | .error _ => s.unparsedFrame
  | .ok (_, lifecycle) =>
    { s with inFlight := { entry with response := some lifecycle } :: rest }.count fun c =>
      { c with
        mysqlLocalInfilePackets := c.mysqlLocalInfilePackets + 1
        mysqlLocalInfileBytes := c.mysqlLocalInfileBytes + (declaredLen frame - 4) }

/-- The last entry, if it takes the packets that continue it. -/
def continuing (queue : List MysqlRequest) : Option (List MysqlRequest × MysqlRequest × MysqlResponseLifecycle) :=
  match queue.getLast? with
  | none => none
  | some entry =>
    match entry.response with
    | none => none
    | some lifecycle => if lifecycle.ownsRequestContinuation then some (queue.dropLast, entry, lifecycle) else none

/-- The first entry, if it takes the packets of a file. -/
def uploading : List MysqlRequest → Option (MysqlRequest × List MysqlRequest × MysqlResponseLifecycle)
  | [] => none
  | entry :: rest =>
    match entry.response with
    | none => none
    | some lifecycle => if lifecycle.ownsLocalInfileClientPackets then some (entry, rest, lifecycle) else none

/-- A packet that is none of the handshake. -/
def handleRequestPacket : MysqlStream :=
  match continuing s.inFlight with
  | some (front, entry, lifecycle) => continueCommand frame front entry lifecycle (s.countTruncated frame)
  | none =>
    match uploading s.inFlight with
    | some (entry, rest, lifecycle) => uploadPacket frame entry rest lifecycle (s.countTruncated frame)
    | none =>
      if frame = .complete [0, 0, 0, 0] then s.unparsedFrame else handleCommand config observed frame s

def handleRequestFrame : MysqlStream :=
  match handleMysqlConnectionRequestFrame config frame s, frame with
  | (s, true), _ => s
  | (s, false), .protocolSwitch _ _ => s.unparsedFrame
  | (s, false), _ => handleRequestPacket config observed frame s

/-! ## Responses -/

def responseFrame (response : ParsedMysqlResponse) : ParsedResponseFrame :=
  { statusCode := some response.statusCode, errorType := response.errorType, attributes := response.attributes }

/-- What the oldest command makes of the server's packet. -/
def observeFront (lifecycle : MysqlResponseLifecycle) :
    Except MysqlExtraction (MysqlResponseProgress × MysqlResponseLifecycle) :=
  if isTruncated frame then lifecycle.observeResponsePrefix (frameBytes frame) (declaredLen frame)
  else lifecycle.observePacket (frameBytes frame) config

def advanceFront (entry : MysqlRequest)
    (rest : List MysqlRequest) (lifecycle : MysqlResponseLifecycle) (s : MysqlStream) : MysqlStream :=
  match observeFront config frame lifecycle with
  | .ok (.continue, lifecycle) =>
    { s with inFlight := { entry with response := some lifecycle } :: rest }.count fun c =>
      { c with
        responseContinuations := c.responseContinuations + 1
        mysqlLogicalResponseContinuations := c.mysqlLogicalResponseContinuations + (isTruncated frame).toNat }
  | .ok (.complete response, _) =>
    let popped := { s with inFlight := rest }
    { popped with toTracker := popped.toTracker.emitCompletedRequest config observed entry (responseFrame response) }
  | .error _ =>
    s.count fun c =>
      { c with
        unparsedResponses := c.unparsedResponses + 1
        mysqlLogicalSequenceFailures := c.mysqlLogicalSequenceFailures + (isTruncated frame).toNat }

def handleMysqlResponse : MysqlStream :=
  match s.inFlight with
  | [] => s.count fun c => { c with orphanResponses := c.orphanResponses + 1 }
  | entry :: rest =>
    match entry.response with
    | some lifecycle => advanceFront config observed frame entry rest lifecycle s
    -- the generic matcher leaves every packet of MySQL alone
    | none => s.count fun c => { c with responseContinuations := c.responseContinuations + 1 }

def handleResponseFrame : MysqlStream :=
  match frame with
  | .protocolSwitch _ _ =>
    s.count fun c => { c with websocketTransitionRejections := c.websocketTransitionRejections + 1 }
  | _ =>
    match handleMysqlConnectionResponseFrame config frame s with
    | (s, true) => s
    | (s, false) => handleMysqlResponse config observed frame (s.countTruncated frame)

end ENavigator.Mysql
