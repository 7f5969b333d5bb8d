import ENavigator.Correlation.Accounting
import ENavigator.Lib.Delay
import ENavigator.Postgres.Backend
import ENavigator.Stream.Lossless

/-!
# A frontend, a backend and the tracker between them

The frontend sends messages whenever it likes; system calls move their bytes, and the backend answers a message that was
moved whole as `backend` prescribes; system calls move the bytes of its answers. The tracker has what its decoders make
of these bytes. The code of the connection is the pipeline of its lifecycles (`Tracks`), that one stands for the
backend's (`recognises`), and what the tracker has not seen yet is on the way to it (`Pipeline.Behind`).

`attributed_of_fitting` : if the decoders can hold what they are given, in the end each message that was answered has
been reported once, with its own answer, and each one that was skipped without one.
`overrun_not_attributed` : a system call of more bytes than the buffer holds leaves a query to the answer to the next.
-/

namespace ENavigator.Postgres

open ENavigator.Correlation ENavigator.Stream List Pipeline

variable {config : ProtocolExtractionConfig}
variable {f : BackendMessage config}

/-! ## The connection is a pipeline -/

/-- The observation of a message and the response to it. -/
def completion (m : Message config) (response : ParsedPostgresResponse) (time : Nat) : ProtocolRequestObservation :=
  buildObservation (mergeResponseAttributes (messageFrame m.parsed) (responseFrame response) config.maxAttributes)
    m.started (some time)

def unanswered (m : Message config) : ProtocolRequestObservation :=
  buildObservation (messageFrame m.parsed) m.started none

def skipped (m : Message config) : ProtocolRequestObservation :=
  buildObservation ((messageFrame m.parsed).warn postgresSkippedAfterErrorWarning) m.started none

def report : Fate (Message config) ParsedPostgresResponse → ProtocolRequestObservation
  | .answered m response time => completion m response time
  | .skipped m => skipped m
  | .unanswered m => unanswered m

def entryOf (x : Message config × PostgresLifecycles) : PostgresRequest := ⟨messageFrame x.1.parsed, x.1.started, x.2⟩

/-- The stream is the pipeline, with the observations `before` it. -/
structure Tracks (before : List ProtocolRequestObservation)
    (p : Pipeline (Message config) PostgresLifecycles ParsedPostgresResponse) (s : PostgresStream) : Prop where
  queue : s.inFlight = p.queue.map entryOf
  skipping : s.discardingUntilSync = p.skipping
  signals : s.signals = before ++ p.fates.map report
  negotiation : s.negotiation = none
  copyIn : s.copyIn = false

variable {before : List ProtocolRequestObservation}
  {p : Pipeline (Message config) PostgresLifecycles ParsedPostgresResponse} {s : PostgresStream}

theorem Tracks.count (h : Tracks before p s) (add : ProtocolRegistryCounters → ProtocolRegistryCounters) :
    Tracks before p (s.count add) := { h with }

theorem signals_append {signals : List ProtocolRequestObservation}
    {fates : List (Fate (Message config) ParsedPostgresResponse)} (h : signals = before ++ fates.map report)
    (fate : Fate (Message config) ParsedPostgresResponse) :
    signals ++ [report fate] = before ++ (fates ++ [fate]).map report := by
  rw [h, map_append, append_assoc]
  rfl

theorem Tracks.emit (h : Tracks before p s) {fate : Fate (Message config) ParsedPostgresResponse}
    {parsed : ParsedRequestFrame} {started : Nat} (hreport : buildObservation parsed started none = report fate) :
    Tracks before { p with fates := p.fates ++ [fate] } (s.emitUnmatched parsed started) := by
  have hsignals := signals_append h.signals fate
  rw [← hreport] at hsignals
  exact { h with signals := hsignals }

/-! ### Messages -/

namespace Message

variable (m : Message config)

theorem typeByte_ne : m.kind.typeByte ≠ 0 ∧ m.kind.typeByte ≠ 112 := by
  cases m.kind <;> decide

theorem parseRequestFrame_eq : parseRequestFrame m.bytes config = .ok (messageFrame m.parsed) := by
  rw [parseRequestFrame, m.head?, if_neg (fun h => m.typeByte_ne.1 (Option.some.inj h)), m.accepted]
  rfl

theorem startupOf_eq : startupOf config m.bytes = none := by
  rw [startupOf, m.head?, if_neg (fun h => m.typeByte_ne.1 (Option.some.inj h))]

theorem messageOf_eq : messageOf config (.complete m.bytes) = messageFrame m.parsed := by
  simp only [messageOf, m.parseRequestFrame_eq]

theorem lifecyclesOf_ne : lifecyclesOf config (.complete m.bytes) ≠ {} := by
  rw [m.lifecyclesOf_eq]
  cases m.kind <;> exact nofun

end Message

variable (m : Message config)

theorem handleRequestFrame_message (hcopy : s.copyIn = false) :
    handleRequestFrame config m.started (.complete m.bytes) s =
      queueMessage m.started (messageFrame m.parsed) (lifecyclesOf config (.complete m.bytes)) s := by
  have hcount : s.count (countRequest config (.complete m.bytes)) = s := by
    simp only [PostgresStream.count, countRequest, m.parseRequestFrame_eq]
  have hpassword : (frontInStartup s && decide (m.bytes.head? = some 112)) = false := by
    rw [m.head?, decide_eq_false (fun h => m.typeByte_ne.2 (Option.some.inj h)), Bool.and_false]
  have hcontrol : copyControl s.copyIn m.bytes.head? = (false, false) := by
    rw [hcopy]
    rfl
  have hsame : { s with copyIn := false } = s := by rw [← hcopy]
  simp only [handleRequestFrame, m.startupOf_eq, handleWholeMessage, hpassword, Bool.false_eq_true, if_false, hcontrol,
    hsame, handleMessage, m.messageOf_eq, hcount]

/-- **A message asks the pipeline.** -/
theorem Tracks.ask (h : Tracks before p s) (m : Message config)
    (hroom : m.kind = .flush ∨ s.toTracker.HasRoom m.started) :
    Tracks before (p.ask (lifecycles config) m) (handleRequestFrame config m.started (.complete m.bytes) s) := by
  rw [handleRequestFrame_message m h.copyIn]
  have hbarrier : (lifecycles config).barrier m = (lifecyclesOf config (.complete m.bytes)).isSync := rfl
  unfold queueMessage Pipeline.ask
  rw [h.skipping, hbarrier]
  by_cases hskip : (p.skipping && !(lifecyclesOf config (.complete m.bytes)).isSync) = true
  · rw [if_pos hskip, if_pos hskip]
    exact (h.count _).emit rfl
  rw [if_neg hskip, if_neg hskip, if_neg m.lifecyclesOf_ne]
  by_cases hsilent : ((lifecyclesOf config (.complete m.bytes)).request.any fun lifecycle =>
      !lifecycle.expectsResponse) = true
  · have hstart : (lifecycles config).start m = none := if_pos hsilent
    rw [if_pos hsilent, hstart]
    exact h.emit rfl
  · have hstart : (lifecycles config).start m = some (lifecyclesOf config (.complete m.bytes)) := if_neg hsilent
    have hjoins : s.toTracker.HasRoom m.started := by
      refine hroom.resolve_left fun hflush => hsilent ?_
      rw [m.lifecyclesOf_eq, hflush]
      rfl
    rw [if_neg hsilent, hstart, Tracker.enqueue_of_hasRoom hjoins]
    refine ⟨?_, ?_, h.signals, h.negotiation, h.copyIn⟩
    · show s.inFlight ++ [_] = (p.queue ++ [_]).map entryOf
      rw [h.queue, map_append]
      rfl
    · exact Bool.eq_false_iff.mpr hskip

/-! ### Responses -/

/-- The queue knows which of its entries are barriers. -/
def SyncsKnown (queue : List (Message config × PostgresLifecycles)) : Prop :=
  ∀ x ∈ queue, x.2.isSync = (lifecycles config).barrier x.1

/-- The loop that discards up to a Sync, by induction on the queue. -/
theorem tracks_discardUntilSync (queue : List (Message config × PostgresLifecycles)) (hsyncs : SyncsKnown queue)
    (skipping : Bool) (fates : List (Fate (Message config) ParsedPostgresResponse)) (s : PostgresStream)
    (hsignals : s.signals = before ++ fates.map report) (hnegotiation : s.negotiation = none)
    (hcopy : s.copyIn = false) :
    Tracks before (Pipeline.skip (lifecycles config) ⟨queue, skipping, fates⟩)
      (discardUntilSync s (queue.map entryOf)) := by
  induction queue generalizing fates s with
  | nil =>
    refine ⟨rfl, rfl, ?_, hnegotiation, hcopy⟩
    show s.signals = before ++ (fates ++ []).map report
    rw [append_nil]
    exact hsignals
  | cons x queue ih =>
    have hsync : (entryOf x).response.isSync = (lifecycles config).barrier x.1 := hsyncs x mem_cons_self
    rw [map_cons, discardUntilSync, hsync]
    cases hbarrier : (lifecycles config).barrier x.1 with
    | true =>
      refine ⟨?_, ?_, ?_, hnegotiation, hcopy⟩
      all_goals simp [Pipeline.skip, hbarrier, hsignals]
    | false =>
      have hskip : Pipeline.skip (lifecycles config) ⟨x :: queue, skipping, fates⟩ =
          Pipeline.skip (lifecycles config) ⟨queue, skipping, fates ++ [.skipped x.1]⟩ := by
        simp [Pipeline.skip, hbarrier]
      rw [hskip, if_neg Bool.false_ne_true]
      exact ih (fun y hy => hsyncs y (mem_cons_of_mem x hy)) _ _
        (signals_append hsignals (.skipped x.1)) hnegotiation hcopy

theorem Tracks.advanceFront (h : Tracks before p s) {m : Message config} {state : PostgresLifecycles}
    {rest : List (Message config × PostgresLifecycles)} (hqueue : p.queue = (m, state) :: rest)
    (hsyncs : SyncsKnown p.queue) (hcopy : f.messageType ≠ 71) (time : Nat)
    {progress : Except PostgresExtraction (PostgresProgress × PostgresLifecycles)}
    (haccepted : reactionOf (some progress) ≠ .refuse) :
    Tracks before (p.after (lifecycles config) time m rest (reactionOf (some progress)))
      (advanceFront config time f.bytes (entryOf (m, state)) (rest.map entryOf) s progress) := by
  have hrest : SyncsKnown rest := fun x hx => hsyncs x (hqueue ▸ mem_cons_of_mem _ hx)
  rcases progress with e | ⟨_ | ⟨response, discard⟩, state'⟩
  · exact absurd rfl haccepted
  · have hhead : ¬ f.bytes.head? = some 71 := by
      rw [f.head?]
      exact fun hb => hcopy (Option.some.inj hb)
    unfold Postgres.advanceFront
    dsimp only
    rw [if_neg hhead]
    exact { h with queue := rfl }
  · have hsignals := signals_append h.signals (.answered m response time)
    cases discard with
    | false => exact { h with queue := rfl, signals := hsignals }
    | true => exact tracks_discardUntilSync rest hrest _ _ _ hsignals h.negotiation h.copyIn

/-- **A backend message tells the pipeline.** -/
theorem Tracks.tell (h : Tracks before p s) (hsyncs : SyncsKnown p.queue)
    (hidle : p.queue = [] → isAside f.messageType = true) (haccepted : p.Accepts (lifecycles config) f)
    (hcopy : f.messageType ≠ 71) (time : Nat) :
    Tracks before (p.tell (lifecycles config) time f) (handleResponseFrame config time (.complete f.bytes) s) := by
  have hhandle : handleResponseFrame config time (.complete f.bytes) s =
      handleDatabaseResponse config time f.bytes false s := by
    simp only [handleResponseFrame, h.negotiation, frameBytes]
  rw [hhandle]
  rcases hqueue : p.queue with _ | ⟨⟨m, state⟩, rest⟩
  · have hempty : s.inFlight = [] := by rw [h.queue, hqueue, map_nil]
    have haside : f.bytes.head? ∈ [some 65, some 75, some 78, some 82, some 83, some 118] := by
      have htype := hidle hqueue
      rw [f.head?]
      simp only [isAside, notificationResponse, noticeResponse, parameterStatus, mem_cons, not_mem_nil,
        or_false, decide_eq_true_eq] at htype
      rcases htype with htype | htype | htype
      all_goals
        rw [htype]
        decide
    rw [tell_nil _ hqueue, handleDatabaseResponse, hempty]
    unfold popFront
    rw [if_pos haside]
    exact h.count _
  · have hcons : s.inFlight = entryOf (m, state) :: rest.map entryOf := by rw [h.queue, hqueue, map_cons]
    have hreact : follow state f ≠ .refuse := haccepted (m, state) (by rw [hqueue]; rfl)
    rw [tell_cons _ hqueue]
    show Tracks before (p.after _ time m rest (follow state f)) _
    unfold handleDatabaseResponse
    rw [hcons]
    have hresponse : (entryOf (m, state)).response = state := rfl
    unfold follow at hreact ⊢
    dsimp only
    rw [hresponse]
    rcases hprogress : observeFront config f.bytes state with _ | progress
    · rw [hprogress] at hreact
      exact absurd rfl hreact
    · rw [hprogress] at hreact
      have hsame : { s with copyIn := false } = s := by rw [← h.copyIn]
      simp only [hsame, ite_self, Bool.false_eq_true, if_false]
      exact h.advanceFront hqueue hsyncs hcopy time hreact

/-! ## The status of an observation -/

def statusCode? (o : ProtocolRequestObservation) : Option Bytes :=
  (o.attributes.find? fun a => a.key == "db.response.status_code").map TraceAttribute.value

/-- A message leaves room for the status, names the system and has no status of its own. -/
theorem Message.attributes_spec (hmax : 4 ≤ config.maxAttributes) :
    m.parsed.attributes.length ≤ 3 ∧ (m.parsed.attributes.any fun a => a.key == "db.system.name") = true ∧
      (m.parsed.attributes.find? fun a => a.key == "db.response.status_code") = none := by
  have haccepted := m.accepted
  obtain ⟨⟨messageType, body⟩, -, haccepted⟩ := bind_eq_ok haccepted
  obtain ⟨query, -, haccepted⟩ := bind_eq_ok haccepted
  rw [← Except.ok.inj haccepted]
  have hroom : ∀ n, n < 4 → ¬ n ≥ config.maxAttributes := by
    intro n hn
    omega
  rcases messageOperation messageType query with _ | operation
  · simp [pushAttribute, hroom]
  · simp [pushAttribute, hroom]

theorem statusCode?_completion {response : ParsedPostgresResponse} (hstatus : StatusFirst response)
    (hmax : 4 ≤ config.maxAttributes) (time : Nat) :
    statusCode? (completion m response time) = some response.statusCode := by
  obtain ⟨hlen, hsystem, hnone⟩ := m.attributes_spec hmax
  obtain ⟨more, hmore⟩ := hstatus
  have hroom : ¬ m.parsed.attributes.length ≥ config.maxAttributes := by omega
  have hfresh : ¬ (m.parsed.attributes.any fun a => a.key == "db.response.status_code") = true := by
    rw [List.find?_eq_none] at hnone
    rw [any_eq_true]
    rintro ⟨a, ha, hkey⟩
    exact hnone a ha hkey
  have hmerged : mergeAttributes config.maxAttributes m.parsed.attributes response.attributes =
      mergeAttributes config.maxAttributes
        (m.parsed.attributes ++ [⟨"db.response.status_code", response.statusCode⟩]) more := by
    rw [hmore, mergeAttributes, if_neg hroom, if_pos hsystem, mergeAttributes, if_neg hroom, if_neg hfresh]
  obtain ⟨rest, hrest⟩ := mergeAttributes_prefix config.maxAttributes
    (m.parsed.attributes ++ [⟨"db.response.status_code", response.statusCode⟩]) more
  show ((mergeAttributes config.maxAttributes m.parsed.attributes response.attributes).find? _).map _ = _
  rw [hmerged, ← hrest, List.find?_append, List.find?_append, hnone]
  rfl

theorem statusFirst_answer (hmax : 4 ≤ config.maxAttributes) (kind : MessageKind) (answer : Answer config) :
    StatusFirst (answer.response kind) := by
  have htwo : 2 ≤ config.maxAttributes := by omega
  unfold Answer.response
  split
  · next result _ =>
      obtain ⟨more, hmore⟩ := statusFirst_of_accepted htwo result.accepted
      obtain ⟨rest, hrest⟩ := mergeAttributes_prefix config.maxAttributes result.response.attributes
        answer.last.response.attributes
      refine ⟨more ++ rest, ?_⟩
      show mergeAttributes config.maxAttributes result.response.attributes answer.last.response.attributes = _
      rw [← hrest, hmore]
      rfl
  · exact statusFirst_of_accepted htwo answer.last.accepted

/-! ## Runs -/

abbrev Server (config : ProtocolExtractionConfig) :=
  Pipeline (Message config) (List (BackendMessage config)) (Answer config)

structure Wire (config : ProtocolExtractionConfig) where
  stream : PostgresStream
  requests : Peer
  responses : Peer
  /-- all messages of the frontend -/
  frontend : List (Message config) := []
  server : Server config := {}

/-- A connection on which the decoders of both directions are in use already. -/
def Wire.start (stream : PostgresStream) (request response : StreamSide) : Wire config where
  stream := stream
  requests := { side := request }
  responses := { side := response }

inductive WireEvent (config : ProtocolExtractionConfig) where
  | send (m : Message config)
  /-- the backend sends the next message of an answer, or one that may come at any time -/
  | respond (f : BackendMessage config)
  /-- a system call moves the next `total` bytes of a direction; all of them are seen -/
  | capture (direction : StreamDirection) (total observed : Nat)

def Message.startedAt (m : Message config) (time : Nat) : Message config := { m with started := time }

open ProtocolStreamDecoder (Lossless)

section

variable [Base64]

/-- The messages that a system call completes, with the start that the tracker gives them. -/
def Wire.newcomers (w : Wire config) (total observed : Nat) : List (Message config) :=
  let (requests, _, time) := w.requests.receive total total observed
  ((w.frontend.take requests.arrived).drop w.requests.arrived).map fun m => m.startedAt time

def Wire.step (w : Wire config) : WireEvent config → Wire config
  | .send m => { w with requests := w.requests.send m.bytes, frontend := w.frontend ++ [m] }
  | .respond f => { w with responses := w.responses.send f.bytes, server := w.server.tell (backend config) 0 f }
  | .capture .request total observed =>
    let (requests, frames, time) := w.requests.receive total total observed
    { w with
      requests
      stream := handleRequestFrames config time frames w.stream
      -- the backend gets a message when the last byte of it was moved
      server := (w.newcomers total observed).foldl (fun p m => p.ask (backend config) m) w.server }
  | .capture .response total observed =>
    let (responses, frames, time) := w.responses.receive total total observed
    { w with responses, stream := handleResponseFrames config time frames w.stream }

def aside (f : BackendMessage config) : Bool := isAside f.messageType

def handle (s : PostgresStream) (m : Message config) : PostgresStream :=
  handleRequestFrame config m.started (.complete m.bytes) s

/-- The message finds room and no expired request in front, if it waits. -/
def HasRoom (s : PostgresStream) (m : Message config) : Prop := m.kind = .flush ∨ s.toTracker.HasRoom m.started

instance (s : PostgresStream) (m : Message config) : Decidable (HasRoom s m) := inferInstanceAs (Decidable (_ ∨ _))

/-- Every message that waits finds room; the backend sends what its oldest message calls for, or a message that may come
at any time. -/
def Conforms (w : Wire config) : WireEvent config → Prop
  | .send _ => True
  | .respond f => w.server.Heard (backend config) aside f
  | .capture .request total observed => Along handle HasRoom w.stream (w.newcomers total observed)
  | .capture .response _ _ => True

instance (w : Wire config) : DecidablePred (Conforms w)
  | .send _ => isTrue trivial
  | .respond f => inferInstanceAs (Decidable (w.server.Heard (backend config) aside f))
  | .capture .request total observed =>
    inferInstanceAs (Decidable (Along handle HasRoom w.stream (w.newcomers total observed)))
  | .capture .response _ _ => isTrue trivial

/-- Every message is delimited by itself, the decoders have room for what a system call moves, and it completes no more
messages of the frontend than are handed out at once. -/
def Fitting (limits : StreamDecodeLimits) (w : Wire config) : WireEvent config → Prop
  | .send m => SelfDelimited ⟨.postgresql, .request, limits⟩ m.bytes
  | .respond f => SelfDelimited ⟨.postgresql, .response, limits⟩ f.bytes
  | .capture .request total observed => w.requests.HasRoom total ∧
      (w.requests.receive total total observed).1.arrived - w.requests.arrived ≤ limits.maxFramesPerChunk
  | .capture .response total _ => w.responses.HasRoom total

instance (limits : StreamDecodeLimits) (w : Wire config) : DecidablePred (Fitting limits w)
  | .send m => inferInstanceAs (Decidable (SelfDelimited ⟨.postgresql, .request, limits⟩ m.bytes))
  | .respond f => inferInstanceAs (Decidable (SelfDelimited ⟨.postgresql, .response, limits⟩ f.bytes))
  | .capture .request _ _ => inferInstanceAs (Decidable (_ ∧ _))
  | .capture .response total _ => inferInstanceAs (Decidable (w.responses.HasRoom total))

/-- The startup is over, nothing is in flight, and the decoders stand between two messages. -/
structure IsReady (limits : StreamDecodeLimits) (s : PostgresStream) (request response : StreamSide) : Prop where
  inFlight : s.inFlight = []
  discardingUntilSync : s.discardingUntilSync = false
  negotiation : s.negotiation = none
  copyIn : s.copyIn = false
  request : Lossless ⟨.postgresql, .request, limits⟩ request.decoder [] []
  response : Lossless ⟨.postgresql, .response, limits⟩ response.decoder [] []

end

/-- All bytes were moved, and nothing of the answers is left in the decoder. -/
structure Wire.IsDone (w : Wire config) : Prop where
  requests : w.requests.unread = []
  responses : w.responses.unread = []
  buffer : w.responses.side.decoder.buffer = []

instance (w : Wire config) : Decidable w.IsDone :=
  decidable_of_iff (w.requests.unread = [] ∧ w.responses.unread = [] ∧ w.responses.side.decoder.buffer = [])
    ⟨fun h => ⟨h.1, h.2.1, h.2.2⟩, fun h => ⟨h.1, h.2, h.3⟩⟩

/-- The observation that the fate of a message calls for. The status of an answer is that of its error if it has one;
the attributes hold it if there may be four of them. A Flush has no answer, whether or not the backend skips it. -/
def Reported : Fate (Message config) (Answer config) → ProtocolRequestObservation → Prop
  | .answered m answer _, o =>
    (∃ ended, o = completion m (answer.response m.kind) ended) ∧
      (4 ≤ config.maxAttributes → statusCode? o = some (answer.response m.kind).statusCode) ∧
      ∀ e, answer.error? = some e → (answer.response m.kind).statusCode = e.response.statusCode
  | .skipped m, o => o = skipped m ∨ m.kind = .flush ∧ o = unanswered m
  | .unanswered m, o => o = unanswered m ∨ o = skipped m

/-- Every message that was sent has met one fate or waits, and the observations are those of the fates, once each. -/
structure Wire.Attributed (before : List ProtocolRequestObservation) (w : Wire config) : Prop where
  sent : ((w.server.fates.map Fate.request ++ w.server.queue.map Prod.fst).map Message.bytes).Perm w.requests.sent
  reported : ∃ fates reports, fates.Perm w.server.fates ∧ w.stream.signals = before ++ reports ∧
    List.Forall₂ Reported fates reports

/-! ### One event -/

theorem react_aside (seen : List (BackendMessage config)) (f : BackendMessage config)
    (h : aside f = true) : (backend config).react m seen f = .advance seen := if_pos h

/-- No answer starts a copy. -/
theorem messageType_ne_of_react {kind : MessageKind} {seen : List (BackendMessage config)}
    (h : kind.react seen f ≠ .refuse) : f.messageType ≠ 71 := by
  intro hcopy
  refine h ?_
  unfold MessageKind.react
  rw [hcopy, if_neg (by decide)]
  have hnext : ∀ types, kind.next types 71 = none := by
    intro types
    cases kind with
    | parse | bind | close | describePortal | execute | flush => rfl
    | describeStatement | query | sync | functionCall =>
      unfold MessageKind.next
      dsimp only
      split
      · rfl
      · rfl
  rw [hnext]
  rfl

theorem isSync_stateOf (kind : MessageKind) (seen : List (BackendMessage config)) :
    (stateOf kind seen).isSync = decide (kind = .sync) := by
  cases kind <;> rfl

theorem syncsKnown_map (late : Server config) : SyncsKnown ((recognises config).map late).queue := by
  intro x hx
  obtain ⟨y, -, rfl⟩ := mem_map.mp hx
  rw [(recognises config).barrier]
  exact isSync_stateOf _ _

theorem tracks_see {late : Server config} (h : Tracks before ((recognises config).map late) s)
    (hheard : late.Heard (backend config) aside f) (time : Nat) :
    Tracks before ((recognises config).map (late.tell (backend config) time f))
      (handleResponseFrame config time (.complete f.bytes) s) := by
  have haccepts : late.Accepts (backend config) f := by
    rintro y hy
    rcases hheard with haside | ⟨x, hx, hreact⟩
    · rw [react_aside y.1 y.2 f haside]
      exact nofun
    · cases Option.some.inj (hx.symm.trans hy)
      exact hreact
  rw [← (recognises config).map_tell haccepts time]
  refine h.tell (syncsKnown_map late) ?_ ?_ ?_ time
  · intro hempty
    rcases hheard with haside | ⟨x, hx, -⟩
    · exact haside
    · have hnone : late.queue = [] := map_eq_nil_iff.mp hempty
      rw [hnone] at hx
      cases hx
  · intro y hy
    obtain ⟨x, hx, rfl⟩ := Option.mem_map.mp (List.head?_map .. ▸ hy)
    have hreact := haccepts x hx
    rw [(recognises config).react hreact]
    rcases hstep : (backend config).react x.1 x.2 f with _ | seen | ⟨answer, skip⟩
    · exact absurd hstep hreact
    · exact nofun
    · exact nofun
  · rcases hheard with haside | ⟨x, -, hreact⟩
    · intro hcopy
      rw [aside, hcopy] at haside
      exact absurd haside (by decide)
    · exact messageType_ne_of_react hreact

/-- An answer with an error has the status of the error. -/
def HasErrorStatus (m : Message config) (answer : Answer config) : Prop :=
  ∀ e, answer.error? = some e → (answer.response m.kind).statusCode = e.response.statusCode

/-- The tracker is the pipeline of a backend that has heard as much as the tracker has seen: of the messages of the
frontend it was handed `heard`, and the answers on the `way` are still to come. -/
structure Follows [Base64] (limits : StreamDecodeLimits) (before : List ProtocolRequestObservation) (w : Wire config)
    (heard ahead : List (Message config)) (way : List (BackendMessage config)) : Prop where
  late : ∃ late : Server config, Pipeline.Behind (backend config) aside late way w.server ∧
    Tracks before ((recognises config).map late) w.stream
  answers : w.server.Holds (fun m => Prescribed m.kind) HasErrorStatus
  asked : (w.server.requests.map Message.bytes).Perm (heard.map Message.bytes)
  frontend : w.frontend = heard ++ ahead
  requests : Peer.Drained ⟨.postgresql, .request, limits⟩ w.requests (heard.map Message.bytes) (ahead.map Message.bytes)
  responses : Lossless ⟨.postgresql, .response, limits⟩ w.responses.side.decoder (way.map BackendMessage.bytes)
    w.responses.unread

theorem Tracks.asks (h : Tracks before p s) {ms : List (Message config)} (hroom : Along handle HasRoom s ms) :
    Tracks before (ms.foldl (fun p m => p.ask (lifecycles config) m) p) (ms.foldl handle s) := by
  induction ms generalizing p s with
  | nil => exact h
  | cons m ms ih => exact ih (h.ask m hroom.1) hroom.2

theorem foldl_handle (time : Nat) (ms : List (Message config)) (s : PostgresStream) :
    handleRequestFrames config time ((ms.map Message.bytes).map .complete) s =
      (ms.map fun m => m.startedAt time).foldl handle s := by
  induction ms generalizing s with
  | nil => rfl
  | cons m ms ih => exact ih _

section asks

variable {server late : Server config} {way : List (BackendMessage config)}

theorem map_asks (ms : List (Message config)) :
    (recognises config).map (ms.foldl (fun p m => p.ask (backend config) m) late) =
      ms.foldl (fun p m => p.ask (lifecycles config) m) ((recognises config).map late) := by
  induction ms generalizing late with
  | nil => rfl
  | cons m ms ih =>
    rw [foldl_cons, foldl_cons, ih, (recognises config).map_ask]

theorem behind_asks (h : Pipeline.Behind (backend config) aside late way server) (ms : List (Message config)) :
    Pipeline.Behind (backend config) aside (ms.foldl (fun p m => p.ask (backend config) m) late) way
      (ms.foldl (fun p m => p.ask (backend config) m) server) := by
  induction ms generalizing late server with
  | nil => exact h
  | cons m ms ih => exact ih (h.ask react_aside m)

theorem holds_asks (h : server.Holds (fun m => Prescribed m.kind) HasErrorStatus) (ms : List (Message config)) :
    (ms.foldl (fun p m => p.ask (backend config) m) server).Holds (fun m => Prescribed m.kind) HasErrorStatus := by
  induction ms generalizing server with
  | nil => exact h
  | cons m ms ih =>
    refine ih (h.ask ?_ m)
    intro request seen hstart
    have hseen : seen = [] := by
      unfold backend at hstart
      dsimp only at hstart
      split at hstart
      · cases hstart
      · cases hstart
        rfl
    rw [hseen]
    exact prescribed_nil _

theorem requests_asks (ms : List (Message config)) :
    (ms.foldl (fun p m => p.ask (backend config) m) server).requests.Perm (server.requests ++ ms) := by
  induction ms generalizing server with
  | nil =>
    rw [append_nil]
    exact .refl _
  | cons m ms ih =>
    refine ih.trans ?_
    rw [append_cons]
    exact (requests_ask (backend config) server m).append_right ms

theorem see {fs : List (BackendMessage config)} (h : Pipeline.Behind (backend config) aside late (fs ++ way) server)
    (htracks : Tracks before ((recognises config).map late) s) (time : Nat) :
    ∃ late : Server config, Pipeline.Behind (backend config) aside late way server ∧
      Tracks before ((recognises config).map late)
        (handleResponseFrames config time ((fs.map BackendMessage.bytes).map .complete) s) := by
  induction fs generalizing late s with
  | nil => exact ⟨late, h, htracks⟩
  | cons f fs ih => exact ih (h.hear time) (tracks_see htracks h.heard.1 time)

end asks

section

variable [Base64] {limits : StreamDecodeLimits} {w : Wire config} {heard ahead : List (Message config)}
  {way : List (BackendMessage config)}

section

variable (h : Follows limits before w heard ahead way)
include h

theorem Follows.send {m : Message config} (hfitting : Fitting limits w (.send m)) :
    Follows limits before (w.step (.send m)) heard (ahead ++ [m]) way := by
  have hrequests := h.requests.send (SelfDelimited.fits hfitting)
  refine { h with frontend := ?_, requests := ?_ }
  · show w.frontend ++ [m] = _
    rw [h.frontend, append_assoc]
  · rw [map_append]
    exact hrequests

theorem Follows.respond (hconforms : Conforms w (.respond f)) (hfitting : Fitting limits w (.respond f)) :
    Follows limits before (w.step (.respond f)) heard ahead (way ++ [f]) := by
  obtain ⟨late, hbehind, htracks⟩ := h.late
  have hresponses := Peer.lossless_send h.responses (SelfDelimited.fits hfitting)
  refine { h with late := ⟨late, hbehind.send hconforms 0, htracks⟩, answers := ?_, asked := ?_, responses := ?_ }
  · refine h.answers.tell ?_ ?_ 0 f
    · exact fun _ _ _ _ hseen hreact => hseen.advance hreact
    · exact fun _ _ _ _ _ hseen hreact _ he => hseen.finish hreact he
  · show ((w.server.tell (backend config) 0 f).requests.map Message.bytes).Perm _
    rw [requests_tell]
    exact h.asked
  · rw [map_append]
    exact hresponses

theorem Follows.captureRequests {total observed : Nat} (hconforms : Conforms w (.capture .request total observed))
    (hfitting : Fitting limits w (.capture .request total observed)) :
    ∃ heard ahead, Follows limits before (w.step (.capture .request total observed)) heard ahead way := by
  obtain ⟨late, hbehind, htracks⟩ := h.late
  obtain ⟨done, rest, hrest, harrived, hframes, hdrained⟩ := h.requests.receive hfitting.1 hfitting.2
  obtain ⟨ms, ahead', rfl, rfl, rfl⟩ := map_eq_append_iff.mp hrest
  rw [length_map, length_map] at harrived
  -- the messages that the call completes are those that the decoder hands out
  have hnew : w.newcomers total observed =
      ms.map fun m => m.startedAt (w.requests.receive total total observed).2.2 := by
    show ((w.frontend.take (w.requests.receive total total observed).1.arrived).drop w.requests.arrived).map _ = _
    rw [harrived, h.requests.arrived, length_map, h.frontend, take_append, take_of_length_le (Nat.le_add_right _ _),
      Nat.add_sub_cancel_left, drop_left, take_left]
    rfl
  change Along handle HasRoom w.stream (w.newcomers total observed) at hconforms
  have hbytes : (w.newcomers total observed).map Message.bytes = ms.map Message.bytes := by
    rw [hnew, map_map]
    rfl
  refine ⟨heard ++ ms, ahead', ⟨⟨_, behind_asks hbehind _, ?_⟩, holds_asks h.answers _, ?_, ?_, ?_, h.responses⟩⟩
  · rw [map_asks]
    have hstream : (w.step (.capture .request total observed)).stream =
        (w.newcomers total observed).foldl handle w.stream := by
      rw [hnew, ← foldl_handle, ← hframes]
      rfl
    rw [hstream]
    exact htracks.asks hconforms
  · refine ((requests_asks _).map Message.bytes).trans ?_
    rw [map_append, map_append, hbytes]
    exact h.asked.append_right _
  · rw [append_assoc]
    exact h.frontend
  · rw [map_append]
    exact hdrained

theorem Follows.captureResponses {total observed : Nat}
    (hfitting : Fitting limits w (.capture .response total observed)) :
    ∃ way, Follows limits before (w.step (.capture .response total observed)) heard ahead way := by
  obtain ⟨late, hbehind, htracks⟩ := h.late
  obtain ⟨done, rest, hrest, hframes, hlossless⟩ := Peer.receive_lossless h.responses hfitting observed
  obtain ⟨fs, way', rfl, rfl, rfl⟩ := map_eq_append_iff.mp hrest
  have hlate := see hbehind htracks (w.responses.receive total total observed).2.2
  rw [← hframes] at hlate
  exact ⟨way', { h with late := hlate, responses := hlossless }⟩

end

theorem Follows.step {e : WireEvent config} (h : ∃ heard ahead way, Follows limits before w heard ahead way)
    (he : Conforms w e ∧ Fitting limits w e) : ∃ heard ahead way, Follows limits before (w.step e) heard ahead way := by
  obtain ⟨heard, ahead, way, h⟩ := h
  cases e with
  | send m => exact ⟨_, _, _, h.send he.2⟩
  | respond f => exact ⟨_, _, _, h.respond he.1 he.2⟩
  | capture direction total observed =>
    cases direction with
    | request =>
      obtain ⟨heard, ahead, h⟩ := h.captureRequests he.1 he.2
      exact ⟨heard, ahead, way, h⟩
    | response =>
      obtain ⟨way, h⟩ := h.captureResponses he.2
      exact ⟨heard, ahead, way, h⟩

/-! ### What has been reported -/

omit [Base64] in
/-- What the tracker reports of a fate is what any fate with the same outcome calls for. -/
theorem reported_of_outcome {fate late : Fate (Message config) (Answer config)}
    (h : (backend config).outcome late = (backend config).outcome fate)
    (herror : ∀ m answer time, fate = .answered m answer time → HasErrorStatus m answer) :
    Reported fate (report (late.map (recognises config).result)) := by
  obtain ⟨m, answer, time, time', rfl, rfl⟩ | ⟨rfl, m, rfl | rfl⟩ | ⟨m, hstart, ⟨rfl, rfl⟩ | ⟨rfl, rfl⟩⟩ :=
    (backend config).eq_of_outcome h
  · exact ⟨⟨time, rfl⟩, fun hmax => statusCode?_completion m (statusFirst_answer hmax _ _) hmax time,
      herror m answer time' rfl⟩
  · exact .inl rfl
  · exact .inl rfl
  · exact .inr rfl
  · refine .inr ⟨?_, rfl⟩
    by_contra hkind
    rw [show (backend config).start m = some [] from if_neg hkind] at hstart
    cases hstart

theorem Follows.attributed (h : Follows limits before w heard ahead way) (hdone : w.IsDone) :
    w.Attributed before := by
  obtain ⟨late, hbehind, htracks⟩ := h.late
  have hway : way = [] := map_eq_nil_iff.mp ((hdone.responses ▸ h.responses).eq_nil hdone.buffer)
  have hahead := h.requests.rest_eq_nil hdone.requests
  rw [hway] at hbehind
  refine ⟨?_, ?_⟩
  · rw [h.requests.sent, hahead, append_nil]
    exact h.asked
  have hself : List.Forall₂ (fun outcome fate => outcome = (backend config).outcome fate)
      (w.server.fates.map (backend config).outcome) w.server.fates :=
    forall₂_map_left_iff.mpr (forall₂_same.mpr fun _ _ => rfl)
  obtain ⟨fates, hlate, hperm⟩ := perm_comp_forall₂ hbehind.same.fates hself
  rw [forall₂_map_left_iff] at hlate
  have herror : ∀ fate ∈ fates, ∀ m answer time, fate = .answered m answer time → HasErrorStatus m answer := by
    rintro fate hfate m answer time rfl
    exact h.answers.answered m answer time (hperm.mem_iff.mp hfate)
  refine ⟨fates, _, hperm, htracks.signals, ?_⟩
  show List.Forall₂ Reported fates ((late.fates.map (Fate.map (recognises config).result)).map report)
  rw [map_map, forall₂_map_right_iff]
  refine List.Forall₂.imp (fun fate late h => ?_) ((forall₂_and_left fates late.fates).mpr ⟨herror, hlate.flip⟩)
  exact reported_of_outcome h.2 h.1

theorem follows_start {s : PostgresStream} {request response : StreamSide} (h : IsReady limits s request response) :
    Follows limits s.signals (.start s request response : Wire config) [] [] [] := by
  have hfirst : Pipeline.Behind (backend config) aside {} [] ({} : Server config) :=
    ⟨fun h => absurd h Bool.false_ne_true, trivial, same_refl _ _⟩
  have hbuffer : request.decoder.buffer = [] := (append_eq_nil_iff.mp h.request.stream).1
  refine ⟨⟨{}, hfirst, ?_⟩, ⟨nofun, nofun⟩, .refl _, rfl, ⟨rfl, h.request, ?_, rfl⟩, h.response⟩
  · exact ⟨h.inFlight, h.discardingUntilSync, (append_nil _).symm, h.negotiation, h.copyIn⟩
  · show 0 = 0 + request.decoder.buffer.length
    rw [hbuffer]
    rfl

/-- **Pipelines are attributed exactly, as long as the decoders can hold them.** -/
theorem attributed_of_fitting {limits : StreamDecodeLimits} {s : PostgresStream} {request response : StreamSide}
    (hready : IsReady limits s request response) {events : List (WireEvent config)}
    (h : Along Wire.step (fun w e => Conforms w e ∧ Fitting limits w e) (.start s request response) events)
    (hdone : (events.foldl Wire.step (.start s request response)).IsDone) :
    (events.foldl Wire.step (.start s request response)).Attributed s.signals := by
  obtain ⟨heard, ahead, way, hfollows⟩ :=
    Along.invariant (I := fun w => ∃ heard ahead way, Follows limits s.signals w heard ahead way)
      (fun _ _ hw he => Follows.step hw he) ⟨[], [], [], follows_start hready⟩ h
  exact hfollows.attributed hdone

end

/-! ### A pipeline with an error in it -/

attribute [local instance] Base64.refusing

def Message.read? (config : ProtocolExtractionConfig) (bytes : Bytes) : Option (Message config) :=
  match hkind : messageKind bytes config, haccepted : parsePostgresMessage bytes config with
  | some kind, .ok parsed =>
    if hlength : bytes.length < 2 ^ 30 then some ⟨bytes, 0, kind, parsed, hkind, haccepted, hlength⟩ else none
  | _, _ => none

def BackendMessage.read? (config : ProtocolExtractionConfig) (bytes : Bytes) : Option (BackendMessage config) :=
  match haccepted : parsePostgresResponse bytes config with
  | .ok response => some ⟨bytes, response, haccepted⟩
  | .error _ => none

def sends (config : ProtocolExtractionConfig) (bytes : String) : List (WireEvent config) :=
  ((Message.read? config (text bytes)).map WireEvent.send).toList

def answers (config : ProtocolExtractionConfig) (bytes : String) : List (WireEvent config) :=
  ((BackendMessage.read? config (text bytes)).map WireEvent.respond).toList

/-- Query, Parse, Bind, Execute and Sync. The Bind fails, and the Sync is sent while its error is on the way. -/
def failingPipeline : List (WireEvent {}) :=
  sends {} "Q\x00\x00\x00\x0dSELECT 1\x00" ++ sends {} "P\x00\x00\x00\x11s\x00SELECT 1\x00\x00\x00" ++
  [.capture .request 20 10] ++ sends {} "B\x00\x00\x00\x0d\x00s\x00\x00\x00\x00\x00\x00\x00" ++
  [.capture .request 40 12] ++ answers {} "C\x00\x00\x00\x0dSELECT 1\x00" ++
  answers {} "Z\x00\x00\x00\x05I" ++ sends {} "E\x00\x00\x00\x09\x00\x00\x00\x00\x00" ++
  [.capture .request 40 13, .capture .response 17 20] ++ answers {} "1\x00\x00\x00\x04" ++
  answers {} "E\x00\x00\x00\x0cC22012\x00\x00" ++ sends {} "S\x00\x00\x00\x04" ++
  [.capture .request 40 25, .capture .response 40 30] ++ answers {} "Z\x00\x00\x00\x05I" ++ [.capture .response 40 40]

def freshSide (direction : StreamDirection) (limits : StreamDecodeLimits) : StreamSide :=
  ⟨.new .postgresql direction limits, none⟩

theorem isReady_fresh (limits : StreamDecodeLimits) :
    IsReady limits {} (freshSide .request limits) (freshSide .response limits) :=
  ⟨rfl, rfl, rfl, rfl, ProtocolStreamDecoder.lossless_new _, ProtocolStreamDecoder.lossless_new _⟩

theorem attributed_failingPipeline :
    ∃ events : List (WireEvent {}),
      (events.foldl Wire.step (.start {} (freshSide .request {}) (freshSide .response {}))).stream.signals.length = 5 ∧
      (events.foldl Wire.step (.start {} (freshSide .request {}) (freshSide .response {}))).Attributed [] := by
  have hrun : ∃ events : List (WireEvent {}),
      Along Wire.step (fun w e => Conforms w e ∧ Fitting {} w e)
        (.start {} (freshSide .request {}) (freshSide .response {})) events ∧
      (events.foldl Wire.step (.start {} (freshSide .request {}) (freshSide .response {}))).IsDone ∧
      (events.foldl Wire.step
        (.start {} (freshSide .request {}) (freshSide .response {}))).stream.signals.length = 5 := by
    refine ⟨failingPipeline, ?_, ?_, ?_⟩
    · decide +kernel
    · decide +kernel
    · decide +kernel
  -- from here on the run is a variable: nothing is to unfold it again
  obtain ⟨events, hrun, hdone, hsignals⟩ := hrun
  exact ⟨events, hsignals, attributed_of_fitting (isReady_fresh {}) hrun hdone⟩

/-- A buffer of 32 bytes, and the extraction that goes with it. -/
def smallLimits : StreamDecodeLimits := { maxBufferedBytes := 32 }

def smallConfig : ProtocolExtractionConfig := { maxHeaderBytes := 32 }

/-- Two queries. The answer to the first is one system call of 38 bytes, six more than the buffer holds; the second
query fails. -/
def overrun : List (WireEvent smallConfig) :=
  sends smallConfig "Q\x00\x00\x00\x0dSELECT 1\x00" ++ [.capture .request 14 10] ++
  sends smallConfig "Q\x00\x00\x00\x0dSELECT 2\x00" ++ [.capture .request 14 20] ++
  answers smallConfig "D\x00\x00\x00\x11\x00\x01\x00\x00\x00\x07seventy" ++
  answers smallConfig "C\x00\x00\x00\x0dSELECT 1\x00" ++ answers smallConfig "Z\x00\x00\x00\x05I" ++
  [.capture .response 38 30] ++ answers smallConfig "E\x00\x00\x00\x0cC22012\x00\x00" ++
  answers smallConfig "Z\x00\x00\x00\x05I" ++ [.capture .response 19 40]

theorem overrun_not_attributed :
    IsReady smallLimits {} (freshSide .request smallLimits) (freshSide .response smallLimits) ∧
      Along Wire.step Conforms (.start {} (freshSide .request smallLimits) (freshSide .response smallLimits)) overrun ∧
      (overrun.foldl Wire.step (.start {} (freshSide .request smallLimits) (freshSide .response smallLimits))).IsDone ∧
      ¬ (overrun.foldl Wire.step
        (.start {} (freshSide .request smallLimits) (freshSide .response smallLimits))).Attributed [] := by
  refine ⟨isReady_fresh smallLimits, by decide +kernel, by decide +kernel, fun h => ?_⟩
  obtain ⟨fates, reports, hperm, hsignals, hreported⟩ := h.reported
  -- both queries were answered, and one observation was made
  have hlength := hreported.length_eq
  rw [hperm.length_eq, show reports = _ from (nil_append reports).symm.trans hsignals.symm] at hlength
  exact absurd hlength (by decide +kernel)

end ENavigator.Postgres
