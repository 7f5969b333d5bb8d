import ENavigator.Metrics.Flows
import ENavigator.Metrics.Series

/-!
# Series of network counters

The key of a network counter can be read off every record that it is exported as: the record keeps each part of the key,
and the strings of an event are already within the bounds that the export puts on them.
-/

namespace ENavigator.Metrics.Network

open Signals List
open scoped ByteOrder

def protocolOf (name : Bytes) : Option NetworkProtocol := [.tcp, .udp].find? (protocolName · == name)

def addressFamilyOf (name : Bytes) : Option NetworkAddressFamily := [.ipv4, .ipv6].find? (addressFamilyName · == name)

theorem protocolOf_protocolName : ∀ protocol, protocolOf (protocolName protocol) = some protocol
  | .tcp => by decide +kernel
  | .udp => by decide +kernel

theorem addressFamilyOf_addressFamilyName : ∀ family, addressFamilyOf (addressFamilyName family) = some family
  | .ipv4 => by decide +kernel
  | .ipv6 => by decide +kernel

/-- The key of the counter that a record is of. -/
def readKey (record : OtelMetricRecord) : CounterKey :=
  { metricName := record.name
    workload := readWorkload record.resource
    container := readContainer record.resource
    protocol := (readString record.attributes (text "net.transport")).bind protocolOf
    addressFamily := (readString record.attributes (text "network.type")).bind addressFamilyOf
    remoteAddress := readString record.attributes (text "server.address")
    remotePort := (readNumber record.attributes (text "server.port")).map Int.toNat
    errno := readNumber record.attributes (text "error.type") }

theorem readKey_of_seriesKey [Json.Serializer] {a b : OtelMetricRecord} (h : metricSeriesKey a = metricSeriesKey b) :
    readKey a = readKey b := by
  obtain ⟨hname, -, hresource, hattributes⟩ := metricSeriesKey_eq_iff.mp h
  rw [readKey, readKey, hname, hresource, hattributes]

def keyOf (template : CounterTemplate) : CounterKey :=
  { metricName := template.metricName
    workload := template.kubernetes.map workloadKey
    container := template.container.map (·.containerId)
    protocol := template.protocol
    addressFamily := template.addressFamily
    remoteAddress := template.remoteAddress
    remotePort := template.remotePort
    errno := template.errno }

/-- The strings of a template's key are within the bounds of signals. -/
structure Clean (template : CounterTemplate) : Prop where
  metricName : sanitizeString template.metricName = template.metricName
  remoteAddress : template.remoteAddress.map sanitizeString = template.remoteAddress
  container : template.container.map sanitizeContainerContext = template.container
  kubernetes : template.kubernetes.map sanitizeKubernetesContext = template.kubernetes

section attributes

variable (protocol : Option NetworkProtocol) (family : Option NetworkAddressFamily) (address : Option Bytes)
  (port : Option Nat) (errno : Option Int)

def counterAttributes : Json.Object :=
  insertOptional (fun errno object => object.insert (text "error.type") (.number errno)) errno
    (networkAttributes protocol family address port)

def counterEntries : List (Bytes × Option Json.Leaf) :=
  [(text "error.type", errno.map .number), (text "server.port", port.map fun port : Nat => .number port),
    (text "server.address", address.map boundedJsonString),
    (text "network.type", family.map fun family => .string (addressFamilyName family)),
    (text "net.transport", protocol.map fun protocol => .string (protocolName protocol))]

theorem counterAttributes_eq : counterAttributes protocol family address port errno =
    insertEntries (counterEntries protocol family address port errno) SortedMap.empty := by
  cases protocol <;> cases family <;> cases address <;> cases port <;> cases errno <;> rfl

theorem lookup_counterAttributes {key : Bytes} {leaf : Option Json.Leaf}
    (h : (key, leaf) ∈ counterEntries protocol family address port errno) :
    (counterAttributes protocol family address port errno).lookup key = leaf := by
  have hkeys : ((counterEntries protocol family address port errno).map Prod.fst).Nodup :=
    (by decide +kernel : [text "error.type", text "server.port", text "server.address", text "network.type",
      text "net.transport"].Nodup)
  rw [counterAttributes_eq]
  exact lookup_insertEntries hkeys h rfl

end attributes

section record

variable (host : Option Bytes) {state : CounterState CounterTemplate}

theorem lookup_counterSignal (h : Clean state.template) {key : Bytes} (hkey : key ∉ identityKeys)
    {leaf : Option Json.Leaf}
    {i : Nat} (hleaf : (counterEntries state.template.protocol state.template.addressFamily
      state.template.remoteAddress state.template.remotePort state.template.errno)[i]? = some (key, leaf)) :
    (formatOtelMetricRecord (counterSignal host state)).attributes.lookup key = leaf := by
  refine (lookup_mirror_of_notMem hkey _).trans ?_
  show (counterAttributes state.template.protocol state.template.addressFamily
    (state.template.remoteAddress.map sanitizeString) state.template.remotePort state.template.errno).lookup key = _
  rw [h.remoteAddress]
  exact lookup_counterAttributes _ _ _ _ _ (mem_of_getElem? hleaf)

theorem readKey_counterSignal (h : Clean state.template) :
    readKey (formatOtelMetricRecord (counterSignal host state)) = keyOf state.template := by
  have hlookup := @lookup_counterSignal host state h
  have hworkload : readWorkload (formatOtelMetricRecord (counterSignal host state)).resource = _ :=
    readWorkload_resourceAttributes h.kubernetes
  have hcontainer : readContainer (formatOtelMetricRecord (counterSignal host state)).resource = _ :=
    readContainer_resourceAttributes h.container
  unfold readKey keyOf
  rw [hworkload, hcontainer,
    readName_of_lookup protocolOf_protocolName (hlookup (by decide +kernel) (i := 4) rfl),
    readName_of_lookup addressFamilyOf_addressFamilyName (hlookup (by decide +kernel) (i := 3) rfl),
    readString_of_lookup (hlookup (by decide +kernel) (i := 2) rfl) h.remoteAddress]
  congr 1
  · show sanitizeString (sanitizeString state.template.metricName) = _
    rw [h.metricName, h.metricName]
  · rw [readNumber, hlookup (by decide +kernel) (i := 1) rfl]
    cases state.template.remotePort <;> rfl
  · rw [readNumber, hlookup (by decide +kernel) (i := 0) rfl]
    cases state.template.errno <;> rfl

end record

/-! ### What the generator emits -/

/-- The record of a counter that is emitted, with the key of its state. -/
def Output.counter? : Output → Option (CounterKey × OtelMetricRecord)
  | .counter key signal => some (key, formatOtelMetricRecord signal)
  | _ => none

def Related (key : CounterKey) (template : CounterTemplate) : Prop := keyOf template = key ∧ Clean template

/-- The counters have templates of their keys, and what is emitted shows them. -/
structure Sound (r : List Output × State) : Prop where
  templated : Templated Related r.2.counters
  read : ∀ e ∈ r.1.filterMap Output.counter?, readKey e.2 = e.1

section sound

variable {s : State} {r r' : List Output × State}

theorem Sound.nil (h : Templated Related s.counters) : Sound ([], s) := ⟨h, fun _ he => absurd he not_mem_nil⟩

theorem Sound.of_silent (h : Templated Related s.counters) (hcounters : r.2.counters = s.counters)
    (houtputs : r.1.filterMap Output.counter? = []) : Sound r := by
  refine ⟨by rw [hcounters]; exact h, ?_⟩
  rw [houtputs]
  exact fun _ he => absurd he not_mem_nil

theorem Sound.of_aside (h : Templated Related s.counters) (haside : Aside s r) : Sound r := by
  refine .of_silent h haside.counters (filterMap_eq_nil_iff.mpr fun output houtput => ?_)
  have := haside.outputs output houtput
  cases output with
  | counter key signal => cases this
  | _ => rfl

theorem Sound.append (h : Sound r) (h' : Templated Related r.2.counters → Sound r') : Sound (r.1 ++ r'.1, r'.2) := by
  have hnext := h' h.templated
  refine ⟨hnext.templated, ?_⟩
  rw [filterMap_append]
  exact forall_mem_append.mpr ⟨h.read, hnext.read⟩

variable {limits : Limits} {host : Option Bytes}

theorem sound_observeCounterBy (h : Templated Related s.counters) {key : CounterKey} {template : CounterTemplate}
    (hkey : Related key template) {windowStart windowEnd value : Nat} :
    Sound (observeCounterBy limits key template windowStart windowEnd value host s) := by
  obtain ⟨htemplated, hemitted⟩ := h.update rfl hkey
  refine ⟨htemplated, ?_⟩
  intro e he
  obtain ⟨output, houtput, hcounter⟩ := mem_filterMap.mp he
  obtain ⟨state, hstate, rfl⟩ := mem_map.mp houtput
  cases hcounter
  obtain ⟨hread, hclean⟩ := hemitted state (Option.mem_toList.mp hstate)
  exact (readKey_counterSignal host hclean).trans hread

/-! ### Events -/

/-- The strings that the key of a counter is made of are within the bounds of signals. -/
structure CleanConnection (event : ConnectionIdentity) : Prop where
  remoteAddress : sanitizeString event.remoteAddress = event.remoteAddress
  container : event.container.map sanitizeContainerContext = event.container
  kubernetes : event.kubernetes.map sanitizeKubernetesContext = event.kubernetes

theorem cleanConnection_sanitize (event : ConnectionIdentity) : CleanConnection (sanitizeConnectionIdentity event) where
  remoteAddress := sanitizeString_sanitizeString event.remoteAddress
  container := map_sanitizeContainerContext_idem event.container
  kubernetes := map_sanitizeKubernetesContext_idem event.kubernetes

variable {metricName : Bytes} {event : NetworkTcpStatObservation}

theorem related_metricKey (hname : sanitizeString metricName = metricName) {event : NetworkConnectionOpenEvent}
    (h : CleanConnection event.toConnectionIdentity) {errno : Option Int} {includeDestination : Bool} :
    Related (metricKey metricName event errno includeDestination)
      (counterTemplate metricName event errno includeDestination) := by
  refine ⟨rfl, hname, ?_, h.container, h.kubernetes⟩
  cases includeDestination with
  | false => rfl
  | true => exact congrArg some h.remoteAddress

theorem sanitizeString_tcpStatMetricName (h : tcpStatMetricName event = some metricName) :
    sanitizeString metricName = metricName := by
  unfold tcpStatMetricName at h
  split at h
  · cases h
    decide +kernel
  · split at h <;> cases h <;> decide +kernel
  · split at h <;> cases h <;> decide +kernel

theorem filterMap_counter? {α : Type} {o : α → Output} (h : ∀ x, (o x).counter? = none) (xs : List α) :
    (xs.map o).filterMap Output.counter? = [] := by
  rw [filterMap_map]
  exact filterMap_eq_nil_iff.mpr fun x _ => h x

section

variable (h : Templated Related s.counters)
include h

theorem sound_flowOutputs {event : ConnectionFlowView}
    (hclean : CleanContext event.container event.kubernetes) {source : Bytes} {interval : FlowInterval} :
    Sound (flowOutputs limits source host event interval s) := by
  have hsummaries : Sound ((flowSummaries host event interval).map Output.flowSummary, s) :=
    .of_silent h rfl (filterMap_counter? (fun _ => rfl) _)
  have hwarning : Sound ((flowWarning source host event interval).toList.map Output.flowWarning, s) :=
    .of_silent h rfl (filterMap_counter? (fun _ => rfl) _)
  refine hsummaries.append fun _ => hwarning.append fun _ => ?_
  split
  · have hname : (text "network.flow.bytes").length ≤ 256 := by decide +kernel
    apply sound_observeCounterBy h
    exact ⟨rfl, sanitizeString_of_short hname, rfl, hclean.container, hclean.kubernetes⟩
  · exact .nil h

theorem sound_observeOpen {event : NetworkConnectionOpenEvent}
    (hclean : CleanConnection event.toConnectionIdentity) : Sound (observeOpen limits event host s) := by
  have hopen := @related_metricKey (text "network.connection.open.count") (by decide +kernel) event hclean none true
  have hprotocol := @related_metricKey (text "network.protocol.connection.open.count") (by decide +kernel) event hclean
    none false
  have htraffic := @related_metricKey (text "network.traffic.destination.count") (by decide +kernel) event hclean
    none true
  exact .append (sound_observeCounterBy h hopen) fun h => .append (sound_observeCounterBy h hprotocol) fun h =>
    .append (sound_observeCounterBy h htraffic) fun h => .of_aside h aside_activeOpen

theorem sound_observeClose {event : NetworkConnectionCloseEvent}
    (hclean : CleanConnection event.toConnectionIdentity) {source : Bytes} :
    Sound (observeClose limits source event host s) := by
  refine .append (.of_aside h aside_duration) fun h => .append (.of_aside h aside_activeClose) fun h => ?_
  refine sound_flowOutputs ?_ ⟨hclean.container, hclean.kubernetes⟩
  exact h

theorem sound_observeSnapshot {event : NetworkConnectionSnapshotEvent}
    (hclean : CleanConnection event.toConnectionIdentity) {source : Bytes} :
    Sound (observeSnapshot limits source event host s) := by
  unfold observeSnapshot
  dsimp only
  split
  · exact .nil h
  · refine sound_flowOutputs ?_ ⟨hclean.container, hclean.kubernetes⟩
    exact h

theorem sound_observeTcpStat (hclean : CleanContext event.container event.kubernetes) :
    Sound (observeTcpStat limits event host s) := by
  unfold observeTcpStat
  split
  · exact .nil h
  next metricName hname =>
    apply sound_observeCounterBy h
    exact ⟨rfl, sanitizeString_tcpStatMetricName hname, rfl, hclean.container, hclean.kubernetes⟩

end

theorem sound_outputsForSignal (h : Templated Related s.counters) (source : Bytes) (payload : NetworkPayload) :
    Sound (outputsForSignal limits (networkEnvelope source host payload) s) := by
  have hmarked : Templated Related (markSeen limits (networkEnvelope source host payload) s).2.counters := by
    unfold markSeen
    split <;> exact h
  unfold outputsForSignal
  dsimp only
  split
  · cases payload with
    | networkConnectionOpen event => exact sound_observeOpen hmarked (cleanConnection_sanitize _)
    | networkConnectionClose event => exact sound_observeClose hmarked (cleanConnection_sanitize _)
    | networkConnectionSnapshot event => exact sound_observeSnapshot hmarked (cleanConnection_sanitize _)
    | networkConnectionFailure event =>
      have hclean := cleanConnection_sanitize event.toConnectionIdentity
      apply sound_observeCounterBy hmarked
      exact ⟨rfl, sanitizeString_of_short (by decide +kernel : (text "network.connection.failure.count").length ≤ 256),
        congrArg some hclean.remoteAddress, hclean.container, hclean.kubernetes⟩
    | networkTcpStatObservation event => exact sound_observeTcpStat hmarked cleanContext_sanitize
  · exact .nil hmarked

end sound

/-! ## Runs -/

structure Input where
  source : Bytes
  payload : NetworkPayload

structure Run where
  generator : State := {}
  /-- The counters that were emitted, with the keys of their states. -/
  emitted : List (CounterKey × OtelMetricRecord) := []

section runs

variable (limits : Limits) (host : Option Bytes)

def Run.step (run : Run) (input : Input) : Run :=
  let r := outputsForSignal limits (networkEnvelope input.source host input.payload) run.generator
  { generator := r.2, emitted := run.emitted ++ r.1.filterMap Output.counter? }

structure Run.Inv (run : Run) : Prop where
  templated : Templated Related run.generator.counters
  read : ∀ e ∈ run.emitted, readKey e.2 = e.1

theorem Run.Inv.step {run : Run} (h : run.Inv) (input : Input) : (run.step limits host input).Inv := by
  have hsound := @sound_outputsForSignal _ limits host h.templated input.source input.payload
  exact ⟨hsound.templated, forall_mem_append.mpr ⟨h.read, hsound.read⟩⟩

theorem inv_foldl (inputs : List Input) : (inputs.foldl (Run.step limits host) {}).Inv :=
  List.foldlRecOn (motive := Run.Inv) inputs _
    ⟨templated_empty, fun _ he => absurd he not_mem_nil⟩ fun _ hrun input _ => hrun.step limits host input

theorem Run.Inv.separate [Json.Serializer] {run : Run} (h : run.Inv) : Separate run.emitted := by
  intro a ha b hb hne hseries
  rw [← h.read a ha, ← h.read b hb] at hne
  exact hne (readKey_of_seriesKey hseries)

end runs

end ENavigator.Metrics.Network
