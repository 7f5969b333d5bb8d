import ENavigator.Lib.Runs
import ENavigator.Metrics.Dns
import ENavigator.Metrics.NetworkSeries

/-!
# Series of DNS counters

A DNS counter is kept for each type of query and each server, but its records name neither. Two counters that differ in
nothing else are exported as one series (`not_separate_families`). As long as no such counters meet, each counter of
either generator has a series of its own (`separate_of_distinct`).
-/

namespace ENavigator.Metrics.Dns

open Signals List
open scoped ByteOrder

/-! ## Reading a record -/

/-- What a record keeps of its counter's key. -/
def CounterKey.exported (key : CounterKey) : CounterKey :=
  { key with queryType := none, serverAddress := none, serverPort := none }

def responseCodeOf (name : Bytes) : Option DnsResponseCode :=
  [.noError, .nxDomain, .servFail, .refused, .other].find? (responseCodeName · == name)

theorem responseCodeOf_responseCodeName (code : DnsResponseCode) :
    responseCodeOf (responseCodeName code) = some code := by
  cases code <;> decide +kernel

def readKey (record : OtelMetricRecord) : CounterKey :=
  { metricName := record.name
    workload := readWorkload record.resource
    container := readContainer record.resource
    queryName := readString record.attributes (text "dns.question.name")
    queryType := none
    responseCode := (readString record.attributes (text "dns.response_code")).bind responseCodeOf
    serverAddress := none
    serverPort := none }

theorem readKey_of_seriesKey [Json.Serializer] {a b : OtelMetricRecord} (h : metricSeriesKey a = metricSeriesKey b) :
    readKey a = readKey b := by
  obtain ⟨hname, -, hresource, hattributes⟩ := metricSeriesKey_eq_iff.mp h
  rw [readKey, readKey, hname, hresource, hattributes]

def keyOf (template : CounterTemplate) : CounterKey :=
  { metricName := template.metricName
    workload := template.kubernetes.map workloadKey
    container := template.container.map (·.containerId)
    queryName := template.queryName
    queryType := template.queryType
    responseCode := template.responseCode
    serverAddress := template.serverAddress
    serverPort := template.serverPort }

/-- The exported strings of a template's key are within the bounds of signals. -/
structure Clean (template : CounterTemplate) : Prop where
  metricName : sanitizeString template.metricName = template.metricName
  queryName : template.queryName.map sanitizeString = template.queryName
  container : template.container.map sanitizeContainerContext = template.container
  kubernetes : template.kubernetes.map sanitizeKubernetesContext = template.kubernetes

section record

def dnsEntries (name : Option Bytes) (code : Option DnsResponseCode) : List (Bytes × Option Json.Leaf) :=
  [(text "dns.response_code", code.map fun code => .string (responseCodeName code)),
    (text "dns.question.name", name.map boundedJsonString)]

theorem dnsAttributes_eq (name : Option Bytes) (code : Option DnsResponseCode) :
    dnsAttributes name code = insertEntries (dnsEntries name code) SortedMap.empty := by
  cases name <;> cases code <;> rfl

variable (host : Option Bytes) {state : CounterState CounterTemplate}

theorem lookup_counterSignal (h : Clean state.template) {key : Bytes} (hkey : key ∉ identityKeys)
    {leaf : Option Json.Leaf}
    {i : Nat} (hleaf : (dnsEntries state.template.queryName state.template.responseCode)[i]? = some (key, leaf)) :
    (formatOtelMetricRecord (counterSignal host state)).attributes.lookup key = leaf := by
  have hkeys : ((dnsEntries state.template.queryName state.template.responseCode).map Prod.fst).Nodup :=
    (by decide +kernel : [text "dns.response_code", text "dns.question.name"].Nodup)
  refine (lookup_mirror_of_notMem hkey _).trans ?_
  show (dnsAttributes (state.template.queryName.map sanitizeString) state.template.responseCode).lookup key = _
  rw [h.queryName, dnsAttributes_eq]
  exact lookup_insertEntries hkeys (mem_of_getElem? hleaf) rfl

theorem readKey_counterSignal (h : Clean state.template) :
    readKey (formatOtelMetricRecord (counterSignal host state)) = (keyOf state.template).exported := by
  have hworkload : readWorkload (formatOtelMetricRecord (counterSignal host state)).resource = _ :=
    readWorkload_resourceAttributes h.kubernetes
  have hcontainer : readContainer (formatOtelMetricRecord (counterSignal host state)).resource = _ :=
    readContainer_resourceAttributes h.container
  unfold readKey keyOf
  rw [hworkload, hcontainer,
    readString_of_lookup (lookup_counterSignal host h (by decide +kernel) (i := 1) rfl) h.queryName,
    readName_of_lookup responseCodeOf_responseCodeName (lookup_counterSignal host h (by decide +kernel) (i := 0) rfl)]
  congr 1
  show sanitizeString (sanitizeString state.template.metricName) = _
  rw [h.metricName, h.metricName]

end record

/-! ## What the generator emits -/

/-- The record of a counter that is emitted, with the key of its state. -/
def Output.counter? : Output → Option (CounterKey × OtelMetricRecord)
  | .counter key signal => some (key, formatOtelMetricRecord signal)
  | _ => none

def Related (key : CounterKey) (template : CounterTemplate) : Prop := keyOf template = key ∧ Clean template

section transitions

variable (limits : Limits) (host : Option Bytes)

/-- The counter that an event is counted in. -/
def countedKey (domains : List Bytes) : DnsPayload → CounterKey
  | .dnsQuery event => .query event (domainLabel limits event.queryName domains).1
  | .dnsResponse event => .ofResponseCode event (domainLabel limits event.queryName domains).1

variable {limits host}

variable {rawDomain domain : Bytes} {domains : List Bytes}

theorem length_normalizeDomain (h : normalizeDomain rawDomain = some domain) : domain.length ≤ 253 := by
  unfold normalizeDomain at h
  dsimp only at h
  split at h
  · cases h
  next hvalid =>
    rw [Option.some.injEq] at h
    rw [← h]
    simp only [Bool.or_eq_true, decide_eq_true_eq, not_or, Nat.not_lt] at hvalid
    exact hvalid.1.2

theorem mem_domainLabel (h : domain ∈ (domainLabel limits rawDomain domains).1) :
    normalizeDomain rawDomain = some domain := by
  unfold domainLabel at h
  split at h
  · cases h
  next found hfound =>
    split at h
    · cases h; exact hfound
    · split at h
      · cases h
      · cases h; exact hfound

theorem map_sanitizeString_domainLabel :
    (domainLabel limits rawDomain domains).1.map sanitizeString = (domainLabel limits rawDomain domains).1 := by
  rcases hlabel : (domainLabel limits rawDomain domains).1 with _ | domain
  · rfl
  · have hlength := length_normalizeDomain (mem_domainLabel hlabel)
    exact congrArg some (sanitizeString_of_short (by omega))

/-- A transition that leaves the counters alone and emits none. -/
structure Silent (r : List Output × State) (before : Counters CounterKey CounterTemplate) : Prop where
  counters : r.2.counters = before
  outputs : r.1.filterMap Output.counter? = []

section silent

variable {r r' : List Output × State} {before : Counters CounterKey CounterTemplate} {event : DnsResponseEvent}
  {domain : Option Bytes} {s : State}

theorem Silent.append (h : Silent r before) (h' : Silent r' r.2.counters) : Silent (r.1 ++ r'.1, r'.2) before :=
  ⟨h'.counters.trans h.counters, by rw [filterMap_append, h.outputs, h'.outputs, nil_append]⟩

theorem silent_observeLatency : Silent (observeLatency limits event domain host s) s.counters := by
  unfold observeLatency updateLatency
  split
  · dsimp only
    split
    · exact ⟨rfl, rfl⟩
    · split <;> exact ⟨rfl, rfl⟩
  · exact ⟨rfl, rfl⟩

theorem silent_observeEdge : Silent (observeEdge limits event domain host s) s.counters := by
  unfold observeEdge updateEdge
  split
  · dsimp only
    split
    · split <;> exact ⟨rfl, rfl⟩
    · split <;> exact ⟨rfl, rfl⟩
  · exact ⟨rfl, rfl⟩

end silent

/-- What a transition counts, it counts in the counter of `key`. -/
structure Sound (key : CounterKey) (before : Counters CounterKey CounterTemplate) (r : List Output × State) :
    Prop where
  templated : Templated Related r.2.counters
  stays : ∀ key', key' ∈ before → key' ∈ r.2.counters
  added : ∀ key', key' ∈ r.2.counters → key' ∈ before ∨ key' = key
  read : ∀ e ∈ r.1.filterMap Output.counter?, e.1 ∈ r.2.counters ∧ readKey e.2 = e.1.exported

variable {s : State}

theorem Sound.append_silent {key : CounterKey} {before : Counters CounterKey CounterTemplate}
    {r r' : List Output × State} (h : Sound key before r) (hsilent : Silent r' r.2.counters) :
    Sound key before (r.1 ++ r'.1, r'.2) := by
  obtain ⟨htemplated, hstays, hadded, hread⟩ := h
  rw [← hsilent.counters] at htemplated hstays hadded hread
  refine ⟨htemplated, hstays, hadded, ?_⟩
  rw [filterMap_append, hsilent.outputs, append_nil]
  exact hread

section templated

variable (h : Templated Related s.counters)
include h

theorem Sound.nil {key : CounterKey} : Sound key s.counters ([], s) :=
  ⟨h, fun _ h => h, fun _ h => .inl h, fun _ he => absurd he not_mem_nil⟩

theorem sound_observeCounter {key : CounterKey} {template : CounterTemplate}
    (hkey : Related key template) {timestamp : Nat} :
    Sound key s.counters (observeCounter limits key template timestamp host s) := by
  obtain ⟨htemplated, hemitted⟩ := h.update rfl hkey
  refine ⟨htemplated, fun _ hmem => mem_updateCounterBy rfl (.inl hmem),
    fun _ => mem_or_eq_of_mem_updateCounterBy rfl, ?_⟩
  intro e he
  obtain ⟨output, houtput, hcounter⟩ := mem_filterMap.mp he
  obtain ⟨state, hstate, rfl⟩ := mem_map.mp houtput
  cases hcounter
  have hstate := Option.mem_toList.mp hstate
  obtain ⟨rfl, hclean⟩ := hemitted state hstate
  exact ⟨mem_updateCounterBy rfl (.inr ⟨rfl, Option.isSome_of_mem hstate⟩), readKey_counterSignal host hclean⟩

theorem sound_observeQuery {event : DnsQueryEvent}
    (hclean : CleanContext event.container event.kubernetes) :
    Sound (countedKey limits s.domains (.dnsQuery event)) s.counters (observeQuery limits event host s) := by
  have hname : (text "dns.query.count").length ≤ 256 := by decide +kernel
  refine @sound_observeCounter limits host { s with domains := (domainLabel limits event.queryName s.domains).2 } h _ _
    ?_ _
  exact ⟨rfl, sanitizeString_of_short hname, map_sanitizeString_domainLabel, hclean.container, hclean.kubernetes⟩

theorem sound_observeResponse {event : DnsResponseEvent}
    (hclean : CleanContext event.container event.kubernetes) :
    Sound (countedKey limits s.domains (.dnsResponse event)) s.counters (observeResponse limits event host s) := by
  have hname : (text "dns.response.code.count").length ≤ 256 := by decide +kernel
  refine .append_silent (@sound_observeCounter limits host
    { s with domains := (domainLabel limits event.queryName s.domains).2 } h _ _ ?_ _)
    (silent_observeLatency.append silent_observeEdge)
  exact ⟨rfl, sanitizeString_of_short hname, map_sanitizeString_domainLabel, hclean.container, hclean.kubernetes⟩

theorem sound_outputsForSignal (source : Bytes) (payload : DnsPayload) :
    Sound (countedKey limits s.domains (dnsEnvelope source host payload).payload) s.counters
      (outputsForSignal limits (dnsEnvelope source host payload) s) := by
  unfold outputsForSignal
  dsimp only
  generalize s.seenEvents.insertIfNew (.fromSignal (dnsEnvelope source host payload)) _ = seen
  split
  · cases payload with
    | dnsQuery event =>
      exact @sound_observeQuery limits _ { s with seenEvents := seen.2 } h
        (sanitizeDnsQueryEvent event) cleanContext_sanitize
    | dnsResponse event =>
      exact @sound_observeResponse limits _ { s with seenEvents := seen.2 } h
        { event with toDnsQueryEvent := sanitizeDnsQueryEvent event.toDnsQueryEvent } cleanContext_sanitize
  · exact @Sound.nil { s with seenEvents := seen.2 } h _

end templated

end transitions

/-! ## Runs -/

structure Input where
  source : Bytes
  payload : DnsPayload

structure Run where
  generator : State := {}
  /-- The counters that were emitted, with the keys of their states. -/
  emitted : List (CounterKey × OtelMetricRecord) := []

section runs

variable (limits : Limits) (host : Option Bytes)

def Run.step (run : Run) (input : Input) : Run :=
  let r := outputsForSignal limits (dnsEnvelope input.source host input.payload) run.generator
  { generator := r.2, emitted := run.emitted ++ r.1.filterMap Output.counter? }

/-- The counter that the event finds or makes. -/
def Run.countedKey (run : Run) (input : Input) : CounterKey :=
  Dns.countedKey limits run.generator.domains (dnsEnvelope input.source host input.payload).payload

/-- No other counter differs from that of the event only in the type of the query and the server. -/
def Distinct (run : Run) (input : Input) : Prop :=
  ∀ key ∈ run.generator.counters.keys,
    key.exported = (run.countedKey limits host input).exported → key = run.countedKey limits host input

instance (run : Run) (input : Input) : Decidable (Distinct limits host run input) :=
  inferInstanceAs (Decidable (∀ key ∈ run.generator.counters.keys,
    key.exported = (run.countedKey limits host input).exported → key = run.countedKey limits host input))

structure Run.Inv (run : Run) : Prop where
  templated : Templated Related run.generator.counters
  distinct : ∀ key ∈ run.generator.counters, ∀ key' ∈ run.generator.counters,
    key.exported = key'.exported → key = key'
  read : ∀ e ∈ run.emitted, e.1 ∈ run.generator.counters ∧ readKey e.2 = e.1.exported

theorem Run.Inv.step {run : Run} (h : run.Inv) {input : Input} (hdistinct : Distinct limits host run input) :
    (run.step limits host input).Inv := by
  have hsound := @sound_outputsForSignal limits host _ h.templated input.source input.payload
  refine ⟨hsound.templated, ?_, ?_⟩
  · -- At most the counter of the event is new.
    intro key hkey key' hkey' hexported
    rcases hsound.added key hkey with hkey | rfl <;> rcases hsound.added key' hkey' with hkey' | rfl
    · exact h.distinct key hkey key' hkey' hexported
    · exact hdistinct key hkey hexported
    · exact (hdistinct key' hkey' hexported.symm).symm
    · rfl
  · exact forall_mem_append.mpr ⟨fun e he => (h.read e he).imp_left (hsound.stays _), hsound.read⟩

theorem Run.Inv.separate [Json.Serializer] {run : Run} (h : run.Inv) : Separate run.emitted := by
  intro a ha b hb hne hseries
  obtain ⟨hmem, hread⟩ := h.read a ha
  obtain ⟨hmem', hread'⟩ := h.read b hb
  refine hne (h.distinct a.1 hmem b.1 hmem' ?_)
  rw [← hread, ← hread']
  exact readKey_of_seriesKey hseries

theorem inv_foldl {inputs : List Input} (h : Along (Run.step limits host) (Distinct limits host) {} inputs) :
    (inputs.foldl (Run.step limits host) {}).Inv := by
  have hinit : Run.Inv {} :=
    ⟨templated_empty, nofun, fun _ he => absurd he not_mem_nil⟩
  exact Along.invariant (fun run input hrun hdistinct => hrun.step limits host hdistinct) hinit h

end runs

/-! ## Two families of one name -/

def limits : Limits := { maxDomains := 1024, maxCounters := 4096, maxLatencies := 4096, maxEdges := 4096 }

def node : Option Bytes := some (text "node-a")

/-- A query for `name` to the cluster's server. -/
def query (name : Bytes) (queryType : DnsQueryType) (timestampUnixNanos : Nat) : Input :=
  { source := text "source"
    payload := .dnsQuery
      { queryName := name, queryType, transactionId := none, transportProtocol := .udp
        serverAddress := some (text "10.96.0.10"), serverPort := some 53, timestampUnixNanos
        container := none, kubernetes := none } }

def families : List Input :=
  [query (text "api.example.com") .a 1, query (text "api.example.com") .a 2, query (text "api.example.com") .aaaa 3]

section

attribute [local instance] Json.spelled

/-- Two queries for the IPv4 address of a name and one for its IPv6 address are counted apart and exported as one
series: coalescing them leaves a count of one. -/
theorem not_separate_families :
    (families.foldl (Run.step limits node) {}).emitted.map (fun e => (e.1.queryType, e.2.value)) =
        [(some .a, .u64 1), (some .a, .u64 2), (some .aaaa, .u64 1)] ∧
      (coalesceMetricSeries ((families.foldl (Run.step limits node) {}).emitted.map Prod.snd)).map (·.value) =
        [.u64 1] ∧
      ¬ Separate (families.foldl (Run.step limits node) {}).emitted := by
  decide +kernel

end

end ENavigator.Metrics.Dns

namespace ENavigator.Metrics

open Signals

/-- Every network counter has a series of its own. So has every DNS counter in a run in which no two of them differ only
in the type of the query and the server. -/
theorem separate_of_distinct [Json.Serializer] (host : Option Bytes) :
    (∀ (limits : Network.Limits) (inputs : List Network.Input),
      Separate (inputs.foldl (Network.Run.step limits host) {}).emitted ∧
        KeptApart (inputs.foldl (Network.Run.step limits host) {}).emitted) ∧
    ∀ (limits : Dns.Limits) (inputs : List Dns.Input),
      Along (Dns.Run.step limits host) (Dns.Distinct limits host) {} inputs →
        Separate (inputs.foldl (Dns.Run.step limits host) {}).emitted ∧
          KeptApart (inputs.foldl (Dns.Run.step limits host) {}).emitted := by
  constructor
  · intro limits inputs
    have hseparate := (Network.inv_foldl limits host inputs).separate
    exact ⟨hseparate, hseparate.keptApart⟩
  · intro limits inputs h
    have hseparate := (Dns.inv_foldl limits host h).separate
    exact ⟨hseparate, hseparate.keptApart⟩

section

attribute [local instance] Json.spelled

theorem separate_names :
    Separate ([Dns.query (text "api.example.com") .a 1, Dns.query (text "db.example.com") .a 2].foldl
        (Dns.Run.step Dns.limits Dns.node) {}).emitted ∧
      ([Dns.query (text "api.example.com") .a 1, Dns.query (text "db.example.com") .a 2].foldl
        (Dns.Run.step Dns.limits Dns.node) {}).emitted.length = 2 :=
  ⟨((separate_of_distinct Dns.node).2 Dns.limits _ (by decide +kernel)).1, by decide +kernel⟩

end

end ENavigator.Metrics
