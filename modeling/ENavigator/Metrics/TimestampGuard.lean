import Mathlib.Data.List.Dedup
import Mathlib.Data.List.MinMax
import Mathlib.Data.List.Perm.Subperm
import ENavigator.Lib.Runs
import ENavigator.Metrics.Record

/-!
# Receiver timestamps of metric series

A receiver keeps one sample of a series per millisecond. Before records go to the exporter, the guard holds back the
latest record of each series until a later one replaces it, a delay has passed or the slot is needed, and drops what is
not later than the last record of its series that was exported.

A record that is pushed out of its slot by another series is exported without a note of its timestamp. The records of a
series are in order in every run in which no record is pushed out (`increasing_of_roomy`); without that condition they
are not (`not_increasing_contended`).
-/

namespace ENavigator.Metrics.TimestampGuard

open Signals List SortedMap
open scoped ByteOrder

def maxMetricTimestampSeries : Nat := 65536
def metricTimestampStaleNanos : Nat := 10 * 60 * 1000000000

def receiverMillis (record : OtelMetricRecord) : Nat := record.window.endUnixNanos / 1000000

structure PendingMetricRecord where
  receiverTimestampMillis : Nat
  updatedAt : Nat
  record : OtelMetricRecord

structure MetricSeriesTimestamp where
  lastExportedReceiverTimestampMillis : Option Nat
  lastSeenUnixNanos : Nat
  pending : Option PendingMetricRecord

structure Guard where
  maxPendingSeries : Nat
  coalesceDelay : Nat
  /-- Whether the export queue is full when the `n`-th record is offered to it. -/
  queueFull : Nat → Bool

structure State where
  series : SortedMap Bytes MetricSeriesTimestamp := SortedMap.empty
  pendingSeries : Nat := 0
  sameMillisecondSuppressed : Nat := 0
  outOfOrderDropped : Nat := 0
  seriesEvicted : Nat := 0
  accepting : Bool := true
  offered : Nat := 0
  /-- The records that the exporter has taken. -/
  exported : List OtelMetricRecord := []

variable (guard : Guard)

/-! ## The exporter -/

def taken (s : State) : Bool := !guard.queueFull s.offered

def offer (record : OtelMetricRecord) (s : State) : State :=
  { s with
    offered := s.offered + 1
    exported := if taken guard s then s.exported ++ [record] else s.exported }

/-! ## Making room -/

def retainFresh (observedUnixNanos : Nat) (s : State) : State :=
  let series := s.series.filter fun e =>
    e.2.pending.isSome || observedUnixNanos - e.2.lastSeenUnixNanos ≤ metricTimestampStaleNanos
  { s with
    series
    seriesEvicted := s.seriesEvicted + (s.series.entries.length - series.entries.length) }

/-- The entry seen least recently, the first of several in the order of keys. -/
def oldest (entries : List (Bytes × MetricSeriesTimestamp)) : Option (Bytes × MetricSeriesTimestamp) :=
  entries.argmin fun e => e.2.lastSeenUnixNanos

def evictOldest (key : Bytes) (s : State) : State :=
  if key ∉ s.series.keys ∧ maxMetricTimestampSeries ≤ s.series.entries.length then
    match oldest s.series.entries with
    | none => s
    | some (oldestKey, evicted) =>
      let s := { s with series := s.series.erase oldestKey, seriesEvicted := s.seriesEvicted + 1 }
      match evicted.pending with
      | none => s
      | some pending => offer guard pending.record { s with pendingSeries := s.pendingSeries - 1 }
  else s

def pendingOf (key : Bytes) (s : State) : Option PendingMetricRecord := (s.series.lookup key).bind (·.pending)

def needsPendingSlot (key : Bytes) (s : State) : Bool := (pendingOf key s).isNone

def pushOut (key : Bytes) (s : State) : State :=
  if needsPendingSlot key s ∧ guard.maxPendingSeries ≤ s.pendingSeries then
    match oldest (s.series.entries.filter fun e => e.2.pending.isSome) with
    | none => s
    | some (oldestPendingKey, state) =>
      match state.pending with
      | none => s
      | some pending =>
        offer guard pending.record
          { s with
            series := s.series.insert oldestPendingKey { state with pending := none }
            pendingSeries := s.pendingSeries - 1 }
  else s

/-! ## Holding a record -/

/-- The state of the record's series, with the record's time in it. -/
def touched (key : Bytes) (observedUnixNanos : Nat) (s : State) : MetricSeriesTimestamp :=
  match s.series.lookup key with
  | some state => { state with lastSeenUnixNanos := max state.lastSeenUnixNanos observedUnixNanos }
  | none =>
    { lastExportedReceiverTimestampMillis := none, lastSeenUnixNanos := observedUnixNanos, pending := none }

/-- What was exported last, if it is not earlier than `millis`. -/
def exportedSince (state : MetricSeriesTimestamp) (millis : Nat) : Option Nat :=
  state.lastExportedReceiverTimestampMillis.filter (millis ≤ ·)

section serializer

variable [Json.Serializer]

def hold (now : Nat) (record : OtelMetricRecord) (s : State) : State :=
  let key := metricSeriesKey record
  let millis := receiverMillis record
  let state := touched key record.window.endUnixNanos s
  let fresh : PendingMetricRecord := { receiverTimestampMillis := millis, updatedAt := now, record }
  let outOfOrder := { s with
    series := s.series.insert key state, outOfOrderDropped := s.outOfOrderDropped + 1 }
  let suppressed := { s with
    series := s.series.insert key state, sameMillisecondSuppressed := s.sameMillisecondSuppressed + 1 }
  match exportedSince state millis with
  | some lastExported => if millis < lastExported then outOfOrder else suppressed
  | none =>
    match state.pending with
    | none =>
      { s with
        series := s.series.insert key { state with pending := some fresh }
        pendingSeries := s.pendingSeries + 1 }
    | some previous =>
      if millis < previous.receiverTimestampMillis then outOfOrder
      else if millis = previous.receiverTimestampMillis then
        { suppressed with
          series := s.series.insert key { state with pending := some { previous with record, updatedAt := now } } }
      else
        let lastExported :=
          if taken guard s then some previous.receiverTimestampMillis
          else state.lastExportedReceiverTimestampMillis
        offer guard previous.record
          { s with
            series := s.series.insert key
              { state with lastExportedReceiverTimestampMillis := lastExported, pending := some fresh } }

def enqueue (now : Nat) (record : OtelMetricRecord) (s : State) : State :=
  if s.accepting then
    hold guard now record
      (pushOut guard (metricSeriesKey record)
        (evictOldest guard (metricSeriesKey record) (retainFresh record.window.endUnixNanos s)))
  else s

/-! ## Flushing -/

def flushSeries (now : Nat) (s : State) (e : Bytes × MetricSeriesTimestamp) : State :=
  match e.2.pending with
  | none => s
  | some pending =>
    if guard.coalesceDelay ≤ now - pending.updatedAt then
      let lastExported :=
        if taken guard s then some pending.receiverTimestampMillis else e.2.lastExportedReceiverTimestampMillis
      offer guard pending.record
        { s with
          series := s.series.insert e.1
            { e.2 with lastExportedReceiverTimestampMillis := lastExported, pending := none }
          pendingSeries := s.pendingSeries - 1 }
    else s

def flushReadyMetricRecords (now : Nat) (s : State) : State := s.series.entries.foldl (flushSeries guard now) s

/-- At shutdown the records wait for room in the queue. -/
def flushAllMetricRecords (s : State) : State :=
  { s with
    series := s.series.mapValues fun state => { state with pending := none }
    pendingSeries := 0
    exported := s.exported ++ s.series.entries.filterMap fun e => e.2.pending.map (·.record) }

def shutdown (s : State) : State := if s.accepting then flushAllMetricRecords { s with accepting := false } else s

inductive Operation
  | enqueue (now : Nat) (record : OtelMetricRecord)
  | tick (now : Nat)
  | shutdown

def step (s : State) : Operation → State
  | .enqueue now record => enqueue guard now record s
  | .tick now => flushReadyMetricRecords guard now s
  | .shutdown => shutdown s

/-! ## Order -/

def Increasing (records : List OtelMetricRecord) : Prop :=
  records.Pairwise fun a b => metricSeriesKey a = metricSeriesKey b → receiverMillis a < receiverMillis b

instance (records : List OtelMetricRecord) : Decidable (Increasing records) :=
  inferInstanceAs (Decidable (records.Pairwise _))

/-- The pending record is one of its series and later than what the series has exported. -/
def Held (key : Bytes) (state : MetricSeriesTimestamp) : Prop :=
  ∀ pending ∈ state.pending, metricSeriesKey pending.record = key ∧
    pending.receiverTimestampMillis = receiverMillis pending.record ∧
    ∀ t ∈ state.lastExportedReceiverTimestampMillis, t < pending.receiverTimestampMillis

/-- What holds while the guard takes records: a series knows the time of the last record it exported. -/
structure Sound (series : SortedMap Bytes MetricSeriesTimestamp) (exported : List OtelMetricRecord) : Prop where
  increasing : Increasing exported
  held : ∀ key state, series.lookup key = some state → Held key state
  covered : ∀ record ∈ exported, ∃ state t, series.lookup (metricSeriesKey record) = some state ∧
    state.lastExportedReceiverTimestampMillis = some t ∧ receiverMillis record ≤ t

section sound

variable {series : SortedMap Bytes MetricSeriesTimestamp} {exported : List OtelMetricRecord} {key : Bytes}
  {state : MetricSeriesTimestamp}

theorem Sound.set (h : Sound series exported)
    (hlast : ∀ old, series.lookup key = some old →
      state.lastExportedReceiverTimestampMillis = old.lastExportedReceiverTimestampMillis)
    (hstate : Held key state) : Sound (series.insert key state) exported := by
  refine ⟨h.increasing, forall_insert h.held hstate, ?_⟩
  intro record hrecord
  obtain ⟨old, t, hlookup, ht, hle⟩ := h.covered record hrecord
  by_cases hkey : metricSeriesKey record = key
  · rw [hkey] at hlookup ⊢
    exact ⟨state, t, lookup_insert_self _ _ _, (hlast old hlookup).trans ht, hle⟩
  · exact ⟨old, t, (lookup_insert_of_ne hkey _).trans hlookup, ht, hle⟩

/-- The pending record of a series is later than what the series has exported. -/
theorem Sound.later (h : Sound series exported) {pending : PendingMetricRecord}
    (hlookup : series.lookup key = some state)
    (hpending : state.pending = some pending) {record : OtelMetricRecord} (hrecord : record ∈ exported)
    (hsame : metricSeriesKey record = key) : receiverMillis record < pending.receiverTimestampMillis := by
  obtain ⟨state', t, hlookup', ht, hle⟩ := h.covered record hrecord
  rw [hsame, hlookup] at hlookup'
  cases hlookup'
  exact Nat.lt_of_le_of_lt hle ((h.held key state hlookup pending hpending).2.2 t ht)

theorem Sound.release (h : Sound series exported) {old : MetricSeriesTimestamp} {pending : PendingMetricRecord}
    (hlookup : series.lookup key = some old) (hpending : old.pending = some pending)
    (hlast : state.lastExportedReceiverTimestampMillis = some pending.receiverTimestampMillis)
    (hstate : Held key state) : Sound (series.insert key state) (exported ++ [pending.record]) := by
  obtain ⟨hkey, hmillis, -⟩ := h.held key old hlookup pending hpending
  refine ⟨?_, forall_insert h.held hstate, ?_⟩
  · refine pairwise_append.mpr ⟨h.increasing, pairwise_singleton _ _, ?_⟩
    intro record hrecord
    refine forall_mem_singleton.mpr fun hsame => ?_
    rw [← hmillis]
    exact h.later hlookup hpending hrecord (hsame.trans hkey)
  · refine forall_mem_append.mpr ⟨?_, forall_mem_singleton.mpr ?_⟩
    · intro record hrecord
      obtain ⟨state', t, hlookup', ht, hle⟩ := h.covered record hrecord
      by_cases hsame : metricSeriesKey record = key
      · rw [hsame]
        have hlater := h.later hlookup hpending hrecord hsame
        exact ⟨state, _, lookup_insert_self _ _ _, hlast, Nat.le_of_lt hlater⟩
      · exact ⟨state', t, (lookup_insert_of_ne hsame _).trans hlookup', ht, hle⟩
    · rw [hkey]
      exact ⟨state, _, lookup_insert_self _ _ _, hlast, Nat.le_of_eq hmillis.symm⟩

end sound

/-- The series and times that a run may show are those of `records`. -/
def Known (records : List OtelMetricRecord) (series : SortedMap Bytes MetricSeriesTimestamp) : Prop :=
  ∀ key state, series.lookup key = some state →
    key ∈ records.map metricSeriesKey ∧ state.lastSeenUnixNanos ∈ records.map (·.window.endUnixNanos)

structure Live (records : List OtelMetricRecord) (s : State) : Prop where
  known : Known records s.series
  sound : Sound s.series s.exported
  accepting : s.accepting = true

/-! ## A queue that is never full -/

section steps

variable {guard} (hqueue : ∀ n, guard.queueFull n = false) {s : State} {now : Nat} {record : OtelMetricRecord}
  {records : List OtelMetricRecord}

include hqueue

omit [Json.Serializer] in
theorem taken_eq_true (s : State) : taken guard s = true := by
  unfold taken
  rw [hqueue]
  rfl

omit [Json.Serializer] in
theorem offer_exported (record : OtelMetricRecord) (s : State) :
    (offer guard record s).exported = s.exported ++ [record] := by
  unfold offer
  rw [if_pos (taken_eq_true hqueue s)]

omit hqueue [Json.Serializer] in
theorem touched_of_lookup {key : Bytes} {old : MetricSeriesTimestamp} (h : s.series.lookup key = some old) (t : Nat) :
    touched key t s = { old with lastSeenUnixNanos := max old.lastSeenUnixNanos t } := by
  unfold touched
  rw [h]

omit hqueue in
theorem held_touched (h : Sound s.series s.exported) (key : Bytes) (t : Nat) : Held key (touched key t s) := by
  rcases hlookup : s.series.lookup key with _ | old
  · unfold touched
    rw [hlookup]
    intro pending hpending
    cases hpending
  · rw [touched_of_lookup hlookup]
    exact h.held key old hlookup

omit hqueue in
theorem Known.touched (h : Known records s.series) (hrecord : record ∈ records) :
    (touched (metricSeriesKey record) record.window.endUnixNanos s).lastSeenUnixNanos ∈
      records.map (·.window.endUnixNanos) := by
  have hself : record.window.endUnixNanos ∈ records.map (·.window.endUnixNanos) := mem_map_of_mem hrecord
  rcases hlookup : s.series.lookup (metricSeriesKey record) with _ | old
  · unfold TimestampGuard.touched
    rw [hlookup]
    exact hself
  · rw [touched_of_lookup hlookup]
    rcases Nat.le_total old.lastSeenUnixNanos record.window.endUnixNanos with hle | hle
    · rw [show max _ _ = _ from Nat.max_eq_right hle]
      exact hself
    · rw [show max _ _ = _ from Nat.max_eq_left hle]
      exact (h _ old hlookup).2

theorem live_hold (h : Live records s) (hrecord : record ∈ records) : Live records (hold guard now record s) := by
  have hkey : metricSeriesKey record ∈ records.map metricSeriesKey := mem_map_of_mem hrecord
  have hseen := h.known.touched hrecord
  have hheld := held_touched h.sound (metricSeriesKey record) record.window.endUnixNanos
  unfold hold
  dsimp only
  generalize hstate : touched (metricSeriesKey record) record.window.endUnixNanos s = state at hseen hheld ⊢
  have hlast : ∀ old, s.series.lookup (metricSeriesKey record) = some old →
      state.lastExportedReceiverTimestampMillis = old.lastExportedReceiverTimestampMillis := by
    intro old hold
    rw [← hstate, touched_of_lookup hold]
  -- a record that is kept is later than everything its series has exported
  have hfresh : ∀ t ∈ state.lastExportedReceiverTimestampMillis,
      exportedSince state (receiverMillis record) = none → t < receiverMillis record := by
    intro t ht hnone
    rw [exportedSince, Option.filter_eq_none_iff] at hnone
    simpa using hnone t ht
  have hset : ∀ next : MetricSeriesTimestamp, next.lastSeenUnixNanos = state.lastSeenUnixNanos →
      Known records (s.series.insert (metricSeriesKey record) next) :=
    fun next hsame => forall_insert h.known ⟨hkey, hsame ▸ hseen⟩
  split
  · split <;> exact ⟨hset _ rfl, h.sound.set hlast hheld, h.accepting⟩
  next hnone =>
    split
    · refine ⟨hset _ rfl, h.sound.set hlast ?_, h.accepting⟩
      rintro pending hpending
      cases hpending
      exact ⟨rfl, rfl, fun t ht => hfresh t ht hnone⟩
    next previous hprevious =>
      split
      · exact ⟨hset _ rfl, h.sound.set hlast hheld, h.accepting⟩
      split
      next heq =>
        refine ⟨hset _ rfl, h.sound.set hlast ?_, h.accepting⟩
        rintro pending hpending
        cases hpending
        exact ⟨rfl, heq.symm, fun t ht => heq ▸ hfresh t ht hnone⟩
      next hnotLess hne =>
        obtain ⟨old, hlookup⟩ : ∃ old, s.series.lookup (metricSeriesKey record) = some old := by
          rcases hlookup : s.series.lookup (metricSeriesKey record) with _ | old
          · rw [← hstate, touched, hlookup] at hprevious
            cases hprevious
          · exact ⟨old, rfl⟩
        have hpending : old.pending = some previous := by
          rw [← hstate, touched_of_lookup hlookup] at hprevious
          exact hprevious
        refine ⟨hset _ rfl, ?_, h.accepting⟩
        rw [offer_exported hqueue, if_pos (taken_eq_true hqueue s)]
        refine h.sound.release hlookup hpending rfl ?_
        rintro pending hpending'
        cases hpending'
        refine ⟨rfl, rfl, ?_⟩
        rintro t ⟨⟩
        show previous.receiverTimestampMillis < receiverMillis record
        omega

theorem live_flushSeries (h : Live records s) {e : Bytes × MetricSeriesTimestamp}
    (he : s.series.lookup e.1 = some e.2) : Live records (flushSeries guard now s e) := by
  unfold flushSeries
  split
  · exact h
  next pending hpending =>
    split
    · refine ⟨forall_insert h.known (h.known e.1 e.2 he), ?_, h.accepting⟩
      rw [offer_exported hqueue, if_pos (taken_eq_true hqueue s)]
      refine h.sound.release he hpending rfl ?_
      rintro pending' ⟨⟩
    · exact h

omit hqueue [Json.Serializer] in
theorem lookup_flushSeries_of_ne {e : Bytes × MetricSeriesTimestamp} {key : Bytes} (hkey : key ≠ e.1) :
    (flushSeries guard now s e).series.lookup key = s.series.lookup key := by
  unfold flushSeries
  split
  · rfl
  · split
    · exact lookup_insert_of_ne hkey _
    · rfl

theorem live_flush (h : Live records s) : Live records (flushReadyMetricRecords guard now s) := by
  -- the entries still to come are untouched by those before them
  suffices hfold : ∀ (es : List (Bytes × MetricSeriesTimestamp)) (s : State), es.Pairwise (fun a b => a.1 < b.1) →
      (∀ e ∈ es, s.series.lookup e.1 = some e.2) → Live records s →
        Live records (es.foldl (flushSeries guard now) s) from
    hfold s.series.entries s s.series.sorted (fun e he => lookup_eq_some_iff.mpr he) h
  intro es
  induction es with
  | nil =>
    intro s _ _ h
    exact h
  | cons e es ih =>
    intro s hsorted hlookup h
    obtain ⟨hhead, htail⟩ := pairwise_cons.mp hsorted
    rw [forall_mem_cons] at hlookup
    refine ih (flushSeries guard now s e) htail ?_ (live_flushSeries hqueue h hlookup.1)
    intro e' he'
    exact (lookup_flushSeries_of_ne (ne_of_gt (hhead e' he'))).trans (hlookup.2 e' he')

end steps

/-! ## Series that are never evicted -/

/-- So few series, and so close in time, that none is given up. -/
structure Lasting (records : List OtelMetricRecord) : Prop where
  series : (records.map metricSeriesKey).dedup.length ≤ maxMetricTimestampSeries
  fresh : ∀ a ∈ records, ∀ b ∈ records, a.window.endUnixNanos - b.window.endUnixNanos ≤ metricTimestampStaleNanos

section known

variable {guard} {records : List OtelMetricRecord} {s : State} {record : OtelMetricRecord}
  (h : Known records s.series) (hlasting : Lasting records) (hrecord : record ∈ records)

include h hlasting hrecord

theorem retainFresh_eq_self : retainFresh record.window.endUnixNanos s = s := by
  have hall : s.series.filter (fun e => e.2.pending.isSome ||
      record.window.endUnixNanos - e.2.lastSeenUnixNanos ≤ metricTimestampStaleNanos) = s.series := by
    refine filter_eq_self fun e he => ?_
    obtain ⟨b, hb, hseen⟩ := mem_map.mp (h e.1 e.2 (lookup_eq_some_iff.mpr he)).2
    rw [← hseen, decide_eq_true (hlasting.fresh record hrecord b hb), Bool.or_true]
  simp only [retainFresh, hall, Nat.sub_self, Nat.add_zero]

theorem evictOldest_eq_self : evictOldest guard (metricSeriesKey record) s = s := by
  refine if_neg ?_
  rintro ⟨hnew, hfull⟩
  have hseries := hlasting.series
  -- the new series would be one more than there are
  have hnodup : (metricSeriesKey record :: s.series.keys).Nodup := nodup_cons.mpr ⟨hnew, s.series.nodup_keys⟩
  have hsubset : metricSeriesKey record :: s.series.keys ⊆ (records.map metricSeriesKey).dedup := by
    intro key hkey
    rw [mem_dedup]
    rcases mem_cons.mp hkey with rfl | hkey
    · exact mem_map_of_mem hrecord
    · obtain ⟨e, he, rfl⟩ := mem_map.mp hkey
      exact (h e.1 e.2 (lookup_eq_some_iff.mpr he)).1
  have hlength := (subperm_of_subset hnodup hsubset).length_le
  rw [length_cons, SortedMap.keys, length_map] at hlength
  omega

end known

/-! ## Runs -/

/-- The record has a slot: its series holds one already, or not all are taken. -/
def Roomy (s : State) : Operation → Prop
  | .enqueue _ record =>
    needsPendingSlot (metricSeriesKey record) s = true → s.pendingSeries < guard.maxPendingSeries
  | .tick _ => True
  | .shutdown => True

instance (s : State) : (op : Operation) → Decidable (Roomy guard s op)
  | .enqueue _ record =>
    inferInstanceAs (Decidable (needsPendingSlot (metricSeriesKey record) s = true → _))
  | .tick _ => inferInstanceAs (Decidable True)
  | .shutdown => inferInstanceAs (Decidable True)

def Operation.record? : Operation → Option OtelMetricRecord
  | .enqueue _ record => some record
  | .tick _ => none
  | .shutdown => none

def recordsOf (ops : List Operation) : List OtelMetricRecord := ops.filterMap Operation.record?

structure Inv (records : List OtelMetricRecord) (s : State) : Prop where
  known : Known records s.series
  accepting : s.accepting = true → Sound s.series s.exported
  drained : s.accepting = false → Increasing s.exported ∧ ∀ e ∈ s.series.entries, e.2.pending = none

section runs

variable {guard} {records : List OtelMetricRecord} {s : State} {record : OtelMetricRecord}

theorem Live.inv (h : Live records s) : Inv records s := by
  refine ⟨h.known, fun _ => h.sound, fun hclosed => ?_⟩
  rw [h.accepting] at hclosed
  cases hclosed

theorem Inv.increasing (h : Inv records s) : Increasing s.exported := by
  rcases haccepting : s.accepting with _ | _
  · exact (h.drained haccepting).1
  · exact (h.accepting haccepting).increasing

theorem enqueue_eq_hold (haccepting : s.accepting = true) (h : Known records s.series) (hlasting : Lasting records)
    (hrecord : record ∈ records) {now : Nat} (hroomy : Roomy guard s (.enqueue now record)) :
    enqueue guard now record s = hold guard now record s := by
  have hpushOut : pushOut guard (metricSeriesKey record) s = s := by
    refine if_neg ?_
    rintro ⟨hneeds, hfull⟩
    exact absurd (hroomy hneeds) (Nat.not_lt.mpr hfull)
  unfold enqueue
  rw [if_pos haccepting, retainFresh_eq_self h hlasting hrecord, evictOldest_eq_self h hlasting hrecord, hpushOut]

omit [Json.Serializer] in
theorem flush_of_drained (h : ∀ e ∈ s.series.entries, e.2.pending = none) (now : Nat) :
    flushReadyMetricRecords guard now s = s := by
  refine List.foldlRecOn (motive := fun s' => s' = s) s.series.entries _ rfl ?_
  rintro s' rfl e he
  unfold flushSeries
  rw [h e he]

/-- At shutdown every series gives out its pending record, which is later than what it gave out before. -/
theorem increasing_flushAll (h : Sound s.series s.exported) : Increasing (flushAllMetricRecords s).exported := by
  refine pairwise_append.mpr ⟨h.increasing, ?_, ?_⟩
  · refine pairwise_filterMap.mpr ((List.Pairwise.and_mem.mp s.series.sorted).imp ?_)
    rintro e e' ⟨he, he', hlt⟩ record hsome record' hsome' hsame
    obtain ⟨pending, hpending, rfl⟩ := Option.map_eq_some_iff.mp hsome
    obtain ⟨pending', hpending', rfl⟩ := Option.map_eq_some_iff.mp hsome'
    have hkey := (h.held e.1 e.2 (lookup_eq_some_iff.mpr he) pending hpending).1
    have hkey' := (h.held e'.1 e'.2 (lookup_eq_some_iff.mpr he') pending' hpending').1
    rw [hkey, hkey'] at hsame
    exact absurd hlt (hsame ▸ lt_irrefl _)
  · intro record hrecord last hlast hsame
    obtain ⟨e, he, hsome⟩ := mem_filterMap.mp hlast
    obtain ⟨pending, hpending, rfl⟩ := Option.map_eq_some_iff.mp hsome
    have hlookup := lookup_eq_some_iff.mpr he
    obtain ⟨hkey, hmillis, -⟩ := h.held e.1 e.2 hlookup pending hpending
    rw [← hmillis]
    exact h.later hlookup hpending hrecord (hsame.trans hkey)

theorem Inv.shutdown (h : Inv records s) : Inv records (shutdown s) := by
  unfold TimestampGuard.shutdown
  split
  next haccepting =>
    refine ⟨?_, nofun, fun _ => ⟨increasing_flushAll (s := { s with accepting := false }) (h.accepting haccepting), ?_⟩⟩
    · intro key state hlookup
      rw [flushAllMetricRecords, lookup_mapValues] at hlookup
      obtain ⟨old, hold, rfl⟩ := Option.map_eq_some_iff.mp hlookup
      exact h.known key old hold
    · intro e he
      obtain ⟨e', _, rfl⟩ := mem_map.mp he
      rfl
  · exact h

theorem Inv.step (hqueue : ∀ n, guard.queueFull n = false) (hlasting : Lasting records) (h : Inv records s)
    {op : Operation} (hroomy : Roomy guard s op) (hrecord : ∀ record ∈ op.record?, record ∈ records) :
    Inv records (step guard s op) := by
  cases op with
  | enqueue now record =>
    show Inv records (enqueue guard now record s)
    rcases haccepting : s.accepting with _ | _
    · unfold enqueue
      rw [if_neg (by simp [haccepting])]
      exact h
    · rw [enqueue_eq_hold haccepting h.known hlasting (hrecord record rfl) hroomy]
      exact (live_hold hqueue ⟨h.known, h.accepting haccepting, haccepting⟩ (hrecord record rfl)).inv
  | tick now =>
    show Inv records (flushReadyMetricRecords guard now s)
    rcases haccepting : s.accepting with _ | _
    · rw [flush_of_drained (h.drained haccepting).2]
      exact h
    · exact (live_flush hqueue ⟨h.known, h.accepting haccepting, haccepting⟩).inv
  | shutdown => exact h.shutdown

theorem live_init (records : List OtelMetricRecord) : Live records {} := by
  refine ⟨?_, ⟨List.Pairwise.nil, ?_, nofun⟩, rfl⟩
  · rintro key state ⟨⟩
  · rintro key state ⟨⟩

/-- With room in every slot, a queue that takes every record and no series that is given up, the records of a series
reach the exporter with increasing receiver timestamps. -/
theorem increasing_of_roomy (guard : Guard) (hqueue : ∀ n, guard.queueFull n = false) (ops : List Operation)
    (hseries : ((recordsOf ops).map metricSeriesKey).dedup.length ≤ maxMetricTimestampSeries)
    (hfresh : ∀ a ∈ recordsOf ops, ∀ b ∈ recordsOf ops,
      a.window.endUnixNanos - b.window.endUnixNanos ≤ metricTimestampStaleNanos)
    (hroomy : Along (step guard) (Roomy guard) {} ops) : Increasing (ops.foldl (step guard) {}).exported := by
  refine Inv.increasing (Along.invariant (I := Inv (recordsOf ops)) ?_ (live_init _).inv (hroomy.and_mem fun _ => id))
  rintro s op hs ⟨hop, hmem⟩
  refine hs.step hqueue ⟨hseries, hfresh⟩ hop ?_
  intro record hrecord
  exact mem_filterMap.mpr ⟨op, hmem, hrecord⟩

end runs

end serializer

/-! ## Two series and one slot -/

section slots

attribute [local instance] Json.spelled

def openCount (remotePort : Nat) : OtelMetricRecord :=
  networkCounterRecord none
    { metricName := text "network.connection.open.count", unit := text "\x7bconnection\x7d", value := 1
      window := { startUnixNanos := 0, endUnixNanos := 1000000 }
      process := none, protocol := some .tcp, addressFamily := some .ipv4, localAddress := none, localPort := none
      remoteAddress := some (text "10.0.0.1"), remotePort := some remotePort, errno := none, container := none
      kubernetes := none }

def oneSlot : Guard := { maxPendingSeries := 1, coalesceDelay := 5, queueFull := fun _ => false }

/-- The counters of two ports take the only slot in turn within one millisecond. -/
def contended : List Operation :=
  [.enqueue 0 (openCount 80), .enqueue 1 (openCount 443), .enqueue 2 (openCount 80), .tick 10]

/-- The counter of port 80 is exported twice at the same millisecond. -/
theorem not_increasing_contended :
    ((recordsOf contended).map metricSeriesKey).dedup.length ≤ maxMetricTimestampSeries ∧
      (∀ a ∈ recordsOf contended, ∀ b ∈ recordsOf contended,
        a.window.endUnixNanos - b.window.endUnixNanos ≤ metricTimestampStaleNanos) ∧
      (contended.foldl (step oneSlot) {}).exported = [openCount 80, openCount 443, openCount 80] ∧
      ¬ Increasing (contended.foldl (step oneSlot) {}).exported := by
  decide +kernel

def twoSlots : Guard := { oneSlot with maxPendingSeries := 2 }

theorem increasing_twoSlots : Increasing (contended.foldl (step twoSlots) {}).exported :=
  increasing_of_roomy twoSlots (fun _ => rfl) contended (by decide +kernel) (by decide +kernel) (by decide +kernel)

end slots

end ENavigator.Metrics.TimestampGuard
