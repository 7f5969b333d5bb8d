import ENavigator.Metrics.Counters
import ENavigator.Metrics.Record

/-!
# Series of counters

The workload and the container that a record is of can be read off its resource. Counters whose keys can be read off
their records in full are exported as series of their own, and coalescing the records never mixes two of them.
-/

namespace ENavigator.Metrics

open Signals
open scoped ByteOrder

/-! ## Reading a resource -/

def readString (object : Json.Object) (key : Bytes) : Option Bytes :=
  match object.lookup key with
  | some (.string value) => some value
  | _ => none

def readNumber (object : Json.Object) (key : Bytes) : Option Int :=
  match object.lookup key with
  | some (.number value) => some value
  | _ => none

def readContainer (resource : Json.Object) : Option Bytes := readString resource (text "container.id")

/-- The parts of `workloadKey`. -/
def readWorkload (resource : Json.Object) : Option Bytes :=
  (readString resource (text "k8s.namespace.name")).map fun namespaceName =>
    namespaceName ++ text "/" ++
      (readString resource (text "k8s.pod.uid")).getD ((readString resource (text "k8s.pod.name")).getD []) ++
      text "/" ++ (readString resource (text "k8s.container.name")).getD []

section read

variable {object : Json.Object} {key : Bytes}

theorem readString_of_lookup {value : Option Bytes} (h : object.lookup key = value.map boundedJsonString)
    (hclean : value.map sanitizeString = value) : readString object key = value := by
  rw [readString, h]
  cases value with
  | none => rfl
  | some value => exact hclean

theorem readName_of_lookup {α : Type} {value : Option α} {name : α → Bytes} {named : Bytes → Option α}
    (hnamed : ∀ a, named (name a) = some a) (h : object.lookup key = value.map fun a => .string (name a)) :
    (readString object key).bind named = value := by
  rw [readString, h]
  cases value with
  | none => rfl
  | some a => exact hnamed a

end read

/-- The contexts of an event are within the bounds of signals. -/
structure CleanContext (container : Option ContainerContext) (kubernetes : Option KubernetesContext) : Prop where
  container : container.map sanitizeContainerContext = container
  kubernetes : kubernetes.map sanitizeKubernetesContext = kubernetes

theorem cleanContext_sanitize {container : Option ContainerContext} {kubernetes : Option KubernetesContext} :
    CleanContext (container.map sanitizeContainerContext) (kubernetes.map sanitizeKubernetesContext) :=
  ⟨map_sanitizeContainerContext_idem container, map_sanitizeKubernetesContext_idem kubernetes⟩

section resource

variable (host : Option Bytes) (container : Option ContainerContext) (kubernetes : Option KubernetesContext)

/-- What is in a resource before its pod. -/
def baseResource : Json.Object :=
  insertOptional insertContainer container
    (insertOptional (insertResourceString (text "host.name")) host SortedMap.empty)

variable {host container kubernetes}

theorem lookup_baseResource {key : Bytes} (h : key ∈ kubernetesKeys) :
    (baseResource host container).lookup key = none := by
  have hcontainer : key ∉ containerKeys := by
    revert key
    decide +kernel
  have hhost : key ≠ text "host.name" := by
    revert key
    decide +kernel
  unfold baseResource
  rw [lookup_insertOptional_of_same (lookup_insertContainer_of_notMem hcontainer),
    lookup_insertOptional_of_same (lookup_insertResourceString_of_ne hhost)]
  rfl

theorem readContainer_resourceAttributes (hclean : container.map sanitizeContainerContext = container) :
    readContainer (resourceAttributes host (container.map sanitizeContainerContext) kubernetes) =
      container.map (·.containerId) := by
  rw [hclean]
  refine readString_of_lookup ?_ ?_
  · unfold resourceAttributes
    rw [lookup_insertOptional_of_same (lookup_insertKubernetes_of_notMem (by decide +kernel))]
    cases container with
    | none =>
      show (insertOptional _ host SortedMap.empty).lookup _ = none
      rw [lookup_insertOptional_of_same (lookup_insertResourceString_of_ne (by decide +kernel))]
      rfl
    | some container => exact lookup_insertContainer_id container _
  · cases container with
    | none => rfl
    | some container => exact congrArg (Option.map ContainerContext.containerId) hclean

theorem readString_kubernetes (hclean : kubernetes.map sanitizeKubernetesContext = kubernetes) (key : Bytes)
    (hkey : key ∈ kubernetesKeys) (entry : KubernetesContext → Option Bytes)
    (hentry : ∀ k, (key, (entry k).map boundedJsonString) ∈ kubernetesEntries k)
    (hsanitize : ∀ k, entry (sanitizeKubernetesContext k) = (entry k).map sanitizeString) :
    readString (resourceAttributes host container kubernetes) key = kubernetes.bind entry := by
  refine readString_of_lookup ?_ ?_
  · show (insertOptional insertKubernetes kubernetes (baseResource host container)).lookup key = _
    cases kubernetes with
    | none => exact lookup_baseResource hkey
    | some k =>
      show (insertKubernetes k _).lookup key = _
      rw [insertKubernetes_eq]
      exact lookup_insertEntries (nodup_kubernetesEntries k) (hentry k) (lookup_baseResource hkey)
  · cases kubernetes with
    | none => rfl
    | some k => exact (hsanitize k).symm.trans (congrArg entry (Option.some.inj hclean))

theorem readWorkload_resourceAttributes (hclean : kubernetes.map sanitizeKubernetesContext = kubernetes) :
    readWorkload (resourceAttributes host container (kubernetes.map sanitizeKubernetesContext)) =
      kubernetes.map workloadKey := by
  rw [hclean]
  have hentry := @readString_kubernetes host container kubernetes hclean
  have hnamespace := hentry (text "k8s.namespace.name") (by decide +kernel) (some ·.namespaceName)
    (by simp [kubernetesEntries]) fun _ => rfl
  have hname := hentry (text "k8s.pod.name") (by decide +kernel) (some ·.podName) (by simp [kubernetesEntries])
    fun _ => rfl
  have huid := hentry (text "k8s.pod.uid") (by decide +kernel) (·.podUid) (by simp [kubernetesEntries]) fun _ => rfl
  have hcontainer := hentry (text "k8s.container.name") (by decide +kernel) (·.containerName)
    (by simp [kubernetesEntries]) fun _ => rfl
  rw [readWorkload, hnamespace, hname, huid, hcontainer]
  cases kubernetes with
  | none => rfl
  | some k => rfl

end resource

/-! ## Separate series -/

section separate

variable [Json.Serializer] {κ : Type}

/-- Records of different counters are of different series. -/
def Separate (emitted : List (κ × OtelMetricRecord)) : Prop :=
  ∀ a ∈ emitted, ∀ b ∈ emitted, a.1 ≠ b.1 → metricSeriesKey a.2 ≠ metricSeriesKey b.2

instance [DecidableEq κ] (emitted : List (κ × OtelMetricRecord)) : Decidable (Separate emitted) :=
  inferInstanceAs (Decidable (∀ a ∈ emitted, ∀ b ∈ emitted, a.1 ≠ b.1 → metricSeriesKey a.2 ≠ metricSeriesKey b.2))

/-- In whatever batches they are coalesced, a record only ever takes the place of a record of its own counter. -/
def KeptApart (emitted : List (κ × OtelMetricRecord)) : Prop :=
  ∀ batch : List (κ × OtelMetricRecord), (∀ e ∈ batch, e ∈ emitted) → ∀ e ∈ emitted, ∀ previous,
    ((batch.map Prod.snd).foldl coalesceRecord SortedMap.empty).lookup (metricSeriesKey e.2) = some previous →
      (e.1, previous) ∈ batch

theorem lookup_coalesceRecord {latest : SortedMap Bytes OtelMetricRecord} {record previous : OtelMetricRecord}
    {series : Bytes} (h : (coalesceRecord latest record).lookup series = some previous) :
    latest.lookup series = some previous ∨ previous = record ∧ metricSeriesKey record = series := by
  have hinsert : (latest.insert (metricSeriesKey record) record).lookup series = some previous → _ :=
    SortedMap.forall_insert (P := fun series previous => latest.lookup series = some previous ∨
      previous = record ∧ metricSeriesKey record = series) (fun _ _ h => .inl h) (.inr ⟨rfl, rfl⟩) series previous
  unfold coalesceRecord at h
  split at h
  · exact hinsert h
  · split at h
    · exact hinsert h
    · exact .inl h

theorem mem_of_lookup_coalesce (records : List OtelMetricRecord) {series : Bytes} {previous : OtelMetricRecord}
    (h : (records.foldl coalesceRecord SortedMap.empty).lookup series = some previous) :
    previous ∈ records ∧ metricSeriesKey previous = series := by
  revert h
  refine List.foldlRecOn (motive := fun latest : SortedMap Bytes OtelMetricRecord =>
    latest.lookup series = some previous → previous ∈ records ∧ metricSeriesKey previous = series) records _ nofun ?_
  intro latest hlatest record hrecord h
  rcases lookup_coalesceRecord h with hold | ⟨rfl, hseries⟩
  · exact hlatest hold
  · exact ⟨hrecord, hseries⟩

theorem Separate.keptApart {emitted : List (κ × OtelMetricRecord)} (h : Separate emitted) : KeptApart emitted := by
  intro batch hbatch e he previous hprevious
  obtain ⟨hmem, hseries⟩ := mem_of_lookup_coalesce _ hprevious
  obtain ⟨e', he', rfl⟩ := List.mem_map.mp hmem
  have hkey : e'.1 = e.1 := by
    by_contra hne
    exact h e' (hbatch e' he') e he hne hseries
  rw [← hkey]
  exact he'

end separate

end ENavigator.Metrics
