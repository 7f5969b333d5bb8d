import ENavigator.Logs.Processing

/-!
# What processed logs show

No value that is configured to be redacted comes out of the processor, whether in a text, in a JSON body at any depth,
in the severity or in an attribute (`exportable_processLog`). The values must have nothing in common with the text that
stands for them: the rules run one after the other, and a later value could otherwise form across what an earlier one
has left.
-/

namespace ENavigator.Logs

open Signals List

open scoped ByteOrder

variable {ν : Type} {json : Json.Library ν} {config : LogProcessingConfig}
variable {value : Json.Value ν} {s : Bytes}

def Free (config : LogProcessingConfig) (s : Bytes) : Prop := ∀ v ∈ config.redactValues, ¬ v <:+: s

instance (config : LogProcessingConfig) (s : Bytes) : Decidable (Free config s) :=
  inferInstanceAs (Decidable (∀ v ∈ config.redactValues, ¬ v <:+: s))

theorem Free.of_truncate (h : Free config s) (maxBytes : Nat) : Free config (truncateUtf8 s maxBytes) :=
  fun v hv hin => h v hv (hin.trans (List.take_prefix _ s).isInfix)

/-! ## Rules -/

/-- The rules of a valid configuration, which have nothing in common with what stands for the values. -/
structure Rules (config : LogProcessingConfig) : Prop where
  nonempty : ∀ v ∈ config.redactValues, v ≠ []
  apart : ∀ v ∈ config.redactValues, Apart v redacted

variable {values : List Bytes} {maxBodyBytes : Nat} {body r : Bytes}

theorem nonempty_of_validateRules {path : Bytes} {maximum : Nat} (h : validateRules path values maximum = .ok ()) :
    ∀ v ∈ values, v ≠ [] := by
  unfold validateRules at h
  split at h
  next => cases h
  next hvalid =>
    rintro v hv rfl
    apply hvalid
    rw [Bool.or_eq_true]
    exact .inr (any_eq_true.mpr ⟨[], hv, rfl⟩)

theorem rules_of_validate (hvalid : config.validate = .ok ()) (hapart : ∀ v ∈ config.redactValues, Apart v redacted) :
    Rules config := by
  refine ⟨?_, hapart⟩
  obtain ⟨_, -, hvalid⟩ := bind_eq_ok hvalid
  obtain ⟨_, -, hvalid⟩ := bind_eq_ok hvalid
  obtain ⟨_, hredact, -⟩ := bind_eq_ok hvalid
  exact nonempty_of_validateRules hredact

theorem redactValue_eq_some {value : Bytes} (h : redactValue maxBodyBytes body value = some r) :
    r = replaceAll value redacted body := by
  unfold redactValue at h
  dsimp only at h
  split at h
  · cases h
  · exact (Option.some.inj h).symm

/-- One rule after the other: each value goes, and none that was gone comes back. -/
theorem free_foldlM (hnonempty : ∀ v ∈ values, v ≠ []) (hapart : ∀ v ∈ values, Apart v redacted)
    (h : values.foldlM (redactValue maxBodyBytes) body = some r) :
    (∀ v ∈ values, ¬ v <:+: r) ∧ ∀ word, Apart word redacted → ¬ word <:+: body → ¬ word <:+: r := by
  induction values generalizing body with
  | nil =>
    cases h
    exact ⟨nofun, fun _ _ hword => hword⟩
  | cons value values ih =>
    rw [forall_mem_cons] at hnonempty hapart
    obtain ⟨next, hnext, h⟩ := Option.bind_eq_some_iff.mp h
    obtain rfl := redactValue_eq_some hnext
    obtain ⟨hvalues, hkept⟩ := ih hnonempty.2 hapart.2 h
    refine ⟨forall_mem_cons.mpr ⟨?_, hvalues⟩, ?_⟩
    · exact hkept value hapart.1 (not_infix_replaceAll_self hnonempty.1 hapart.1 body)
    · intro word hword hbody
      exact hkept word hword (not_infix_replaceAll hword value hbody)

theorem Rules.free_redact (h : Rules config) (hr : redact config body = some r) : Free config r :=
  (free_foldlM h.nonempty h.apart hr).1

/-! ## JSON bodies -/

/-- A key that is shown: not sensitive, not to be omitted and without a configured value. -/
structure KeyShown (config : LogProcessingConfig) (key : Bytes) : Prop where
  sensitive : isSensitiveAttributeKey key = false
  omitted : ∀ v ∈ config.omitKeys, eqIgnoreAsciiCase v key = false
  free : Free config key

theorem keyShown_of_retains {key : Bytes} (h : retains config key = true) : KeyShown config key := by
  simp only [retains, Bool.and_eq_true, Bool.not_eq_true', any_eq_false, decide_eq_true_eq] at h
  obtain ⟨⟨hsensitive, homitted⟩, hfree⟩ := h
  exact ⟨hsensitive, fun v hv => Bool.eq_false_iff.mpr (homitted v hv), hfree⟩

/-- The value itself shows no secret; what is within it is not asked. -/
def Shown (json : Json.Library ν) (config : LogProcessingConfig) : Json.Value ν → Prop
  | .object fields => ∀ e ∈ fields, KeyShown config e.1
  | .string s => Free config s
  | .number n => Free config (json.toString (.number n))
  | .bool b => Free config (json.toString (.bool b))
  | .array _ => True
  | .null => True

theorem free_of_shown (h : Shown json config value) (hscalar : value.isScalar = true) :
    Free config (value.asStr.getD (json.toString value)) := by
  cases value with
  | string s => exact h
  | number n => exact h
  | bool b => exact h
  | array values => cases hscalar
  | object fields => cases hscalar
  | null => cases hscalar

/-- A scalar keeps its text only if that is free. -/
theorem shown_scrubScalar (hrules : Rules config) {r : Json.Value ν} (h : scrubScalar json config value = some r)
    (htext : Free config (json.toString value) → Json.ForallWithin (Shown json config) value) :
    Json.ForallWithin (Shown json config) r := by
  obtain ⟨replaced, hreplaced, h⟩ := Option.bind_eq_some_iff.mp h
  have hfree := hrules.free_redact hreplaced
  split at h
  · cases h
    intro inner hinner
    cases hinner
    exact hfree
  next hsame =>
    cases h
    apply htext
    rw [← not_not.mp hsame]
    exact hfree

mutual

theorem shown_scrub (hrules : Rules config) : ∀ {value : Json.Value ν} {breaks : Nat} {r : Json.Value ν × Nat},
    scrub json config value breaks = some r → Json.ForallWithin (Shown json config) r.1
  | .object fields, breaks, r, h => by
    obtain ⟨fields', hfields, h⟩ := Option.bind_eq_some_iff.mp h
    cases h
    have hshown := shown_scrubFields hrules hfields
    exact Json.forallWithin_object (fun e he => (hshown e he).1) fun e he => (hshown e he).2
  | .array values, breaks, r, h => by
    obtain ⟨values', hvalues, h⟩ := Option.bind_eq_some_iff.mp h
    cases h
    exact Json.forallWithin_array trivial (shown_scrubValues hrules hvalues)
  | .string s, breaks, r, h => by
    obtain ⟨breaks', -, h⟩ := Option.bind_eq_some_iff.mp h
    obtain ⟨s', hs, h⟩ := Option.bind_eq_some_iff.mp h
    cases h
    intro inner hinner
    cases hinner
    exact hrules.free_redact hs
  | .number _, breaks, r, h | .bool _, breaks, r, h => by
    obtain ⟨value, hvalue, h⟩ := Option.bind_eq_some_iff.mp h
    cases h
    refine shown_scrubScalar hrules hvalue fun hfree inner hinner => ?_
    cases hinner
    exact hfree
  | .null, breaks, r, h => by
    cases h
    intro inner hinner
    cases hinner
    exact trivial

theorem shown_scrubFields (hrules : Rules config) : ∀ {fields : List (Bytes × Json.Value ν)} {breaks : Nat}
    {r : List (Bytes × Json.Value ν) × Nat}, scrubFields json config fields breaks = some r →
      ∀ e ∈ r.1, KeyShown config e.1 ∧ Json.ForallWithin (Shown json config) e.2
  | [], breaks, r, h => by
    cases h
    exact nofun
  | (key, value) :: fields, breaks, r, h => by
    unfold scrubFields at h
    split at h
    next hretained =>
      obtain ⟨value', hvalue, h⟩ := Option.bind_eq_some_iff.mp h
      obtain ⟨fields', hfields, h⟩ := Option.bind_eq_some_iff.mp h
      cases h
      exact forall_mem_cons.mpr ⟨⟨keyShown_of_retains hretained, shown_scrub hrules hvalue⟩,
        shown_scrubFields hrules hfields⟩
    next => exact shown_scrubFields hrules h

theorem shown_scrubValues (hrules : Rules config) :
    ∀ {values : List (Json.Value ν)} {breaks : Nat} {r : List (Json.Value ν) × Nat},
    scrubValues json config values breaks = some r → ∀ value ∈ r.1, Json.ForallWithin (Shown json config) value
  | [], breaks, r, h => by
    cases h
    exact nofun
  | value :: values, breaks, r, h => by
    obtain ⟨value', hvalue, h⟩ := Option.bind_eq_some_iff.mp h
    obtain ⟨values', hvalues, h⟩ := Option.bind_eq_some_iff.mp h
    cases h
    exact forall_mem_cons.mpr ⟨shown_scrub hrules hvalue, shown_scrubValues hrules hvalues⟩

end

/-! ## What is taken from a body -/

section

variable (h : Json.ForallWithin (Shown json config) value)
include h

theorem free_fieldText {key : Bytes}
    (hs : fieldText value key = some s) : Free config s := by
  obtain ⟨s', hs', rfl⟩ := Option.map_eq_some_iff.mp hs
  obtain ⟨field, hfield, hstr⟩ := Option.bind_eq_some_iff.mp hs'
  refine Free.of_truncate ?_ 256
  cases value with
  | object fields =>
    have hshown := (h.of_mem_fields (Json.mem_of_get hfield)).self
    cases field with
    | string text =>
      cases hstr
      exact hshown
    | _ => cases hstr
  | _ => cases hfield

theorem free_severity (hs : (jsonProcessing json config value).severityText = some s) : Free config s := by
  rcases Option.or_eq_some_iff.mp hs with hs | ⟨-, hs⟩
  · exact free_fieldText h hs
  · exact free_fieldText h hs

theorem free_attributeText {key : Bytes}
    (hs : attributeText json value key = some s) : Free config key ∧ Free config s := by
  obtain ⟨field, hfield, rfl⟩ := Option.map_eq_some_iff.mp hs
  obtain ⟨hfield, hscalar⟩ := Option.filter_eq_some_iff.mp hfield
  cases value with
  | object fields =>
    have hmem := Json.mem_of_get hfield
    exact ⟨(h.self _ hmem).free, (free_of_shown (h.of_mem_fields hmem).self hscalar).of_truncate 256⟩
  | _ => cases hfield

def FreeEntries (config : LogProcessingConfig) (attributes : SortedMap Bytes Bytes) : Prop :=
  ∀ e ∈ attributes.entries, Free config e.1 ∧ Free config e.2

theorem freeEntries_attributes :
    FreeEntries config (jsonProcessing json config value).attributes := by
  refine List.foldlRecOn (motive := FreeEntries config) config.attributeKeys _ (nofun) ?_
  intro attributes hattributes key _
  unfold insertAttribute
  split
  next s hs =>
    intro e he
    rcases SortedMap.mem_insertEntry he with rfl | he
    · exact free_attributeText h hs
    · exact hattributes e he
  next => exact hattributes

end

/-! ## The processor -/

/-- What is left of a body, and what was taken from it, shows no configured value. -/
structure Redacted (json : Json.Library ν) (config : LogProcessingConfig) (body : Option Bytes)
    (processing : LogProcessing) : Prop where
  outcome : body.isSome → processing.outcome = .plainText ∨ processing.outcome = .malformedJson ∨
    processing.outcome = .json
  text : ∀ b ∈ body, processing.outcome = .plainText ∨ processing.outcome = .malformedJson → Free config b
  json : ∀ b ∈ body, processing.outcome = .json →
    ∃ value, b = json.toString value ∧ Json.ForallWithin (Shown json config) value
  severity : ∀ s ∈ processing.severityText, Free config s
  attributes : FreeEntries config processing.attributes

/-- Such a body, which is not too long either. -/
structure Exportable (json : Json.Library ν) (config : LogProcessingConfig) (body : Option Bytes)
    (processing : LogProcessing) : Prop extends Redacted json config body processing where
  length : ∀ b ∈ body, b.length ≤ config.maxBodyBytes

theorem redacted_none (json : Json.Library ν) (config : LogProcessingConfig) (outcome : LogProcessingOutcome) :
    Redacted json config none { outcome } where
  outcome := nofun
  text := nofun
  json := nofun
  severity := nofun
  attributes := nofun

theorem redacted_redactedBody (json : Json.Library ν) (hrules : Rules config) {outcome : LogProcessingOutcome}
    (houtcome : outcome = .plainText ∨ outcome = .malformedJson) (body : Bytes) :
    Redacted json config (redactedBody config outcome body).1 (redactedBody config outcome body).2 := by
  unfold redactedBody
  split
  next r hr =>
    refine ⟨fun _ => houtcome.imp_right .inl, ?_, ?_, ?_, ?_⟩
    · intro b hb _
      cases hb
      exact hrules.free_redact hr
    · rintro _ _ rfl
      rcases houtcome with h | h <;> cases h
    · intro value hvalue
      cases hvalue
    · intro entry hentry
      cases hentry
  next => exact redacted_none json config .budgetRejected

theorem redacted_json (h : Json.ForallWithin (Shown json config) value) :
    Redacted json config (some (json.toString value)) (jsonProcessing json config value) := by
  refine ⟨fun _ => .inr (.inr rfl), ?_, ?_, fun _ hs => free_severity h hs, freeEntries_attributes h⟩
  · rintro _ _ (houtcome | houtcome) <;> cases houtcome
  · intro b hb _
    cases hb
    exact ⟨value, rfl, h⟩

theorem Redacted.withinBudget {r : Option Bytes × LogProcessing} (h : Redacted json config r.1 r.2) :
    Exportable json config (withinBudget config r).1 (withinBudget config r).2 := by
  unfold Logs.withinBudget
  split
  next =>
    exact ⟨{ redacted_none json config .budgetRejected with severity := h.severity }, nofun⟩
  next hshort =>
    refine ⟨h, fun b hb => ?_⟩
    rw [hb, Option.any_some, decide_eq_true_eq] at hshort
    exact Nat.not_lt.mp hshort

theorem exportable_processBody (json : Json.Library ν) (hrules : Rules config) (body : Bytes) :
    Exportable json config (processBody json config body).1 (processBody json config body).2 := by
  have hnone : ∀ outcome, Exportable json config none { outcome } :=
    fun outcome => ⟨redacted_none json config outcome, nofun⟩
  unfold processBody
  split
  · exact hnone .budgetRejected
  · dsimp only
    split
    next =>
      split
      next => exact hnone .budgetRejected
      next hscrub => exact (redacted_json (shown_scrub hrules hscrub)).withinBudget
    next =>
      refine Redacted.withinBudget ?_
      split
      · exact redacted_redactedBody json hrules (.inr rfl) body
      · exact redacted_none json config .malformedJson
    next => exact (redacted_redactedBody json hrules (.inl rfl) body).withinBudget

/-- Under a valid configuration whose values have nothing in common with the text that stands for them, no value comes
out of the processor, and no body that is too long. -/
theorem exportable_processLog (json : Json.Library ν) (config : LogProcessingConfig) (hvalid : config.validate = .ok ())
    (hapart : ∀ v ∈ config.redactValues, Apart v redacted) (log : ApplicationLogObservation) :
    ∃ processing, (processLog json config log).processing = some processing ∧
      Exportable json config (processLog json config log).body processing := by
  have hrules := rules_of_validate hvalid hapart
  unfold processLog
  split
  next hbody =>
    refine ⟨_, rfl, ?_, fun b hb => ?_⟩
    · rw [hbody]
      exact redacted_none json config .bodyOmitted
    · cases hbody.symm.trans hb
  next body _ => exact ⟨_, rfl, exportable_processBody json hrules body⟩

section sample

def quoted (s : Bytes) : Bytes := 34 :: s ++ [34]

mutual

def compact : Json.Value Nat → Bytes
  | .null => text "null"
  | .bool b => text (toString b)
  | .number n => decimal n
  | .string s => quoted s
  | .array values => 91 :: compactValues values ++ [93]
  | .object fields => 123 :: compactFields fields ++ [125]

def compactValues : List (Json.Value Nat) → Bytes
  | [] => []
  | value :: values => compact value ++ (if values.isEmpty then [] else [44]) ++ compactValues values

def compactFields : List (Bytes × Json.Value Nat) → Bytes
  | [] => []
  | (key, value) :: fields =>
    quoted key ++ 58 :: compact value ++ (if fields.isEmpty then [] else [44]) ++ compactFields fields

end

/-- A login with its password, the account number and a note that names both. -/
def login : Json.Value Nat :=
  .object [(text "account", .number 4217), (text "level", .string (text "info")),
    (text "note", .array [.string (text "hunter2 of 4217"), .bool true]), (text "password", .string (text "hunter2"))]

/-- A library that reads the text of the login only. -/
def loginLibrary : Json.Library Nat where
  fromStr body := if body = compact login then some login else none
  toString := compact

def loginConfig : LogProcessingConfig :=
  { redactValues := [text "hunter2", text "42"], attributeKeys := [text "account"] }

def loginLog : ApplicationLogObservation where
  namespaceName := text "default"
  podName := text "api-1"
  podUid := text "uid"
  containerName := text "api"
  restartCount := 0
  stream := .stdout
  timestamp := text "2026-01-01T00:00:00Z"
  observedAtUnixNanos := 0
  body := some (compact login)
  bodyBytes := (compact login).length
  truncated := false
  incomplete := false
  invalidUtf8 := false

theorem exportable_login :
    (processLog loginLibrary loginConfig loginLog).body =
        some (compact (.object [(text "account", .string (text "[REDACTED]17")), (text "level", .string (text "info")),
          (text "note", .array [.string (text "[REDACTED] of [REDACTED]17"), .bool true])])) ∧
      ∃ processing, (processLog loginLibrary loginConfig loginLog).processing = some processing ∧
        Exportable loginLibrary loginConfig (processLog loginLibrary loginConfig loginLog).body processing :=
  ⟨by decide +kernel, exportable_processLog loginLibrary loginConfig rfl (by decide +kernel) loginLog⟩

end sample

end ENavigator.Logs
