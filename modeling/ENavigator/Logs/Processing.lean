import ENavigator.Lib.Json
import ENavigator.Lib.Replacement
import ENavigator.Lib.Whitespace
import ENavigator.Signals.Log
import ENavigator.Signals.Sanitize

/-!
# Processing of log bodies

The processor that makes log bodies fit for export: it drops sensitive fields of JSON bodies, replaces the configured
values in what is left and in plain text, and takes severity, trace and attributes from what it keeps. Reading and
writing JSON is left to a library (`Json.Library`).
-/

namespace ENavigator.Logs

open Signals

open scoped ByteOrder

/-! ## Configuration -/

inductive LogParseFailure | omitBody | keepRedacted
  deriving DecidableEq, Repr

structure LogProcessingConfig where
  enabled : Bool := false
  maxBodyBytes : Nat := 16384
  maxLines : Nat := 256
  omitKeys : List Bytes := []
  redactValues : List Bytes := []
  attributeKeys : List Bytes := []
  parseFailure : LogParseFailure := .omitBody

inductive ConfigErrorKind | invalidValue | invalidReference

structure ConfigError where
  field : Bytes
  category : ConfigErrorKind
  message : Bytes

def ConfigError.invalidValue (field message : Bytes) : ConfigError := { field, category := .invalidValue, message }

/-- At most `maximum` values, none of them empty, long or padded. -/
def validateRules (path : Bytes) (values : List Bytes) (maximum : Nat) : Except ConfigError Unit :=
  if maximum < values.length || values.any fun v => v.isEmpty || 256 < v.length || trim v != v then
    .error (.invalidValue path (text "log rules exceed count/string bounds or contain empty/padded values"))
  else .ok ()

def LogProcessingConfig.validateBudgets (config : LogProcessingConfig) : Except ConfigError Unit :=
  if config.maxBodyBytes = 0 || 32768 < config.maxBodyBytes || config.maxLines = 0 || 1024 < config.maxLines then
    .error (.invalidValue (text "log_processing")
      (text "log processing requires body bytes in 1..=32768 and lines in 1..=1024"))
  else .ok ()

def LogProcessingConfig.validateAttributeKeys (config : LogProcessingConfig) : Except ConfigError Unit :=
  if config.attributeKeys.any fun v =>
      64 < v.length || !v.all fun b => isAsciiAlphanumeric b || b == 95 || b == 46 then
    .error (.invalidValue (text "log_processing.attribute_keys")
      (text "log attribute keys must be at most 64 ASCII letters/digits/underscore/dot bytes"))
  else .ok ()

def LogProcessingConfig.validate (config : LogProcessingConfig) : Except ConfigError Unit := do
  config.validateBudgets
  validateRules (text "log_processing.omit_keys") config.omitKeys 64
  validateRules (text "log_processing.redact_values") config.redactValues 64
  validateRules (text "log_processing.attribute_keys") config.attributeKeys 32
  config.validateAttributeKeys

/-! ## Redaction -/

def redacted : Bytes := text "[REDACTED]"

/-- One value is replaced, unless what comes out is too long. -/
def redactValue (maxBodyBytes : Nat) (body value : Bytes) : Option Bytes :=
  let found := countMatches value body
  let size := saturatingAdd (body.length - found * value.length) (found * redacted.length)
  if maxBodyBytes < size then none else some (replaceAll value redacted body)

section processor

variable {ν : Type} (json : Json.Library ν) (config : LogProcessingConfig)

def redact (body : Bytes) : Option Bytes := config.redactValues.foldlM (redactValue config.maxBodyBytes) body

def retains (key : Bytes) : Bool :=
  !isSensitiveAttributeKey key && !config.omitKeys.any (eqIgnoreAsciiCase · key) &&
    !config.redactValues.any fun v => decide (v <:+: key)

def countBreaks (value : Bytes) : Nat := value.count lf

/-- A number or a boolean, which becomes a string when it holds a value to be replaced. -/
def scrubScalar (value : Json.Value ν) : Option (Json.Value ν) := do
  let original := json.toString value
  let text ← redact config original
  if text ≠ original then some (.string text) else some value

/-! The fields that are not retained are dropped before any value is scrubbed, so they take no line breaks. -/

mutual

/-- The value scrubbed, and the line breaks that remain. -/
def scrub : Json.Value ν → Nat → Option (Json.Value ν × Nat)
  | .object fields, remainingBreaks => do
    let (fields, remainingBreaks) ← scrubFields fields remainingBreaks
    some (.object fields, remainingBreaks)
  | .array values, remainingBreaks => do
    let (values, remainingBreaks) ← scrubValues values remainingBreaks
    some (.array values, remainingBreaks)
  | .string value, remainingBreaks => do
    let remainingBreaks ← checkedSub remainingBreaks (countBreaks value)
    let value ← redact config value
    some (.string value, remainingBreaks)
  | .number n, remainingBreaks => do
    let value ← scrubScalar json config (.number n)
    some (value, remainingBreaks)
  | .bool b, remainingBreaks => do
    let value ← scrubScalar json config (.bool b)
    some (value, remainingBreaks)
  | .null, remainingBreaks => some (.null, remainingBreaks)

def scrubFields : List (Bytes × Json.Value ν) → Nat → Option (List (Bytes × Json.Value ν) × Nat)
  | [], remainingBreaks => some ([], remainingBreaks)
  | (key, value) :: fields, remainingBreaks =>
    if retains config key then do
      let (value, remainingBreaks) ← scrub value remainingBreaks
      let (fields, remainingBreaks) ← scrubFields fields remainingBreaks
      some ((key, value) :: fields, remainingBreaks)
    else scrubFields fields remainingBreaks

def scrubValues : List (Json.Value ν) → Nat → Option (List (Json.Value ν) × Nat)
  | [], remainingBreaks => some ([], remainingBreaks)
  | value :: values, remainingBreaks => do
    let (value, remainingBreaks) ← scrub value remainingBreaks
    let (values, remainingBreaks) ← scrubValues values remainingBreaks
    some (value :: values, remainingBreaks)

end

/-! ## Fields of a body -/

def fieldText (fields : Json.Value ν) (key : Bytes) : Option Bytes :=
  ((fields.get key).bind Json.Value.asStr).map (truncateUtf8 · 256)

def isAsciiHexdigit (b : UInt8) : Bool := isAsciiDigit b || 65 ≤ b && b ≤ 70 || 97 ≤ b && b ≤ 102

def identifier (value : Option Bytes) (bytes : Nat) : Option Bytes :=
  (value.filter fun v => v.length == bytes * 2 && v.all isAsciiHexdigit && v.any (· != 48)).map
    (·.map toAsciiLowercase)

/-- The value that an attribute takes from the field of its name. -/
def attributeText (fields : Json.Value ν) (key : Bytes) : Option Bytes :=
  ((fields.get key).filter (·.isScalar)).map fun value =>
    truncateUtf8 (value.asStr.getD (json.toString value)) 256

def insertAttribute (fields : Json.Value ν) (attributes : SortedMap Bytes Bytes) (key : Bytes) :
    SortedMap Bytes Bytes :=
  match attributeText json fields key with
  | some value => attributes.insert key value
  | none => attributes

def jsonProcessing (fields : Json.Value ν) : LogProcessing :=
  let traceId := identifier (fieldText fields (text "trace_id")) 16
  { outcome := .json
    severityText := (fieldText fields (text "severity")).or (fieldText fields (text "level"))
    traceId
    spanId := if traceId.isNone then none else identifier (fieldText fields (text "span_id")) 8
    attributes := config.attributeKeys.foldl (insertAttribute json fields) SortedMap.empty }

/-! ## The processor -/

/-- The number of lines; a line break at the end starts no line. -/
def lineCount (body : Bytes) : Nat :=
  body.count lf + if body.isEmpty || body.getLast? == some lf then 0 else 1

/-- A body with its redactions, or none when they are too long. -/
def redactedBody (outcome : LogProcessingOutcome) (body : Bytes) : Option Bytes × LogProcessing :=
  match redact config body with
  | some body => (some body, { outcome })
  | none => (none, { outcome := .budgetRejected })

/-- A body that is longer than allowed is dropped in the end, with the attributes. -/
def withinBudget (r : Option Bytes × LogProcessing) : Option Bytes × LogProcessing :=
  if r.1.any fun body => config.maxBodyBytes < body.length then
    (none, { r.2 with attributes := SortedMap.empty, outcome := .budgetRejected })
  else r

def processBody (body : Bytes) : Option Bytes × LogProcessing :=
  if !config.validate.isOk || config.maxBodyBytes < body.length || config.maxLines < lineCount body then
    (none, { outcome := .budgetRejected })
  else
    let first := (trimStart whitespace body).head?
    let isJson := first == some 123 || first == some 91
    match json.fromStr body, isJson with
    | some fields, true =>
      match scrub json config fields (config.maxLines - 1) with
      | none => (none, { outcome := .budgetRejected })
      | some (fields, _) => withinBudget config (some (json.toString fields), jsonProcessing json config fields)
    | none, true =>
      withinBudget config
        (if config.parseFailure = .keepRedacted then redactedBody config .malformedJson body
          else (none, { outcome := .malformedJson }))
    | _, false => withinBudget config (redactedBody config .plainText body)

/-- The payload of a signal, as far as logs are concerned. -/
inductive SignalPayload (π : Type)
  | applicationLogObservation (log : ApplicationLogObservation)
  | other (payload : π)

def processLog (log : ApplicationLogObservation) : ApplicationLogObservation :=
  match log.body with
  | none => { log with processing := some { outcome := .bodyOmitted } }
  | some body =>
    let r := processBody json config body
    { log with body := r.1, processing := some r.2 }

def process {π : Type} : SignalPayload π → SignalPayload π
  | .applicationLogObservation log => .applicationLogObservation (processLog json config log)
  | .other payload => .other payload

end processor

end ENavigator.Logs
