import ENavigator.Lib.JsonText
import ENavigator.Lib.SortedMap

/-!
# Log signals

The observation of one application log record, and what the processing of its body leaves with it.
-/

namespace ENavigator.Signals

open scoped ByteOrder

inductive LogStream | stdout | stderr

inductive LogProcessingOutcome | json | plainText | malformedJson | bodyOmitted | budgetRejected

structure LogProcessing where
  outcome : LogProcessingOutcome
  workloadName : Option Bytes := none
  workloadKind : Option Bytes := none
  severityText : Option Bytes := none
  traceId : Option Bytes := none
  spanId : Option Bytes := none
  attributes : SortedMap Bytes Bytes := SortedMap.empty

structure ApplicationLogObservation where
  namespaceName : Bytes
  podName : Bytes
  podUid : Bytes
  containerName : Bytes
  restartCount : Nat
  stream : LogStream
  timestamp : Bytes
  observedAtUnixNanos : Nat
  body : Option Bytes
  bodyBytes : Nat
  truncated : Bool
  incomplete : Bool
  invalidUtf8 : Bool
  processing : Option LogProcessing := none

end ENavigator.Signals
