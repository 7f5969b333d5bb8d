import ENavigator.Http1.Parser
import ENavigator.Metrics.Resource

/-!
# Readers of /proc

The readers of `/proc/stat` and `/proc/[pid]/stat`. Both give CPU times, which the kernel counts in clock ticks
and an observation holds in nanoseconds.
-/

namespace ENavigator.Host

open Signals
open Http1 (splitWhitespace)
open Http2 (parseUnsigned)
open Metrics.Resource (NodeCpuObservation ProcessResourceObservation)

/-! ## Text -/

/-- The pieces of a text that end after each line feed. -/
def splitInclusive : Bytes → List Bytes
  | [] => []
  | b :: rest =>
    if b = lf then [lf] :: splitInclusive rest
    else match splitInclusive rest with
    | [] => [[b]]
    | line :: more => (b :: line) :: more

/-- A piece without its line end; a carriage return goes only with the line feed after it. -/
def stripLineEnd (line : Bytes) : Bytes :=
  if [lf].isSuffixOf line then stripSuffix [cr] (stripSuffix [lf] line) else line

variable (contents : Bytes)

def lines : List Bytes := (splitInclusive contents).map stripLineEnd

def findLastByte (bytes : Bytes) (b : UInt8) : Option Nat :=
  (findByte bytes.reverse b).map fun fromEnd => bytes.length - (fromEnd + 1)

/-- What makes a reader fail: a fixed message, or a word that is no number. -/
inductive ParseError
  | message (text : String)
  | invalidUnsignedInteger (value : Bytes)

def parseU64 (value : Bytes) : Except ParseError Nat :=
  match parseUnsigned (2 ^ 64) value with
  | some n => .ok n
  | none => .error (.invalidUnsignedInteger value)

def parseI64 (value : Bytes) : Option Int :=
  match value with
  | 45 :: digit :: rest =>
    if digit = 43 then none else (parseUnsigned (2 ^ 63 + 1) (digit :: rest)).map fun n => -(n : Int)
  | _ => (parseUnsigned (2 ^ 63) value).map Int.ofNat

/-! ## Clock ticks -/

def ticksToNanos (ticks clockTicksPerSecond : Nat) : Nat :=
  saturatingMul ticks 1000000000 / max clockTicksPerSecond 1

/-! ## /proc/stat -/

structure StatLines where
  cpuFields : Option Bytes := none
  runnableTasks : Option Nat := none
  blockedTasks : Option Nat := none

def StatLines.read (kept : StatLines) (line : Bytes) : StatLines :=
  match line.dropPrefix? (text "cpu ") with
  | some rest => { kept with cpuFields := some rest }
  | none =>
    match line.dropPrefix? (text "procs_running ") with
    | some value => { kept with runnableTasks := (parseU64 value).toOption }
    | none =>
      match line.dropPrefix? (text "procs_blocked ") with
      | some value => { kept with blockedTasks := (parseU64 value).toOption }
      | none => kept

def statLines : StatLines := (lines contents).foldl StatLines.read {}

/-- The times of the aggregate line, from its words. -/
def cpuObservation (kept : StatLines) (clockTicksPerSecond startUnixNanos endUnixNanos : Nat) :
    List Bytes → Except ParseError NodeCpuObservation
  | user :: nice :: system :: idle :: iowait :: _ :: _ :: steal :: _ => do
    let userTicks := saturatingAdd (← parseU64 user) (← parseU64 nice)
    let systemTicks ← parseU64 system
    let idleTicks ← parseU64 idle
    let iowaitTicks ← parseU64 iowait
    let stealTicks ← parseU64 steal
    .ok {
      timestampUnixNanos := endUnixNanos
      window := ⟨startUnixNanos, endUnixNanos⟩
      userNanos := ticksToNanos userTicks clockTicksPerSecond
      systemNanos := ticksToNanos systemTicks clockTicksPerSecond
      idleNanos := ticksToNanos idleTicks clockTicksPerSecond
      iowaitNanos := ticksToNanos iowaitTicks clockTicksPerSecond
      stealNanos := ticksToNanos stealTicks clockTicksPerSecond
      runnableTasks := kept.runnableTasks
      blockedTasks := kept.blockedTasks }
  | _ => .error (.message "aggregate cpu line has too few fields")

def parseCpuStat (clockTicksPerSecond startUnixNanos endUnixNanos : Nat) : Except ParseError NodeCpuObservation :=
  let kept := statLines contents
  match kept.cpuFields with
  | none => .error (.message "missing aggregate cpu line")
  | some fields =>
    cpuObservation kept clockTicksPerSecond startUnixNanos endUnixNanos (splitWhitespace fields)

/-! ## /proc/[pid]/status -/

def statusValue (contents key : Bytes) : Option Bytes :=
  (lines contents).findSome? fun line =>
    ((line.dropPrefix? key).bind fun rest => rest.dropPrefix? (text ":")).map Http1.trim

def statusName : Option Bytes := statusValue contents (text "Name")

def statusUid : Option Nat :=
  ((statusValue contents (text "Uid")).bind fun value => (splitWhitespace value).head?).bind
    (parseUnsigned (2 ^ 32))

def statusThreads : Option Nat :=
  (statusValue contents (text "Threads")).bind (parseUnsigned (2 ^ 64))

/-! ## /proc/[pid]/stat -/

/-- The words of the process status that are used, by their place after the command. -/
structure ProcessFields where
  ppid : Bytes
  utime : Bytes
  stime : Bytes
  threads : Bytes
  vsize : Bytes
  rssPages : Bytes

/-- The words are taken in order: the state, the parent, nine skipped, and so on. -/
def processFields : List Bytes → Option ProcessFields
  | _ :: ppid :: rest =>
    match rest.drop 9 with
    | utime :: stime :: rest =>
      match rest.drop 4 with
      | threads :: rest =>
        match rest.drop 2 with
        | vsize :: rssPages :: _ => some ⟨ppid, utime, stime, threads, vsize, rssPages⟩
        | _ => none
      | _ => none
    | _ => none
  | _ => none

/-- The command between the first opening and the last closing parenthesis, and what follows it. -/
def splitCommand (stat : Bytes) : Except ParseError (Bytes × Bytes) :=
  match findLastByte stat 41 with
  | none => .error (.message "process stat missing command terminator")
  | some close =>
    match findByte (stat.take close) 40 with
    | none => .error (.message "process stat missing command opener")
    | some opener =>
      match (stat.drop (close + 1)).dropPrefix? [32] with
      | none => .error (.message "process stat missing fields")
      | some rest => .ok ((stat.take close).drop (opener + 1), rest)

def processObservation (pid : Nat) (command : Bytes) (status : Option Bytes)
    (clockTicksPerSecond pageSizeBytes fdCount socketCount startUnixNanos endUnixNanos : Nat)
    (fields : ProcessFields) : Except ParseError ProcessResourceObservation := do
  let utime ← parseU64 fields.utime
  let stime ← parseU64 fields.stime
  let rssPages := (max ((parseI64 fields.rssPages).getD 0) 0).toNat
  .ok {
    timestampUnixNanos := endUnixNanos
    window := ⟨startUnixNanos, endUnixNanos⟩
    process := {
      pid := pid
      ppid := (parseU64 fields.ppid).toOption.filter (· < 2 ^ 32)
      uid := status.bind statusUid
      command := (status.bind statusName).getD command
      executable := none
      container := none
      kubernetes := none }
    cpuTimeNanos := some (ticksToNanos (saturatingAdd utime stime) clockTicksPerSecond)
    memoryRssBytes := some (saturatingMul rssPages pageSizeBytes)
    virtualMemoryBytes := (parseU64 fields.vsize).toOption
    openFds := some fdCount
    socketCount := some socketCount
    threadCount := (status.bind statusThreads).or (parseU64 fields.threads).toOption }

def parseProcessStat (pid : Nat) (stat : Bytes) (status : Option Bytes)
    (clockTicksPerSecond pageSizeBytes fdCount socketCount startUnixNanos endUnixNanos : Nat) :
    Except ParseError ProcessResourceObservation := do
  let (command, rest) ← splitCommand stat
  match processFields (splitWhitespace rest) with
  | none => .error (.message "process stat has too few fields")
  | some fields =>
    processObservation pid command status clockTicksPerSecond pageSizeBytes fdCount socketCount startUnixNanos
      endUnixNanos fields

end ENavigator.Host
