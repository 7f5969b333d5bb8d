import ENavigator.Lib.CrashStore
import ENavigator.Lib.SortedMap
import ENavigator.Durable.Segment

/-!
# The durable spool

`open`, `append`, `front` and `ack` over a directory whose unsynced operations a crash may lose. The
segments are a `CrashStore` by number; `pending.tmp` is kept beside it, since its contents are never
read. Every file-system call may fail: an operation takes, as an argument, which of its calls does.

The history (`History`) and a file's `origin` are for the statements only; nothing here reads them.
-/

namespace ENavigator.Durable

open CrashStore (Store Op)

/-- A segment file: its bytes and the append call that wrote it. -/
structure File where
  bytes : Bytes
  origin : Nat
  deriving DecidableEq, Repr

structure Limits where
  maxBytes : Nat
  maxEntries : Nat
  maxAgeMillis : Nat

/-- The spool in memory; its entries are segment sizes by number. -/
structure Spool where
  entries : SortedMap Nat Nat
  nextId : Nat
  bytes : Nat
  limits : Limits
  expired : Nat

/-- A failing call of `open`, `front` or `ack`. -/
inductive Fault where
  | read | unlink | syncDirectory
  deriving DecidableEq, Repr

/-- A failing call of `append`; a write that fails leaves some bytes behind. -/
inductive AppendFault where
  | unlinkPending | createPending | checkPending | write (partialBytes : Bytes) | syncFile | rename
  | syncDirectory
  deriving DecidableEq, Repr

structure Call where
  body : Bytes
  count : Nat
  now : Nat

/-- What was asked of the spool so far. Calls are named by their position. -/
structure History where
  calls : List Call := []
  /-- the calls that returned `Ok` -/
  committed : List Nat := []
  /-- the calls whose segment `ack` was called on, by the user or for its age -/
  retired : List Nat := []
  /-- the calls whose `ack` returned `Ok` -/
  acknowledged : List Nat := []

structure State where
  store : Store Nat File
  pending : Option Bytes
  spool : Option Spool
  history : History

def State.initial : State := ⟨Store.empty, none, none, {}⟩

def isOk {ε α : Type} : Except ε α → Bool
  | .ok _ => true
  | .error _ => false

/-! ## append -/

/-- The part of `append` behind its admission check: files, directory and spool behind it. -/
def writeSegment (store : Store Nat File) (pending : Option Bytes) (sp : Spool) (id next : Nat)
    (file : File) (fault : Option AppendFault) :
    Store Nat File × Option Bytes × Spool × Except IoError Unit :=
  match fault with
  | some .unlinkPending => (store, pending, sp, .error .failed)
  | some .createPending => (store, none, sp, .error .failed)
  | some .checkPending => (store, some [], sp, .error .failed)
  | some (.write partialBytes) => (store, some partialBytes, sp, .error .failed)
  | some .syncFile => (store, some file.bytes, sp, .error .failed)
  | some .rename => (store, some file.bytes, sp, .error .failed)
  | other =>
    let store := store.record (.put id file)
    let size := file.bytes.length
    let sp := { sp with entries := sp.entries.insert id size, bytes := sp.bytes + size, nextId := next }
    if other = some .syncDirectory then (store, none, sp, .error .failed)
    else (store.sync, none, sp, .ok ())

variable [Checksum]

def appendTo (store : Store Nat File) (pending : Option Bytes) (sp : Spool) (origin : Nat) (call : Call)
    (fault : Option AppendFault) : Store Nat File × Option Bytes × Spool × Except IoError Unit :=
  let size := headerBytes + call.body.length
  if call.count = 0 ∨ call.body.isEmpty ∨ size > maxSegmentBytes
      ∨ saturatingAdd sp.bytes size > sp.limits.maxBytes ∨ sp.entries.entries.length ≥ sp.limits.maxEntries then
    (store, pending, sp, .error .storageFull)
  else match checkedAdd sp.nextId 1 with
  | none => (store, pending, sp, .error .invalidData)
  | some next =>
    writeSegment store pending sp sp.nextId next
      ⟨segmentBytes call.body call.count call.now, origin⟩ fault

variable (s : State)

namespace State

def append (call : Call) (fault : Option AppendFault) : State × Except IoError Unit :=
  match s.spool with
  | none => (s, .error .failed)
  | some sp =>
    let origin := s.history.calls.length
    let (store, pending, sp, result) := appendTo s.store s.pending sp origin call fault
    ({ store := store, pending := pending, spool := some sp
       history := { s.history with
         calls := s.history.calls ++ [call]
         committed := if isOk result then origin :: s.history.committed else s.history.committed } },
      result)

end State

/-! ## ack and front -/

def ackFile (store : Store Nat File) (sp : Spool) (id : Nat) (fault : Option Fault) :
    Store Nat File × Spool × Except IoError Unit :=
  if fault = some .unlink then (store, sp, .error .failed)
  else match store.view.lookup id with
  | none => (store, sp, .error .notFound)
  | some _ =>
    let store := store.record (.remove id)
    if fault = some .syncDirectory then (store, sp, .error .failed)
    else
      (store.sync,
        { sp with entries := sp.entries.erase id, bytes := sp.bytes - (sp.entries.lookup id).getD 0 }, .ok ())

/-- The record of an `ack` call on the segment of the call `origin`. -/
def History.noteAck (h : History) (origin : Option Nat) (ok : Bool) : History :=
  { h with
    retired := origin.toList ++ h.retired
    acknowledged := if ok then origin.toList ++ h.acknowledged else h.acknowledged }

namespace State

def ack (id : Nat) (fault : Option Fault) : State × Except IoError Unit :=
  match s.spool with
  | none => (s, .error .failed)
  | some sp =>
    let origin := (s.store.view.lookup id).map File.origin
    let (store, sp, result) := ackFile s.store sp id fault
    ({ s with store := store, spool := some sp, history := s.history.noteAck origin (isOk result) }, result)

def addExpired (count : Nat) : State :=
  { s with spool := s.spool.map fun sp => { sp with expired := saturatingAdd sp.expired count } }

/-- The loop of `front`. Every turn but the last removes an entry, so the number of entries bounds the
turns. -/
def frontLoop (now : Nat) (faults : Nat → Option Fault) : Nat → State → State × Except IoError (Option Entry)
  | 0, s => (s, .ok none)
  | fuel + 1, s =>
    match s.spool with
    | none => (s, .error .failed)
    | some sp =>
      match sp.entries.first? with
      | none => (s, .ok none)
      | some (id, _) =>
        if faults id = some .read then (s, .error .failed)
        else match s.store.view.lookup id with
        | none => (s, .error .notFound)
        | some file =>
          match readEntry file.bytes id with
          | .error e => (s, .error e)
          | .ok (created, entry) =>
            if now - created ≤ sp.limits.maxAgeMillis then (s, .ok (some entry))
            else match s.ack id (faults id) with
            | (s, .error e) => (s, .error e)
            | (s, .ok ()) => frontLoop now faults fuel (s.addExpired entry.count)

def entryCount : Nat := (s.spool.map fun sp => sp.entries.entries.length).getD 0

def front (now : Nat) (faults : Nat → Option Fault) : State × Except IoError (Option Entry) :=
  frontLoop now faults (s.entryCount + 1) s

/-! ## open -/

def listing : List Bytes :=
  [text ".", text "..", text "lock"] ++ (s.pending.toList.map fun _ => text "pending.tmp")
    ++ s.store.view.keys.map filename

/-- The loop of `open` over the names it reads; `faults` says which call on a name fails. -/
def openLoop (faults : Bytes → Option Fault) : List Bytes → State → Spool → State × Except IoError Spool
  | [], s, sp => (s, .ok sp)
  | name :: names, s, sp =>
    if name = text "." ∨ name = text ".." ∨ name = text "lock" then openLoop faults names s sp
    else if name = text "pending.tmp" then
      if faults name = some .read ∨ faults name = some .unlink then (s, .error .failed)
      else
        let s := { s with pending := none }
        if faults name = some .syncDirectory then (s, .error .failed)
        else openLoop faults names { s with store := s.store.sync } sp
    else match parseSegmentName name with
    | none => (s, .error .invalidData)
    | some id =>
      if name ≠ filename id ∨ sp.entries.entries.length ≥ sp.limits.maxEntries then (s, .error .invalidData)
      else if faults name = some .read then (s, .error .failed)
      else match s.store.view.lookup id with
      | none => (s, .error .notFound)
      | some file =>
        let size := file.bytes.length
        if size > maxSegmentBytes ∨ size < headerBytes ∨ saturatingAdd sp.bytes size > sp.limits.maxBytes then
          (s, .error .invalidData)
        else match readEntry file.bytes id with
        | .error e => (s, .error e)
        | .ok _ =>
          match checkedAdd id 1 with
          | none => (s, .error .invalidData)
          | some next =>
            openLoop faults names s { sp with
              entries := sp.entries.insert id size
              bytes := sp.bytes + size
              nextId := max sp.nextId next }

def «open» (names : List Bytes) (limits : Limits) (faults : Bytes → Option Fault) : State × Except IoError Unit :=
  -- the lock file admits one spool at a time
  if s.spool.isSome then (s, .error .wouldBlock)
  else if (faults (text "lock")).isSome then (s, .error .failed)
  else match openLoop faults names s ⟨SortedMap.empty, 0, 0, limits, 0⟩ with
  | (s, .error e) => (s, .error e)
  | (s, .ok sp) => ({ s with spool := some sp }, .ok ())

/-! ## Runs -/

def close : State := { s with spool := none }

/-- The machine stops: of the unsynced operations `kept` survive, of `pending.tmp` anything. -/
def crash (kept : List (Op Nat File)) (pending : Option Bytes) : State :=
  { s with store := s.store.crash kept, pending := pending, spool := none }

end State

inductive Step where
  | «open» (names : List Bytes) (limits : Limits) (faults : Bytes → Option Fault)
  | append (call : Call) (fault : Option AppendFault)
  | front (now : Nat) (faults : Nat → Option Fault)
  | ack (id : Nat) (fault : Option Fault)
  | close
  | crash (kept : List (Op Nat File)) (pending : Option Bytes)

def State.step : Step → State
  | .open names limits faults => (s.open names limits faults).1
  | .append call fault => (s.append call fault).1
  | .front now faults => (s.front now faults).1
  | .ack id fault => (s.ack id fault).1
  | .close => s.close
  | .crash kept pending => s.crash kept pending

/-- `open` reads the names of the directory in some order, counts are in range, and what survives a
crash was asked for. -/
def Step.Allowed : Step → Prop
  | .open names _ _ => names.Perm s.listing
  | .append call _ => 1 ≤ call.count ∧ call.count ≤ 4096
  | .crash kept _ => kept.Sublist s.store.unsynced
  | _ => True

/-- The states reached by allowed steps that all meet a condition. -/
inductive Run (condition : State → Step → Prop) : State → Prop
  | initial : Run condition State.initial
  | step {s : State} (h : Run condition s) (st : Step) (allowed : st.Allowed s) (hc : condition s st) :
      Run condition (s.step st)

end ENavigator.Durable
