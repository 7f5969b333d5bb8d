import ENavigator.Lib.Bytes
import ENavigator.Lib.Threads
import Mathlib.Data.List.AList

/-!
# The table of active connections

The handlers of the network source share `ACTIVE_CONNECTIONS`. Each map operation is one step; between two of them the
handler of another thread may run. The counters of a connection are read, added to and written back in two steps.

A run is recorded: what opened a connection, and when each handler began and ended.
-/

namespace ENavigator.Capture

structure ConnectionKey where
  tgid : Nat
  fd : Int
  deriving DecidableEq, Repr

inductive NetworkIo where
  | read | write
  deriving DecidableEq, Repr

structure PendingConnect where
  pid : Nat
  fd : Int
  startedAtNanos : Nat
  bytesSent : Nat := 0
  bytesReceived : Nat := 0

def PendingConnect.key (pending : PendingConnect) : ConnectionKey := ⟨pending.pid, pending.fd⟩

abbrev ActiveConnections := AList fun _ : ConnectionKey => PendingConnect

def maxActiveConnections : Nat := 16384

/-- A key that is there gets the new value; for another there must be room. -/
def insertActive (key : ConnectionKey) (value : PendingConnect) (active : ActiveConnections) :
    Option ActiveConnections :=
  if key ∈ active ∨ active.entries.length < maxActiveConnections then some (active.insert key value) else none

/-! ## Completed transfers -/

/-- A splice moves bytes between two descriptors, the second of which may be tracked too. -/
structure PendingNetworkIo where
  tgid : Nat
  fd : Int
  direction : NetworkIo
  secondary : Option (Int × NetworkIo) := none

/-- The arguments of `add_network_io_bytes`. -/
structure IoBytes where
  key : ConnectionKey
  direction : NetworkIo
  bytes : Nat
  deriving DecidableEq, Repr

/-- The calls that a completed transfer makes. -/
def completeNetworkIo (pending : PendingNetworkIo) (retval : Int) : List IoBytes :=
  if retval ≤ 0 then []
  else ⟨⟨pending.tgid, pending.fd⟩, pending.direction, retval.toNat⟩ ::
    match pending.secondary with
    | none => []
    | some (secondaryFd, secondaryDirection) => [⟨⟨pending.tgid, secondaryFd⟩, secondaryDirection, retval.toNat⟩]

def IoBytes.addTo (io : IoBytes) (connection : PendingConnect) : PendingConnect :=
  match io.direction with
  | .write => { connection with bytesSent := saturatingAdd connection.bytesSent io.bytes }
  | .read => { connection with bytesReceived := saturatingAdd connection.bytesReceived io.bytes }

/-! ## Events -/

inductive NetworkEventType where
  | open | close | failure

structure NetworkEvent where
  eventType : NetworkEventType
  pid : Nat
  fd : Int
  errno : Int := 0
  timestampUnixNanos : Nat
  durationNanos : Nat := 0
  bytesSent : Nat
  bytesReceived : Nat

def copyPendingToEvent (pending : PendingConnect) (eventType : NetworkEventType) (now : Nat) : NetworkEvent where
  eventType := eventType
  pid := pending.pid
  fd := pending.fd
  timestampUnixNanos := now
  bytesSent := pending.bytesSent
  bytesReceived := pending.bytesReceived

def closeEvent (pending : PendingConnect) (now : Nat) : NetworkEvent :=
  { copyPendingToEvent pending .close now with durationNanos := (now + 2 ^ 64 - pending.startedAtNanos) % 2 ^ 64 }

/-! ## The record of a run -/

/-- One call of `add_network_io_bytes` by a thread. -/
structure Completion extends IoBytes where
  thread : Nat
  deriving DecidableEq, Repr

inductive Note where
  | opened (key : ConnectionKey)
  | begun (completion : Completion)
  | ended (completion : Completion)
  | closing (thread : Nat) (key : ConnectionKey)
  | closed (thread : Nat) (key : ConnectionKey) (event : Option NetworkEvent)

/-- What the threads share; the output and the record have their newest entry first. -/
structure Kernel where
  active : ActiveConnections := ∅
  output : List NetworkEvent := []
  history : List Note := []

def Kernel.note (k : Kernel) (note : Note) : Kernel := { k with history := note :: k.history }

/-! ## Handlers -/

inductive Handler where
  | connectExit (pid : Nat) (fd : Int) (startedAtNanos : Nat) (retval : Int) (now : Nat)
  | acceptExit (pid : Nat) (retval : Int) (startedAtNanos : Nat)
  | ioExit (pending : PendingNetworkIo) (retval : Int)
  | closeEnter (key : ConnectionKey) (now : Nat)

/-- The point before the next map operation. -/
inductive Task where
  | insertConnection (pending : PendingConnect)
  | lookup (io : IoBytes) (rest : List IoBytes)
  | store (io : IoBytes) (connection : PendingConnect) (rest : List IoBytes)
  | closeLookup (key : ConnectionKey) (now : Nat)
  | closeRemove (key : ConnectionKey) (pending : PendingConnect) (now : Nat)

def negEinprogress : Int := -115

def nextCall (thread : Nat) (k : Kernel) : List IoBytes → Kernel × Option Task
  | [] => (k, none)
  | io :: rest => (k.note (.begun ⟨io, thread⟩), some (.lookup io rest))

def enter (thread : Nat) (h : Handler) (k : Kernel) : Kernel × Option Task :=
  match h with
  | .connectExit pid fd startedAtNanos retval now =>
    let pending : PendingConnect := ⟨pid, fd, startedAtNanos, 0, 0⟩
    if retval < 0 ∧ retval ≠ negEinprogress then
      ({ k with output := { copyPendingToEvent pending .failure now with errno := -retval } :: k.output }, none)
    else
      ({ k with output := copyPendingToEvent pending .open now :: k.output }, some (.insertConnection pending))
  | .acceptExit pid retval startedAtNanos =>
    if retval < 0 then (k, none) else (k, some (.insertConnection ⟨pid, retval, startedAtNanos, 0, 0⟩))
  | .ioExit pending retval => nextCall thread k (completeNetworkIo pending retval)
  | .closeEnter key now => (k.note (.closing thread key), some (.closeLookup key now))

def advance (thread : Nat) (task : Task) (k : Kernel) : Kernel × Option Task :=
  match task with
  | .insertConnection pending =>
    match insertActive pending.key pending k.active with
    | none => (k, none)
    | some active => ({ k with active := active }.note (.opened pending.key), none)
  | .lookup io rest =>
    match k.active.lookup io.key with
    | none => nextCall thread (k.note (.ended ⟨io, thread⟩)) rest
    | some connection => (k, some (.store io connection rest))
  | .store io connection rest =>
    match insertActive io.key (io.addTo connection) k.active with
    -- the error is returned, so a second call is not made
    | none => (k.note (.ended ⟨io, thread⟩), none)
    | some active => nextCall thread ({ k with active := active }.note (.ended ⟨io, thread⟩)) rest
  | .closeLookup key now =>
    match k.active.lookup key with
    | none => (k.note (.closed thread key none), none)
    | some pending => (k, some (.closeRemove key pending now))
  | .closeRemove key pending now =>
    let event := closeEvent pending now
    ({ k with active := k.active.erase key, output := event :: k.output }.note (.closed thread key (some event)), none)

/-- The handlers of the source; threads are numbered. -/
def network : Handlers Nat Handler Task Kernel := ⟨enter, advance⟩

abbrev System := Threads Nat Task Kernel

def System.initial : System := ⟨{}, fun _ => none⟩

def System.run (moves : List (Move Nat Handler)) : System := moves.foldl network.step System.initial

end ENavigator.Capture
