import ENavigator.Capture.Connections
import Mathlib.Algebra.BigOperators.Group.Multiset.Basic

/-!
# Byte counts of closed connections

What a close event should report is read off the record of the run: the transfers that ended since the connection was
opened, and some of those that overlapped the close handler. Once the handler has ended, the descriptor should have no
entry until a connection is opened on it again.

A thread that adds to a counter writes back the whole entry it has looked up. If another thread writes the entry in
between, that write is lost, or the entry of a closed connection comes back.

* `CountsExact` : the property;
* `Undisturbed` : no entry is written while another thread holds a copy of it to write back;
* `countsExact_of_undisturbed` : the property holds in every state that an undisturbed run reaches.
-/

namespace ENavigator.Capture

open List

/-! ## What the record says -/

/-- The calls on a descriptor that have ended since its connection was opened. -/
def settled (key : ConnectionKey) : List Note → Multiset Completion
  | [] => 0
  | .opened key' :: h => if key' = key then 0 else settled key h
  | .ended c :: h => if c.key = key then c ::ₘ settled key h else settled key h
  | _ :: h => settled key h

/-- The calls on a descriptor that have begun and not ended. -/
def inFlight (key : ConnectionKey) : List Note → Multiset Completion
  | [] => 0
  | .begun c :: h => if c.key = key then c ::ₘ inFlight key h else inFlight key h
  | .ended c :: h => (inFlight key h).erase c
  | _ :: h => inFlight key h

/-- The calls on a descriptor that begin in a part of the record. -/
def begunIn (key : ConnectionKey) : List Note → Multiset Completion
  | [] => 0
  | .begun c :: h => if c.key = key then c ::ₘ begunIn key h else begunIn key h
  | _ :: h => begunIn key h

def bytesIn (direction : NetworkIo) (calls : Multiset Completion) : Nat :=
  (calls.map fun c => if c.direction = direction then c.bytes else 0).sum

/-- Counters at the end of a close handler: `before` is what was recorded when it began, `during` what was since. -/
def Exact (key : ConnectionKey) (before during : List Note) (bytesSent bytesReceived : Nat) : Prop :=
  ∃ late ≤ inFlight key before + begunIn key during,
    bytesSent = bytesIn .write (settled key before + late) ∧ bytesReceived = bytesIn .read (settled key before + late)

/-- The handler that thread `t` is in began to close `key` between the two parts of the record. -/
def ClosingSince (t : Nat) (key : ConnectionKey) (h during before : List Note) : Prop :=
  h = during ++ .closing t key :: before ∧ ∀ key', .closing t key' ∉ during

/-- The descriptor was closed, and no connection was opened on it since. -/
def Closed (key : ConnectionKey) : List Note → Prop
  | [] => False
  | .opened key' :: h => key' ≠ key ∧ Closed key h
  | .closed _ key' _ :: h => key' = key ∨ Closed key h
  | _ :: h => Closed key h

def Reports (h : List Note) : Prop :=
  ∀ later t key event earlier, h = later ++ .closed t key (some event) :: earlier →
    ∃ during before, ClosingSince t key earlier during before ∧
      Exact key before during event.bytesSent event.bytesReceived

structure CountsExact (k : Kernel) : Prop where
  /-- Every close event in the output is recorded. -/
  recorded : ∀ event ∈ k.output, event.eventType = .close → ∃ t key, .closed t key (some event) ∈ k.history
  reports : Reports k.history
  gone : ∀ key, Closed key k.history → k.active.lookup key = none

/-! ## Undisturbed runs -/

/-- The entry that the next operation writes. -/
def Task.writes : Task → Option ConnectionKey
  | .insertConnection pending => some pending.key
  | .store io _ _ => some io.key
  | .closeRemove key _ _ => some key
  | .lookup _ _ | .closeLookup _ _ => none

/-- The entry of which a copy is held to be written back. -/
def Task.holds : Task → Option ConnectionKey
  | .store io _ _ => some io.key
  | _ => none

def Task.opens : Task → Option ConnectionKey
  | .insertConnection pending => some pending.key
  | _ => none

/-- The descriptor that is being closed and whose entry is not yet looked up. -/
def Task.closes : Task → Option ConnectionKey
  | .closeLookup key _ => some key
  | _ => none

/-- The next operation of the first writes an entry of which the second holds a copy, or opens a connection on a
descriptor whose entry the second is about to look up to close it. -/
def Task.Disturbs (p q : Task) : Prop := (∃ key ∈ p.writes, key ∈ q.holds) ∨ ∃ key ∈ p.opens, key ∈ q.closes

def IoBytes.counter (io : IoBytes) (connection : PendingConnect) : Nat :=
  match io.direction with
  | .write => connection.bytesSent
  | .read => connection.bytesReceived

def Task.Fits : Task → Prop
  | .store io connection _ => io.counter connection + io.bytes < 2 ^ 64
  | _ => True

def Undisturbed (s : System) : Move Nat Handler → Prop
  | .enter _ _ => True
  | .advance t => ∀ p, s.running t = some p → p.Fits ∧ ∀ u q, u ≠ t → s.running u = some q → ¬ p.Disturbs q

/-! ## Sums -/

theorem bytesIn_cons (d : NetworkIo) (c : Completion) (calls : Multiset Completion) :
    bytesIn d (c ::ₘ calls) = (if c.direction = d then c.bytes else 0) + bytesIn d calls := by
  rw [bytesIn, Multiset.map_cons, Multiset.sum_cons, bytesIn]

/-! ## Calls in flight -/

variable {key : ConnectionKey} {during : List Note} {connection : PendingConnect}

variable {c : Completion}

theorem key_of_mem_inFlight {h : List Note} (hc : c ∈ inFlight key h) : c.key = key := by
  induction h with
  | nil => exact absurd hc (Multiset.notMem_zero c)
  | cons n h ih =>
    cases n with
    | begun c' =>
      rw [inFlight] at hc
      split at hc
      next hkey =>
        rcases Multiset.mem_cons.mp hc with rfl | hc
        · exact hkey
        · exact ih hc
      next => exact ih hc
    | ended c' => exact ih (Multiset.mem_of_mem_erase hc)
    | opened _ | closing _ _ | closed _ _ _ => exact ih hc

/-- Every call that has ended was in flight. -/
def Orderly : List Note → Prop
  | [] => True
  | .ended c :: h => c ∈ inFlight c.key h ∧ Orderly h
  | _ :: h => Orderly h

def endedIn (key : ConnectionKey) : List Note → Multiset Completion
  | [] => 0
  | .ended c :: h => if c.key = key then c ::ₘ endedIn key h else endedIn key h
  | _ :: h => endedIn key h

/-- What has ended and what is in flight is what was in flight and what has begun. -/
theorem endedIn_add_inFlight (key : ConnectionKey) {before : List Note} (h : Orderly (during ++ before)) :
    endedIn key during + inFlight key (during ++ before) = inFlight key before + begunIn key during := by
  induction during with
  | nil => exact add_comm _ _
  | cons n during ih =>
    cases n with
    | begun c =>
      have ih := ih h
      show endedIn key during + inFlight key (.begun c :: (during ++ before)) = _
      rw [inFlight, begunIn]
      split
      · rw [Multiset.add_cons, Multiset.add_cons, ih]
      · exact ih
    | ended c =>
      rw [cons_append] at h
      obtain ⟨hc, h⟩ := h
      have ih := ih h
      show endedIn key (.ended c :: during) + inFlight key (.ended c :: (during ++ before)) =
        inFlight key before + begunIn key during
      rw [endedIn, inFlight]
      split
      next hkey =>
        rw [hkey] at hc
        rw [Multiset.cons_add, ← Multiset.add_cons, Multiset.cons_erase hc, ih]
      next hkey => rw [Multiset.erase_of_notMem (mt key_of_mem_inFlight hkey), ih]
    | opened _ | closing _ _ | closed _ _ _ => exact ih h

theorem settled_append (hopened : .opened key ∉ during) (before : List Note) :
    settled key (during ++ before) = endedIn key during + settled key before := by
  induction during with
  | nil => exact (zero_add _).symm
  | cons n during ih =>
    rw [mem_cons, not_or] at hopened
    have ih := ih hopened.2
    cases n with
    | ended c =>
      rw [cons_append, settled, endedIn, ih]
      split
      · rw [Multiset.cons_add]
      · rfl
    | opened key' =>
      have hne : key' ≠ key := by
        rintro rfl
        exact hopened.1 rfl
      rw [cons_append, settled, if_neg hne, ih]
      rfl
    | begun _ | closing _ _ | closed _ _ _ => exact ih

theorem exact_of_settled {t : Nat} {h before : List Note} (horderly : Orderly h)
    (hsince : ClosingSince t key h during before) (hopened : .opened key ∉ during) :
    Exact key before during (bytesIn .write (settled key h)) (bytesIn .read (settled key h)) := by
  obtain ⟨rfl, -⟩ := hsince
  have hsum := endedIn_add_inFlight key horderly
  have hsettled := settled_append hopened (.closing t key :: before)
  rw [add_comm] at hsettled
  refine ⟨endedIn key during, ?_, congrArg _ hsettled, congrArg _ hsettled⟩
  show endedIn key during ≤ inFlight key (.closing t key :: before) + begunIn key during
  rw [← hsum]
  exact Multiset.le_add_right _ _

/-! ## The invariant -/

structure Sound (k : Kernel) : Prop extends CountsExact k where
  counts : ∀ key connection, k.active.lookup key = some connection →
    connection.bytesSent = bytesIn .write (settled key k.history) ∧
    connection.bytesReceived = bytesIn .read (settled key k.history)
  orderly : Orderly k.history

/-- What a thread relies on between two operations. -/
def Stands (t : Nat) (task : Task) (k : Kernel) : Prop :=
  match task with
  | .insertConnection pending => pending.bytesSent = 0 ∧ pending.bytesReceived = 0
  | .lookup io _ => ⟨io, t⟩ ∈ inFlight io.key k.history
  | .store io connection _ => ⟨io, t⟩ ∈ inFlight io.key k.history ∧ k.active.lookup io.key = some connection
  | .closeLookup key _ => ∃ during before, ClosingSince t key k.history during before ∧ .opened key ∉ during
  | .closeRemove key pending _ => ∃ during before, ClosingSince t key k.history during before ∧
      Exact key before during pending.bytesSent pending.bytesReceived

variable {k : Kernel} {n : Note} {t u : Nat} {key : ConnectionKey} {h during before : List Note} {io : IoBytes}
  {task : Task}

theorem Reports.cons (hr : Reports h)
    (hn : ∀ t key event, n = .closed t key (some event) → ∃ during before, ClosingSince t key h during before ∧
      Exact key before during event.bytesSent event.bytesReceived) : Reports (n :: h) := by
  intro later t key event earlier heq
  rcases later with _ | ⟨n', later⟩
  · obtain ⟨rfl, rfl⟩ := List.cons.inj heq
    exact hn _ _ _ rfl
  · exact hr _ _ _ _ _ (List.cons.inj heq).2

theorem CountsExact.recorded_cons (hk : CountsExact k) (n : Note) :
    ∀ event ∈ k.output, event.eventType = .close → ∃ t key, .closed t key (some event) ∈ n :: k.history := by
  intro event hevent hclose
  obtain ⟨t, key, hmem⟩ := hk.recorded event hevent hclose
  exact ⟨t, key, mem_cons_of_mem _ hmem⟩

theorem Sound.note (hk : Sound k)
    (hcounts : ∀ key connection, k.active.lookup key = some connection →
      settled key (n :: k.history) = settled key k.history)
    (horderly : Orderly (n :: k.history)) (hn : ∀ t key event, n ≠ .closed t key (some event))
    (hgone : ∀ key, Closed key (n :: k.history) → k.active.lookup key = none) : Sound (k.note n) where
  recorded := hk.recorded_cons _
  reports := hk.reports.cons fun t key event heq => absurd heq (hn t key event)
  gone := hgone
  counts := fun key connection hlookup => by
    rw [Kernel.note, hcounts key connection hlookup]
    exact hk.counts key connection hlookup
  orderly := horderly

/-! ## The steps of another thread -/

theorem mem_inFlight_cons (hc : c ∈ inFlight key h) (hn : n ≠ .ended c) : c ∈ inFlight key (n :: h) := by
  cases n with
  | begun c' =>
    rw [inFlight]
    split
    · exact Multiset.mem_cons_of_mem hc
    · exact hc
  | ended c' =>
    refine (Multiset.mem_erase_of_ne ?_).mpr hc
    rintro rfl
    exact hn rfl
  | opened _ | closing _ _ | closed _ _ _ => exact hc

theorem ClosingSince.cons (hs : ClosingSince t key h during before) (hn : ∀ key', n ≠ .closing t key') :
    ClosingSince t key (n :: h) (n :: during) before := by
  refine ⟨congrArg (n :: ·) hs.1, fun key' hmem => ?_⟩
  rcases mem_cons.mp hmem with heq | hmem
  · exact hn key' heq.symm
  · exact hs.2 key' hmem

theorem begunIn_le_cons (key : ConnectionKey) (n : Note) (during : List Note) :
    begunIn key during ≤ begunIn key (n :: during) := by
  cases n with
  | begun c =>
    rw [begunIn]
    split
    · exact Multiset.le_cons_self _ _
    · exact le_rfl
  | _ => exact le_rfl

theorem Exact.cons {sent received : Nat} (he : Exact key before during sent received) (n : Note) :
    Exact key before (n :: during) sent received := by
  obtain ⟨late, hlate, hcounts⟩ := he
  exact ⟨late, hlate.trans (add_le_add le_rfl (begunIn_le_cons key n during)), hcounts⟩

/-- The notes that a thread makes. -/
def Note.By (u : Nat) : Note → Prop
  | .opened _ => True
  | .begun c | .ended c => c.thread = u
  | .closing v _ | .closed v _ _ => v = u

theorem Stands.note (hs : Stands t task k) (hu : u ≠ t) (hn : n.By u)
    (hopened : ∀ key now, task = .closeLookup key now → n ≠ .opened key) : Stands t task (k.note n) := by
  have hended : ∀ io, n ≠ .ended ⟨io, t⟩ := by
    rintro io rfl
    exact hu hn.symm
  have hclosing : ∀ key, n ≠ .closing t key := by
    rintro key rfl
    exact hu hn.symm
  cases task with
  | insertConnection pending => exact hs
  | lookup io rest => exact mem_inFlight_cons hs (hended io)
  | store io connection rest => exact ⟨mem_inFlight_cons hs.1 (hended io), hs.2⟩
  | closeLookup key now =>
    obtain ⟨during, before, hsince, hnot⟩ := hs
    refine ⟨n :: during, before, hsince.cons hclosing, fun hmem => ?_⟩
    rcases mem_cons.mp hmem with heq | hmem
    · exact hopened key now rfl heq.symm
    · exact hnot hmem
  | closeRemove key pending now =>
    obtain ⟨during, before, hsince, hexact⟩ := hs
    exact ⟨n :: during, before, hsince.cons hclosing, hexact.cons n⟩

/-- Only a copy that is to be written back depends on the entry. -/
theorem Stands.active (hs : Stands t task k) {active : ActiveConnections} {output : List NetworkEvent}
    (hactive : ∀ io connection rest, task = .store io connection rest →
      active.lookup io.key = k.active.lookup io.key) : Stands t task ⟨active, output, k.history⟩ := by
  cases task with
  | store io connection rest => exact ⟨hs.1, (hactive io connection rest rfl).trans hs.2⟩
  | _ => exact hs

theorem Stands.nextCall (hs : Stands t task k) (hu : u ≠ t) (rest : List IoBytes) :
    Stands t task (nextCall u k rest).1 := by
  cases rest with
  | nil => exact hs
  | cons io rest => exact hs.note hu rfl (by nofun)

theorem Stands.enter (hs : Stands t task k) (hu : u ≠ t) (handler : Handler) :
    Stands t task (enter u handler k).1 := by
  cases handler with
  | connectExit pid fd startedAtNanos retval now =>
    rw [Capture.enter]
    split <;> exact hs.active fun _ _ _ _ => rfl
  | acceptExit pid retval startedAtNanos =>
    rw [Capture.enter]
    split <;> exact hs
  | ioExit pending retval => exact hs.nextCall hu _
  | closeEnter key now => exact hs.note hu rfl (by nofun)

theorem insertActive_some {value : PendingConnect} {active active' : ActiveConnections}
    (hi : insertActive key value active = some active') : active' = active.insert key value := by
  unfold insertActive at hi
  split at hi
  · exact (Option.some.inj hi).symm
  · cases hi

theorem Stands.advance {mine : Task} (hs : Stands t task k) (hu : u ≠ t) (hd : ¬ mine.Disturbs task) :
    Stands t task (advance u mine k).1 := by
  cases mine with
  | insertConnection pending =>
    rw [Capture.advance]
    rcases hi : insertActive pending.key pending k.active with _ | active
    · exact hs
    · obtain rfl := insertActive_some hi
      refine Stands.note (hs.active ?_) hu trivial ?_
      · rintro io connection rest rfl
        exact AList.lookup_insert_ne fun heq => hd (.inl ⟨io.key, heq ▸ rfl, rfl⟩)
      · rintro key now rfl heq
        exact hd (.inr ⟨key, congrArg some (Note.opened.inj heq), rfl⟩)
  | lookup io rest =>
    rw [Capture.advance]
    split
    · have hended : Stands t task (k.note (.ended ⟨io, u⟩)) := hs.note hu rfl (by nofun)
      exact hended.nextCall hu rest
    · exact hs
  | store io connection rest =>
    rw [Capture.advance]
    rcases hi : insertActive io.key (io.addTo connection) k.active with _ | active
    · exact hs.note hu rfl (by nofun)
    · obtain rfl := insertActive_some hi
      have hstored : Stands t task { k with active := k.active.insert io.key (io.addTo connection) } := by
        refine hs.active ?_
        rintro io' connection' rest' rfl
        exact AList.lookup_insert_ne fun heq => hd (.inl ⟨io'.key, heq ▸ rfl, rfl⟩)
      have hended := hstored.note (n := .ended ⟨io, u⟩) hu rfl (by nofun)
      exact hended.nextCall hu rest
  | closeLookup key now =>
    rw [Capture.advance]
    split
    · exact hs.note hu rfl (by nofun)
    · exact hs
  | closeRemove key pending now =>
    refine Stands.note (hs.active ?_) hu rfl (by nofun)
    rintro io connection rest rfl
    exact AList.lookup_erase_ne fun heq => hd (.inl ⟨io.key, heq ▸ rfl, rfl⟩)

/-! ## The steps of a thread itself -/

/-- A step keeps the invariant, and the thread stands where it may go on. -/
def Leaves (t : Nat) (r : Kernel × Option Task) : Prop := Sound r.1 ∧ ∀ p, r.2 = some p → Stands t p r.1

section

variable (hk : Sound k)
include hk

theorem Sound.leaves : Leaves t (k, none) := ⟨hk, by nofun⟩

theorem Sound.goesOn (hs : Stands t task k) : Leaves t (k, some task) := by
  refine ⟨hk, ?_⟩
  rintro _ ⟨⟩
  exact hs

theorem Sound.output {event : NetworkEvent} (hevent : event.eventType ≠ .close) :
    Sound { k with output := event :: k.output } where
  __ := hk
  recorded := fun event' hmem hclose => by
    rcases mem_cons.mp hmem with rfl | hmem
    · exact absurd hclose hevent
    · exact hk.recorded event' hmem hclose

theorem leaves_nextCall (t : Nat) (rest : List IoBytes) : Leaves t (nextCall t k rest) := by
  cases rest with
  | nil => exact hk.leaves
  | cons io rest =>
    refine Sound.goesOn (hk.note (fun _ _ _ => rfl) hk.orderly (by nofun) hk.gone) ?_
    show _ ∈ inFlight io.key (.begun ⟨io, t⟩ :: k.history)
    rw [inFlight, if_pos rfl]
    exact Multiset.mem_cons_self _ _

theorem leaves_enter (t : Nat) (handler : Handler) : Leaves t (enter t handler k) := by
  cases handler with
  | connectExit pid fd startedAtNanos retval now =>
    rw [enter]
    split
    · exact (hk.output (by nofun)).leaves
    · exact (hk.output (by nofun)).goesOn ⟨rfl, rfl⟩
  | acceptExit pid retval startedAtNanos =>
    rw [enter]
    split
    · exact hk.leaves
    · exact hk.goesOn ⟨rfl, rfl⟩
  | ioExit pending retval => exact leaves_nextCall hk t _
  | closeEnter key now =>
    refine Sound.goesOn (hk.note (fun _ _ _ => rfl) hk.orderly (by nofun) hk.gone) ?_
    exact ⟨[], k.history, ⟨rfl, by nofun⟩, by nofun⟩

theorem Sound.counts_insert {value : PendingConnect}
    (hother : ∀ key' ≠ key, settled key' (n :: k.history) = settled key' k.history)
    (hvalue : value.bytesSent = bytesIn .write (settled key (n :: k.history)) ∧
      value.bytesReceived = bytesIn .read (settled key (n :: k.history))) :
    ∀ key' connection, (k.active.insert key value).lookup key' = some connection →
      connection.bytesSent = bytesIn .write (settled key' (n :: k.history)) ∧
      connection.bytesReceived = bytesIn .read (settled key' (n :: k.history)) := by
  intro key' connection hlookup
  by_cases hkey : key' = key
  · subst hkey
    obtain rfl : value = connection := Option.some.inj ((AList.lookup_insert _).symm.trans hlookup)
    exact hvalue
  · rw [hother key' hkey]
    exact hk.counts key' connection ((AList.lookup_insert_ne hkey).symm.trans hlookup)

theorem Sound.opened {pending : PendingConnect} (hzero : pending.bytesSent = 0 ∧ pending.bytesReceived = 0) :
    Sound ({ k with active := k.active.insert pending.key pending }.note (.opened pending.key)) where
  recorded := hk.recorded_cons _
  reports := hk.reports.cons (by nofun)
  gone := fun key hclosed => (AList.lookup_insert_ne (Ne.symm hclosed.1)).trans (hk.gone key hclosed.2)
  counts := hk.counts_insert (fun _ hkey => if_neg hkey.symm) (by rw [settled, if_pos rfl]; exact hzero)
  orderly := hk.orderly

theorem Sound.ended (hio : ⟨io, t⟩ ∈ inFlight io.key k.history)
    (hmissing : k.active.lookup io.key = none) : Sound (k.note (.ended ⟨io, t⟩)) := by
  refine hk.note (fun key connection hlookup => ?_) ⟨hio, hk.orderly⟩ (by nofun) hk.gone
  rw [settled, if_neg]
  rintro rfl
  rw [hmissing] at hlookup
  cases hlookup

end

theorem saturatingAdd_of_lt {a b : Nat} (h : a + b < 2 ^ 64) : saturatingAdd a b = b + a := by
  simp only [saturatingAdd, usizeBound]
  omega

theorem addTo_counts (hfits : io.counter connection + io.bytes < 2 ^ 64) :
    (io.addTo connection).bytesSent = (if io.direction = .write then io.bytes else 0) + connection.bytesSent ∧
    (io.addTo connection).bytesReceived =
      (if io.direction = .read then io.bytes else 0) + connection.bytesReceived := by
  obtain ⟨key, direction, bytes⟩ := io
  cases direction with
  | write => exact ⟨saturatingAdd_of_lt hfits, (Nat.zero_add _).symm⟩
  | read => exact ⟨(Nat.zero_add _).symm, saturatingAdd_of_lt hfits⟩

/-- A copy that is still the entry is written back with the bytes of the call. -/
theorem Sound.stored (hk : Sound k) (hio : ⟨io, t⟩ ∈ inFlight io.key k.history)
    (hentry : k.active.lookup io.key = some connection) (hfits : io.counter connection + io.bytes < 2 ^ 64) :
    Sound ({ k with active := k.active.insert io.key (io.addTo connection) }.note (.ended ⟨io, t⟩)) where
  recorded := hk.recorded_cons _
  reports := hk.reports.cons (by nofun)
  gone := fun key hclosed => by
    have hnone := hk.gone key hclosed
    refine (AList.lookup_insert_ne ?_).trans hnone
    rintro rfl
    rw [hentry] at hnone
    cases hnone
  counts := by
    refine hk.counts_insert (fun _ hkey => if_neg hkey.symm) ?_
    obtain ⟨hsent, hreceived⟩ := hk.counts io.key connection hentry
    obtain ⟨hsent', hreceived'⟩ := addTo_counts hfits
    rw [settled, if_pos rfl, bytesIn_cons, bytesIn_cons, hsent', hreceived', hsent, hreceived]
    exact ⟨rfl, rfl⟩
  orderly := ⟨hio, hk.orderly⟩

theorem Sound.removed (hk : Sound k) {pending : PendingConnect} {now : Nat}
    (hs : Stands t (.closeRemove key pending now) k) :
    Sound ({ k with active := k.active.erase key, output := closeEvent pending now :: k.output }.note
      (.closed t key (some (closeEvent pending now)))) where
  recorded := fun event hevent hclose => by
    rcases mem_cons.mp hevent with rfl | hevent
    · exact ⟨t, key, mem_cons_self⟩
    · exact hk.recorded_cons _ event hevent hclose
  reports := by
    refine hk.reports.cons ?_
    rintro t' key' event ⟨⟩
    exact hs
  gone := fun key' hclosed => by
    by_cases hkey : key' = key
    · subst hkey
      exact AList.lookup_erase _ _
    · refine (AList.lookup_erase_ne hkey).trans (hk.gone key' ?_)
      exact hclosed.resolve_left (Ne.symm hkey)
  counts := fun key' connection hlookup => by
    have hkey : key' ≠ key := by
      rintro rfl
      cases (AList.lookup_erase _ _).symm.trans hlookup
    exact hk.counts key' connection ((AList.lookup_erase_ne hkey).symm.trans hlookup)
  orderly := hk.orderly

theorem leaves_advance (hk : Sound k) (hs : Stands t task k) (hfits : task.Fits) : Leaves t (advance t task k) := by
  cases task with
  | insertConnection pending =>
    rw [advance]
    rcases hi : insertActive pending.key pending k.active with _ | active
    · exact hk.leaves
    · obtain rfl := insertActive_some hi
      exact (hk.opened hs).leaves
  | lookup io rest =>
    rw [advance]
    rcases hentry : k.active.lookup io.key with _ | connection
    · exact leaves_nextCall (hk.ended hs hentry) t rest
    · exact hk.goesOn ⟨hs, hentry⟩
  | store io connection rest =>
    obtain ⟨hio, hentry⟩ := hs
    have hmem : io.key ∈ k.active := AList.lookup_isSome.mp (by rw [hentry]; rfl)
    rw [advance, insertActive, if_pos (.inl hmem)]
    exact leaves_nextCall (hk.stored hio hentry hfits) t rest
  | closeLookup key now =>
    obtain ⟨during, before, hsince, hopened⟩ := hs
    rw [advance]
    rcases hentry : k.active.lookup key with _ | pending
    · refine Sound.leaves (hk.note (fun _ _ _ => rfl) hk.orderly (by nofun) fun key' hclosed => ?_)
      rcases hclosed with rfl | hclosed
      · exact hentry
      · exact hk.gone key' hclosed
    · refine hk.goesOn ⟨during, before, hsince, ?_⟩
      obtain ⟨hsent, hreceived⟩ := hk.counts key pending hentry
      rw [hsent, hreceived]
      exact exact_of_settled hk.orderly hsince hopened
  | closeRemove key pending now => exact (hk.removed hs).leaves

theorem outline : network.Outline Undisturbed Sound Stands where
  enter_own := fun _ t handler hk => leaves_enter hk t handler
  enter_frame := fun _ _ handler _ _ hu _ hs => hs.enter (Ne.symm hu) handler
  advance_own := fun _ _ p hp hC hk hs => leaves_advance hk hs (hC p hp).1
  advance_frame := fun _ _ p u q hu hp hq hC _ _ hs => hs.advance (Ne.symm hu) ((hC p hp).2 u q hu hq)

theorem sound_initial : Sound {} where
  recorded := by nofun
  reports := fun later t key event earlier heq => by cases later <;> cases heq
  gone := by nofun
  counts := by nofun
  orderly := trivial

/-- **Byte counts are exact** in every state that a run reaches in which no entry is written while another thread holds
a copy of it to write back. -/
theorem countsExact_of_undisturbed {moves : List (Move Nat Handler)}
    (h : Along network.step Undisturbed System.initial moves) : CountsExact (System.run moves).shared :=
  (outline.run ⟨sound_initial, by nofun⟩ h).toCountsExact

/-! ## Transfers that overlap a close -/

/-- The condition for a run of the first `n` threads. -/
def UndisturbedBelow (n : Nat) (s : System) : Move Nat Handler → Prop
  | .enter t _ => t < n
  | .advance t => t < n ∧ ∀ p ∈ s.running t, p.Fits ∧ ∀ u < n, u ≠ t → ∀ q ∈ s.running u, ¬ p.Disturbs q

theorem along_undisturbed {n : Nat} {s : System} {moves : List (Move Nat Handler)}
    (hs : ∀ u, n ≤ u → s.running u = none) (h : Along network.step (UndisturbedBelow n) s moves) :
    Along network.step Undisturbed s moves := by
  refine Along.of_invariant (I := fun s => ∀ u, n ≤ u → s.running u = none) (fun s move hs hmove => ?_) hs h
  have hput : ∀ t < n, ∀ r u, n ≤ u → (s.put t r).running u = none := fun t ht r u hu =>
    (s.running_put_ne (Nat.ne_of_gt (Nat.lt_of_lt_of_le ht hu)) r).trans (hs u hu)
  cases move with
  | enter t handler =>
    refine ⟨trivial, ?_⟩
    rw [Handlers.step]
    split
    · exact hs
    · exact hput t hmove _
  | advance t =>
    obtain ⟨ht, hmove⟩ := hmove
    refine ⟨fun p hp => ⟨(hmove p hp).1, fun u q hne hq => ?_⟩, ?_⟩
    · refine (hmove p hp).2 u (Nat.lt_of_not_le fun hu => ?_) hne q hq
      rw [hs u hu] at hq
      cases hq
    · rw [Handlers.step]
      split
      · exact hs
      · exact hput t ht _

instance (p q : Task) : Decidable (p.Disturbs q) := inferInstanceAs (Decidable (_ ∨ _))

instance : ∀ p : Task, Decidable p.Fits
  | .store io connection _ => inferInstanceAs (Decidable (io.counter connection + io.bytes < 2 ^ 64))
  | .insertConnection _ | .lookup _ _ | .closeLookup _ _ | .closeRemove _ _ _ => isTrue trivial

instance (n : Nat) (s : System) : ∀ move, Decidable (UndisturbedBelow n s move)
  | .enter t _ => inferInstanceAs (Decidable (t < n))
  | .advance _ => inferInstanceAs (Decidable (_ ∧ _))

def socketKey : ConnectionKey := ⟨7, 3⟩

def send (bytes : Int) : Handler := .ioExit ⟨7, 3, .write, none⟩ bytes

/-- Two threads send 100 and 50 bytes and both look up the entry before either writes it back; then the connection is
closed. -/
def lostUpdate : List (Move Nat Handler) :=
  [.enter 0 (.connectExit 7 3 1 0 2), .advance 0, .enter 1 (send 100), .enter 2 (send 50), .advance 1, .advance 2,
    .advance 1, .advance 2, .enter 0 (.closeEnter socketKey 9), .advance 0, .advance 0]

/-- A thread has looked up the entry when the connection is closed, and writes it back after. -/
def lateStore : List (Move Nat Handler) :=
  [.enter 0 (.connectExit 7 3 1 0 2), .advance 0, .enter 1 (send 100), .advance 1,
    .enter 0 (.closeEnter socketKey 9), .advance 0, .advance 0, .advance 1]

theorem not_countsExact_of_disturbed :
    ¬ CountsExact (System.run lostUpdate).shared ∧ ¬ CountsExact (System.run lateStore).shared := by
  constructor
  · intro hexact
    obtain ⟨during, before, ⟨hsince, hnot⟩, late, hlate, hsent, -⟩ := hexact.reports [] 0 socketKey _ _ rfl
    -- the handler began right before, so that nothing is recorded during it
    rcases during with _ | ⟨n, during⟩
    · obtain ⟨-, rfl⟩ := List.cons.inj hsince
      obtain rfl : late = 0 := Multiset.le_zero.mp hlate
      revert hsent
      decide +kernel
    · obtain ⟨rfl, -⟩ := List.cons.inj hsince
      exact hnot socketKey mem_cons_self
  · intro hexact
    have hgone := hexact.gone socketKey (.inl rfl)
    revert hgone
    decide +kernel

/-- Two transfers and the close handler overlap, but no entry is written while another thread holds its copy. -/
def overlapping : List (Move Nat Handler) :=
  [.enter 0 (.connectExit 7 3 1 0 2), .advance 0, .enter 1 (send 100), .enter 2 (send 50), .advance 1, .advance 1,
    .enter 0 (.closeEnter socketKey 9), .advance 2, .advance 2, .advance 0, .advance 0]

theorem countsExact_overlapping : CountsExact (System.run overlapping).shared :=
  countsExact_of_undisturbed (along_undisturbed (n := 3) (fun _ _ => rfl) (by decide +kernel))

end ENavigator.Capture
