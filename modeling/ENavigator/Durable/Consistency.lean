import ENavigator.Durable.Model

/-!
# Crash consistency of the spool

`Consistent s` says, of a state, that committed requests are there (`Lossless.present`), that what
`front` returns was written by one append call and not acknowledged (`Lossless.delivered`), and that it
is the oldest there is (`InOrder`).

* `lossless_of_run`: the first two hold in every run, whatever fails and whatever a crash loses;
* `consistent_of_run`: all of it holds in every run in which no `open` finds a segment's removal
  unsynced. An `open` after a crash never does, since nothing is unsynced then;
* `reordered_not_consistent`: without that, `open` restarts its numbers below a segment that the next
  crash brings back, and a younger request is delivered before it.

Both invariants (`Inv`, `Ordered`) speak of everything a crash may leave, so that a crash keeps them.
-/

namespace ENavigator.Durable

open List State SortedMap Option

open CrashStore (Store Op Possible Settled possible_of_view settled_sync)

/-! ## What one step does -/

section checksum

variable [Checksum] {s s' : State} {sp : Spool} {call : Call} {names : List Bytes}

omit [Checksum] in
theorem ack_cases (s : State) (id : Nat) (fault : Option Fault) :
    (∃ origin e, s.ack id fault = ({ s with history := s.history.noteAck origin false }, .error e)) ∨
    ∃ sp f, s.spool = some sp ∧ s.store.view.lookup id = some f ∧ (s.ack id fault = ({ s with
        store := s.store.record (.remove id)
        history := s.history.noteAck (some f.origin) false }, .error .failed) ∨
      s.ack id fault = ({ s with
        store := (s.store.record (.remove id)).sync
        spool := some { sp with
          entries := sp.entries.erase id, bytes := sp.bytes - (sp.entries.lookup id).getD 0 }
        history := s.history.noteAck (some f.origin) true }, .ok ())) := by
  obtain ⟨store, pending, _ | sp, history⟩ := s
  · exact .inl ⟨none, .failed, rfl⟩
  by_cases hunlink : fault = some .unlink
  · exact .inl ⟨_, .failed, by simp [State.ack, ackFile, hunlink, isOk]; rfl⟩
  · cases hview : store.view.lookup id with
    | none => exact .inl ⟨_, .notFound, by simp [State.ack, ackFile, hunlink, hview, isOk]; rfl⟩
    | some f =>
      refine .inr ⟨sp, f, rfl, rfl, ?_⟩
      by_cases hsync : fault = some .syncDirectory
      · left
        simp [State.ack, ackFile, hview, hsync, isOk]
      · right
        simp [State.ack, ackFile, hunlink, hview, hsync, isOk]

structure Call.Admitted (call : Call) : Prop where
  body : call.body ≠ []
  size : headerBytes + call.body.length ≤ maxSegmentBytes
  count : 1 ≤ call.count ∧ call.count ≤ 4096

def Call.file (call : Call) (origin : Nat) : File := ⟨segmentBytes call.body call.count call.now, origin⟩

def Spool.added (sp : Spool) (file : File) (next : Nat) : Spool :=
  { sp with
    entries := sp.entries.insert sp.nextId file.bytes.length
    bytes := sp.bytes + file.bytes.length
    nextId := next }

def History.called (h : History) (call : Call) : History := { h with calls := h.calls ++ [call] }

def History.commit (h : History) (origin : Nat) : History := { h with committed := origin :: h.committed }

omit [Checksum] in
theorem writeSegment_cases (store : Store Nat File) (pending : Option Bytes) (sp : Spool) (next : Nat)
    (file : File) (fault : Option AppendFault) :
    (∃ pending', writeSegment store pending sp sp.nextId next file fault =
      (store, pending', sp, .error .failed)) ∨
    writeSegment store pending sp sp.nextId next file fault =
      (store.record (.put sp.nextId file), none, sp.added file next, .error .failed) ∨
    writeSegment store pending sp sp.nextId next file fault =
      ((store.record (.put sp.nextId file)).sync, none, sp.added file next, .ok ()) := by
  rcases fault with _ | (_ | _ | _ | partialBytes | _ | _ | _)
  · exact .inr (.inr rfl)
  · exact .inl ⟨pending, rfl⟩
  · exact .inl ⟨none, rfl⟩
  · exact .inl ⟨some [], rfl⟩
  · exact .inl ⟨some partialBytes, rfl⟩
  · exact .inl ⟨some file.bytes, rfl⟩
  · exact .inl ⟨some file.bytes, rfl⟩
  · exact .inr (.inl rfl)

theorem appendTo_cases (store : Store Nat File) (pending : Option Bytes) (sp : Spool) (origin : Nat)
    (hcount : 1 ≤ call.count ∧ call.count ≤ 4096) (fault : Option AppendFault) :
    (∃ e, appendTo store pending sp origin call fault = (store, pending, sp, .error e)) ∨
    (call.Admitted ∧ sp.nextId + 1 < usizeBound ∧ appendTo store pending sp origin call fault =
      writeSegment store pending sp sp.nextId (sp.nextId + 1) (call.file origin) fault) := by
  rw [appendTo]
  split
  · exact .inl ⟨_, rfl⟩
  next hroom =>
    simp only [not_or, List.isEmpty_iff] at hroom
    by_cases hnext : sp.nextId + 1 < usizeBound
    · rw [checkedAdd, if_pos hnext]
      exact .inr ⟨⟨hroom.2.1, by omega, hcount⟩, hnext, rfl⟩
    · rw [checkedAdd, if_neg hnext]
      exact .inl ⟨_, rfl⟩

theorem append_cases (s : State) (hcount : 1 ≤ call.count ∧ call.count ≤ 4096) (fault : Option AppendFault) :
    (∃ pending calls e, s.append call fault =
      ({ s with pending := pending, history := { s.history with calls := s.history.calls ++ calls } }, .error e)) ∨
    (call.Admitted ∧ ∃ sp, s.spool = some sp ∧ sp.nextId + 1 < usizeBound ∧
      ∃ put : State, put = { s with
          store := s.store.record (.put sp.nextId (call.file s.history.calls.length))
          pending := none
          spool := some (sp.added (call.file s.history.calls.length) (sp.nextId + 1))
          history := s.history.called call } ∧
        (s.append call fault = (put, .error .failed) ∨
          s.append call fault = ({ put with
            store := put.store.sync, history := put.history.commit s.history.calls.length }, .ok ()))) := by
  obtain ⟨store, pending, _ | sp, history⟩ := s
  · exact .inl ⟨pending, [], .failed, by rw [append_nil]; rfl⟩
  rw [State.append]
  dsimp only
  rcases appendTo_cases store pending sp history.calls.length hcount fault with
    ⟨e, he⟩ | ⟨hadmitted, hnext, hwrite⟩
  · rw [he]
    exact .inl ⟨pending, [call], e, rfl⟩
  · rw [hwrite]
    rcases writeSegment_cases store pending sp (sp.nextId + 1) (call.file history.calls.length) fault with
      ⟨pending', h⟩ | h | h
    · rw [h]
      exact .inl ⟨pending', [call], .failed, rfl⟩
    · rw [h]
      exact .inr ⟨hadmitted, sp, rfl, hnext, _, rfl, .inl rfl⟩
    · rw [h]
      exact .inr ⟨hadmitted, sp, rfl, hnext, _, rfl, .inr rfl⟩

/-- The spool behind the segment `id` that `open` has read. -/
def Spool.found (sp : Spool) (id size : Nat) : Spool :=
  { sp with entries := sp.entries.insert id size, bytes := sp.bytes + size, nextId := max sp.nextId (id + 1) }

/-- With each name `open` fails and leaves the directory as it is, or goes on to the next. -/
theorem openLoop_cons (faults : Bytes → Option Fault) (name : Bytes) (names : List Bytes) (s : State) (sp : Spool) :
    (∃ pending e, openLoop faults (name :: names) s sp = ({ s with pending := pending }, .error e)) ∨
    (name ≠ text "pending.tmp" ∧ (name = text "." ∨ name = text ".." ∨ name = text "lock") ∧
      openLoop faults (name :: names) s sp = openLoop faults names s sp) ∨
    (name = text "pending.tmp" ∧ openLoop faults (name :: names) s sp =
      openLoop faults names { s with pending := none, store := s.store.sync } sp) ∨
    ∃ id size, name = filename id ∧ parseSegmentName name = some id ∧
      openLoop faults (name :: names) s sp = openLoop faults names s (sp.found id size) := by
  rw [openLoop]
  split
  next hdot =>
    right; left
    refine ⟨?_, hdot, rfl⟩
    rcases hdot with rfl | rfl | rfl <;> decide
  split
  next hpending =>
    split
    · exact .inl ⟨_, _, rfl⟩
    split
    · exact .inl ⟨_, _, rfl⟩
    exact .inr (.inr (.inl ⟨hpending, rfl⟩))
  split
  · exact .inl ⟨_, _, rfl⟩
  next id hparse =>
  split
  · exact .inl ⟨_, _, rfl⟩
  next hname =>
  split
  · exact .inl ⟨_, _, rfl⟩
  split
  · exact .inl ⟨_, _, rfl⟩
  next file hfile =>
  dsimp only
  split
  · exact .inl ⟨_, _, rfl⟩
  split
  · exact .inl ⟨_, _, rfl⟩
  split
  · exact .inl ⟨_, _, rfl⟩
  next next hnext =>
  obtain ⟨-, rfl⟩ := checkedAdd_eq_some_iff.mp hnext
  exact .inr (.inr (.inr ⟨id, file.bytes.length, not_not.mp (fun hne => hname (.inl hne)), hparse, rfl⟩))

/-- Whatever its outcome, `open` at most syncs the directory. -/
theorem openLoop_store (faults : Bytes → Option Fault) (names : List Bytes) (s : State) (sp : Spool) :
    ((openLoop faults names s sp).1.store = s.store ∨
      (openLoop faults names s sp).1.store = s.store.sync) ∧
    (openLoop faults names s sp).1.spool = s.spool ∧
    (openLoop faults names s sp).1.history = s.history := by
  induction names generalizing s sp with
  | nil => exact ⟨.inl rfl, rfl, rfl⟩
  | cons name names ih =>
    rcases openLoop_cons faults name names s sp with ⟨_, _, heq⟩ | ⟨-, -, heq⟩ | ⟨-, heq⟩ | ⟨_, _, -, -, heq⟩
      <;> rw [heq]
    · exact ⟨.inl rfl, rfl, rfl⟩
    · exact ih s sp
    · obtain ⟨hstore, hspool, hhistory⟩ := ih { s with pending := none, store := s.store.sync } sp
      exact ⟨.inr (hstore.elim id id), hspool, hhistory⟩
    · exact ih s _

omit [Checksum] in
theorem length_filename (id : Nat) : (filename id).length = 22 := rfl

variable {id : Nat} {f : File} {store store' : Store Nat File} {condition : State → Step → Prop}

omit [Checksum] in
theorem filename_ne {name : Bytes} (h : name.length ≠ 22) : filename id ≠ name :=
  fun heq => h (heq ▸ length_filename id)

/-- A spool that was opened knows every segment, numbers from above them, and has synced the directory
if there was a pending file to remove. -/
structure Opened (names : List Bytes) (s' : State) (sp sp' : Spool) : Prop where
  segments : ∀ id < usizeBound, filename id ∈ names → id ∈ sp'.entries.keys
  grows : ∀ id ∈ sp.entries.keys, id ∈ sp'.entries.keys
  below : (∀ id ∈ sp.entries.keys, id < sp.nextId) → ∀ id ∈ sp'.entries.keys, id < sp'.nextId
  synced : text "pending.tmp" ∈ names → s'.store.unsynced = []

theorem openLoop_ok {faults : Bytes → Option Fault} {sp' : Spool} (h : openLoop faults names s sp = (s', .ok sp')) :
    Opened names s' sp sp' := by
  induction names generalizing s sp with
  | nil =>
    obtain ⟨rfl, hsp⟩ := Prod.mk.inj h
    obtain rfl : sp = sp' := Except.ok.inj hsp
    exact ⟨fun _ _ h => (not_mem_nil h).elim, fun _ h => h, fun h => h,
      fun h => (not_mem_nil h).elim⟩
  | cons name names ih =>
    rcases openLoop_cons faults name names s sp with
      ⟨_, _, heq⟩ | ⟨hpending, hdot, heq⟩ | ⟨rfl, heq⟩ | ⟨id, size, hname, hparse, heq⟩ <;> rw [heq] at h
    · cases h
    · obtain ⟨hseg, hgrows, hbelow, hsynced⟩ := ih h
      refine ⟨fun id hid hmem => hseg id hid (mem_of_ne_of_mem (filename_ne ?_) hmem), hgrows, hbelow,
        fun hmem => hsynced (mem_of_ne_of_mem hpending.symm hmem)⟩
      rcases hdot with rfl | rfl | rfl <;> decide
    · obtain ⟨hseg, hgrows, hbelow, -⟩ := ih h
      refine ⟨fun id hid hmem => hseg id hid (mem_of_ne_of_mem (filename_ne (by decide)) hmem), hgrows, hbelow,
        fun _ => ?_⟩
      have hstore := (openLoop_store faults names { s with pending := none, store := s.store.sync } sp).1
      rw [h] at hstore
      rcases hstore with hstore | hstore <;> rw [hstore] <;> rfl
    · obtain ⟨hseg, hgrows, hbelow, hsynced⟩ := ih h
      have hkeys : ∀ k, k ∈ (sp.found id size).entries.keys ↔ k = id ∨ k ∈ sp.entries.keys :=
        fun k => mem_keys_insert
      refine ⟨fun k hk hmem => ?_, fun k hk => hgrows k ((hkeys k).mpr (.inr hk)), fun hsp => ?_,
        fun hmem => hsynced (mem_of_ne_of_mem ?_ hmem)⟩
      · rcases mem_cons.mp hmem with heq | hmem
        · -- the name read is this segment's, so its number is the one inserted
          rw [← heq, parseSegmentName_filename hk] at hparse
          exact hgrows k ((hkeys k).mpr (.inl (Option.some.inj hparse)))
        · exact hseg k hk hmem
      · refine hbelow fun k hk => ?_
        show k < max sp.nextId (id + 1)
        rcases (hkeys k).mp hk with rfl | hk
        · omega
        · have := hsp k hk
          omega
      · rw [hname]
        exact (filename_ne (by decide)).symm

/-! ## The invariant of every run -/

/-- What holds of everything the directory may hold after a crash, and of the spool that is open. -/
structure Inv (s : State) : Prop where
  /-- every segment is the whole of one call -/
  whole : ∀ id f, Possible s.store id f → id + 1 < usizeBound ∧
    ∃ call, s.history.calls[f.origin]? = some call ∧ call.Admitted ∧ f = call.file f.origin
  unique : ∀ i j f g, Possible s.store i f → Possible s.store j g → f.origin = g.origin → i = j
  kept : ∀ k ∈ s.history.committed, k ∉ s.history.retired → ∃ id f, Settled s.store id f ∧ f.origin = k
  gone : ∀ k ∈ s.history.acknowledged, k < s.history.calls.length ∧
    ∀ id f, Possible s.store id f → f.origin ≠ k
  tracked : ∀ sp, s.spool = some sp →
    (∀ id f, s.store.view.lookup id = some f → id ∈ sp.entries.keys) ∧ ∀ id ∈ sp.entries.keys, id < sp.nextId

theorem Inv.origin_lt (h : Inv s) (hf : Possible s.store id f) :
    f.origin < s.history.calls.length := by
  obtain ⟨-, call, hcall, -⟩ := h.whole id f hf
  exact (List.getElem?_eq_some_iff.mp hcall).1

/-- Steps that lose nothing settled and make nothing new possible keep the invariant; calls may be
added and retired. -/
theorem Inv.shrink {s s' : State} (h : Inv s) (more : List Call) (retire : List Nat)
    (hhistory : s'.history = { s.history with
      calls := s.history.calls ++ more, retired := retire ++ s.history.retired })
    (hpossible : ∀ id f, Possible s'.store id f → Possible s.store id f)
    (hsettled : ∀ id f, Settled s.store id f → f.origin ∉ retire → Settled s'.store id f)
    (htracked : ∀ sp, s'.spool = some sp → (∀ id f, s'.store.view.lookup id = some f → id ∈ sp.entries.keys) ∧
      ∀ id ∈ sp.entries.keys, id < sp.nextId) : Inv s' where
  whole id f hf := by
    obtain ⟨hid, call, hcall, hrest⟩ := h.whole id f (hpossible id f hf)
    refine ⟨hid, call, ?_, hrest⟩
    rw [hhistory]
    exact getElem?_append_some more hcall
  unique i j f g hf hg := h.unique i j f g (hpossible i f hf) (hpossible j g hg)
  kept k hk hretired := by
    rw [hhistory] at hk hretired
    rw [mem_append, not_or] at hretired
    obtain ⟨id, f, hf, rfl⟩ := h.kept k hk hretired.2
    exact ⟨id, f, hsettled id f hf hretired.1, rfl⟩
  gone k hk := by
    rw [hhistory] at hk ⊢
    obtain ⟨hlt, hgone⟩ := h.gone k hk
    refine ⟨?_, fun id f hf => hgone id f (hpossible id f hf)⟩
    rw [length_append]
    omega
  tracked := htracked

theorem Inv.sync (h : Inv s) : Inv { s with store := s.store.sync } :=
  h.shrink [] [] (by rw [append_nil, nil_append]) (fun _ _ hf => possible_of_view hf.of_sync)
    (fun _ _ hf _ => settled_sync hf.lookup_view) h.tracked

/-- A segment put under the next number. -/
theorem Inv.put {s put : State} (h : Inv s) {sp : Spool} (hsp : s.spool = some sp) {call : Call}
    (hadmitted : call.Admitted) (hnext : sp.nextId + 1 < usizeBound)
    (hput : put = { s with
      store := s.store.record (.put sp.nextId (call.file s.history.calls.length))
      pending := none
      spool := some (sp.added (call.file s.history.calls.length) (sp.nextId + 1))
      history := s.history.called call }) : Inv put := by
  subst hput
  obtain ⟨htracked, hbelow⟩ := h.tracked sp hsp
  have hkeys : ∀ k, k ∈ (sp.added (call.file s.history.calls.length) (sp.nextId + 1)).entries.keys ↔
      k = sp.nextId ∨ k ∈ sp.entries.keys := fun k => mem_keys_insert
  refine ⟨fun id f hf => ?_, fun i j f g hf hg horigin => ?_, fun k hk hretired => ?_, fun k hk => ?_,
    fun sp' hsp' => ?_⟩
  · rcases hf.of_record with hf | hf
    · obtain ⟨hid, call', hcall, hrest⟩ := h.whole id f hf
      exact ⟨hid, call', getElem?_append_some [call] hcall, hrest⟩
    · obtain ⟨rfl, rfl⟩ := Op.put.inj hf
      exact ⟨hnext, call, List.getElem?_concat_length, hadmitted, rfl⟩
  · -- the new segment's call is younger than every other
    rcases hf.of_record with hf | hf <;> rcases hg.of_record with hg | hg
    · exact h.unique i j f g hf hg horigin
    · obtain ⟨rfl, rfl⟩ := Op.put.inj hg
      exact absurd horigin (Nat.ne_of_lt (h.origin_lt hf))
    · obtain ⟨rfl, rfl⟩ := Op.put.inj hf
      exact absurd horigin.symm (Nat.ne_of_lt (h.origin_lt hg))
    · exact (Op.put.inj hf).1.symm.trans (Op.put.inj hg).1
  · obtain ⟨id, f, hf, rfl⟩ := h.kept k hk hretired
    have hid := hbelow id (htracked id f hf.lookup_view)
    exact ⟨id, f, hf.record (Nat.ne_of_gt hid), rfl⟩
  · obtain ⟨hlt, hgone⟩ := h.gone k hk
    refine ⟨?_, fun id f hf => ?_⟩
    · show k < (s.history.calls ++ [call]).length
      rw [length_append]
      omega
    · rcases hf.of_record with hf | hf
      · exact hgone id f hf
      · obtain ⟨rfl, rfl⟩ := Op.put.inj hf
        exact Nat.ne_of_gt hlt
  · obtain rfl := Option.some.inj hsp'
    refine ⟨fun id f hf => (hkeys id).mpr ?_, fun id hid => ?_⟩
    · rw [CrashStore.Store.view_record] at hf
      rcases Op.lookup_apply_some hf with hf | hf
      · exact .inl (Op.put.inj hf).1.symm
      · exact .inr (htracked id f hf)
    · show id < sp.nextId + 1
      rcases (hkeys id).mp hid with rfl | hid
      · omega
      · have := hbelow id hid
        omega

theorem Inv.append (h : Inv s) (hcount : 1 ≤ call.count ∧ call.count ≤ 4096) (fault : Option AppendFault) :
    Inv (s.append call fault).1 := by
  rcases append_cases s hcount fault with ⟨pending, calls, e, heq⟩ | ⟨hadmitted, sp, hsp, hnext, put, hput, heq | heq⟩
  · rw [heq]
    exact h.shrink calls [] rfl (fun _ _ hf => hf) (fun _ _ hf _ => hf) h.tracked
  · rw [heq]
    exact h.put hsp hadmitted hnext hput
  · rw [heq]
    have hinv := (h.put hsp hadmitted hnext hput).sync
    refine ⟨hinv.whole, hinv.unique, fun k hk hretired => ?_, hinv.gone, hinv.tracked⟩
    rcases mem_cons.mp hk with rfl | hk
    · refine ⟨sp.nextId, call.file s.history.calls.length, settled_sync ?_, rfl⟩
      rw [hput]
      rw [CrashStore.Store.view_record]
      exact AList.lookup_insert _
    · exact hinv.kept k hk hretired

theorem Inv.ack (h : Inv s) (id : Nat) (fault : Option Fault) : Inv (s.ack id fault).1 := by
  rcases ack_cases s id fault with ⟨origin, e, heq⟩ | ⟨sp, f, hsp, hf, hack⟩
  · rw [heq]
    exact h.shrink [] _ (by rw [append_nil]; rfl) (fun _ _ hf => hf) (fun _ _ hf _ => hf) h.tracked
  obtain ⟨htracked, hbelow⟩ := h.tracked sp hsp
  have hview : ∀ i g, (s.store.record (.remove id)).view.lookup i = some g →
      i ≠ id ∧ s.store.view.lookup i = some g := by
    intro i g hg
    rw [CrashStore.Store.view_record] at hg
    refine ⟨?_, (Op.lookup_apply_some hg).resolve_left nofun⟩
    rintro rfl
    rw [Op.apply, AList.lookup_erase] at hg
    cases hg
  -- the removal itself, with its segment retired
  have hremove : Inv { s with
      store := s.store.record (.remove id), history := s.history.noteAck (some f.origin) false } := by
    refine h.shrink [] [f.origin] (by rw [append_nil]; rfl) (fun i g hg => ?_) (fun i g hg hne => ?_)
      fun sp' hsp' => ?_
    · exact hg.of_record.resolve_right nofun
    · refine hg.record fun hi => hne ?_
      obtain rfl : id = i := hi
      rw [mem_singleton, Option.some.inj (hg.lookup_view.symm.trans hf)]
    · obtain rfl := Option.some.inj (hsp.symm.trans hsp')
      exact ⟨fun i g hg => htracked i g (hview i g hg).2, hbelow⟩
  rcases hack with heq | heq
  · rw [heq]
    exact hremove
  · rw [heq]
    have hinv := hremove.sync
    refine ⟨hinv.whole, hinv.unique, hinv.kept, fun k hk => ?_, fun sp' hsp' => ?_⟩
    · rcases mem_cons.mp hk with rfl | hk
      · refine ⟨h.origin_lt (possible_of_view hf), fun i g hg heq => ?_⟩
        obtain ⟨hne, hg⟩ := hview i g hg.of_sync
        exact hne (h.unique i id g f (possible_of_view hg) (possible_of_view hf) heq)
      · exact hinv.gone k hk
    · obtain rfl := Option.some.inj hsp'
      refine ⟨fun i g hg => mem_keys_erase.mpr ?_, fun i hi =>
        hbelow i (mem_keys_erase.mp hi).2⟩
      obtain ⟨hne, hg⟩ := hview i g hg
      exact ⟨hne, htracked i g hg⟩

theorem Inv.addExpired (h : Inv s) (count : Nat) : Inv (s.addExpired count) := by
  refine h.shrink [] [] (by rw [append_nil, nil_append]; rfl) (fun _ _ hf => hf)
    (fun _ _ hf _ => hf) fun sp' hsp' => ?_
  obtain ⟨sp, hsp, rfl⟩ := map_eq_some_iff.mp hsp'
  exact h.tracked sp hsp

/-- A property of states that `ack` and counting expired entries keep, `front` keeps. -/
theorem frontLoop_keeps {P : State → Prop} (hack : ∀ s id fault, P s → P (s.ack id fault).1)
    (hexpired : ∀ s count, P s → P (s.addExpired count)) (now : Nat) (faults : Nat → Option Fault) (fuel : Nat)
    (h : P s) : P (s.frontLoop now faults fuel).1 := by
  induction fuel generalizing s with
  | zero => exact h
  | succ fuel ih =>
    rw [frontLoop]
    split
    · exact h
    split
    · exact h
    next id _ _ =>
    split
    · exact h
    split
    · exact h
    split
    · exact h
    split
    · exact h
    split
    next s' e heq => exact (congrArg (fun r => P r.1) heq).mp (hack s id (faults id) h)
    next s' heq =>
      exact ih (hexpired s' _ ((congrArg (fun r => P r.1) heq).mp (hack s id (faults id) h)))

/-- What `front` returns is the first entry, read from its segment. -/
theorem frontLoop_ok {now : Nat} {faults : Nat → Option Fault} {fuel : Nat} {entry : Entry}
    (h : s.frontLoop now faults fuel = (s', .ok (some entry))) :
    ∃ sp size f created, s'.spool = some sp ∧ sp.entries.first? = some (entry.id, size) ∧
      s'.store.view.lookup entry.id = some f ∧ readEntry f.bytes entry.id = .ok (created, entry) := by
  induction fuel generalizing s with
  | zero => cases h
  | succ fuel ih =>
    rw [frontLoop] at h
    split at h
    · cases h
    next sp hsp =>
    split at h
    · cases h
    next id size hfirst =>
    split at h
    · cases h
    split at h
    · cases h
    next f hf =>
    split at h
    · cases h
    next created entry' hread =>
    split at h
    · obtain ⟨rfl, hentry⟩ := Prod.mk.inj h
      obtain rfl : entry' = entry := Option.some.inj (Except.ok.inj hentry)
      have hid : entry'.id = id := by
        rw [readEntry] at hread
        split at hread
        · cases hread
        dsimp only at hread
        split at hread
        · cases hread
        · rw [← (Prod.mk.inj (Except.ok.inj hread)).2]
      subst hid
      exact ⟨sp, size, f, created, hsp, hfirst, hf, hread⟩
    · split at h
      · cases h
      · exact ih h

/-- The turns `front` grants its loop are enough. -/
theorem frontLoop_fuel (now : Nat) (faults : Nat → Option Fault) {fuel : Nat} (extra : Nat) (h : s.entryCount < fuel) :
    s.frontLoop now faults (fuel + extra) = s.frontLoop now faults fuel := by
  induction fuel generalizing s with
  | zero => omega
  | succ fuel ih =>
    rw [Nat.add_right_comm, frontLoop, frontLoop]
    split
    · rfl
    next sp hsp =>
    split
    · rfl
    next id size hfirst =>
    split
    · rfl
    split
    · rfl
    split
    · rfl
    split
    · rfl
    rcases ack_cases s id (faults id) with ⟨origin, e, heq⟩ | ⟨sp', f, hsp', hf, heq | heq⟩ <;> rw [heq]
    obtain rfl := Option.some.inj (hsp.symm.trans hsp')
    refine ih ?_
    have hlt := length_erase_lt (SortedMap.first?_mem hfirst)
    have hcount : s.entryCount = sp.entries.entries.length := by rw [entryCount, hsp]; rfl
    exact Nat.lt_of_lt_of_le hlt (by omega)

theorem open_cases (s : State) (names : List Bytes) (limits : Limits) (faults : Bytes → Option Fault) :
    (∃ s' e, s.open names limits faults = (s', .error e) ∧
      (s'.store = s.store ∨ s'.store = s.store.sync) ∧ s'.spool = s.spool ∧ s'.history = s.history) ∨
    (∃ s' sp', s.spool = none ∧ s.open names limits faults = ({ s' with spool := some sp' }, .ok ()) ∧
      (s'.store = s.store ∨ s'.store = s.store.sync) ∧ s'.history = s.history ∧
      Opened names s' ⟨SortedMap.empty, 0, 0, limits, 0⟩ sp') := by
  rw [State.open]
  split
  · exact .inl ⟨_, _, rfl, .inl rfl, rfl, rfl⟩
  next hclosed =>
  have hclosed : s.spool = none := by simpa using hclosed
  split
  · exact .inl ⟨_, _, rfl, .inl rfl, rfl, rfl⟩
  obtain ⟨hstore, hspool, hhistory⟩ := openLoop_store faults names s ⟨SortedMap.empty, 0, 0, limits, 0⟩
  split
  next s' e heq =>
    rw [heq] at hstore hspool hhistory
    exact .inl ⟨s', e, rfl, hstore, hspool, hhistory⟩
  next s' sp' heq =>
    rw [heq] at hstore hspool hhistory
    exact .inr ⟨s', sp', hclosed, rfl, hstore, hhistory, openLoop_ok heq⟩

omit [Checksum] in
theorem filename_mem_listing (h : s.store.view.lookup id = some f) : filename id ∈ s.listing := by
  refine mem_append_right _ (mem_map_of_mem ?_)
  exact AList.mem_keys.mp (AList.lookup_isSome.mp (isSome_of_eq_some h))

section

variable (h : store' = store ∨ store' = store.sync)

omit [Checksum]
include h

/-- The directory behind `open`, synced or not, shows what it showed. -/
theorem view_of_synced :
    store'.view = store.view := by
  rcases h with rfl | rfl <;> rfl

theorem possible_of_synced (hf : Possible store' id f) : Possible store id f := by
  rcases h with rfl | rfl
  · exact hf
  · exact possible_of_view hf.of_sync

theorem settled_of_synced (hf : Settled store id f) : Settled store' id f := by
  rcases h with rfl | rfl
  · exact hf
  · exact settled_sync hf.lookup_view

end

theorem Inv.open (h : Inv s) (hnames : names.Perm s.listing) (limits : Limits) (faults : Bytes → Option Fault) :
    Inv (s.open names limits faults).1 := by
  rcases open_cases s names limits faults with
    ⟨s', e, heq, hstore, hspool, hhistory⟩ | ⟨s', sp', hclosed, heq, hstore, hhistory, hopened⟩
  · rw [heq]
    refine h.shrink [] [] (by rw [append_nil, nil_append, hhistory]) (fun _ _ => possible_of_synced hstore)
      (fun _ _ hf _ => settled_of_synced hstore hf) fun sp hsp => ?_
    rw [hspool] at hsp
    rw [view_of_synced hstore]
    exact h.tracked sp hsp
  · rw [heq]
    refine h.shrink [] [] (by rw [append_nil, nil_append]; exact hhistory)
      (fun _ _ => possible_of_synced hstore) (fun _ _ hf _ => settled_of_synced hstore hf) fun sp hsp => ?_
    obtain rfl := Option.some.inj hsp
    refine ⟨fun id f hf => ?_, hopened.below fun id hid => (not_mem_nil hid).elim⟩
    have hf : s.store.view.lookup id = some f := (view_of_synced hstore) ▸ hf
    have hid := (h.whole id f (possible_of_view hf)).1
    exact hopened.segments id (by omega) (hnames.symm.subset (filename_mem_listing hf))

theorem Inv.crash (h : Inv s) {kept : List (Op Nat File)} (hkept : kept.Sublist s.store.unsynced)
    (pending : Option Bytes) : Inv (s.crash kept pending) :=
  h.shrink [] [] (by rw [append_nil, nil_append]; rfl) (fun _ _ hf => hf.of_crash hkept)
    (fun _ _ hf _ => hf.crash hkept) nofun

theorem Inv.close (h : Inv s) : Inv s.close :=
  h.shrink [] [] (by rw [append_nil, nil_append]; rfl) (fun _ _ hf => hf) (fun _ _ hf _ => hf) nofun

omit [Checksum] in
theorem not_possible_initial (id : Nat) (f : File) : ¬ Possible State.initial.store id f := by
  rintro (hf | hf) <;> cases hf

theorem Inv.initial : Inv State.initial :=
  ⟨fun id f hf => (not_possible_initial id f hf).elim, fun i _ f _ hf => (not_possible_initial i f hf).elim, nofun,
    nofun, nofun⟩

theorem Inv.front (h : Inv s) (now : Nat) (faults : Nat → Option Fault) : Inv (s.front now faults).1 :=
  frontLoop_keeps (fun _ id fault hs => hs.ack id fault) (fun _ count hs => hs.addExpired count) now faults _ h

theorem Inv.step (h : Inv s) {st : Step} (allowed : st.Allowed s) : Inv (s.step st) := by
  cases st with
  | «open» names limits faults => exact h.open allowed limits faults
  | append call fault => exact h.append allowed fault
  | front now faults => exact h.front now faults
  | ack id fault => exact h.ack id fault
  | close => exact h.close
  | crash kept pending => exact h.crash allowed pending

theorem inv_of_run (h : Run condition s) : Inv s := by
  induction h with
  | initial => exact Inv.initial
  | step _ st allowed _ ih => exact ih.step allowed

/-! ## Nothing is lost, invented or repeated -/

/-- What a run keeps whatever fails and whatever a crash loses. -/
structure Lossless (s : State) : Prop where
  /-- a request that was committed and not retired is in every spool that is open, and reads back -/
  present : ∀ k ∈ s.history.committed, k ∉ s.history.retired → ∀ sp, s.spool = some sp →
    ∃ id ∈ sp.entries.keys, ∃ f call created, s.store.view.lookup id = some f ∧ f.origin = k ∧
      s.history.calls[k]? = some call ∧
      readEntry f.bytes id = .ok (created, ⟨id, call.count, call.body⟩)
  /-- what `front` returns is the body and count of one call, which was not acknowledged -/
  delivered : ∀ now faults s' entry, s.front now faults = (s', .ok (some entry)) →
    ∃ f call, s'.store.view.lookup entry.id = some f ∧ s'.history.calls[f.origin]? = some call ∧
      entry.count = call.count ∧ entry.body = call.body ∧ f.origin ∉ s'.history.acknowledged

theorem Inv.readEntry_eq (h : Inv s) (hf : s.store.view.lookup id = some f) :
    ∃ call created, s.history.calls[f.origin]? = some call ∧
      readEntry f.bytes id = .ok (created, ⟨id, call.count, call.body⟩) := by
  obtain ⟨-, call, hcall, hadmitted, hfile⟩ := h.whole id f (possible_of_view hf)
  refine ⟨call, call.now % 256 ^ 8, hcall, ?_⟩
  rw [hfile]
  exact readEntry_segmentBytes call.now id hadmitted.body hadmitted.size hadmitted.count

/-- **Committed requests survive, and nothing else is delivered**, in every run. -/
theorem lossless_of_run (h : Run condition s) : Lossless s := by
  have hinv := inv_of_run h
  refine ⟨fun k hk hretired sp hsp => ?_, fun now faults s' entry hfront => ?_⟩
  · obtain ⟨id, f, hf, rfl⟩ := hinv.kept k hk hretired
    obtain ⟨call, created, hcall, hread⟩ := hinv.readEntry_eq hf.lookup_view
    exact ⟨id, (hinv.tracked sp hsp).1 id f hf.lookup_view, f, call, created, hf.lookup_view, rfl, hcall, hread⟩
  · have hinv' : Inv s' := by
      have := hinv.front now faults
      rwa [hfront] at this
    obtain ⟨sp, size, f, created, -, -, hf, hread⟩ := frontLoop_ok hfront
    obtain ⟨call, created', hcall, hread'⟩ := hinv'.readEntry_eq hf
    have hentry := (Prod.mk.inj (Except.ok.inj (hread.symm.trans hread'))).2
    refine ⟨f, call, hf, hcall, by rw [hentry], by rw [hentry], fun hack => ?_⟩
    exact (hinv'.gone f.origin hack).2 entry.id f (possible_of_view hf) rfl

/-! ## Order -/

/-- What `front` returns is the oldest request there is. -/
def InOrder (s : State) : Prop :=
  ∀ now faults s' entry, s.front now faults = (s', .ok (some entry)) →
    ∀ f, s'.store.view.lookup entry.id = some f →
      ∀ id g, s'.store.view.lookup id = some g → f.origin ≤ g.origin

structure Consistent (s : State) : Prop where
  lossless : Lossless s
  inOrder : InOrder s

/-- An `open` that finds no removal of a segment unsynced, or will sync the directory to remove the
pending file. -/
def OpensSynced (s : State) : Step → Prop
  | .open .. => s.pending.isSome ∨ ∀ id, .remove id ∉ s.store.unsynced
  | _ => True

/-- Numbers are given in the order of the calls, also to what only a crash would bring back. -/
structure Ordered (s : State) : Prop where
  order : ∀ i j f g, Possible s.store i f → Possible s.store j g → i < j → f.origin < g.origin
  below : ∀ sp, s.spool = some sp → ∀ i f, Possible s.store i f → i < sp.nextId

omit [Checksum] in
theorem Ordered.shrink (h : Ordered s) (hpossible : ∀ id f, Possible s'.store id f → Possible s.store id f)
    (hbelow : ∀ sp, s'.spool = some sp → ∀ i f, Possible s.store i f → i < sp.nextId) : Ordered s' where
  order i j f g hf hg := h.order i j f g (hpossible i f hf) (hpossible j g hg)
  below sp hsp i f hf := hbelow sp hsp i f (hpossible i f hf)

omit [Checksum] in
theorem Ordered.sync (h : Ordered s) : Ordered { s with store := s.store.sync } :=
  h.shrink (fun _ _ => possible_of_synced (.inr rfl)) h.below

theorem Ordered.append (h : Ordered s) (hinv : Inv s) (hcount : 1 ≤ call.count ∧ call.count ≤ 4096)
    (fault : Option AppendFault) : Ordered (s.append call fault).1 := by
  rcases append_cases s hcount fault with ⟨pending, calls, e, heq⟩ | ⟨hadmitted, sp, hsp, hnext, put, hput, heq⟩
  · rw [heq]
    exact h.shrink (fun _ _ hf => hf) h.below
  · have hordered : Ordered put := by
      subst hput
      refine ⟨fun i j f g hf hg hij => ?_, fun sp' hsp' i f hf => ?_⟩
      · rcases hf.of_record with hf | hf <;> rcases hg.of_record with hg | hg
        · exact h.order i j f g hf hg hij
        · obtain ⟨rfl, rfl⟩ := Op.put.inj hg
          exact hinv.origin_lt hf
        · obtain ⟨rfl, rfl⟩ := Op.put.inj hf
          have := h.below sp hsp j g hg
          omega
        · have := (Op.put.inj hf).1.symm.trans (Op.put.inj hg).1
          omega
      · obtain rfl := Option.some.inj hsp'
        show i < sp.nextId + 1
        rcases hf.of_record with hf | hf
        · have := h.below sp hsp i f hf
          omega
        · obtain ⟨rfl, rfl⟩ := Op.put.inj hf
          omega
    rcases heq with heq | heq <;> rw [heq]
    · exact hordered
    · exact hordered.sync.shrink (fun _ _ hf => hf) hordered.sync.below

omit [Checksum] in
theorem Ordered.ack (h : Ordered s) (id : Nat) (fault : Option Fault) : Ordered (s.ack id fault).1 := by
  rcases ack_cases s id fault with ⟨origin, e, heq⟩ | ⟨sp, f, hsp, hf, hack⟩
  · rw [heq]
    exact h.shrink (fun _ _ hf => hf) h.below
  have hremove : ∀ i f, Possible (s.store.record (.remove id)) i f → Possible s.store i f :=
    fun i f hf => hf.of_record.resolve_right nofun
  rcases hack with heq | heq
  · rw [heq]
    exact h.shrink hremove h.below
  · rw [heq]
    refine h.shrink (fun i f hf => hremove i f (possible_of_synced (.inr rfl) hf)) fun sp' hsp' => ?_
    obtain rfl := Option.some.inj hsp'
    exact h.below sp hsp

omit [Checksum] in
theorem Ordered.addExpired (h : Ordered s) (count : Nat) : Ordered (s.addExpired count) := by
  refine h.shrink (fun _ _ hf => hf) fun sp' hsp' => ?_
  obtain ⟨sp, hsp, rfl⟩ := map_eq_some_iff.mp hsp'
  exact h.below sp hsp

theorem Ordered.front (h : Ordered s) (now : Nat) (faults : Nat → Option Fault) : Ordered (s.front now faults).1 :=
  frontLoop_keeps (fun _ id fault hs => hs.ack id fault) (fun _ count hs => hs.addExpired count) now faults _ h

/-- `open` numbers above everything a crash may bring back, if it finds no removal unsynced. -/
theorem Ordered.open (h : Ordered s) (hinv : Inv s) (hnames : names.Perm s.listing) (limits : Limits)
    (faults : Bytes → Option Fault) (hsynced : s.pending.isSome ∨ ∀ id, .remove id ∉ s.store.unsynced) :
    Ordered (s.open names limits faults).1 := by
  have hinv' := hinv.open hnames limits faults
  rcases open_cases s names limits faults with
    ⟨s', e, heq, hstore, hspool, -⟩ | ⟨s', sp', -, heq, hstore, -, hopened⟩ <;> rw [heq] at hinv' ⊢
  · exact h.shrink (fun _ _ => possible_of_synced hstore) (hspool ▸ h.below)
  · refine ⟨fun i j f g hf hg => h.order i j f g (possible_of_synced hstore hf) (possible_of_synced hstore hg),
      fun sp hsp i f hf => ?_⟩
    obtain ⟨htracked, hbelow⟩ := hinv'.tracked sp hsp
    have hputs : ∀ id, .remove id ∉ s'.store.unsynced := by
      rcases hsynced with hpending | hputs
      · have hmem : text "pending.tmp" ∈ names := by
          refine hnames.symm.subset (mem_append_left _ (mem_append_right _ ?_))
          obtain ⟨bytes, hbytes⟩ := isSome_iff_exists.mp hpending
          rw [hbytes]
          exact mem_singleton.mpr rfl
        rw [hopened.synced hmem]
        exact fun _ => not_mem_nil
      · rcases hstore with hstore | hstore <;> rw [hstore]
        · exact hputs
        · exact fun _ => not_mem_nil
    obtain ⟨g, hg⟩ := isSome_iff_exists.mp (Possible.isSome_view hf hputs)
    exact hbelow i (htracked i g hg)

theorem Ordered.step (h : Ordered s) (hinv : Inv s) {st : Step} (allowed : st.Allowed s) (hsynced : OpensSynced s st) :
    Ordered (s.step st) := by
  cases st with
  | «open» names limits faults => exact h.open hinv allowed limits faults hsynced
  | append call fault => exact h.append hinv allowed fault
  | front now faults => exact h.front now faults
  | ack id fault => exact h.ack id fault
  | close => exact h.shrink (fun _ _ hf => hf) nofun
  | crash kept pending => exact h.shrink (fun _ _ hf => hf.of_crash allowed) nofun

theorem ordered_of_run (h : Run OpensSynced s) : Ordered s := by
  induction h with
  | initial => exact ⟨fun i _ f _ hf => (not_possible_initial i f hf).elim, nofun⟩
  | step h st allowed hsynced ih => exact ih.step (inv_of_run h) allowed hsynced

/-- **Crash consistency.** In every run in which no `open` finds a segment's removal unsynced, committed
requests survive every crash and every failing call, and `front` returns whole requests that were not
acknowledged, the oldest first. -/
theorem consistent_of_run {s : State} (h : Run OpensSynced s) : Consistent s := by
  refine ⟨lossless_of_run h, fun now faults s' entry hfront f hf id g hg => ?_⟩
  have hinv : Inv s' := by
    have := (inv_of_run h).front now faults
    rwa [hfront] at this
  have hordered : Ordered s' := by
    have := (ordered_of_run h).front now faults
    rwa [hfront] at this
  obtain ⟨sp, size, -, -, hsp, hfirst, -, -⟩ := frontLoop_ok hfront
  have hle : entry.id ≤ id := SortedMap.first?_le hfirst ((hinv.tracked sp hsp).1 id g hg)
  rcases Nat.lt_or_eq_of_le hle with hlt | heq
  · exact Nat.le_of_lt (hordered.order entry.id id f g (possible_of_view hf)
      (possible_of_view hg) hlt)
  · rw [heq] at hf
    rw [Option.some.inj (hf.symm.trans hg)]

/-! ## Concrete runs -/

instance (s : State) : (st : Step) → Decidable (st.Allowed s)
  | .open names _ _ => inferInstanceAs (Decidable (names.Perm s.listing))
  | .append call _ => inferInstanceAs (Decidable (1 ≤ call.count ∧ call.count ≤ 4096))
  | .crash kept _ => inferInstanceAs (Decidable (kept.Sublist s.store.unsynced))
  | .front .. => instDecidableTrue
  | .ack .. => instDecidableTrue
  | .close => instDecidableTrue

/-- The steps are allowed, and meet the condition, one after the other. -/
def Trace (condition : State → Step → Prop) : State → List Step → Prop
  | _, [] => True
  | s, st :: steps => st.Allowed s ∧ condition s st ∧ Trace condition (s.step st) steps

theorem Run.trace (h : Run condition s) {steps : List Step} (ht : Trace condition s steps) :
    Run condition (steps.foldl State.step s) := by
  induction steps generalizing s with
  | nil => exact h
  | cons st steps ih => exact ih (h.step st ht.1 ht.2.1) ht.2.2

/-- **Only the order depends on what `open` finds.** In every run, whatever fails and wherever it is cut off, committed
requests survive, and `front` returns whole requests that were not acknowledged. -/
theorem lossless_of_trace {steps : List Step} (h : Trace (fun _ _ => True) State.initial steps) :
    Lossless (steps.foldl State.step State.initial) :=
  lossless_of_run (Run.initial.trace h)

end checksum

/-- No checksum. -/
local instance : Checksum := ⟨fun _ => 0⟩

/-- A request is appended, another one's directory sync fails, the machine stops and the spool is
opened again. -/
theorem consistent_of_run_crash : Consistent ([
    .open [text "lock", text ".", text ".."] ⟨1024, 4, 1000⟩ fun _ => none,
    .append ⟨text "a", 1, 5⟩ none,
    .append ⟨text "b", 2, 6⟩ (some .syncDirectory),
    .crash [] none,
    .open [filename 0, text ".", text "..", text "lock"] ⟨1024, 4, 1000⟩ fun _ => none
    ].foldl State.step State.initial) := by
  refine consistent_of_run (Run.initial.trace ?_)
  refine ⟨by decide +kernel, .inr nofun, by decide +kernel, trivial, by decide +kernel, trivial,
    by decide +kernel, trivial, by decide +kernel, .inr ?_, trivial⟩
  exact fun id => not_mem_nil

theorem lossless_of_trace_crash : Lossless ([
    .open [text "lock", text ".", text ".."] ⟨1024, 4, 1000⟩ fun _ => none,
    .append ⟨text "a", 1, 5⟩ (some .syncDirectory),
    .crash [] none].foldl State.step State.initial) :=
  lossless_of_trace ⟨by decide +kernel, trivial, by decide +kernel, trivial, by decide +kernel, trivial, trivial⟩

/-- The run that reorders. The second request's removal is left unsynced, the process restarts, and the
spool, seeing no segment, gives number 0 to a third request whose directory sync fails. The crash keeps
that rename and loses the removal. -/
def reorderingSteps : List Step := [
  .open [text ".", text "..", text "lock"] ⟨1024, 4, 1000⟩ fun _ => none,
  .append ⟨text "w", 1, 0⟩ none,
  .append ⟨text "x", 1, 0⟩ none,
  .ack 0 none,
  .ack 1 (some .syncDirectory),
  .close,
  .open [text ".", text "..", text "lock"] ⟨1024, 4, 1000⟩ fun _ => none,
  .append ⟨text "y", 1, 0⟩ (some .syncDirectory),
  .crash [.put 0 ⟨segmentBytes (text "y") 1 0, 2⟩] none,
  .open [text ".", text "..", text "lock", filename 0, filename 1] ⟨1024, 4, 1000⟩ fun _ => none]

/-- `front` returns the third request although the second, which is older, is there as well. -/
theorem reordered_not_consistent :
    Run (fun _ _ => True) (reorderingSteps.foldl State.step State.initial) ∧
    ((reorderingSteps.foldl State.step State.initial).front 0 fun _ => none).2 =
      .ok (some ⟨0, 1, text "y"⟩) ∧
    ¬ Consistent (reorderingSteps.foldl State.step State.initial) := by
  have hfront : ((reorderingSteps.foldl State.step State.initial).front 0 fun _ => none).2 =
      .ok (some ⟨0, 1, text "y"⟩) := by decide +kernel
  refine ⟨Run.initial.trace ?_, hfront, fun h => ?_⟩
  · refine ⟨by decide +kernel, trivial, by decide +kernel, trivial, by decide +kernel, trivial, trivial,
      trivial, trivial, trivial, trivial, trivial, by decide +kernel, trivial, by decide +kernel, trivial,
      by decide +kernel, trivial, by decide +kernel, trivial, trivial⟩
  · have hsplit : ∀ (r : State × Except IoError (Option Entry)) (x), r.2 = x → r = (r.1, x) :=
      fun r x hr => by rw [← hr]
    have hle := h.inOrder 0 (fun _ => none) _ ⟨0, 1, text "y"⟩ (hsplit _ _ hfront)
      ⟨segmentBytes (text "y") 1 0, 2⟩ (by decide +kernel) 1 ⟨segmentBytes (text "x") 1 0, 1⟩
      (by decide +kernel)
    exact absurd hle (by decide)

end ENavigator.Durable
