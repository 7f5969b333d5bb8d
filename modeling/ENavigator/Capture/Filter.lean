import ENavigator.Lib.Runs
import ENavigator.Lib.SortedMap
import Mathlib.Algebra.Group.Nat.Defs
import Mathlib.Order.Nat

/-!
# The capture filter map

The controller publishes which verdict each cgroup should have. The applier of a source keeps a mirror of its eBPF map,
plans the difference and records in the mirror what could be written, so the mirror is the live map
(`mirror_applyDiff`), and both become the desired map exactly if nothing fails (`live_applyDiff_iff`). But it plans only
when the published generation has changed: what failed is tried again when something else is published, not before
(`converges_iff_retried`).
-/

namespace ENavigator.Capture

open List SortedMap

inductive CaptureDecision where
  | capture | drop
  deriving DecidableEq, Repr

def CaptureDecision.asFilterByte : CaptureDecision → UInt8
  | .capture => 1
  | .drop => 0

abbrev DesiredFilterMap := SortedMap Nat CaptureDecision

abbrev FilterBytes := SortedMap Nat UInt8

def byteEntries (desired : DesiredFilterMap) : FilterBytes := desired.mapValues CaptureDecision.asFilterByte

/-! ## The mirror -/

structure FilterMapDiff where
  upserts : List (Nat × UInt8)
  removals : List Nat

structure FilterMapMirror where
  current : FilterBytes := SortedMap.empty

namespace FilterMapMirror

def plan (mirror : FilterMapMirror) (desired : DesiredFilterMap) : FilterMapDiff where
  upserts := (byteEntries desired).entries.filter fun e => mirror.current.lookup e.1 ≠ some e.2
  removals := mirror.current.keys.filter fun cgroupId => (desired.lookup cgroupId).isNone

def recordUpsert (mirror : FilterMapMirror) (cgroupId : Nat) (byte : UInt8) : FilterMapMirror :=
  ⟨mirror.current.insert cgroupId byte⟩

def recordRemoval (mirror : FilterMapMirror) (cgroupId : Nat) : FilterMapMirror := ⟨mirror.current.erase cgroupId⟩

end FilterMapMirror

/-! ## Applying a difference -/

inductive MapOperation where
  | insert (cgroupId : Nat) (byte : UInt8)
  | remove (cgroupId : Nat)

structure Applied where
  live : FilterBytes
  mirror : FilterMapMirror
  failures : Nat := 0

variable (fails : MapOperation → Bool)

def upsert (a : Applied) (e : Nat × UInt8) : Applied :=
  if fails (.insert e.1 e.2) then { a with failures := a.failures + 1 }
  else { a with live := a.live.insert e.1 e.2, mirror := a.mirror.recordUpsert e.1 e.2 }

/-- A cgroup that is not in the map cannot be removed. -/
def removal (a : Applied) (cgroupId : Nat) : Applied :=
  if fails (.remove cgroupId) || (a.live.lookup cgroupId).isNone then { a with failures := a.failures + 1 }
  else { a with live := a.live.erase cgroupId, mirror := a.mirror.recordRemoval cgroupId }

def applyDiff (live : FilterBytes) (mirror : FilterMapMirror) (desired : DesiredFilterMap) : Applied :=
  let diff := mirror.plan desired
  diff.removals.foldl (removal fails) (diff.upserts.foldl (upsert fails) { live, mirror })

/-! ### One operation after the other -/

namespace MapOperation

def cgroupId : MapOperation → Nat
  | .insert cgroupId _ => cgroupId
  | .remove cgroupId => cgroupId

/-- What the operation leaves of its cgroup. -/
def target : MapOperation → Option UInt8
  | .insert _ byte => some byte
  | .remove _ => none

def effect (m : FilterBytes) : MapOperation → FilterBytes
  | .insert cgroupId byte => m.insert cgroupId byte
  | .remove cgroupId => m.erase cgroupId

theorem lookup_effect_self (m : FilterBytes) (op : MapOperation) : (effect m op).lookup op.cgroupId = op.target := by
  cases op with
  | insert cgroupId byte => exact lookup_insert_self m cgroupId byte
  | remove cgroupId => exact lookup_erase_self m cgroupId

theorem lookup_effect_of_ne {op : MapOperation} {k : Nat} (h : k ≠ op.cgroupId) (m : FilterBytes) :
    (effect m op).lookup k = m.lookup k := by
  cases op with
  | insert cgroupId byte => exact lookup_insert_of_ne h byte
  | remove cgroupId => exact lookup_erase_of_ne h

end MapOperation

def perform (a : Applied) : MapOperation → Applied
  | .insert cgroupId byte => upsert fails a (cgroupId, byte)
  | .remove cgroupId => removal fails a cgroupId

def FilterMapDiff.operations (diff : FilterMapDiff) : List MapOperation :=
  diff.upserts.map (fun e => .insert e.1 e.2) ++ diff.removals.map .remove

theorem applyDiff_eq (live : FilterBytes) (mirror : FilterMapMirror) (desired : DesiredFilterMap) :
    applyDiff fails live mirror desired = (mirror.plan desired).operations.foldl (perform fails) { live, mirror } := by
  rw [FilterMapDiff.operations, foldl_append, foldl_map, foldl_map]
  rfl

variable {a : Applied}

/-- An operation fails and is counted, or takes effect on both maps. -/
theorem perform_cases (a : Applied) (op : MapOperation) :
    perform fails a op = { a with failures := a.failures + 1 } ∨
      perform fails a op = { a with live := op.effect a.live, mirror := ⟨op.effect a.mirror.current⟩ } := by
  cases op with
  | insert cgroupId byte =>
    by_cases hfails : fails (.insert cgroupId byte) = true
    · exact .inl (if_pos hfails)
    · exact .inr (if_neg hfails)
  | remove cgroupId =>
    by_cases hfails : (fails (.remove cgroupId) || (a.live.lookup cgroupId).isNone) = true
    · exact .inl (if_pos hfails)
    · exact .inr (if_neg hfails)

theorem lookup_perform_of_ne {op : MapOperation} {k : Nat} (h : k ≠ op.cgroupId) (a : Applied) :
    (perform fails a op).live.lookup k = a.live.lookup k := by
  rcases perform_cases fails a op with hop | hop <;> rw [hop]
  exact MapOperation.lookup_effect_of_ne h a.live

theorem lookup_foldl_perform {ops : List MapOperation} {k : Nat} (h : ∀ op ∈ ops, k ≠ op.cgroupId) (a : Applied) :
    (ops.foldl (perform fails) a).live.lookup k = a.live.lookup k := by
  induction ops generalizing a with
  | nil => rfl
  | cons op ops ih =>
    rw [forall_mem_cons] at h
    rw [foldl_cons, ih h.2, lookup_perform_of_ne fails h.1]

variable {fails}

/-- Operations on different cgroups that are all needed: one has failed unless every cgroup is as it should be. -/
theorem failures_foldl_perform {ops : List MapOperation} (hdistinct : ops.Pairwise fun a b => a.cgroupId ≠ b.cgroupId)
    (hneeded : ∀ op ∈ ops, a.live.lookup op.cgroupId ≠ op.target) :
    a.failures ≤ (ops.foldl (perform fails) a).failures ∧
      ((ops.foldl (perform fails) a).failures = a.failures ↔
        ∀ op ∈ ops, (ops.foldl (perform fails) a).live.lookup op.cgroupId = op.target) := by
  induction ops generalizing a with
  | nil => exact ⟨Nat.le_refl _, by simp⟩
  | cons op ops ih =>
    obtain ⟨hop, hrest⟩ := pairwise_cons.mp hdistinct
    rw [forall_mem_cons] at hneeded
    have hothers : ∀ op' ∈ ops, (perform fails a op).live.lookup op'.cgroupId ≠ op'.target := by
      intro op' hop'
      rw [lookup_perform_of_ne fails (hop op' hop').symm]
      exact hneeded.2 op' hop'
    obtain ⟨hle, hiff⟩ := ih hrest hothers
    -- no later operation is on this cgroup
    have hlast := lookup_foldl_perform fails hop (perform fails a op)
    rw [foldl_cons, forall_mem_cons, hlast, ← hiff]
    rcases perform_cases fails a op with hfailed | hdone
    · rw [hfailed] at hle ⊢
      refine ⟨Nat.le_of_succ_le hle, fun h => absurd (h ▸ hle) (Nat.not_succ_le_self _), fun h => ?_⟩
      exact absurd h.1 hneeded.1
    · rw [hdone] at hle ⊢
      exact ⟨hle, fun h => ⟨op.lookup_effect_self a.live, h⟩, fun h => h.2⟩

/-! ### The plan -/

section plan

variable {mirror : FilterMapMirror} {desired : DesiredFilterMap} {op : MapOperation}

theorem lookup_byteEntries (desired : DesiredFilterMap) (cgroupId : Nat) :
    (byteEntries desired).lookup cgroupId = (desired.lookup cgroupId).map CaptureDecision.asFilterByte :=
  lookup_mapValues _ _ _

theorem mem_operations (h : op ∈ (mirror.plan desired).operations) :
    mirror.current.lookup op.cgroupId ≠ op.target ∧ (byteEntries desired).lookup op.cgroupId = op.target := by
  rcases mem_append.mp h with h | h
  · obtain ⟨e, he, rfl⟩ := mem_map.mp h
    obtain ⟨hentry, hne⟩ := mem_filter.mp he
    exact ⟨of_decide_eq_true hne, lookup_eq_some_iff.mpr hentry⟩
  · obtain ⟨k, hk, rfl⟩ := mem_map.mp h
    obtain ⟨hkey, hgone⟩ := mem_filter.mp hk
    refine ⟨fun hnone => lookup_eq_none_iff.mp hnone hkey, ?_⟩
    rw [MapOperation.cgroupId, lookup_byteEntries, Option.isNone_iff_eq_none.mp hgone]
    rfl

theorem operations_distinct (mirror : FilterMapMirror) (desired : DesiredFilterMap) :
    (mirror.plan desired).operations.Pairwise fun a b => a.cgroupId ≠ b.cgroupId := by
  refine pairwise_append.mpr ⟨pairwise_map.mpr ?_, pairwise_map.mpr ?_, ?_⟩
  · exact ((byteEntries desired).sorted.filter _).imp fun h => ne_of_lt h
  · exact mirror.current.nodup_keys.filter _
  · intro a ha b hb heq
    have hwritten := (mem_operations (mem_append_left _ ha)).2
    have hremoved := (mem_operations (mem_append_right _ hb)).2
    obtain ⟨e, -, rfl⟩ := mem_map.mp ha
    obtain ⟨k, -, rfl⟩ := mem_map.mp hb
    rw [heq, hremoved] at hwritten
    cases hwritten

theorem lookup_of_unplanned {k : Nat} (h : ∀ op ∈ (mirror.plan desired).operations, k ≠ op.cgroupId) :
    mirror.current.lookup k = (byteEntries desired).lookup k := by
  rcases hbyte : (byteEntries desired).lookup k with _ | byte
  · refine lookup_eq_none_iff.mpr fun hkey => ?_
    refine h (.remove k) (mem_append_right _ (mem_map_of_mem (mem_filter.mpr ⟨hkey, ?_⟩))) rfl
    rw [lookup_byteEntries, Option.map_eq_none_iff] at hbyte
    rw [hbyte]
    rfl
  · by_contra hne
    refine h (.insert k byte) (mem_append_left _ (mem_map.mpr ⟨(k, byte), mem_filter.mpr ⟨?_, ?_⟩, rfl⟩)) rfl
    · exact lookup_eq_some_iff.mp hbyte
    · exact decide_eq_true hne

variable {live : FilterBytes}

theorem mirror_applyDiff (h : mirror.current = live) (desired : DesiredFilterMap) :
    (applyDiff fails live mirror desired).mirror.current = (applyDiff fails live mirror desired).live := by
  rw [applyDiff_eq]
  refine List.foldlRecOn (motive := fun a : Applied => a.mirror.current = a.live) _ _ h fun a ha op _ => ?_
  rcases perform_cases fails a op with hop | hop <;> rw [hop]
  · exact ha
  · exact congrArg (MapOperation.effect · op) ha

/-- **The live map is the desired one exactly if no operation has failed.** -/
theorem live_applyDiff_iff (h : mirror.current = live) (desired : DesiredFilterMap) :
    (applyDiff fails live mirror desired).live = byteEntries desired ↔
      (applyDiff fails live mirror desired).failures = 0 := by
  subst h
  rw [applyDiff_eq]
  refine Iff.trans ?_ (failures_foldl_perform (a := { live := mirror.current, mirror })
    (operations_distinct mirror desired) fun op hop => (mem_operations hop).1).2.symm
  constructor
  · intro hlive op hop
    rw [hlive]
    exact (mem_operations hop).2
  · intro hdone
    refine ext_lookup fun k => ?_
    by_cases hplanned : ∃ op ∈ (mirror.plan desired).operations, k = op.cgroupId
    · obtain ⟨op, hop, rfl⟩ := hplanned
      rw [hdone op hop, (mem_operations hop).2]
    · have hother : ∀ op ∈ (mirror.plan desired).operations, k ≠ op.cgroupId :=
        fun op hop heq => hplanned ⟨op, hop, heq⟩
      rw [lookup_foldl_perform fails hother]
      exact lookup_of_unplanned hother

end plan

/-! ## The applier -/

structure Controller where
  generation : UInt64 := 0
  desired : DesiredFilterMap := SortedMap.empty

def Controller.publish (c : Controller) (desired : DesiredFilterMap) : Controller :=
  if c.desired = desired then c else { generation := c.generation + 1, desired }

structure Applier where
  controller : Controller := {}
  live : FilterBytes := SortedMap.empty
  mirror : FilterMapMirror := {}
  lastGeneration : Option UInt64 := none

inductive ApplierEvent where
  | publish (desired : DesiredFilterMap)
  /-- a turn of the loop, and the map operations that would fail in it -/
  | iterate (fails : MapOperation → Bool)

namespace Applier

def changed (s : Applier) : Bool := s.lastGeneration ≠ some s.controller.generation

def iterate (s : Applier) (fails : MapOperation → Bool) : Applier × Nat :=
  if s.changed then
    let applied := applyDiff fails s.live s.mirror s.controller.desired
    ({ s with
        lastGeneration := some s.controller.generation
        live := applied.live
        mirror := applied.mirror }, applied.failures)
  else (s, 0)

def step (s : Applier) : ApplierEvent → Applier
  | .publish desired => { s with controller := s.controller.publish desired }
  | .iterate fails => (s.iterate fails).1

/-- A turn in which no operation fails leaves the map that it has read. -/
def Converges (s : Applier) : ApplierEvent → Prop
  | .publish _ => True
  | .iterate fails => (s.iterate fails).2 = 0 → (s.iterate fails).1.live = byteEntries s.controller.desired

/-! ### Whole runs -/

def Mirrored (s : Applier) : Prop := s.mirror.current = s.live

theorem Mirrored.step {s : Applier} (h : s.Mirrored) (e : ApplierEvent) : (s.step e).Mirrored := by
  cases e with
  | publish desired => exact h
  | iterate fails =>
    show (s.iterate fails).1.Mirrored
    unfold iterate
    split
    · exact mirror_applyDiff h s.controller.desired
    · exact h

/-- The applier and what has happened to it: how many other maps were published since its last turn (`none` before
the first), and whether an operation failed in the last turn that followed such a publication. -/
structure Watched where
  applier : Applier := {}
  since : Option Nat := none
  failed : Bool := false

namespace Watched

def step (w : Watched) (e : ApplierEvent) : Watched where
  applier := w.applier.step e
  since := match e with
    | .publish desired => if w.applier.controller.desired = desired then w.since else w.since.map (· + 1)
    | .iterate _ => some 0
  failed := match e with
    | .publish _ => w.failed
    | .iterate fails => if w.since = some 0 then w.failed else (w.applier.iterate fails).2 ≠ 0

/-- A turn finds that another map was published since the last one, or that no operation failed in the turn that last
applied the published map. -/
def Retried (w : Watched) : ApplierEvent → Prop
  | .publish _ => True
  | .iterate _ => w.since ≠ some 0 ∨ w.failed = false

structure Kept (w : Watched) : Prop where
  mirrored : w.applier.Mirrored
  generation : w.applier.lastGeneration = w.since.map fun n => w.applier.controller.generation - UInt64.ofNat n
  applied : w.since = some 0 → (w.applier.live = byteEntries w.applier.controller.desired ↔ w.failed = false)

variable {w : Watched}

/-- The turns that plan are those that find another map published, as long as their count fits the generation. -/
theorem Kept.changed_iff (h : w.Kept) (hsince : w.since.getD 0 < 2 ^ 64) :
    w.applier.changed = true ↔ w.since ≠ some 0 := by
  unfold changed
  rw [decide_eq_true_iff, h.generation]
  cases hn : w.since with
  | none => simp
  | some n =>
    rw [hn, Option.getD_some] at hsince
    have hzero : UInt64.ofNat n = 0 ↔ n = 0 := by
      rw [UInt64.ofNat_eq_iff_mod_eq_toNat, Nat.mod_eq_of_lt hsince]
      rfl
    simp only [Option.map_some, ne_eq, Option.some.injEq, UInt64.sub_eq_iff_eq_add, UInt64.left_eq_add, hzero]

/-- A turn that finds nothing new does nothing; any other turn applies the published map. -/
theorem Kept.iterate_cases (h : w.Kept) (hsince : w.since.getD 0 < 2 ^ 64) (fails : MapOperation → Bool) :
    (w.since = some 0 ∧ w.applier.iterate fails = (w.applier, 0)) ∨
      (w.since ≠ some 0 ∧ (w.applier.iterate fails).1.lastGeneration = some w.applier.controller.generation ∧
        ((w.applier.iterate fails).1.live = byteEntries w.applier.controller.desired ↔
          (w.applier.iterate fails).2 = 0)) := by
  unfold iterate
  by_cases hnew : w.since = some 0
  · refine .inl ⟨hnew, if_neg fun hchanged => ?_⟩
    exact (h.changed_iff hsince).mp hchanged hnew
  · rw [if_pos ((h.changed_iff hsince).mpr hnew)]
    exact .inr ⟨hnew, rfl, live_applyDiff_iff h.mirrored _⟩

theorem controller_iterate (s : Applier) (fails : MapOperation → Bool) :
    (s.iterate fails).1.controller = s.controller := by
  unfold iterate
  split <;> rfl

theorem Kept.publish (h : w.Kept) (desired : DesiredFilterMap) : (w.step (.publish desired)).Kept := by
  by_cases hsame : w.applier.controller.desired = desired
  · have hstep : w.step (.publish desired) = w := by
      simp only [Watched.step, Applier.step, Controller.publish, if_pos hsame]
    rw [hstep]
    exact h
  · refine ⟨h.mirrored, ?_, ?_⟩
    · simp only [Watched.step, Applier.step, Controller.publish, if_neg hsame, h.generation, Option.map_map]
      congr 1
      funext n
      -- one publication more, and one generation more
      simp only [Function.comp_apply, UInt64.ofNat_add]
      grind
    · intro hzero
      simp [Watched.step, if_neg hsame] at hzero

theorem Kept.iterate (h : w.Kept) (hsince : w.since.getD 0 < 2 ^ 64) (fails : MapOperation → Bool) :
    (w.step (.iterate fails)).Kept := by
  obtain ⟨hnew, hidle⟩ | ⟨hnew, hgeneration, hlive⟩ := h.iterate_cases hsince fails
  · have hstep : w.step (.iterate fails) = w := by
      simp only [Watched.step, Applier.step, hidle, if_pos hnew]
      rw [← hnew]
    rw [hstep]
    exact h
  · refine ⟨h.mirrored.step _, ?_, fun _ => ?_⟩
    · show (w.applier.iterate fails).1.lastGeneration = some ((w.applier.iterate fails).1.controller.generation - 0)
      rw [hgeneration, controller_iterate, UInt64.sub_zero]
    · show (w.applier.iterate fails).1.live = byteEntries (w.applier.iterate fails).1.controller.desired ↔ _
      rw [controller_iterate, hlive]
      simp [Watched.step, hnew]

theorem Kept.step (h : w.Kept) (hsince : w.since.getD 0 < 2 ^ 64) (e : ApplierEvent) : (w.step e).Kept := by
  cases e with
  | publish desired => exact h.publish desired
  | iterate fails => exact h.iterate hsince fails

theorem Kept.converges_iff (h : w.Kept) (hsince : w.since.getD 0 < 2 ^ 64) (e : ApplierEvent) :
    w.applier.Converges e ↔ w.Retried e := by
  cases e with
  | publish desired => exact Iff.rfl
  | iterate fails =>
    show ((w.applier.iterate fails).2 = 0 → (w.applier.iterate fails).1.live = _) ↔ w.since ≠ some 0 ∨ w.failed = false
    obtain ⟨hnew, hidle⟩ | ⟨hnew, -, hlive⟩ := h.iterate_cases hsince fails
    · -- nothing is planned, so nothing fails and nothing changes
      rw [hidle, h.applied hnew]
      simp [hnew]
    · simp [hnew, hlive]

theorem since_step (w : Watched) (e : ApplierEvent) : (w.step e).since.getD 0 ≤ w.since.getD 0 + 1 := by
  cases e with
  | publish desired =>
    simp only [Watched.step]
    split
    · exact Nat.le_succ _
    · cases w.since <;> simp
  | iterate fails => exact Nat.zero_le _

/-- The induction is on the events: as many publications as are left still fit the generation. -/
theorem Kept.along_iff (h : w.Kept) (events : List ApplierEvent) (hbound : w.since.getD 0 + events.length < 2 ^ 64) :
    Along Applier.step Converges w.applier events ↔ Along Watched.step Retried w events := by
  induction events generalizing w with
  | nil => exact Iff.rfl
  | cons e events ih =>
    rw [length_cons] at hbound
    have hstep := since_step w e
    have hsince : w.since.getD 0 < 2 ^ 64 := by omega
    exact and_congr (h.converges_iff hsince e) (ih (h.step hsince e) (by omega))

theorem kept_start : ({} : Watched).Kept := ⟨rfl, rfl, fun h => by cases h⟩

end Watched

/-- **The map converges if what failed is published again.** In a run every turn without a failing operation leaves the
desired map exactly if each turn finds that another map was published since the last one, or that no operation failed in
the turn that last applied the published map. -/
theorem converges_iff_retried (events : List ApplierEvent) (hbound : events.length < 2 ^ 64) :
    Along Applier.step Converges {} events ↔ Along Watched.step Watched.Retried {} events :=
  Watched.kept_start.along_iff events (by simpa using hbound)

/-- A write fails; another map is published, and then everything can be written. -/
def publishedAgain : List ApplierEvent :=
  [.publish (SortedMap.empty.insert 7 .drop), .iterate fun _ => true,
    .publish ((SortedMap.empty.insert 7 .drop).insert 9 .capture), .iterate fun _ => false, .iterate fun _ => true]

theorem converges_publishedAgain :
    Along Watched.step Watched.Retried {} publishedAgain ∧ Along Applier.step Converges {} publishedAgain := by
  have hretried : Along Watched.step Watched.Retried {} publishedAgain :=
    ⟨trivial, .inl (by decide), trivial, .inl (by decide), .inr (by decide), trivial⟩
  exact ⟨hretried, (converges_iff_retried publishedAgain (by decide)).mpr hretried⟩

/-- One verdict is published, the write of it fails, and then writes would succeed again. -/
def failedOnce : List ApplierEvent :=
  [.publish (SortedMap.empty.insert 7 .drop), .iterate fun _ => true, .iterate fun _ => false]

theorem not_converges_failedOnce : ¬ Along Applier.step Converges {} failedOnce := by
  intro h
  have hlast : (SortedMap.empty : FilterBytes) = byteEntries (SortedMap.empty.insert 7 .drop) := h.2.2.1 rfl
  exact absurd hlast (by decide)

end Applier

end ENavigator.Capture
