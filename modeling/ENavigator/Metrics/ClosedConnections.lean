import Mathlib.Data.List.Perm.Subperm
import Mathlib.Data.Prod.Lex
import ENavigator.Lib.JsonText
import ENavigator.Signals.Network

/-!
# Closed connections

A connection's last snapshots can arrive after it closed. The network generator remembers closed connections for that,
and forgets the one that closed first when there are too many: `recency` orders the entries by the time they closed at.
-/

namespace ENavigator.Metrics.Network

open Signals List SortedMap
open scoped ByteOrder

structure ActiveConnectionKey where
  pid : Nat
  fd : Int
  remoteAddress : Bytes
  remotePort : Nat
  deriving DecidableEq, Repr

namespace ActiveConnectionKey

def fields (key : ActiveConnectionKey) : Nat ×ₗ Int ×ₗ Bytes ×ₗ Nat :=
  toLex (key.pid, toLex (key.fd, toLex (key.remoteAddress, key.remotePort)))

theorem fields_injective : Function.Injective fields := by
  rintro ⟨pid, fd, address, port⟩ ⟨pid', fd', address', port'⟩ h
  have h := Prod.mk.inj (toLex.injective h)
  have hrest := Prod.mk.inj (toLex.injective h.2)
  have hlast := Prod.mk.inj (toLex.injective hrest.2)
  obtain ⟨rfl, rfl⟩ : pid = pid' ∧ fd = fd' := ⟨h.1, hrest.1⟩
  obtain ⟨rfl, rfl⟩ : address = address' ∧ port = port' := hlast
  rfl

instance : LinearOrder ActiveConnectionKey := LinearOrder.lift' fields fields_injective

/-- `from_open`, `from_close` and `from_snapshot`, which read the same fields. -/
def fromConnection (event : ConnectionIdentity) : Option ActiveConnectionKey :=
  event.fd.map fun fd =>
    { pid := event.process.pid, fd, remoteAddress := event.remoteAddress, remotePort := event.remotePort }

end ActiveConnectionKey

structure ClosedConnectionState where
  openedAtUnixNanos : Option Nat
  closedAtUnixNanos : Nat

abbrev ClosedConnectionRecency := Nat ×ₗ ActiveConnectionKey

/-- The recency of exactly the entries. -/
def Synced (entries : SortedMap ActiveConnectionKey ClosedConnectionState)
    (recency : SortedMap ClosedConnectionRecency Unit) : Prop :=
  ∀ closedAt key, toLex (closedAt, key) ∈ recency.keys ↔
    ∃ state, entries.lookup key = some state ∧ state.closedAtUnixNanos = closedAt

structure ClosedConnectionCache where
  entries : SortedMap ActiveConnectionKey ClosedConnectionState := .empty
  recency : SortedMap ClosedConnectionRecency Unit := .empty
  synced : Synced entries recency := by exact fun _ _ => ⟨nofun, nofun⟩

section synced

variable {entries : SortedMap ActiveConnectionKey ClosedConnectionState}
  {recency : SortedMap ClosedConnectionRecency Unit} {key : ActiveConnectionKey} {state : ClosedConnectionState}

theorem Synced.erase (h : Synced entries recency) (hkey : entries.lookup key = some state) :
    Synced (entries.erase key) (recency.erase (toLex (state.closedAtUnixNanos, key))) := by
  intro closedAt key'
  rw [mem_keys_erase, h closedAt key']
  by_cases hsame : key' = key
  · -- The erased entry has no other recency.
    subst hsame
    rw [lookup_erase_self, hkey]
    constructor
    · rintro ⟨hne, state', hstate', rfl⟩
      cases hstate'
      exact absurd rfl hne
    · rintro ⟨_, hnone, _⟩
      cases hnone
  · rw [lookup_erase_of_ne hsame]
    refine and_iff_right ?_
    intro heq
    exact hsame (congrArg (fun r : ClosedConnectionRecency => (ofLex r).2) heq)

theorem Synced.insert (h : Synced entries recency) (hkey : entries.lookup key = none) (state : ClosedConnectionState) :
    Synced (entries.insert key state) (recency.insert (toLex (state.closedAtUnixNanos, key)) ()) := by
  intro closedAt key'
  rw [mem_keys_insert, h closedAt key']
  by_cases hsame : key' = key
  · subst hsame
    rw [lookup_insert_self, hkey]
    constructor
    · rintro (heq | ⟨_, hnone, _⟩)
      · exact ⟨state, rfl, congrArg (fun r : ClosedConnectionRecency => (ofLex r).1) heq.symm⟩
      · cases hnone
    · rintro ⟨state', hstate', rfl⟩
      cases hstate'
      exact .inl rfl
  · rw [lookup_insert_of_ne hsame]
    refine or_iff_right ?_
    intro heq
    exact hsame (congrArg (fun r : ClosedConnectionRecency => (ofLex r).2) heq)

end synced

namespace ClosedConnectionCache

def remove (cache : ClosedConnectionCache) (key : ActiveConnectionKey) : ClosedConnectionCache :=
  match hkey : cache.entries.lookup key with
  | none => cache
  | some state =>
    { entries := cache.entries.erase key
      recency := cache.recency.erase (toLex (state.closedAtUnixNanos, key))
      synced := cache.synced.erase hkey }

variable (cache : ClosedConnectionCache)

theorem lookup_remove_self (key : ActiveConnectionKey) :
    (cache.remove key).entries.lookup key = none := by
  unfold remove
  split
  next hkey => exact hkey
  next => exact lookup_erase_self _ _

theorem lookup_remove_of_ne {key key' : ActiveConnectionKey} (h : key' ≠ key) :
    (cache.remove key).entries.lookup key' = cache.entries.lookup key' := by
  unfold remove
  split
  next => rfl
  next => exact lookup_erase_of_ne h

theorem length_remove_le (key : ActiveConnectionKey) :
    (cache.remove key).entries.entries.length ≤ cache.entries.entries.length := by
  unfold remove
  split
  next => exact le_rfl
  next => exact length_filter_le _ _

/-- The entry that closed first, by the recency of the cache. -/
def oldest? (cache : ClosedConnectionCache) : Option ClosedConnectionRecency := cache.recency.first?.map Prod.fst

/-- The loop that makes room; it pops one recency at a time. -/
def evict (maxEntries : Nat) : Nat → ClosedConnectionCache → ClosedConnectionCache
  | 0, cache => cache
  | fuel + 1, cache =>
    if maxEntries < cache.entries.entries.length then
      match cache.oldest? with
      -- Popping the recency and removing its entry is removing that entry: the two are in step.
      | some oldest => evict maxEntries fuel (cache.remove (ofLex oldest).2)
      | none => cache
    else cache

/-- The part of `insert` before the loop. -/
def add (cache : ClosedConnectionCache) (key : ActiveConnectionKey) (state : ClosedConnectionState) :
    ClosedConnectionCache :=
  { entries := (cache.remove key).entries.insert key state
    recency := (cache.remove key).recency.insert (toLex (state.closedAtUnixNanos, key)) ()
    synced := (cache.remove key).synced.insert (cache.lookup_remove_self key) state }

def insert (cache : ClosedConnectionCache) (key : ActiveConnectionKey) (state : ClosedConnectionState)
    (maxEntries : Nat) : ClosedConnectionCache :=
  (cache.add key state).evict maxEntries (cache.add key state).recency.entries.length

section oldest

variable {cache : ClosedConnectionCache} {oldest : ClosedConnectionRecency} {key : ActiveConnectionKey}
  {state : ClosedConnectionState}

theorem mem_recency (h : cache.entries.lookup key = some state) :
    toLex (state.closedAtUnixNanos, key) ∈ cache.recency.keys :=
  (cache.synced _ _).mpr ⟨state, h, rfl⟩

theorem oldest?_le (h : cache.oldest? = some oldest) (hkey : cache.entries.lookup key = some state) :
    oldest ≤ toLex (state.closedAtUnixNanos, key) := by
  obtain ⟨e, he, rfl⟩ := Option.map_eq_some_iff.mp h
  exact first?_le he (mem_recency hkey)

theorem mem_keys_of_oldest? (h : cache.oldest? = some oldest) : (ofLex oldest).2 ∈ cache.entries.keys := by
  obtain ⟨e, he, rfl⟩ := Option.map_eq_some_iff.mp h
  obtain ⟨state, hstate, -⟩ := (cache.synced (ofLex e.1).1 (ofLex e.1).2).mp (first?_mem he)
  exact mem_map_of_mem (mem_entries_of_lookup hstate)

theorem length_remove_lt (h : key ∈ cache.entries.keys) :
    (cache.remove key).entries.entries.length < cache.entries.entries.length := by
  unfold remove
  split
  next hnone => exact absurd h (lookup_eq_none_iff.mp hnone)
  next => exact length_erase_lt h

end oldest

theorem evict_of_length_le {maxEntries : Nat} {cache : ClosedConnectionCache}
    (h : cache.entries.entries.length ≤ maxEntries) (fuel : Nat) : cache.evict maxEntries fuel = cache := by
  cases fuel with
  | zero => rfl
  | succ fuel => exact if_neg (Nat.not_lt.mpr h)

/-- One entry too many costs the oldest one. -/
theorem lookup_evict_of_older {maxEntries fuel : Nat} {cache : ClosedConnectionCache} {key : ActiveConnectionKey}
    {state : ClosedConnectionState} (hlength : cache.entries.entries.length ≤ maxEntries + 1)
    (hkey : cache.entries.lookup key = some state)
    (hroom : cache.entries.entries.length ≤ maxEntries ∨ ∃ key' state', cache.entries.lookup key' = some state' ∧
      toLex (state'.closedAtUnixNanos, key') < toLex (state.closedAtUnixNanos, key)) :
    (cache.evict maxEntries fuel).entries.lookup key = some state := by
  rcases hroom with hroom | ⟨key', state', hkey', hlt⟩
  · rw [evict_of_length_le hroom]
    exact hkey
  · cases fuel with
    | zero => exact hkey
    | succ fuel =>
      unfold evict
      split
      · split
        next oldest holdest =>
          have hne : key ≠ (ofLex oldest).2 := by
            -- The oldest entry is no younger than `key'`, so it is not the entry of `key`.
            rintro rfl
            obtain ⟨e, he, rfl⟩ := Option.map_eq_some_iff.mp holdest
            obtain ⟨found, hfound, hclosed⟩ :=
              (cache.synced (ofLex e.1).1 (ofLex e.1).2).mp (first?_mem he)
            rw [hkey] at hfound
            cases hfound
            have hle := (oldest?_le holdest hkey').trans_lt hlt
            rw [hclosed] at hle
            exact lt_irrefl _ hle
          have hshort : (cache.remove (ofLex oldest).2).entries.entries.length ≤ maxEntries := by
            have hremoved := length_remove_lt (mem_keys_of_oldest? holdest)
            omega
          rw [evict_of_length_le hshort, lookup_remove_of_ne cache hne]
          exact hkey
        next => exact hkey
      · exact hkey

/-! ### Insertion -/

section insert

variable {cache : ClosedConnectionCache} {key key' : ActiveConnectionKey} {state state' : ClosedConnectionState}
  {maxEntries : Nat}

theorem lookup_add_self : (cache.add key state).entries.lookup key = some state :=
  lookup_insert_self _ _ _

theorem lookup_add_of_ne (h : key' ≠ key) : (cache.add key state).entries.lookup key' = cache.entries.lookup key' :=
  (lookup_insert_of_ne h _).trans (lookup_remove_of_ne cache h)

theorem length_add_le : (cache.add key state).entries.entries.length ≤ cache.entries.entries.length + 1 := by
  have hnew : key ∉ (cache.remove key).entries.keys :=
    lookup_eq_none_iff.mp (cache.lookup_remove_self key)
  have hperm := (insert_perm hnew state).length_eq
  have hremoved := cache.length_remove_le key
  rw [length_cons] at hperm
  show ((cache.remove key).entries.insert key state).entries.length ≤ _
  omega

theorem lookup_of_lookup_evict {fuel : Nat} (h : (cache.evict maxEntries fuel).entries.lookup key = some state) :
    cache.entries.lookup key = some state := by
  induction fuel generalizing cache with
  | zero => exact h
  | succ fuel ih =>
    unfold evict at h
    split at h
    · split at h
      next oldest _ =>
        have hremoved := ih h
        by_cases hsame : key = (ofLex oldest).2
        · rw [hsame, lookup_remove_self] at hremoved
          cases hremoved
        · rwa [lookup_remove_of_ne cache hsame] at hremoved
      next => exact h
    · exact h

theorem lookup_of_lookup_insert (h : (cache.insert key state maxEntries).entries.lookup key' = some state') :
    key' = key ∧ state' = state ∨ key' ≠ key ∧ cache.entries.lookup key' = some state' := by
  have hadded := lookup_of_lookup_evict h
  by_cases hsame : key' = key
  · subst hsame
    rw [lookup_add_self] at hadded
    exact .inl ⟨rfl, (Option.some.inj hadded).symm⟩
  · rw [lookup_add_of_ne hsame] at hadded
    exact .inr ⟨hsame, hadded⟩

theorem length_insert_le (h : cache.entries.entries.length ≤ maxEntries) :
    (cache.insert key state maxEntries).entries.entries.length ≤ maxEntries := by
  have hadded : (cache.add key state).entries.entries.length ≤ cache.entries.entries.length + 1 := length_add_le
  have hmem : toLex (state.closedAtUnixNanos, key) ∈ (cache.add key state).recency.keys := mem_recency lookup_add_self
  unfold insert
  generalize cache.add key state = added at hadded hmem
  obtain ⟨first, hfirst⟩ : ∃ first, added.oldest? = some first := by
    rcases hentries : added.recency.entries with _ | ⟨e, es⟩
    · rw [SortedMap.keys, hentries] at hmem
      exact absurd hmem not_mem_nil
    · exact ⟨e.1, by rw [oldest?, first?, hentries]; rfl⟩
  rcases hfuel : added.recency.entries.length with _ | fuel
  · rw [SortedMap.keys, eq_nil_of_length_eq_zero hfuel] at hmem
    exact absurd hmem not_mem_nil
  · unfold evict
    split
    next hover =>
      have hremoved := length_remove_lt (mem_keys_of_oldest? hfirst)
      rw [hfirst]
      dsimp only
      rw [evict_of_length_le (by omega)]
      omega
    next hroom => omega

/-- An entry stays while the connections that closed later are fewer than the cache has room for. -/
theorem lookup_insert_of_later (hlength : cache.entries.entries.length ≤ maxEntries)
    (hkey : (cache.add key state).entries.lookup key' = some state') {later : List ActiveConnectionKey}
    (hlater : ∀ other otherState, (cache.add key state).entries.lookup other = some otherState → other ≠ key' →
      toLex (state'.closedAtUnixNanos, key') < toLex (otherState.closedAtUnixNanos, other) → other ∈ later)
    (hroom : later.length < maxEntries) :
    (cache.insert key state maxEntries).entries.lookup key' = some state' := by
  have hadded : (cache.add key state).entries.entries.length ≤ cache.entries.entries.length + 1 := length_add_le
  refine lookup_evict_of_older (by omega) hkey ?_
  by_cases holder : ∃ other otherState, (cache.add key state).entries.lookup other = some otherState ∧
      toLex (otherState.closedAtUnixNanos, other) < toLex (state'.closedAtUnixNanos, key')
  · exact .inr holder
  · -- Nothing closed earlier, so every other entry is one of `later`.
    have hsub : (cache.add key state).entries.keys ⊆ key' :: later := by
      intro other hother
      by_cases hsame : other = key'
      · exact hsame ▸ mem_cons_self
      · obtain ⟨e, he, rfl⟩ := mem_map.mp hother
        have hlookup := lookup_eq_some_iff.mpr he
        have hne : toLex (state'.closedAtUnixNanos, key') ≠ toLex (e.2.closedAtUnixNanos, e.1) :=
          fun heq => hsame (congrArg (fun r : ClosedConnectionRecency => (ofLex r).2) heq).symm
        have hnot : ¬ toLex (e.2.closedAtUnixNanos, e.1) < toLex (state'.closedAtUnixNanos, key') :=
          fun hlt => holder ⟨e.1, e.2, hlookup, hlt⟩
        exact mem_cons_of_mem _ (hlater _ _ hlookup hsame (lt_of_le_of_ne (not_lt.mp hnot) hne))
    have hkeys := (subperm_of_subset (nodup_keys _) hsub).length_le
    rw [SortedMap.keys, length_map, length_cons] at hkeys
    exact .inl (by omega)

end insert

end ClosedConnectionCache

end ENavigator.Metrics.Network
