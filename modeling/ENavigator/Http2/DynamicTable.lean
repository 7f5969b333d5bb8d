import ENavigator.Http2.Hpack

/-!
# The dynamic table of a header decoder

Whatever blocks a decoder is given, and wherever it gives up on one: the bytes it counts are those of its entries, they
are within the limit of the moment, and the entries are the last ones that were inserted (`dynamicTable_accounted`).
-/

namespace ENavigator.Http2

open List SizedTable HpackDecoder

/-- What a field inserts: the entry of a literal with incremental indexing. -/
def insertedField : Bytes → Option Header → List Header
  | first :: _, some entry => if first &&& 0x80 = 0 ∧ first &&& 0xc0 = 0x40 then [entry] else []
  | _, _ => []

/-- What the loop over a block inserts, the newest entry first. -/
def insertedFields : Nat → HpackDecoder → List Header → Bytes → List Header
  | 0, _, _, _ => []
  | fuel + 1, d, headers, bytes =>
    if bytes.isEmpty || headers.length ≥ maxHpackHeadersPerBlock then []
    else match d.decodeField bytes with
    | .error _ => []
    | .ok (d, header, rest) => insertedFields fuel d (headers ++ header.toList) rest ++ insertedField bytes header

structure TableHistory where
  decoder : HpackDecoder := .new
  inserted : List Header := []

def TableHistory.decode (t : TableHistory) (block : Bytes) : TableHistory where
  decoder := (t.decoder.decodeHeaderBlock block).2
  inserted := (if t.decoder.poisoned then [] else insertedFields (block.length + 1) t.decoder [] block) ++ t.inserted

structure Accounted (d : HpackDecoder) (inserted : List Header) : Prop where
  bytes : d.dynamicBytes = total entryBytes d.dynamic
  fits : d.dynamicBytes ≤ d.maxDynamicBytes
  limit : d.maxDynamicBytes ≤ maxHpackDynamicTableBytes
  recent : d.dynamic <+: inserted

variable {d : HpackDecoder} {inserted : List Header}

theorem accounted_evictToLimit (hbytes : d.dynamicBytes = total entryBytes d.dynamic)
    (hlimit : d.maxDynamicBytes ≤ maxHpackDynamicTableBytes) (hrecent : d.dynamic <+: inserted) :
    Accounted d.evictToLimit inserted := by
  rw [evictToLimit_eq hbytes]
  exact ⟨rfl, total_fit_le _ _ _, hlimit, (fit_isPrefix _ _ _).trans hrecent⟩

namespace Accounted

theorem insert (h : Accounted d inserted) (entry : Header) : Accounted (d.insertDynamic entry) (entry :: inserted) := by
  unfold insertDynamic
  split
  · exact ⟨rfl, Nat.zero_le _, h.limit, nil_prefix⟩
  · refine accounted_evictToLimit ?_ h.limit ((prefix_cons_inj entry).mpr h.recent)
    show d.dynamicBytes + entryBytes entry = _
    rw [total_cons, h.bytes, Nat.add_comm]

theorem field (h : Accounted d inserted) {bytes : Bytes} {r : HpackDecoder × Option Header × Bytes}
    (hfield : d.decodeField bytes = .ok r) : Accounted r.1 (insertedField bytes r.2.1 ++ inserted) := by
  rcases bytes with _ | ⟨first, tail⟩
  · cases hfield
  rw [decodeField] at hfield
  split at hfield
  next hindexed =>
    obtain ⟨index, -, hfield⟩ := bind_eq_ok hfield
    obtain ⟨entry, -, hfield⟩ := bind_eq_ok hfield
    cases hfield
    rw [insertedField, if_neg fun hliteral => hindexed hliteral.1]
    exact h
  next hindexed =>
    split at hfield
    next hincremental =>
      obtain ⟨literal, -, hfield⟩ := bind_eq_ok hfield
      cases hfield
      rw [insertedField, if_pos ⟨not_not.mp hindexed, hincremental⟩]
      exact h.insert literal.1
    next hincremental =>
      split at hfield
      · obtain ⟨size, -, hfield⟩ := bind_eq_ok hfield
        dsimp only at hfield
        split at hfield
        · cases hfield
        next hsize =>
          cases hfield
          exact accounted_evictToLimit h.bytes (Nat.le_of_not_lt hsize) h.recent
      · obtain ⟨literal, -, hfield⟩ := bind_eq_ok hfield
        cases hfield
        rw [insertedField, if_neg fun hliteral => hincremental hliteral.2]
        exact h

/-- The induction is on the turns of the loop; an error leaves what the turns before it did. -/
theorem fields (fuel : Nat) : ∀ {d : HpackDecoder} {inserted : List Header}, Accounted d inserted →
    ∀ (headers : List Header) (bytes : Bytes),
      Accounted (decodeFields fuel d headers bytes).2 (insertedFields fuel d headers bytes ++ inserted) := by
  induction fuel with
  | zero => exact fun h _ _ => h
  | succ fuel ih =>
    intro d inserted h headers bytes
    unfold decodeFields insertedFields
    by_cases hempty : bytes.isEmpty = true
    · simp only [hempty, Bool.true_or, if_true]
      exact h
    by_cases hfull : headers.length ≥ maxHpackHeadersPerBlock
    · simp only [hempty, hfull, decide_true, Bool.or_true, Bool.false_eq_true, if_true, if_false]
      exact h
    simp only [hempty, hfull, decide_false, Bool.or_false, Bool.false_eq_true, if_false]
    rcases hfield : d.decodeField bytes with e | r
    · exact h
    · rw [append_assoc]
      exact ih (h.field hfield) _ _

theorem decode {t : TableHistory} (h : Accounted t.decoder t.inserted) (block : Bytes) :
    Accounted (t.decode block).decoder (t.decode block).inserted := by
  have hfields := h.fields (block.length + 1) [] block
  unfold TableHistory.decode decodeHeaderBlock decodeBlockInner
  by_cases hpoisoned : t.decoder.poisoned = true
  · simp only [hpoisoned, if_true]
    exact h
  simp only [hpoisoned, Bool.false_eq_true, if_false]
  rcases hdecoded : decodeFields (block.length + 1) t.decoder [] block with ⟨e | headers, d⟩
  all_goals rw [hdecoded] at hfields
  · exact { hfields with }
  · exact hfields

end Accounted

theorem dynamicTable_accounted (blocks : List Bytes) :
    let t := blocks.foldl TableHistory.decode {}
    t.decoder.dynamicBytes = (t.decoder.dynamic.map fun entry => entry.1.length + entry.2.length + 32).sum ∧
      t.decoder.dynamicBytes ≤ t.decoder.maxDynamicBytes ∧ t.decoder.maxDynamicBytes ≤ 65536 ∧
      t.decoder.dynamic <+: t.inserted := by
  have hstart : Accounted HpackDecoder.new [] := ⟨rfl, Nat.zero_le _, by decide, nil_prefix⟩
  have h := foldlRecOn (motive := fun t : TableHistory => Accounted t.decoder t.inserted) blocks TableHistory.decode
    (b := {}) hstart fun t ht block _ => ht.decode block
  exact ⟨h.bytes, h.fits, h.limit, h.recent⟩

end ENavigator.Http2
