import ENavigator.Lib.Bytes

/-!
# The load bias of a mapping

`computeLoadBias` finds the link-time address of a mapping through the segment whose part of the file holds the
mapping's offset. The kernel maps whole pages, so the offset of the mapping for a segment is the segment's own rounded
down, and it is the first segment at the *rounded* offset that is taken (`mappedBias_eq_some_iff`). In a file that a
linker has written, that is the segment itself if it starts on a page boundary, and otherwise an earlier one that
reaches into its first page, if there is one (`mappedBias_eq_some_iff_of_ordered`).
-/

namespace ENavigator.Profiling

open List

structure LoadSegment where
  vaddr : UInt64
  fileOffset : UInt64
  fileSize : UInt64
  deriving DecidableEq, Repr

/-- The part of the file that is loaded holds the offset; an empty part holds its first. -/
def LoadSegment.holds (segment : LoadSegment) (offset : Nat) : Bool :=
  segment.fileOffset.toNat ≤ offset ∧
    offset < saturatingAdd segment.fileOffset.toNat (max segment.fileSize.toNat 1)

def computeLoadBias (mappingStart mappingFileOffset : Nat) (segments : List LoadSegment) : Option Nat := do
  let segment ← segments.find? (·.holds mappingFileOffset)
  let inside ← checkedSub mappingFileOffset segment.fileOffset.toNat
  let linkAddr ← checkedAdd segment.vaddr.toNat inside
  checkedSub mappingStart linkAddr

/-! ## What the kernel maps -/

def roundDown (page n : Nat) : Nat := n - n % page

theorem roundDown_add_mod (page n : Nat) : roundDown page n + n % page = n :=
  Nat.sub_add_cancel (Nat.mod_le n page)

/-- The mapping of a segment that is loaded at `base`. -/
def mappedBias (page base : Nat) (segments : List LoadSegment) (segment : LoadSegment) : Option Nat :=
  computeLoadBias (base + roundDown page segment.vaddr.toNat) (roundDown page segment.fileOffset.toNat) segments

/-- Two segments lie equally far from their places in the file. -/
def LoadSegment.SameShift (s t : LoadSegment) : Prop :=
  s.vaddr.toNat + t.fileOffset.toNat = t.vaddr.toNat + s.fileOffset.toNat

instance (s t : LoadSegment) : Decidable (s.SameShift t) :=
  inferInstanceAs (Decidable (s.vaddr.toNat + t.fileOffset.toNat = t.vaddr.toNat + s.fileOffset.toNat))

variable {page base : Nat} {segments : List LoadSegment} {segment : LoadSegment}

/-- Which segment is found decides: the bias is right if that one is shifted as the mapped one. -/
theorem mappedBias_eq_some_iff (hpage : segment.fileOffset.toNat % page = segment.vaddr.toNat % page) :
    mappedBias page base segments segment = some base ↔
      ∃ found, segments.find? (·.holds (roundDown page segment.fileOffset.toNat)) = some found ∧
        segment.SameShift found := by
  have hoffset := roundDown_add_mod page segment.fileOffset.toNat
  have hvaddr := roundDown_add_mod page segment.vaddr.toNat
  have hbound : segment.vaddr.toNat < usizeBound := segment.vaddr.toNat_lt
  simp only [mappedBias, computeLoadBias, LoadSegment.SameShift, Option.bind_eq_bind, Option.bind_eq_some_iff,
    checkedSub_eq_some_iff, checkedAdd_eq_some_iff]
  constructor
  · rintro ⟨found, hfind, inside, hinside, linkAddr, ⟨-, hlink⟩, hbias⟩
    exact ⟨found, hfind, by omega⟩
  · rintro ⟨found, hfind, hshift⟩
    have hholds := find?_some hfind
    obtain ⟨hle, -⟩ := of_decide_eq_true hholds
    refine ⟨found, hfind, _, (Nat.add_sub_of_le hle).symm, _, ⟨?_, rfl⟩, ?_⟩
    · omega
    · omega

/-! ### Segments in the order of the file -/

/-- What a linker may produce for a page size. -/
structure Layout (page : Nat) (segments : List LoadSegment) : Prop where
  length_le : segments.length ≤ 4
  disjoint : segments.Pairwise fun s t => s.vaddr.toNat + s.fileSize.toNat ≤ t.vaddr.toNat ∨
    t.vaddr.toNat + t.fileSize.toNat ≤ s.vaddr.toNat
  congruent : ∀ s ∈ segments, s.fileOffset.toNat % page = s.vaddr.toNat % page

def LoadSegment.fileEnd (segment : LoadSegment) : Nat := segment.fileOffset.toNat + max segment.fileSize.toNat 1

/-- Each part of the file ends before the next one begins. -/
structure Ordered (segments : List LoadSegment) : Prop where
  ordered : segments.Pairwise fun s t => s.fileEnd ≤ t.fileOffset.toNat
  bounded : ∀ s ∈ segments, s.fileEnd < usizeBound

theorem LoadSegment.holds_iff {offset : Nat} (h : segment.fileEnd < usizeBound) :
    segment.holds offset = true ↔ segment.fileOffset.toNat ≤ offset ∧ offset < segment.fileEnd := by
  have hend : saturatingAdd segment.fileOffset.toNat (max segment.fileSize.toNat 1) = segment.fileEnd :=
    Nat.min_eq_left (Nat.le_sub_one_of_lt h)
  rw [LoadSegment.holds, hend, decide_eq_true_iff]

theorem find?_of_holds (h : Ordered segments) (hmem : segment ∈ segments) {offset : Nat}
    (hholds : segment.holds offset = true) : segments.find? (·.holds offset) = some segment := by
  obtain ⟨before, after, rfl⟩ := append_of_mem hmem
  refine find?_eq_some_iff_append.mpr ⟨hholds, before, after, rfl, fun s hs => ?_⟩
  have hle := (pairwise_append.mp h.ordered).2.2 s hs segment mem_cons_self
  rw [LoadSegment.holds_iff (h.bounded _ hmem)] at hholds
  rw [Bool.not_eq_true', ← Bool.not_eq_true, LoadSegment.holds_iff (h.bounded s (mem_append_left _ hs))]
  omega

/-- **The bias is right if the segment starts on a page boundary**, or if an earlier segment that reaches into its first
page is shifted alike; and in no other case. -/
theorem mappedBias_eq_some_iff_of_ordered {before after : List LoadSegment}
    (hlayout : Layout page (before ++ segment :: after)) (hordered : Ordered (before ++ segment :: after)) :
    mappedBias page base (before ++ segment :: after) segment = some base ↔
      page ∣ segment.fileOffset.toNat ∨ ∃ earlier ∈ before,
        earlier.holds (roundDown page segment.fileOffset.toNat) = true ∧ segment.SameShift earlier := by
  have hmem : segment ∈ before ++ segment :: after := mem_append_right _ mem_cons_self
  have hrounded := roundDown_add_mod page segment.fileOffset.toNat
  rw [mappedBias_eq_some_iff (hlayout.congruent segment hmem)]
  generalize roundDown page segment.fileOffset.toNat = offset at hrounded ⊢
  -- only the segment itself and the earlier ones begin early enough
  have hself : segment.holds offset = true ↔ page ∣ segment.fileOffset.toNat := by
    rw [LoadSegment.holds_iff (hordered.bounded segment hmem), Nat.dvd_iff_mod_eq_zero, LoadSegment.fileEnd]
    omega
  constructor
  · rintro ⟨found, hfind, hshift⟩
    have hholds := find?_some hfind
    rcases mem_append.mp (mem_of_find?_eq_some hfind) with hbefore | hmore
    · exact .inr ⟨found, hbefore, hholds, hshift⟩
    rcases mem_cons.mp hmore with rfl | hafter
    · exact .inl (hself.mp hholds)
    · have hlater := (pairwise_cons.mp (pairwise_append.mp hordered.ordered).2.1).1 found hafter
      rw [LoadSegment.holds_iff (hordered.bounded _ (mem_append_right _ hmore))] at hholds
      unfold LoadSegment.fileEnd at hlater
      omega
  · rintro (hpage | ⟨earlier, hearlier, hholds, hshift⟩)
    · exact ⟨segment, find?_of_holds hordered hmem (hself.mpr hpage), rfl⟩
    · exact ⟨earlier, find?_of_holds hordered (mem_append_left _ hearlier) hholds, hshift⟩

/-! ### A text segment that starts inside a page -/

/-- The headers and the read-only data, and the text behind them; in the file the text begins on their last page. -/
def headerSegment : LoadSegment := ⟨0, 0, 0x1040⟩
def textSegment : LoadSegment := ⟨0x2040, 0x1040, 0x100⟩

theorem mappedBias_textSegment_ne : Layout 4096 [headerSegment, textSegment] ∧ 4096 ∣ 0x7f0000000000 ∧
    textSegment.fileSize ≠ 0 ∧ mappedBias 4096 0x7f0000000000 [headerSegment, textSegment] textSegment =
      some 0x7f0000001000 := by
  refine ⟨⟨by decide, by decide, by decide⟩, by decide, by decide, by decide +kernel⟩

/-- With the text on a page of its own the bias is the base. -/
theorem mappedBias_ownPage :
    mappedBias 4096 0x7f0000000000 [⟨0, 0, 0x1000⟩, ⟨0x2000, 0x1000, 0x1000⟩] ⟨0x2000, 0x1000, 0x1000⟩ =
      some 0x7f0000000000 :=
  (mappedBias_eq_some_iff (by decide)).mpr ⟨⟨0x2000, 0x1000, 0x1000⟩, by decide, by decide⟩

end ENavigator.Profiling
