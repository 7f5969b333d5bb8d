import ENavigator.Lib.InPlace
import Mathlib.Data.List.TakeDrop

/-!
# Filling a region of a buffer

A region between two parts of a buffer is filled piece by piece by a call that may stop early. `Filled j` says that the
first `j` elements of the content are there and that nothing outside the region has changed; it holds wherever the call
stops. `Advances` is the triple for such calls, with one rule for each way to build them.

* `Filled.whole` : a region that is filled to its end;
* `Filled.cut` : however far a region is filled, cutting it out leaves the two parts around it.
-/

namespace ENavigator.Filling

open List

variable {α E : Type}

def writeAt (buffer : List α) (offset : Nat) (data : List α) : List α :=
  buffer.take offset ++ (data ++ buffer.drop (offset + data.length))

/-- Makes room between two elements. -/
def openAt (buffer : List α) (offset : Nat) (room : List α) : List α :=
  buffer.take offset ++ (room ++ buffer.drop offset)

def cutAt (buffer : List α) (offset len : Nat) : List α := buffer.take offset ++ buffer.drop (offset + len)

section

variable (before content after : List α)

def Filled (j : Nat) (buffer : List α) : Prop :=
  ∃ rest, rest.length + j = content.length ∧ buffer = before ++ (content.take j ++ (rest ++ after))

variable {before content after} {j : Nat} {buffer : List α}

theorem Filled.whole (h : Filled before content after content.length buffer) :
    buffer = before ++ (content ++ after) := by
  obtain ⟨rest, hrest, rfl⟩ := h
  obtain rfl : rest = [] := length_eq_zero_iff.mp (by omega)
  rw [take_length, nil_append]

theorem Filled.cut (h : Filled before content after j buffer) :
    cutAt buffer before.length content.length = before ++ after := by
  obtain ⟨rest, hrest, rfl⟩ := h
  have hregion : (content.take j ++ rest).length = content.length := by
    rw [length_append, length_take]
    omega
  rw [cutAt, take_left, ← drop_drop, drop_left, ← append_assoc, drop_left' hregion]

theorem filled_zero {rest : List α} (h : rest.length = content.length) :
    Filled before content after 0 (before ++ (rest ++ after)) := ⟨rest, h, rfl⟩

theorem Filled.write (h : Filled before content after j buffer) {data : List α} (hdata : data <+: content.drop j) :
    Filled before content after (j + data.length) (writeAt buffer (before.length + j) data) := by
  obtain ⟨rest, hrest, rfl⟩ := h
  obtain ⟨more, hmore⟩ := hdata
  have htake : (content.take j).length = j := by
    rw [length_take]
    omega
  have hlength : data.length + more.length = rest.length := by
    have := congrArg List.length hmore
    rw [length_append, length_drop] at this
    omega
  refine ⟨rest.drop data.length, by rw [length_drop]; omega, ?_⟩
  have hnext : content.take (j + data.length) = content.take j ++ data := by
    rw [take_add, ← hmore, take_left]
  have hfront : (before ++ (content.take j ++ (rest ++ after))).take (before.length + j) =
      before ++ content.take j := by
    rw [take_length_add_append, take_left' htake]
  have hback : (before ++ (content.take j ++ (rest ++ after))).drop (before.length + j + data.length)
      = rest.drop data.length ++ after := by
    rw [Nat.add_assoc, drop_length_add_append, ← drop_drop, drop_left' htake,
      drop_append_of_le_length (by omega)]
  rw [writeAt, hfront, hback, hnext]
  simp only [append_assoc]

end

/-! ## Calls that fill -/

section

variable (before content after : List α) (wide : Prop)

/-- From `i` filled elements to `j`; when the call stops, the region is filled up to somewhere and it is not `wide`. -/
def Advances (c : Call (List α) E Unit) (i j : Nat) : Prop :=
  ∀ buffer, Filled before content after i buffer →
    match c buffer with
    | (.ok _, buffer') => Filled before content after j buffer'
    | (.error _, buffer') => ¬ wide ∧ ∃ l, Filled before content after l buffer'

variable {before content after wide} {c d : Call (List α) E Unit} {i j l : Nat}

theorem advances_pure : Advances before content after wide (pure () : Call (List α) E Unit) i i := fun _ h => h

theorem Advances.of_eq (h : Advances before content after wide c i j) (i' j' : Nat) (hi : i = i') (hj : j = j') :
    Advances before content after wide c i' j' := by
  subst hi hj
  exact h

theorem Advances.bind (hc : Advances before content after wide c i j) (hd : Advances before content after wide d j l) :
    Advances before content after wide (c >>= fun _ => d) i l := by
  intro buffer h
  have hstep := hc buffer h
  rcases hrun : c buffer with ⟨e | ⟨⟩, buffer'⟩
  · rw [hrun] at hstep
    rw [Call.bind_of_error hrun]
    exact hstep
  · rw [hrun] at hstep
    rw [Call.bind_of_ok hrun]
    exact hd buffer' hstep

theorem advances_write {data : List α} {offset : Nat} (hdata : data <+: content.drop i)
    (hoffset : offset = before.length + i) (hj : j = i + data.length) :
    Advances before content after wide (modify (writeAt · offset data) : Call (List α) E Unit) i j := by
  subst hoffset hj
  exact fun _ h => h.write hdata

theorem Advances.guard {p : Prop} [Decidable p] {e : E} (hp : p → ¬ wide)
    (hc : Advances before content after wide c i j) :
    Advances before content after wide (if p then throw e else c) i j := by
  split
  next hstop => exact fun buffer h => ⟨hp hstop, i, h⟩
  next => exact hc

theorem advances_range {f : Nat → Call (List α) E Unit} (g : Nat → Nat)
    (h : ∀ k, Advances before content after wide (f k) (g k) (g (k + 1))) (n start : Nat) :
    Advances before content after wide ((List.range' start n).forM f) (g start) (g (start + n)) := by
  induction n generalizing start with
  | zero => exact advances_pure
  | succ n ih =>
    have htail := ih (start + 1)
    rw [Nat.add_right_comm] at htail
    exact (h start).bind htail

end

end ENavigator.Filling
