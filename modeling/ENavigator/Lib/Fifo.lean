import Mathlib.Data.List.Basic
import Mathlib.Data.Nat.Basic
import Mathlib.Order.RelClasses

/-!
# Questions answered in order

Questions are asked at any time and answered one after the other, so that the `k`-th answer belongs to the
`k`-th question. The four equations at the end say what asking and answering do to the questions that wait and
to the pairs of question and answer; a program that keeps its own queue is compared with them.
-/

namespace ENavigator

open List

theorem length_nil_le {α β : Type} : ([] : List β).length ≤ ([] : List α).length := Nat.le.refl

structure Fifo (α β : Type) where
  asked : List α := []
  answered : List β := []
  answered_le : answered.length ≤ asked.length := by exact length_nil_le

namespace Fifo

variable {α β : Type} {q : Fifo α β} {a : α} {b : β} {rest : List α}

/-- The questions without an answer, the oldest first. -/
def waiting (q : Fifo α β) : List α := q.asked.drop q.answered.length

/-- The questions that were answered, with their answers. -/
def pairs (q : Fifo α β) : List (α × β) := q.asked.zip q.answered

def ask (q : Fifo α β) (a : α) : Fifo α β where
  asked := q.asked ++ [a]
  answered := q.answered
  answered_le := by
    have := q.answered_le
    rw [length_append]
    omega

/-- An answer to the oldest question; without one it is dropped. -/
def answer (q : Fifo α β) (b : β) : Fifo α β :=
  if h : q.answered.length < q.asked.length then
    { asked := q.asked
      answered := q.answered ++ [b]
      answered_le := by
        rw [length_append]
        exact h }
  else q

theorem zip_append_of_le {l : List α} {m : List β} (h : m.length ≤ l.length) (l' : List α) :
    (l ++ l').zip m = l.zip m := by
  induction l generalizing m with
  | nil => rw [length_eq_zero_iff.mp (Nat.le_zero.mp h), zip_nil_right, zip_nil_right]
  | cons a l ih =>
    cases m with
    | nil => rw [zip_nil_right, zip_nil_right]
    | cons b m => rw [cons_append, zip_cons_cons, zip_cons_cons, ih (Nat.le_of_succ_le_succ h)]

theorem answered_lt (h : q.waiting = a :: rest) : q.answered.length < q.asked.length := by
  have hlen := congrArg List.length h
  rw [waiting, length_drop, length_cons] at hlen
  omega

theorem asked_eq (h : q.waiting = a :: rest) : q.asked = q.asked.take q.answered.length ++ a :: rest := by
  rw [← h, waiting, take_append_drop]

@[simp] theorem waiting_ask : (q.ask a).waiting = q.waiting ++ [a] :=
  drop_append_of_le_length q.answered_le

@[simp] theorem pairs_ask : (q.ask a).pairs = q.pairs := zip_append_of_le q.answered_le [a]

theorem answer_of_waiting (h : q.waiting = a :: rest) : (q.answer b).asked = q.asked ∧
    (q.answer b).answered = q.answered ++ [b] := by
  rw [answer, dif_pos (answered_lt h)]
  exact ⟨rfl, rfl⟩

theorem waiting_answer (h : q.waiting = a :: rest) : (q.answer b).waiting = rest := by
  obtain ⟨hasked, hanswered⟩ := answer_of_waiting (b := b) h
  rw [waiting, hasked, hanswered, length_append, length_singleton, ← drop_drop,
    show q.asked.drop q.answered.length = a :: rest from h, drop_one, tail_cons]

theorem pairs_answer (h : q.waiting = a :: rest) : (q.answer b).pairs = q.pairs ++ [(a, b)] := by
  obtain ⟨hasked, hanswered⟩ := answer_of_waiting (b := b) h
  have hlen : (q.asked.take q.answered.length).length = q.answered.length := by
    rw [length_take]
    exact Nat.min_eq_left (Nat.le_of_lt (answered_lt h))
  have hpairs : q.pairs = (q.asked.take q.answered.length).zip q.answered := by
    rw [pairs]
    nth_rewrite 1 [asked_eq h]
    exact zip_append_of_le (Nat.le_of_eq hlen.symm) _
  rw [hpairs, pairs, hasked, hanswered, asked_eq h, zip_append (by simpa using hlen)]
  simp [hlen]

/-! ## Several at once -/

theorem foldl_ask (as : List α) (q : Fifo α β) :
    (as.foldl ask q).asked = q.asked ++ as ∧ (as.foldl ask q).answered = q.answered := by
  induction as generalizing q with
  | nil => exact ⟨(append_nil _).symm, rfl⟩
  | cons a as ih =>
    obtain ⟨hasked, hanswered⟩ := ih (q.ask a)
    refine ⟨?_, hanswered⟩
    rw [foldl_cons, hasked]
    exact append_assoc q.asked [a] as

theorem exists_waiting (h : q.answered.length < q.asked.length) : ∃ a rest, q.waiting = a :: rest := by
  apply exists_cons_of_ne_nil
  rw [waiting, ← length_pos_iff, length_drop]
  omega

theorem foldl_answer (bs : List β) (q : Fifo α β) (h : q.answered.length + bs.length ≤ q.asked.length) :
    (bs.foldl answer q).asked = q.asked ∧ (bs.foldl answer q).answered = q.answered ++ bs := by
  induction bs generalizing q with
  | nil => exact ⟨rfl, (append_nil _).symm⟩
  | cons b bs ih =>
    rw [length_cons] at h
    obtain ⟨a, rest, hwaiting⟩ := exists_waiting (q := q) (by omega)
    obtain ⟨hasked, hanswered⟩ := answer_of_waiting (b := b) hwaiting
    have hroom : (q.answer b).answered.length + bs.length ≤ (q.answer b).asked.length := by
      rw [hasked, hanswered, length_append, length_singleton]
      omega
    obtain ⟨hasked', hanswered'⟩ := ih (q.answer b) hroom
    refine ⟨hasked'.trans hasked, ?_⟩
    rw [foldl_cons, hanswered', hanswered, append_assoc]
    rfl

theorem length_pairs (q : Fifo α β) : q.pairs.length = q.answered.length := by
  rw [pairs, length_zip]
  exact Nat.min_eq_right q.answered_le

theorem zip_isPrefix (l : List α) (m m' : List β) : l.zip m <+: l.zip (m ++ m') := by
  induction m generalizing l with
  | nil =>
    rw [zip_nil_right]
    exact nil_prefix
  | cons b m ih =>
    cases l with
    | nil => exact prefix_rfl
    | cons a l => exact cons_prefix_cons.mpr ⟨rfl, ih l⟩

end Fifo

end ENavigator
