import Mathlib.Algebra.BigOperators.Group.List.Basic
import Mathlib.Algebra.GroupWithZero.Nat
import Mathlib.Data.List.Induction

/-!
# Tables bounded by the size of their entries

A table of entries, newest first, that may hold a limited total size: what does not fit is lost from
its old end. `fit` says what remains; `evict`, the loop that removes the oldest entry until the rest
fits, computes it (`evict_reverse`).
-/

namespace ENavigator.SizedTable

open List

variable {α : Type} (size : α → Nat)

def total (entries : List α) : Nat := (entries.map size).sum

/-- The newest entries that fit into `limit`. -/
def fit : Nat → List α → List α
  | _, [] => []
  | limit, e :: es => if size e ≤ limit then e :: fit (limit - size e) es else []

/-- Drops oldest entries, which come first here, while `bytes` is over the limit. -/
def evict (limit : Nat) : List α → Nat → List α × Nat
  | [], bytes => if bytes > limit then ([], 0) else ([], bytes)
  | e :: es, bytes => if bytes > limit then evict limit es (bytes - size e) else (e :: es, bytes)

@[simp] theorem total_nil : total size [] = 0 := rfl

@[simp] theorem total_cons (e : α) (es : List α) : total size (e :: es) = size e + total size es := by
  rw [total, map_cons, sum_cons, total]

theorem total_append (xs ys : List α) : total size (xs ++ ys) = total size xs + total size ys := by
  rw [total, map_append, sum_append, total, total]

theorem total_fit_le (limit : Nat) (entries : List α) : total size (fit size limit entries) ≤ limit := by
  induction entries generalizing limit with
  | nil => exact Nat.zero_le _
  | cons e es ih =>
    rw [fit]
    split
    · have := ih (limit - size e)
      rw [total_cons]
      omega
    · exact Nat.zero_le _

theorem fit_isPrefix (limit : Nat) (entries : List α) : fit size limit entries <+: entries := by
  induction entries generalizing limit with
  | nil => exact nil_prefix
  | cons e es ih =>
    rw [fit]
    split
    · exact (prefix_cons_inj e).mpr (ih _)
    · exact nil_prefix

theorem fit_eq_self {limit : Nat} {entries : List α} (h : total size entries ≤ limit) :
    fit size limit entries = entries := by
  induction entries generalizing limit with
  | nil => rfl
  | cons e es ih =>
    rw [total_cons] at h
    rw [fit, if_pos (by omega), ih (by omega)]

theorem fit_concat_of_lt {limit : Nat} {es : List α} {e : α} (h : limit < total size (es ++ [e])) :
    fit size limit (es ++ [e]) = fit size limit es := by
  induction es generalizing limit with
  | nil =>
    have h : limit < size e := by simpa using h
    simp [fit, Nat.not_le.mpr h]
  | cons e' es ih =>
    rw [cons_append, total_cons] at h
    rw [cons_append, fit, fit]
    split
    · rw [ih (by omega)]
    · rfl

/-- **Evicting from the old end keeps exactly what fits.** -/
theorem evict_reverse (limit : Nat) (entries : List α) :
    evict size limit entries.reverse (total size entries) =
      ((fit size limit entries).reverse, total size (fit size limit entries)) := by
  induction entries using List.reverseRecOn with
  | nil => simp [evict, fit]
  | append_singleton es e ih =>
    rw [reverse_append, reverse_singleton, singleton_append, evict]
    split
    next h =>
      rw [fit_concat_of_lt size h, total_append, total_cons, total_nil, Nat.add_zero,
        Nat.add_sub_cancel]
      exact ih
    next h =>
      rw [fit_eq_self size (by omega), reverse_append]
      rfl

end ENavigator.SizedTable
