import Mathlib.Algebra.Order.Group.Multiset

/-!
# Items that come in and leave with a report

A store takes items in; an item leaves it with one report that carries it, or is written off. `Balances` says that
nothing else happened between two states of the store: no item was lost, none left twice and no report is about
anything else.

* `balances_refl`, `Balances.trans` : nothing happens, one thing after the other;
* `balances_add`, `balances_pass` : an item is stored, or reported without having been stored;
* `balances_remove`, `balances_drain` : items leave with their reports, from anywhere in the store;
* `balances_writeOff` : items leave without one.
-/

namespace ENavigator

open List

variable {α β : Type} {Carries : α → β → Prop}

def Balances (Carries : α → β → Prop) (before taken : List α) (reports : List β) (after writtenOff : List α) : Prop :=
  ∃ left, List.Forall₂ Carries left reports ∧ (before ++ taken).Perm (left ++ after ++ writtenOff)

variable (front back items : List α)

theorem balances_refl : Balances Carries items [] [] items [] := by
  refine ⟨[], .nil, ?_⟩
  rw [append_nil, append_nil, nil_append]

theorem Balances.trans {a b c t t' w w' : List α} {r r' : List β} (h : Balances Carries a t r b w)
    (h' : Balances Carries b t' r' c w') : Balances Carries a (t ++ t') (r ++ r') c (w ++ w') := by
  obtain ⟨left, hleft, hperm⟩ := h
  obtain ⟨left', hleft', hperm'⟩ := h'
  refine ⟨left ++ left', rel_append hleft hleft', ?_⟩
  rw [← Multiset.coe_eq_coe] at hperm hperm' ⊢
  simp only [← Multiset.coe_add] at hperm hperm' ⊢
  calc (a : Multiset α) + (t + t') = (a + t) + t' := by rw [add_assoc]
    _ = left + b + w + t' := by rw [hperm]
    _ = left + (b + t') + w := by ac_rfl
    _ = left + (left' + c + w') + w := by rw [hperm']
    _ = left + left' + c + (w + w') := by ac_rfl

theorem balances_add (a : α) : Balances Carries items [a] [] (items ++ [a]) [] := by
  refine ⟨[], .nil, ?_⟩
  rw [nil_append, append_nil]

theorem balances_pass {a : α} {report : β} (h : Carries a report) :
    Balances Carries items [a] [report] items [] := by
  refine ⟨[a], .cons h .nil, ?_⟩
  rw [append_nil]
  exact perm_append_comm

theorem balances_remove {a : α} {report : β} (h : Carries a report) :
    Balances Carries (front ++ a :: back) [] [report] (front ++ back) [] := by
  refine ⟨[a], .cons h .nil, ?_⟩
  rw [append_nil, append_nil]
  exact perm_middle

theorem balances_drain {reports : List β} (h : List.Forall₂ Carries front reports) :
    Balances Carries (front ++ back) [] reports back [] := by
  refine ⟨front, h, ?_⟩
  rw [append_nil]

theorem balances_writeOff : Balances Carries (front ++ items ++ back) [] [] (front ++ back) items := by
  refine ⟨[], .nil, ?_⟩
  rw [append_nil, nil_append, append_assoc, append_assoc]
  exact List.Perm.append_left _ perm_append_comm

end ENavigator
