import Mathlib.Data.List.Basic

/-!
# Readers

A reader takes what it needs from the front of a list and leaves the rest, or fails.

* `Reads r used a` : in front of anything, `r` takes `used` and gives `a`; `Fails` when it gives an error there;
* `Accepts r G` : whatever `r` takes is a text of the grammar `G`;
* `Local r` : what `r` gives depends on what it takes alone, so it takes the same from every longer input;
* `times` : the counted loop, with `reads_times`, `fails_times` and `accepts_times`;
* `Local.not_ok_of_cut` : a local reader that takes a whole text fails on what is cut off before its end.
-/

namespace ENavigator

open List

abbrev Reader (τ ε α : Type) := StateT (List τ) (Except ε) α

namespace Reader

variable {τ ε α β γ : Type}

/-! ## Building blocks -/

def fail (e : ε) : Reader τ ε α := fun _ => .error e

def takeExactly (n : Nat) (e : ε) : Reader τ ε (List τ) := fun input =>
  if n ≤ input.length then .ok (input.take n, input.drop n) else .error e

/-- The loop `for _ in 0..n`, with what it carries. -/
def times : Nat → (β → Reader τ ε β) → β → Reader τ ε β
  | 0, _, acc => pure acc
  | n + 1, body, acc => body acc >>= times n body

/-! ## What a reader does in front of anything -/

def Reads (r : Reader τ ε α) (used : List τ) (a : α) : Prop := ∀ rest, r (used ++ rest) = .ok (a, rest)

def Fails (r : Reader τ ε α) (used : List τ) (e : ε) : Prop := ∀ rest, r (used ++ rest) = .error e

theorem bind_apply (r : Reader τ ε α) (f : α → Reader τ ε β) (input : List τ) :
    (r >>= f) input = (r input >>= fun p => f p.1 p.2) := rfl

theorem reads_pure (a : α) : Reads (pure a : Reader τ ε α) [] a := fun _ => rfl

theorem reads_takeExactly (e : ε) (used : List τ) : Reads (takeExactly used.length e) used used := by
  intro rest
  rw [takeExactly, if_pos (by simp), take_left, drop_left]

variable {r : Reader τ ε α} {f : α → Reader τ ε β} {used more : List τ} {a : α} {b : β} {e : ε}

theorem Reads.run (h : Reads r used a) : r used = .ok (a, []) := by
  have hrun := h []
  rwa [append_nil] at hrun

theorem Fails.run (h : Fails r used e) : r used = .error e := by
  have hrun := h []
  rwa [append_nil] at hrun

theorem Reads.bind (h : Reads r used a) (hf : Reads (f a) more b) : Reads (r >>= f) (used ++ more) b := by
  intro rest
  rw [bind_apply, append_assoc, h]
  exact hf rest

theorem Reads.run_bind (h : Reads r used a) (f : α → Reader τ ε β) (rest : List τ) :
    (r >>= f) (used ++ rest) = f a rest := by
  rw [bind_apply, h]
  rfl

theorem Reads.bind_two {second : List τ} (h : Reads r (used ++ second) a) (hf : Reads (f a) more b) :
    Reads (r >>= f) (used ++ (second ++ more)) b := by
  rw [← append_assoc]
  exact h.bind hf

theorem Reads.bind_last (h : Reads r used a) (hf : Reads (f a) [] b) : Reads (r >>= f) used b := by
  have hbind := h.bind hf
  rwa [append_nil] at hbind

theorem Reads.bind_pure (h : Reads r used a) (g : α → β) : Reads (r >>= fun a => pure (g a)) used (g a) :=
  h.bind_last (reads_pure (g a))

theorem Fails.bind (h : Fails r used e) (f : α → Reader τ ε β) (more : List τ) : Fails (r >>= f) (used ++ more) e := by
  intro rest
  rw [bind_apply, append_assoc, h]
  rfl

theorem Reads.bind_fails (h : Reads r used a) (hf : Fails (f a) more e) : Fails (r >>= f) (used ++ more) e := by
  intro rest
  rw [bind_apply, append_assoc, h]
  exact hf rest

theorem Reads.bind_fails_last (h : Reads r used a) (hf : Fails (f a) [] e) : Fails (r >>= f) used e := by
  have hbind := h.bind_fails hf
  rwa [append_nil] at hbind

theorem fails_fail (e : ε) : Fails (fail e : Reader τ ε α) [] e := fun _ => rfl

section times

variable {body : β → Reader τ ε β} {enc : γ → List τ} (step : β → γ → β)

theorem reads_times {items : List γ} (h : ∀ item ∈ items, ∀ acc, Reads (body acc) (enc item) (step acc item))
    (acc : β) : Reads (times items.length body acc) (items.flatMap enc) (items.foldl step acc) := by
  induction items generalizing acc with
  | nil => exact reads_pure acc
  | cons item items ih =>
    exact (h item mem_cons_self acc).bind
      (ih (fun other hother => h other (mem_cons_of_mem _ hother)) (step acc item))

theorem fails_times (good : γ → Prop) {items : List γ}
    (hgood : ∀ item ∈ items, good item → ∀ acc, Reads (body acc) (enc item) (step acc item))
    (hbad : ∀ item ∈ items, ¬ good item → ∀ acc, Fails (body acc) (enc item) e)
    (h : ¬ ∀ item ∈ items, good item) (acc : β) :
    Fails (times items.length body acc) (items.flatMap enc) e := by
  induction items generalizing acc with
  | nil => exact absurd (nofun) h
  | cons item items ih =>
    by_cases hitem : good item
    · refine (hgood item mem_cons_self hitem acc).bind_fails (ih ?_ ?_ ?_ _)
      · exact fun other hother => hgood other (mem_cons_of_mem _ hother)
      · exact fun other hother => hbad other (mem_cons_of_mem _ hother)
      · exact fun hall => h (forall_mem_cons.mpr ⟨hitem, hall⟩)
    · exact (hbad item mem_cons_self hitem acc).bind _ _

end times

/-! ## What a reader can have taken -/

def Accepts (r : Reader τ ε α) (G : List τ → α → Prop) : Prop :=
  ∀ input a rest, r input = .ok (a, rest) → ∃ used, input = used ++ rest ∧ G used a

theorem bind_ok {input rest : List τ} (h : (r >>= f) input = .ok (b, rest)) :
    ∃ a mid, r input = .ok (a, mid) ∧ f a mid = .ok (b, rest) := by
  rw [bind_apply] at h
  rcases hr : r input with _ | ⟨a, mid⟩
  · rw [hr] at h
    cases h
  · rw [hr] at h
    exact ⟨a, mid, rfl, h⟩

theorem Accepts.imp {G H : List τ → α → Prop} (h : Accepts r G) (himp : ∀ used a, G used a → H used a) :
    Accepts r H := by
  intro input a rest hok
  obtain ⟨used, hused, hG⟩ := h _ _ _ hok
  exact ⟨used, hused, himp used a hG⟩

theorem accepts_pure (a : α) : Accepts (pure a : Reader τ ε α) fun used b => used = [] ∧ b = a := by
  intro input b rest hok
  cases hok
  exact ⟨[], rfl, rfl, rfl⟩

theorem accepts_takeExactly (n : Nat) (e : ε) :
    Accepts (takeExactly n e : Reader τ ε (List τ)) fun used b => used = b ∧ b.length = n := by
  intro input b rest hok
  unfold takeExactly at hok
  split at hok
  next hn =>
    cases hok
    exact ⟨input.take n, (take_append_drop n input).symm, rfl, length_take_of_le hn⟩
  next => cases hok

theorem Accepts.bind {G : List τ → α → Prop} {H : α → List τ → β → Prop} (h : Accepts r G)
    (hf : ∀ a, Accepts (f a) (H a)) :
    Accepts (r >>= f) fun used b => ∃ first second a, used = first ++ second ∧ G first a ∧ H a second b := by
  intro input b rest hok
  obtain ⟨a, mid, hr, hfa⟩ := bind_ok hok
  obtain ⟨first, rfl, hG⟩ := h _ _ _ hr
  obtain ⟨second, rfl, hH⟩ := hf a _ _ _ hfa
  exact ⟨first ++ second, by rw [append_assoc], first, second, a, rfl, hG, hH⟩

theorem accepts_times {body : Unit → Reader τ ε Unit} {enc : γ → List τ} {P : γ → Prop}
    (h : Accepts (body ()) fun used _ => ∃ item, used = enc item ∧ P item) (n : Nat) :
    Accepts (times n body ()) fun used _ =>
      ∃ items : List γ, items.length = n ∧ used = items.flatMap enc ∧ ∀ item ∈ items, P item := by
  induction n with
  | zero =>
    refine (accepts_pure ()).imp ?_
    rintro _ _ ⟨rfl, -⟩
    exact ⟨[], rfl, rfl, nofun⟩
  | succ n ih =>
    refine (h.bind (H := fun _ => _) fun _ => ih).imp ?_
    rintro _ _ ⟨_, _, _, rfl, ⟨item, rfl, hitem⟩, items, hlength, rfl, hitems⟩
    exact ⟨item :: items, by rw [length_cons, hlength], rfl, forall_mem_cons.mpr ⟨hitem, hitems⟩⟩

/-! ## Local readers -/

def Local (r : Reader τ ε α) : Prop := Accepts r (Reads r)

/-- Instance search finds that readers put together from local ones are local. -/
class IsLocal (r : Reader τ ε α) : Prop where
  isLocal : Local r

instance (a : α) : IsLocal (pure a : Reader τ ε α) := by
  refine ⟨(accepts_pure a).imp ?_⟩
  rintro _ _ ⟨rfl, rfl⟩
  exact reads_pure _

instance (e : ε) : IsLocal (fail e : Reader τ ε α) := by
  refine ⟨fun input b rest hok => ?_⟩
  cases hok

instance (n : Nat) (e : ε) : IsLocal (takeExactly n e : Reader τ ε (List τ)) := by
  refine ⟨(accepts_takeExactly n e).imp ?_⟩
  rintro _ b ⟨rfl, rfl⟩
  exact reads_takeExactly e _

instance [h : IsLocal r] [hf : ∀ a, IsLocal (f a)] : IsLocal (r >>= f) := by
  refine ⟨(Accepts.bind h.isLocal fun a => (hf a).isLocal).imp ?_⟩
  rintro _ b ⟨_, _, a, rfl, hr, hfa⟩
  exact hr.bind hfa

instance {c : Prop} [Decidable c] {r' : Reader τ ε α} [IsLocal r] [IsLocal r'] : IsLocal (if c then r else r') := by
  split <;> infer_instance

instance {body : β → Reader τ ε β} [∀ acc, IsLocal (body acc)] (n : Nat) (acc : β) : IsLocal (times n body acc) := by
  induction n generalizing acc with
  | zero => exact inferInstanceAs (IsLocal (pure acc))
  | succ n ih => exact inferInstanceAs (IsLocal (body acc >>= times n body))

/-- **A text that is taken whole is not taken when it is cut short.** -/
theorem Local.not_ok_of_cut (h : Local r) {whole cut : List τ} (hwhole : Reads r whole a) (hcut : cut <+: whole)
    (hne : cut ≠ whole) : ∃ e, r cut = .error e := by
  rcases hr : r cut with e | ⟨b, rest⟩
  · exact ⟨e, rfl⟩
  · exfalso
    obtain ⟨used, rfl, hreads⟩ := h _ _ _ hr
    obtain ⟨tail, rfl⟩ := hcut
    have htail : tail ≠ [] := by
      rintro rfl
      exact hne (append_nil _).symm
    have hall := hwhole.run
    rw [append_assoc, hreads] at hall
    have hrest : rest ++ tail = [] := congrArg Prod.snd (Except.ok.inj hall)
    exact htail (append_eq_nil_iff.mp hrest).2

end Reader

end ENavigator
