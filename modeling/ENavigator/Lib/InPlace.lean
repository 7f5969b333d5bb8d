import Mathlib.Tactic.Common

/-!
# Calls that change a state in place

A call gives an outcome and leaves a state, also when it fails: the changes made before the failure stay. `Call` is such
a program, with assignments as `modify` and an early return as `throw`. A function that returns the next state only if
it succeeds (`S → Except E (O × S)`) stands for a call that is all or nothing (`restore`); a call that is one of those
is inert (`Machine.Inert`): where it fails, it leaves the state as it was. The inputs that an inert machine rejects may
be taken out of a run, and what the others give stays the same (`Machine.outcomes_accepted`).
-/

namespace ENavigator

abbrev Call (S E O : Type) := ExceptT E (StateM S) O

namespace Call

variable {S E O A : Type}

/-! ## The outcome in a state, and the state left -/

@[simp] theorem pure_apply (a : O) (s : S) : (pure a : Call S E O) s = (.ok a, s) := rfl

@[simp] theorem throw_apply (e : E) (s : S) : (throw e : Call S E O) s = (.error e, s) := rfl

@[simp] theorem modify_apply (f : S → S) (s : S) : (modify f : Call S E Unit) s = (.ok (), f s) := rfl

@[simp] theorem get_bind_apply (k : S → Call S E O) (s : S) : ((get : Call S E S) >>= k) s = k s s := rfl

@[simp] theorem modify_bind_apply (f : S → S) (k : Unit → Call S E O) (s : S) :
    ((modify f : Call S E Unit) >>= k) s = k () (f s) := rfl

@[simp] theorem throw_bind_apply (e : E) (k : A → Call S E O) (s : S) :
    ((throw e : Call S E A) >>= k) s = (.error e, s) := rfl

@[simp] theorem pure_bind_apply (a : A) (k : A → Call S E O) (s : S) : ((pure a : Call S E A) >>= k) s = k a s := rfl

variable {c : Call S E A} {s t : S} {e : E} {p : Prop}

theorem bind_of_error (h : c s = (.error e, t)) (k : A → Call S E O) : (c >>= k) s = (.error e, t) := by
  show (match c s with | (x, t) => ExceptT.bindCont k x t) = _
  rw [h]
  rfl

theorem bind_of_ok {a : A} (h : c s = (.ok a, t)) (k : A → Call S E O) : (c >>= k) s = k a t := by
  show (match c s with | (x, t) => ExceptT.bindCont k x t) = _
  rw [h]
  rfl

/-- What goes on behind a step that reads no state; a failure of the step leaves the state alone. -/
def attempt (s : S) (x : Except E A) (k : A → Except E O × S) : Except E O × S :=
  match x with
  | .error e => (.error e, s)
  | .ok a => k a

@[simp] theorem attempt_error (s : S) (e : E) (k : A → Except E O × S) : attempt s (.error e) k = (.error e, s) := rfl

@[simp] theorem attempt_ok (s : S) (a : A) (k : A → Except E O × S) : attempt s (.ok a) k = k a := rfl

@[simp] theorem lift_bind_apply (x : Except E A) (k : A → Call S E O) (s : S) :
    ((liftM x : Call S E A) >>= k) s = attempt s x fun a => k a s := by
  cases x <;> rfl

@[simp] theorem map_modify_apply (g : Unit → O) (f : S → S) (s : S) :
    (g <$> (modify f : Call S E Unit)) s = (.ok (g ()), f s) := rfl

theorem map_error {g : A → O} (h : (g <$> c) s = (.error e, t)) : c s = (.error e, t) := by
  rcases hc : c s with ⟨e' | a, u⟩
  · have hmap : (g <$> c) s = (.error e', u) := by
      rw [map_eq_pure_bind, bind_of_error hc]
    cases hmap.symm.trans h
    rfl
  · have hmap : (g <$> c) s = (.ok (g a), u) := by
      rw [map_eq_pure_bind, bind_of_ok hc]
      rfl
    cases hmap.symm.trans h

@[simp] theorem ite_apply [Decidable p] (c d : Call S E O) (s : S) :
    (if p then c else d) s = if p then c s else d s := by
  split <;> rfl

/-! ## All or nothing -/

@[simp] theorem except_throw (e : E) : (throw e : Except E A) = .error e := rfl

/-- The outcome, and the state that a call leaves which changes it only if it succeeds. -/
def restore (s : S) : Except E (O × S) → Except E O × S
  | .error e => (.error e, s)
  | .ok (o, s) => (.ok o, s)

@[simp] theorem restore_ok (s t : S) (o : O) : restore s (.ok (o, t) : Except E (O × S)) = (.ok o, t) := rfl

@[simp] theorem restore_pure (s t : S) (o : O) : restore s (pure (o, t) : Except E (O × S)) = (.ok o, t) := rfl

@[simp] theorem restore_error (s : S) (e : E) : restore s (.error e : Except E (O × S)) = (.error e, s) := rfl

@[simp] theorem restore_throw (s : S) (e : E) : restore s (throw e : Except E (O × S)) = (.error e, s) := rfl

@[simp] theorem restore_bind (s : S) (x : Except E A) (k : A → Except E (O × S)) :
    restore s (x >>= k) = attempt s x fun a => restore s (k a) := by
  cases x <;> rfl

@[simp] theorem restore_map (s : S) (g : A → O × S) (x : Except E A) :
    restore s (g <$> x) = attempt s x fun a => (.ok (g a).1, (g a).2) := by
  cases x <;> rfl

@[simp] theorem restore_ite [Decidable p] (s : S) (x y : Except E (O × S)) :
    restore s (if p then x else y) = if p then restore s x else restore s y := by
  split <;> rfl

theorem restore_of_error {x : Except E (A × S)} (hc : c s = restore s x) (h : c s = (.error e, t)) : t = s := by
  rw [hc] at h
  rcases x with e' | ⟨o, u⟩
  · cases h
    rfl
  · cases h

end Call

/-! ## Machines -/

/-- A state and the calls that change it. -/
structure Machine where
  State : Type
  Input : Type
  Error : Type
  Output : Type
  call : Input → Call State Error Output

namespace Machine

variable (m : Machine)

/-- A call that fails leaves the state as it was. -/
def Inert : Prop := ∀ input s e t, m.call input s = (.error e, t) → t = s

/-- What the calls give, one after the other. -/
def outcomes : m.State → List m.Input → List (Except m.Error m.Output)
  | _, [] => []
  | s, input :: inputs => (m.call input s).1 :: outcomes (m.call input s).2 inputs

/-- The inputs of the calls that succeed. -/
def accepted : m.State → List m.Input → List m.Input
  | _, [] => []
  | s, input :: inputs =>
    if (m.call input s).1.isOk then input :: accepted (m.call input s).2 inputs
    else accepted (m.call input s).2 inputs

variable {m}

/-- An inert machine gives the same without the inputs that it rejects. -/
theorem outcomes_accepted (h : m.Inert) (s : m.State) (inputs : List m.Input) :
    m.outcomes s (m.accepted s inputs) = (m.outcomes s inputs).filter Except.isOk := by
  induction inputs generalizing s with
  | nil => rfl
  | cons input inputs ih =>
    rcases hcall : m.call input s with ⟨e | o, t⟩
    · obtain rfl := h input s e t hcall
      have hrejected : ¬ (Except.error e : Except m.Error m.Output).isOk = true := Bool.false_ne_true
      rw [accepted, outcomes, hcall, if_neg hrejected, List.filter_cons_of_neg hrejected]
      exact ih t
    · have haccepted : (Except.ok o : Except m.Error m.Output).isOk = true := rfl
      rw [accepted, outcomes, hcall, if_pos haccepted, List.filter_cons_of_pos haccepted, outcomes, hcall]
      exact congrArg _ (ih t)

end Machine

end ENavigator
