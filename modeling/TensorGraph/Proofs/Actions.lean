import Mathlib.Logic.Basic
import TensorGraph.Inference.Context

/-!
# Proofs/Actions — what a failing action leaves

    action     reads     writes      fails     leaves
    frozen     r                     yes       r
    free       r         r + s       no        r + s

An action keeps what it wrote before it fails, so that a failure leaves the state alone has to be
seen from the action: it does if all tests stand before the first write (`Action.IsAtomic`), and of
course if nothing is written at all (`Action.IsReadOnly`).
-/

namespace TensorGraph.Action

variable {ε σ α β : Type} {a : Action ε σ α} {s s' : σ} {e : ε}

/-! ## Views of an action -/

theorem result_eq_ok_iff : a.result s = .ok s' ↔ ∃ x, a s = .ok x s' := by
  rw [result]
  cases a s <;> simp

theorem result_eq_error_iff : a.result s = .error e ↔ ∃ s', a s = .error e s' := by
  rw [result]
  cases a s <;> simp

theorem left_of_result (h : a.result s = .ok s') : a.left s = s' := by
  obtain ⟨x, hx⟩ := result_eq_ok_iff.mp h
  rw [left, hx]

theorem left_bind_of_result {a : Action ε σ PUnit} (h : a.result s = .ok s') (b : Action ε σ β) :
    left (a >>= fun _ => b) s = b.left s' := by
  obtain ⟨_, hx⟩ := result_eq_ok_iff.mp h
  simp only [left, bind, EStateM.bind, hx]

theorem left_bind_of_error {f : α → Action ε σ β} (h : a.result s = .error e) :
    left (a >>= f) s = a.left s := by
  obtain ⟨s', hs'⟩ := result_eq_error_iff.mp h
  simp only [left, bind, EStateM.bind, hs']

section

variable (e : ε) (s s' : σ) (f : σ → Action ε σ β) (g : α → Action ε σ β)

@[simp] theorem result_pure (x : α) : result (pure x : Action ε σ α) s = .ok s := rfl

@[simp] theorem result_throw : result (throw e : Action ε σ α) s = .error e := rfl

@[simp] theorem result_set : result (set s' : Action ε σ PUnit) s = .ok s' := rfl

@[simp] theorem result_get_bind : result (get >>= f) s = (f s).result s := rfl

@[simp] theorem result_ofExcept_bind (x : Except ε α) :
    result (ofExcept x >>= g) s = x >>= fun a => (g a).result s := by
  cases x <;> rfl

@[simp] theorem result_ite {p : Prop} [Decidable p] (a b : Action ε σ α) :
    result (if p then a else b) s = if p then a.result s else b.result s := by
  split <;> rfl

/-- A test that fails ends the action, and one that passes changes nothing. -/
theorem result_guard_eq_ok_iff {p : Prop} [Decidable p] {a : Action ε σ α} :
    result (if p then throw e else a) s = .ok s' ↔ ¬ p ∧ a.result s = .ok s' := by
  by_cases hp : p <;> simp [hp]

@[simp] theorem answer_pure (x : α) : answer (pure x : Action ε σ α) s = .ok x := rfl

@[simp] theorem answer_throw : answer (throw e : Action ε σ α) s = .error e := rfl

@[simp] theorem answer_get_bind : answer (get >>= f) s = (f s).answer s := rfl

@[simp] theorem answer_ofExcept_bind (x : Except ε α) :
    answer (ofExcept x >>= g) s = x >>= fun a => (g a).answer s := by
  cases x <;> rfl

@[simp] theorem answer_ite {p : Prop} [Decidable p] (a b : Action ε σ α) :
    answer (if p then a else b) s = if p then a.answer s else b.answer s := by
  split <;> rfl

end

/-! ## Actions that write only where they succeed -/

/-- A failure leaves the state as it was. -/
def IsAtomic (a : Action ε σ α) : Prop := ∀ s e s', a s = .error e s' → s' = s

theorem IsAtomic.left_of_error (ha : a.IsAtomic) (h : a.result s = .error e) : a.left s = s := by
  obtain ⟨s', hs'⟩ := result_eq_error_iff.mp h
  rw [left, hs']
  exact ha s e s' hs'

theorem isAtomic_pure (x : α) : IsAtomic (pure x : Action ε σ α) := nofun

theorem isAtomic_throw (e : ε) : IsAtomic (throw e : Action ε σ α) := by
  intro s e' s' h
  cases h
  rfl

theorem isAtomic_set (s : σ) : IsAtomic (set s : Action ε σ PUnit) := nofun

theorem IsAtomic.ite {p : Prop} [Decidable p] {a b : Action ε σ α} (ha : a.IsAtomic)
    (hb : b.IsAtomic) : IsAtomic (if p then a else b) := by
  split
  · exact ha
  · exact hb

/-- Reading the state comes before any write. -/
theorem isAtomic_get_bind {f : σ → Action ε σ α} (hf : ∀ s, (f s).IsAtomic) :
    IsAtomic (get >>= f) :=
  fun s => hf s s

theorem isAtomic_ofExcept_bind {g : α → Action ε σ β} (hg : ∀ x, (g x).IsAtomic)
    (x : Except ε α) : IsAtomic (ofExcept x >>= g) := by
  cases x with
  | ok x => exact hg x
  | error e => exact isAtomic_throw e

/-! ## Actions that only read -/

/-- The state is left as it was, whatever the answer. -/
def IsReadOnly (a : Action ε σ α) : Prop := ∀ s, a.left s = s

theorem isReadOnly_pure (x : α) : IsReadOnly (pure x : Action ε σ α) := fun _ => rfl

theorem isReadOnly_throw (e : ε) : IsReadOnly (throw e : Action ε σ α) := fun _ => rfl

theorem IsReadOnly.ite {p : Prop} [Decidable p] {a b : Action ε σ α} (ha : a.IsReadOnly)
    (hb : b.IsReadOnly) : IsReadOnly (if p then a else b) := by
  split
  · exact ha
  · exact hb

theorem isReadOnly_get_bind {f : σ → Action ε σ α} (hf : ∀ s, (f s).IsReadOnly) :
    IsReadOnly (get >>= f) :=
  fun s => hf s s

theorem isReadOnly_ofExcept_bind {g : α → Action ε σ β} (hg : ∀ x, (g x).IsReadOnly)
    (x : Except ε α) : IsReadOnly (ofExcept x >>= g) := by
  cases x with
  | ok x => exact hg x
  | error e => exact isReadOnly_throw e

end TensorGraph.Action
