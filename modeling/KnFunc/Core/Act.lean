import Mathlib.Logic.Basic
import Mathlib.Order.Defs.Unbundled

/-!
# Go calls: errors, panics, and effects that stay made

The client is Go: a call returns a value and an `error`, or panics. What it
wrote to disk before it failed stays written — there is no rollback anywhere
in the code, and `Create`'s atomicity question (whether a failed `Create`
leaves files behind) is exactly a question about that.

So a call is modelled as `Act σ α`: from a state it produces an outcome
(`Except Fault α`) AND the state it leaves, whatever the outcome. Sequencing
stops at the first fault and keeps the state reached so far, which is Go's
`if err != nil { return }` with its side effects already done.

`Fault` separates a returned `error` (by its text) from a panic:
`semver.New` panics on a malformed version string, and that is not an error
value any caller can inspect.
-/

namespace KnFunc

/-- How a Go call ends when it does not return a value: with an `error`
(by its text), or by panicking. -/
inductive Fault where
  | error (message : String)
  | panic (message : String)
  deriving DecidableEq, Repr

/-- Outcomes are equal when they hold equal values, so that runs of the model
on concrete inputs can be decided. -/
instance decEqExcept {ε α : Type} [DecidableEq ε] [DecidableEq α] : DecidableEq (Except ε α)
  | .error a, .error b => if h : a = b then isTrue (h ▸ rfl) else isFalse fun e => h (Except.error.inj e)
  | .ok a, .ok b => if h : a = b then isTrue (h ▸ rfl) else isFalse fun e => h (Except.ok.inj e)
  | .error _, .ok _ => isFalse fun e => Except.noConfusion e
  | .ok _, .error _ => isFalse fun e => Except.noConfusion e

@[simp] theorem except_ok_bind {ε α β : Type} (a : α) (f : α → Except ε β) :
    (Except.ok a >>= f : Except ε β) = f a := rfl

@[simp] theorem except_error_bind {ε α β : Type} (e : ε) (f : α → Except ε β) :
    (Except.error e >>= f : Except ε β) = .error e := rfl

@[simp] theorem except_map_ok {ε α β : Type} (f : α → β) (a : α) :
    (f <$> Except.ok a : Except ε β) = .ok (f a) := rfl

theorem except_bind_eq_ok {ε α β : Type} {x : Except ε α} {f : α → Except ε β} {b : β} :
    x >>= f = .ok b ↔ ∃ a, x = .ok a ∧ f a = .ok b := by
  cases x <;> simp

/-- A Go call against a state `σ`: its outcome, and the state it leaves. -/
def Act (σ α : Type) : Type := σ → Except Fault α × σ

namespace Act

variable {σ α β : Type}

instance : Monad (Act σ) where
  pure a := fun s => (.ok a, s)
  bind x f := fun s =>
    match x s with
    | (.ok a, s') => f a s'
    | (.error e, s') => (.error e, s')

/-- Fail with `e`, touching nothing. -/
def fail (e : Fault) : Act σ α := fun s => (.error e, s)

/-- Read the state without changing it. -/
def read (f : σ → Except Fault α) : Act σ α := fun s => (f s, s)

/-- Change the state with `f`; when `f` fails, nothing changes. -/
def update (f : σ → Except Fault σ) : Act σ Unit := fun s =>
  match f s with
  | .ok s' => (.ok (), s')
  | .error e => (.error e, s)

theorem update_of_ok {f : σ → Except Fault σ} {s s' : σ} (h : f s = .ok s') :
    update f s = (.ok (), s') := by
  simp only [update, h]

theorem update_of_error {f : σ → Except Fault σ} {s : σ} {e : Fault} (h : f s = .error e) :
    update f s = (.error e, s) := by
  simp only [update, h]

/-- An update succeeded exactly when `f` did, and left what `f` returned. -/
theorem update_eq_ok {f : σ → Except Fault σ} {s s' : σ} {u : Unit} :
    update f s = (.ok u, s') ↔ f s = .ok s' := by
  unfold update
  split <;> simp_all

/-- An update failed exactly when `f` did, and changed nothing. -/
theorem update_eq_error {f : σ → Except Fault σ} {s s' : σ} {e : Fault} :
    update f s = (.error e, s') ↔ f s = .error e ∧ s' = s := by
  unfold update
  split <;> simp_all [eq_comm]

@[simp] theorem pure_apply (a : α) (s : σ) : (pure a : Act σ α) s = (.ok a, s) := rfl

theorem bind_apply (x : Act σ α) (f : α → Act σ β) (s : σ) :
    (x >>= f) s = match x s with
      | (.ok a, s') => f a s'
      | (.error e, s') => (.error e, s') := rfl

@[simp] theorem fail_apply (e : Fault) (s : σ) : (fail e : Act σ α) s = (.error e, s) := rfl

@[simp] theorem read_apply (f : σ → Except Fault α) (s : σ) : read f s = (f s, s) := rfl

/-- A read returned what `f` returned, and changed nothing. -/
theorem read_eq {f : σ → Except Fault α} {s s' : σ} {r : Except Fault α} (h : read f s = (r, s')) :
    f s = r ∧ s = s' := by
  simpa only [read_apply, Prod.mk.injEq] using h

theorem bind_of_ok {x : Act σ α} {f : α → Act σ β} {s s' : σ} {a : α}
    (h : x s = (.ok a, s')) : (x >>= f) s = f a s' := by
  simp only [bind_apply, h]

theorem bind_of_error {x : Act σ α} {f : α → Act σ β} {s s' : σ} {e : Fault}
    (h : x s = (.error e, s')) : (x >>= f) s = (.error e, s') := by
  simp only [bind_apply, h]

/-- A failure ends the sequence where it happened. -/
@[simp] theorem fail_bind (e : Fault) (f : α → Act σ β) : (fail e >>= f : Act σ β) = fail e := rfl

instance : LawfulMonad (Act σ) := LawfulMonad.mk' (Act σ)
  (fun x => funext fun s => by
    show (x >>= fun a => pure (id a)) s = x s
    rw [bind_apply]
    rcases x s with ⟨_ | a, s'⟩ <;> rfl)
  (fun _ _ => rfl)
  (fun x f g => funext fun s => by
    rw [bind_apply, bind_apply, bind_apply]
    rcases x s with ⟨_ | a, s'⟩ <;> rfl)

/-- A sequenced call succeeded exactly when its first part did and the rest
succeeded from where the first part left off. -/
theorem bind_eq_ok {x : Act σ α} {f : α → Act σ β} {s s'' : σ} {b : β} :
    (x >>= f) s = (.ok b, s'') ↔ ∃ a s', x s = (.ok a, s') ∧ f a s' = (.ok b, s'') := by
  rw [bind_apply]
  constructor
  · intro h
    split at h
    · exact ⟨_, _, ‹_›, h⟩
    · cases h
  · rintro ⟨a, s', hx, hf⟩
    simp only [hx, hf]

/-- A sequenced call failed either in its first part, or after it in the rest. -/
theorem bind_eq_error {x : Act σ α} {f : α → Act σ β} {s s'' : σ} {e : Fault} :
    (x >>= f) s = (.error e, s'') ↔
      x s = (.error e, s'') ∨ ∃ a s', x s = (.ok a, s') ∧ f a s' = (.error e, s'') := by
  rw [bind_apply]
  constructor
  · intro h
    split at h
    · exact .inr ⟨_, _, ‹_›, h⟩
    · cases h; exact .inl ‹_›
  · rintro (hx | ⟨a, s', hx, hf⟩)
    · simp only [hx]
    · simp only [hx, hf]

/-- A call that starts with a read succeeded exactly when the read did and
the rest succeeded from the same state. -/
theorem read_bind_eq_ok {g : σ → Except Fault α} {f : α → Act σ β} {s s' : σ} {b : β} :
    (read g >>= f) s = (.ok b, s') ↔ ∃ a, g s = .ok a ∧ f a s = (.ok b, s') := by
  rw [bind_apply, read_apply]
  cases g s <;> simp

/-- A call that starts with a read failed in the read, having changed
nothing, or in the rest. -/
theorem read_bind_eq_error {g : σ → Except Fault α} {f : α → Act σ β} {s s' : σ} {e : Fault} :
    (read g >>= f) s = (.error e, s') ↔
      (g s = .error e ∧ s' = s) ∨ ∃ a, g s = .ok a ∧ f a s = (.error e, s') := by
  rw [bind_apply, read_apply]
  cases g s <;> simp [eq_comm]

/-! ## Calls that only read -/

/-- A call that leaves the state as it found it, whatever its outcome. -/
def ReadOnly (x : Act σ α) : Prop := ∀ s, (x s).2 = s

theorem readOnly_pure (a : α) : ReadOnly (pure a : Act σ α) := fun _ => rfl

theorem readOnly_fail (e : Fault) : ReadOnly (fail e : Act σ α) := fun _ => rfl

theorem readOnly_read (f : σ → Except Fault α) : ReadOnly (read f) := fun _ => rfl

theorem ReadOnly.bind {x : Act σ α} {f : α → Act σ β} (hx : ReadOnly x) (hf : ∀ a, ReadOnly (f a)) :
    ReadOnly (x >>= f) := by
  intro s
  have hs := hx s
  rw [bind_apply]
  split <;> rename_i h <;> rw [h] at hs <;> subst hs
  · exact hf _ _
  · rfl

theorem ReadOnly.ite {c : Prop} [Decidable c] {x y : Act σ α} (hx : ReadOnly x) (hy : ReadOnly y) :
    ReadOnly (if c then x else y) := by
  split <;> assumption

/-! ## The state before and after a call -/

section Within

variable {R : σ → σ → Prop}

/-- Run from `s`, `x` leaves a state that `R` relates to `s`, whatever its
outcome. For a preorder `R` this is closed under sequencing, reads and
branches, so a command inherits it from its parts. -/
def Within (R : σ → σ → Prop) (s : σ) (x : Act σ α) : Prop := R s (x s).2

/-- The relation that carries the invariant `I` from a state to a later one. -/
def Keeps (I : σ → Prop) (s s' : σ) : Prop := I s → I s'

instance (I : σ → Prop) : IsPreorder σ (Keeps I) where
  refl _ h := h
  trans _ _ _ h h' hi := h' (h hi)

theorem within_of_readOnly [IsRefl σ R] {s : σ} {x : Act σ α} (h : ReadOnly x) : Within R s x := by
  rw [Within, h s]
  exact IsRefl.refl s

theorem Within.bind [IsTrans σ R] {s : σ} {x : Act σ α} {f : α → Act σ β} (hx : Within R s x)
    (hf : ∀ a s', x s = (.ok a, s') → Within R s' (f a)) : Within R s (x >>= f) := by
  rw [Within, bind_apply]
  rcases h : x s with ⟨_ | a, s'⟩ <;> rw [Within, h] at hx
  · exact hx
  · exact IsTrans.trans _ _ _ hx (hf a s' h)

theorem within_read_bind [IsRefl σ R] {s : σ} {g : σ → Except Fault α} {f : α → Act σ β}
    (hf : ∀ a, g s = .ok a → Within R s (f a)) : Within R s (read g >>= f) := by
  rw [Within, bind_apply, read_apply]
  cases h : g s with
  | error e => exact IsRefl.refl s
  | ok a => exact hf a h

theorem within_fail_bind [IsRefl σ R] {s : σ} {e : Fault} {f : α → Act σ β} :
    Within R s (fail e >>= f) := by
  rw [fail_bind]
  exact within_of_readOnly (readOnly_fail e)

theorem Within.ite {s : σ} {c : Prop} [Decidable c] {x y : Act σ α} (hx : Within R s x)
    (hy : Within R s y) : Within R s (if c then x else y) := by
  split <;> assumption

end Within

end Act

end KnFunc
