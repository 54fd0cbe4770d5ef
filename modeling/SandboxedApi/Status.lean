import Mathlib

/-! # `absl::Status`

The codes the modelled functions return, and the constructors they build their errors with.
-/
namespace SandboxedApi

inductive StatusCode where
  | ok
  | invalidArgument
  | notFound
  | failedPrecondition
  | internal
  deriving DecidableEq, Repr

structure Status where
  code : StatusCode
  message : String
  deriving DecidableEq, Repr

def Status.okStatus : Status := ⟨.ok,""⟩
def invalidArgumentError (message : String) : Status := ⟨.invalidArgument,message⟩
def notFoundError (message : String) : Status := ⟨.notFound,message⟩
def failedPreconditionError (message : String) : Status := ⟨.failedPrecondition,message⟩
def internalError (message : String) : Status := ⟨.internal,message⟩

@[simp] theorem code_okStatus : Status.okStatus.code = .ok := rfl
@[simp] theorem code_invalidArgumentError (message : String) :
    (invalidArgumentError message).code = .invalidArgument := rfl
@[simp] theorem code_notFoundError (message : String) : (notFoundError message).code = .notFound := rfl
@[simp] theorem code_failedPreconditionError (message : String) :
    (failedPreconditionError message).code = .failedPrecondition := rfl
@[simp] theorem code_internalError (message : String) : (internalError message).code = .internal := rfl

/-! ### Fallible steps -/

@[simp] theorem throw_eq_error {ε α : Type} (e : ε) : (throw e : Except ε α) = .error e := rfl

@[simp] theorem pure_eq_ok {ε α : Type} (a : α) : (pure a : Except ε α) = .ok a := rfl

@[simp] theorem error_bind {ε α β : Type} (e : ε) (f : α → Except ε β) :
    (Except.error e >>= f) = .error e := rfl

@[simp] theorem ok_bind {ε α β : Type} (a : α) (f : α → Except ε β) :
    (Except.ok a >>= f) = f a := rfl

@[simp] theorem map_error {ε α β : Type} (e : ε) (f : α → β) :
    (f <$> (Except.error e : Except ε α)) = .error e := rfl

theorem bind_eq_ok {ε α β : Type} {x : Except ε α} {f : α → Except ε β} {b : β} :
    x >>= f = .ok b ↔ ∃ a, x = .ok a ∧ f a = .ok b := by
  cases x with
  | error e => simp [bind,Except.bind]
  | ok a => simp [bind,Except.bind]

@[simp] theorem toOption_eq_some {ε α : Type} {x : Except ε α} {a : α} :
    x.toOption = some a ↔ x = .ok a := by
  cases x <;> simp [Except.toOption]

/-! ### What a fallible step fails with -/

/-- Every error `x` can end in satisfies `P`. -/
def ErrorsIn {ε α : Type} (P : ε → Prop) (x : Except ε α) : Prop := ∀ e, x = .error e → P e

section ErrorsIn

variable {ε α β : Type} {P : ε → Prop}

@[simp] theorem errorsIn_ok (a : α) : ErrorsIn P (.ok a : Except ε α) := by
  intro e h
  cases h

@[simp] theorem errorsIn_error (e : ε) : ErrorsIn P (.error e : Except ε α) ↔ P e := by
  constructor
  · intro h
    exact h e rfl
  · intro h e' he
    cases he
    exact h

theorem errorsIn_bind {x : Except ε α} {f : α → Except ε β} (hx : ErrorsIn P x)
    (hf : ∀ a, x = .ok a → ErrorsIn P (f a)) : ErrorsIn P (x >>= f) := by
  cases x with
  | error e =>
    rw [error_bind,errorsIn_error]
    exact (errorsIn_error e).mp hx
  | ok a => rw [ok_bind]; exact hf a rfl

end ErrorsIn

end SandboxedApi
