import Mathlib.Logic.Basic

/-! # Triples for a state monad over exceptions

`Triple P m Q E` says that from every state satisfying `P` the program `m` either returns a value
and a state satisfying `Q`, or stops with an error satisfying `E`; `StateT σ (Except ε)` drops
the state on an error, so nothing is said of it. The rules follow the shape of a program: one
for each operation of the monad and one for each kind of branch. Recursion is left to the
programs' own induction principles.

`ifThen c body` is the statement `if (c) body;` of the programs modelled, so that a conditional
statement followed by others is one program, not a join point copied into both branches.

`Keeps f E m` is the frame condition of a program that may read the state and change parts of
it, but leaves `f` of it as it is: it then keeps every property of `f` (`Keeps.triple`).
-/
namespace SandboxedApi.StateExcept

variable {σ ε α β τ : Type}

/-- The statement `if (c) body;`: `body` when `c` holds, nothing otherwise. -/
def ifThen {m : Type → Type} [Monad m] (c : Prop) [Decidable c] (body : m Unit) : m Unit :=
  if c then body else pure ()

/-- What the result of a run owes: a returned value and state satisfy `Q`, an error `E`. -/
def Holds (Q : α → σ → Prop) (E : ε → Prop) : Except ε (α × σ) → Prop
  | .ok (a,s) => Q a s
  | .error e => E e

@[simp] theorem holds_ok {Q : α → σ → Prop} {E : ε → Prop} (a : α) (s : σ) :
    Holds Q E (.ok (a,s)) ↔ Q a s := Iff.rfl

@[simp] theorem holds_error {Q : α → σ → Prop} {E : ε → Prop} (e : ε) :
    Holds Q E (.error e : Except ε (α × σ)) ↔ E e := Iff.rfl

/-- From a state satisfying `P`, `m` returns into `Q` or fails into `E`. -/
def Triple (P : σ → Prop) (m : StateT σ (Except ε) α) (Q : α → σ → Prop) (E : ε → Prop) : Prop :=
  ∀ s, P s → Holds Q E (m.run s)

section Rules

variable {P P' : σ → Prop} {Q Q' : α → σ → Prop} {E E' : ε → Prop} {m : StateT σ (Except ε) α}

theorem Triple.pure {a : α} (h : ∀ s, P s → Q a s) : Triple P (pure a) Q E := h

theorem Triple.bind {f : α → StateT σ (Except ε) β} {R : α → σ → Prop} {Q : β → σ → Prop}
    (hm : Triple P m R E) (hf : ∀ a, Triple (R a) (f a) Q E) : Triple P (m >>= f) Q E := by
  intro s hs
  have h := hm s hs
  rw [StateT.run_bind]
  cases hr : m.run s with
  | error e =>
    rw [hr] at h
    exact h
  | ok r =>
    rw [hr] at h
    exact hf r.1 r.2 h

theorem Triple.throw {e : ε} (h : ∀ s, P s → E e) : Triple P (throw e : StateT σ (Except ε) α) Q E := h

theorem Triple.get {Q : σ → σ → Prop} (h : ∀ s, P s → Q s s) :
    Triple P (get : StateT σ (Except ε) σ) Q E := h

theorem Triple.get_pre : Triple P (MonadState.get : StateT σ (Except ε) σ) (fun _ => P) E :=
  fun _ h => h

theorem Triple.get_self :
    Triple P (MonadState.get : StateT σ (Except ε) σ) (fun a s => a = s ∧ P s) E :=
  fun _ h => ⟨rfl,h⟩

theorem Triple.modify {f : σ → σ} {Q : PUnit → σ → Prop} (h : ∀ s, P s → Q ⟨⟩ (f s)) :
    Triple P (modify f : StateT σ (Except ε) PUnit) Q E := h

theorem Triple.modifyGet {f : σ → α × σ} (h : ∀ s, P s → Q (f s).1 (f s).2) :
    Triple P (modifyGet f : StateT σ (Except ε) α) Q E := h

theorem Triple.ite {c : Prop} [Decidable c] {t e : StateT σ (Except ε) α} (ht : c → Triple P t Q E)
    (he : ¬c → Triple P e Q E) : Triple P (if c then t else e) Q E := by
  by_cases hc : c
  · rw [if_pos hc]
    exact ht hc
  · rw [if_neg hc]
    exact he hc

theorem Triple.dite {c : Prop} [Decidable c] {t : c → StateT σ (Except ε) α}
    {e : ¬c → StateT σ (Except ε) α} (ht : ∀ h, Triple P (t h) Q E) (he : ∀ h, Triple P (e h) Q E) :
    Triple P (if h : c then t h else e h) Q E := by
  by_cases hc : c
  · rw [dif_pos hc]
    exact ht hc
  · rw [dif_neg hc]
    exact he hc

theorem Triple.ifThen {c : Prop} [Decidable c] {body : StateT σ (Except ε) Unit} {Q : Unit → σ → Prop}
    (ht : c → Triple P body Q E) (he : ∀ s, P s → Q () s) : Triple P (ifThen c body) Q E :=
  Triple.ite ht fun _ => Triple.pure he

theorem Triple.mono (h : Triple P m Q E) (hP : ∀ s, P' s → P s) (hQ : ∀ a s, Q a s → Q' a s)
    (hE : ∀ e, E e → E' e) : Triple P' m Q' E' := by
  intro s hs
  have h' := h s (hP s hs)
  cases hr : m.run s with
  | error e =>
    rw [hr] at h'
    exact hE e h'
  | ok r =>
    rw [hr] at h'
    exact hQ r.1 r.2 h'

theorem Triple.pre (h : Triple P m Q E) (hP : ∀ s, P' s → P s) : Triple P' m Q E :=
  fun s hs => h s (hP s hs)

theorem Triple.and (h : Triple P m Q E) (h' : Triple P m Q' E) :
    Triple P m (fun a s => Q a s ∧ Q' a s) E := by
  intro s hs
  have h₁ := h s hs
  have h₂ := h' s hs
  cases hr : m.run s with
  | error e =>
    rw [hr] at h₁
    exact h₁
  | ok r =>
    rw [hr] at h₁ h₂
    exact ⟨h₁,h₂⟩

theorem Triple.run_ok (h : Triple P m Q (fun _ => False)) {s : σ} (hs : P s) :
    ∃ a s', m.run s = .ok (a,s') ∧ Q a s' := by
  have h' := h s hs
  cases hr : m.run s with
  | error e =>
    rw [hr] at h'
    exact h'.elim
  | ok r =>
    rw [hr] at h'
    exact ⟨r.1,r.2,rfl,h'⟩

theorem Triple.of_pure {c : Prop} (h : c → Triple P m Q E) : Triple (fun s => c ∧ P s) m Q E :=
  fun s hs => h hs.1 s hs.2

end Rules

/-! ### Frames -/

/-- `m` leaves `f` of the state as it is, and fails only into `E`. -/
def Keeps (f : σ → τ) (E : ε → Prop) (m : StateT σ (Except ε) α) : Prop :=
  ∀ t, Triple (fun s => f s = t) m (fun _ s => f s = t) E

section Keeps

variable {f : σ → τ} {E : ε → Prop} {m : StateT σ (Except ε) α}

theorem Keeps.triple (h : Keeps f E m) {R : τ → Prop} :
    Triple (fun s => R (f s)) m (fun _ s => R (f s)) E := by
  intro s hs
  have h' := h (f s) s rfl
  cases hr : m.run s with
  | error e =>
    rw [hr] at h'
    exact h'
  | ok r =>
    obtain ⟨a,s'⟩ := r
    rw [hr] at h'
    change f s' = f s at h'
    change R (f s')
    rw [h']
    exact hs

theorem Keeps.preserves (h : Keeps f E m) {P : σ → Prop} (hP : ∀ s s', f s = f s' → P s → P s') :
    Triple P m (fun _ => P) E := by
  refine (h.triple (R := fun t => ∃ s, f s = t ∧ P s)).mono (fun s hs => ⟨s,rfl,hs⟩) ?_ fun _ h => h
  rintro _ s' ⟨s,hs,hPs⟩
  exact hP s s' hs hPs

theorem Keeps.bind_of {Q : α → Prop} {g : α → StateT σ (Except ε) β} (hk : Keeps f E m)
    (hm : Triple (fun _ => True) m (fun a _ => Q a) E) (hg : ∀ a, Q a → Keeps f E (g a)) :
    Keeps f E (m >>= g) := by
  intro t
  have hm' := (hk t).and (hm.mono (fun _ _ => trivial) (fun _ _ h => h) fun _ h => h)
  exact Triple.bind hm' fun a s hs => hg a hs.2 t s hs.1

theorem keeps_pure (a : α) : Keeps f E (pure a : StateT σ (Except ε) α) :=
  fun _ => Triple.pure fun _ h => h

theorem Keeps.bind {g : α → StateT σ (Except ε) β} (hm : Keeps f E m) (hg : ∀ a, Keeps f E (g a)) :
    Keeps f E (m >>= g) :=
  fun t => Triple.bind (hm t) fun a => hg a t

theorem keeps_throw {e : ε} (h : E e) : Keeps f E (throw e : StateT σ (Except ε) α) :=
  fun _ => Triple.throw fun _ _ => h

theorem keeps_get : Keeps f E (get : StateT σ (Except ε) σ) :=
  fun _ => Triple.get fun _ h => h

theorem keeps_modify {g : σ → σ} (h : ∀ s, f (g s) = f s) :
    Keeps f E (modify g : StateT σ (Except ε) PUnit) :=
  fun _ => Triple.modify fun s hs => (h s).trans hs

theorem keeps_modifyGet {g : σ → α × σ} (h : ∀ s, f (g s).2 = f s) :
    Keeps f E (modifyGet g : StateT σ (Except ε) α) :=
  fun _ => Triple.modifyGet fun s hs => (h s).trans hs

theorem keeps_ite {c : Prop} [Decidable c] {t e : StateT σ (Except ε) α} (ht : c → Keeps f E t)
    (he : ¬c → Keeps f E e) : Keeps f E (if c then t else e) :=
  fun t' => Triple.ite (fun h => ht h t') fun h => he h t'

end Keeps

end SandboxedApi.StateExcept
