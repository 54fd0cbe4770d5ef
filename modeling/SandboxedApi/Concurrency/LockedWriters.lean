import Mathlib.Logic.Function.Basic
import Mathlib.Logic.Relation

/-! # Writers that share a stream under a lock

Threads write messages to one stream. A message goes out in parts, each part in as many partial
writes as the stream takes, and a thread holds one lock from the first write of a message to the
end of its last part; a message the thread refuses before it takes the lock is not written.

Whatever the interleaving of the threads and however the writes split, the stream is the parts
of the messages, whole and one message after the other, in the order their threads took the
lock, followed by what the holder has written of its message so far; and the messages of each
thread go out in its own order (`Inv`, kept by every step). While there is work left some step
can be taken (`exists_step`).
-/
namespace SandboxedApi.LockedWriters

variable {τ μ α : Type}

/-- A thread: the messages it has still to write, and what is left of the parts of the one it is
writing while it holds the lock. -/
structure Writer (μ α : Type) where
  pending : List μ
  parts : List (List α)

structure State (τ μ α : Type) where
  writers : τ → Writer μ α
  lock : Option τ
  stream : List α
  /-- The messages in the order their threads took the lock, with the threads: a history
  variable. -/
  order : List (τ × μ)

/-- Every thread with its messages to write, the lock free, nothing written. -/
def State.init (msgs : τ → List μ) : State τ μ α := ⟨fun t => ⟨msgs t,[]⟩,none,[],[]⟩

/-- What is left to write of the message in progress. -/
def State.held (s : State τ μ α) : List (List α) :=
  match s.lock with
  | some t => (s.writers t).parts
  | none => []

/-- The parts left once `k` more elements of the first part `p` went out. -/
def advance (p : List α) (ps : List (List α)) (k : Nat) : List (List α) :=
  if k < p.length then p.drop k :: ps else ps

/-- The stream a sequence of whole messages makes. -/
def frames (parts : μ → List (List α)) (order : List (τ × μ)) : List α :=
  order.flatMap fun e => (parts e.2).flatten

variable [DecidableEq τ] (parts : μ → List (List α)) (accepted : μ → Bool)

inductive Step : State τ μ α → State τ μ α → Prop
  | refuse {s : State τ μ α} {t : τ} {m : μ} {ms : List μ} :
      s.lock ≠ some t → (s.writers t).pending = m :: ms → accepted m = false →
      Step s { s with writers := Function.update s.writers t ⟨ms,[]⟩ }
  | acquire {s : State τ μ α} {t : τ} {m : μ} {ms : List μ} :
      s.lock = none → (s.writers t).pending = m :: ms → accepted m = true →
      Step s { s with
                writers := Function.update s.writers t ⟨ms,parts m⟩
                lock := some t
                order := s.order ++ [(t,m)] }
  | write {s : State τ μ α} {t : τ} {p : List α} {ps : List (List α)} {k : Nat} :
      s.lock = some t → (s.writers t).parts = p :: ps → 0 < k → k ≤ p.length →
      Step s { s with
                writers := Function.update s.writers t ⟨(s.writers t).pending,advance p ps k⟩
                stream := s.stream ++ p.take k }
  | release {s : State τ μ α} {t : τ} :
      s.lock = some t → (s.writers t).parts = [] → Step s { s with lock := none }

/-- What holds of every state a run reaches from `State.init msgs`. -/
structure Inv (msgs : τ → List μ) (s : State τ μ α) : Prop where
  idle : ∀ t, s.lock ≠ some t → (s.writers t).parts = []
  nonempty : ∀ p ∈ s.held, p ≠ []
  stream : s.stream ++ s.held.flatten = frames parts s.order
  fifo : ∀ t, (s.order.filter (·.1 = t)).map Prod.snd ++ (s.writers t).pending.filter accepted =
    (msgs t).filter accepted

/-! ### The message in progress -/

section Held

variable {s : State τ μ α} {t : τ}

omit [DecidableEq τ] in
theorem held_of_some (h : s.lock = some t) : s.held = (s.writers t).parts := by
  simp [State.held,h]

omit [DecidableEq τ] in
theorem held_of_none (h : s.lock = none) : s.held = [] := by
  simp [State.held,h]

omit [DecidableEq τ] in
theorem take_append_flatten_advance {p : List α} {ps : List (List α)} {k : Nat} (hk : k ≤ p.length) :
    p.take k ++ (advance p ps k).flatten = (p :: ps).flatten := by
  unfold advance
  by_cases h : k < p.length
  · rw [if_pos h,List.flatten_cons,List.flatten_cons,← List.append_assoc,List.take_append_drop]
  · rw [if_neg h,show k = p.length by omega,List.take_length]
    simp

omit [DecidableEq τ] in
theorem ne_nil_of_mem_advance {p : List α} {ps : List (List α)} {k : Nat}
    (hp : ∀ q ∈ p :: ps, q ≠ []) : ∀ q ∈ advance p ps k, q ≠ [] := by
  unfold advance
  by_cases h : k < p.length
  · rw [if_pos h]
    intro q hq
    rcases List.mem_cons.mp hq with rfl | hq
    · simpa using h
    · exact hp q (List.mem_cons_of_mem _ hq)
  · rw [if_neg h]
    exact fun q hq => hp q (List.mem_cons_of_mem _ hq)

theorem held_update_of_ne (h : s.lock ≠ some t) (w : Writer μ α) :
    ({ s with writers := Function.update s.writers t w } : State τ μ α).held = s.held := by
  cases hl : s.lock with
  | none => simp [State.held,hl]
  | some u =>
    have hu : u ≠ t := fun he => h (by rw [hl,he])
    simp [State.held,hl,Function.update_of_ne hu]

end Held

/-! ### The invariant -/

section Invariant

variable {parts accepted} {msgs : τ → List μ} {s s' : State τ μ α}

theorem inv_init (msgs : τ → List μ) : Inv parts accepted msgs (State.init msgs) where
  idle _ _ := rfl
  nonempty := by simp [State.init,State.held]
  stream := by simp [State.init,State.held,frames]
  fifo t := by simp [State.init]

/-- Every step keeps the invariant, when no message has an empty part. -/
theorem Inv.step (hparts : ∀ m, ∀ p ∈ parts m, p ≠ []) (hi : Inv parts accepted msgs s)
    (h : Step parts accepted s s') : Inv parts accepted msgs s' := by
  cases h with
  | @refuse t m ms hl hp ha =>
    refine ⟨fun u hu => ?_,by rw [held_update_of_ne hl]; exact hi.nonempty,
      by rw [held_update_of_ne hl]; exact hi.stream,fun u => ?_⟩
    · dsimp only at hu ⊢
      by_cases hut : u = t
      · subst hut
        simp
      · rw [Function.update_of_ne hut]
        exact hi.idle u hu
    · by_cases hut : u = t
      · subst hut
        have := hi.fifo u
        rw [hp,List.filter_cons_of_neg (by simp [ha])] at this
        simpa using this
      · simpa [Function.update_of_ne hut] using hi.fifo u
  | @acquire t m ms hl hp ha =>
    have hheld : s.held = [] := held_of_none hl
    refine ⟨fun u hu => ?_,fun q hq => hparts m q (by simpa [State.held] using hq),?_,fun u => ?_⟩
    · dsimp only at hu ⊢
      have hut : u ≠ t := fun he => hu (by rw [he])
      rw [Function.update_of_ne hut]
      exact hi.idle u (by simp [hl])
    · have hs := hi.stream
      rw [hheld,List.flatten_nil,List.append_nil] at hs
      simpa [State.held,frames] using hs
    · by_cases hut : u = t
      · subst hut
        have := hi.fifo u
        rw [hp,List.filter_cons_of_pos ha] at this
        simpa using this
      · have hf : [(t,m)].filter (·.1 = u) = [] := by simp [Ne.symm hut]
        simpa [Function.update_of_ne hut,List.filter_append,hf] using hi.fifo u
  | @write t p ps k hl hp hk hkp =>
    have hheld : s.held = p :: ps := by rw [held_of_some hl,hp]
    refine ⟨fun u hu => ?_,fun q hq => ?_,?_,fun u => ?_⟩
    · dsimp only at hu ⊢
      have hut : u ≠ t := fun he => hu (by rw [he,hl])
      rw [Function.update_of_ne hut]
      exact hi.idle u hu
    · have hq' : q ∈ advance p ps k := by simpa [State.held,hl] using hq
      exact ne_nil_of_mem_advance (hheld ▸ hi.nonempty) q hq'
    · have := hi.stream
      rw [hheld] at this
      simp only [State.held,hl,Function.update_self]
      rw [List.append_assoc,take_append_flatten_advance hkp,this]
    · by_cases hut : u = t
      · subst hut
        simpa using hi.fifo u
      · simpa [Function.update_of_ne hut] using hi.fifo u
  | @release t hl hp =>
    have hheld : s.held = [] := by rw [held_of_some hl,hp]
    refine ⟨fun u _ => ?_,by simp [State.held],?_,hi.fifo⟩
    · dsimp only
      by_cases hut : u = t
      · rw [hut]
        exact hp
      · exact hi.idle u (by rw [hl]; simpa using Ne.symm hut)
    · have := hi.stream
      rw [hheld] at this
      simpa [State.held] using this

theorem Inv.run (hparts : ∀ m, ∀ p ∈ parts m, p ≠ [])
    (hrun : Relation.ReflTransGen (Step parts accepted) (State.init msgs) s) :
    Inv parts accepted msgs s := by
  induction hrun with
  | refl => exact inv_init msgs
  | tail _ hstep ih => exact ih.step hparts hstep

/-- Once every thread is done, the stream is the messages accepted, whole, in the order the
lock was taken, and each thread's messages in its own order. -/
theorem stream_of_done (hparts : ∀ m, ∀ p ∈ parts m, p ≠ [])
    (hrun : Relation.ReflTransGen (Step parts accepted) (State.init msgs) s)
    (hlock : s.lock = none) (hdone : ∀ t, (s.writers t).pending = []) :
    s.stream = frames parts s.order ∧
      ∀ t, (s.order.filter (·.1 = t)).map Prod.snd = (msgs t).filter accepted := by
  have hi := Inv.run hparts hrun
  refine ⟨by simpa [held_of_none hlock] using hi.stream,fun t => ?_⟩
  simpa [hdone t] using hi.fifo t

/-- While a thread holds the lock or has a message left, some step can be taken. -/
theorem exists_step (hi : Inv parts accepted msgs s)
    (hwork : s.lock ≠ none ∨ ∃ t, (s.writers t).pending ≠ []) :
    ∃ s', Step parts accepted s s' := by
  cases hl : s.lock with
  | some t =>
    cases hp : (s.writers t).parts with
    | nil => exact ⟨_,.release hl hp⟩
    | cons p ps =>
      -- the first part left is not empty, so it can all go out at once
      have hne : p ≠ [] := hi.nonempty p (by simp [held_of_some hl,hp])
      exact ⟨_,.write hl hp (List.length_pos_iff.mpr hne) (Nat.le_refl _)⟩
  | none =>
    obtain ⟨t,ht⟩ := hwork.resolve_left (by simp [hl])
    obtain ⟨m,ms,hp⟩ := List.exists_cons_of_ne_nil ht
    cases ha : accepted m with
    | true => exact ⟨_,.acquire hl hp ha⟩
    | false => exact ⟨_,.refuse (by simp [hl]) hp ha⟩

end Invariant

end SandboxedApi.LockedWriters
