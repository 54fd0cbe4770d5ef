import Mathlib.Logic.Basic

/-! # Searching the closure of a dependency relation with a worklist

A search keeps a stack of names still to look at and the list of nodes it has found. A name
resolves to at most one node, and a node lists the names it depends on. A popped name that
does not resolve, or resolves to a node already found, is dropped; otherwise its node is
recorded and its names are pushed. `Reach` is what the search is for: the nodes of the roots'
names and, from every node reached, the nodes of its names.

`WorkInv` holds at the start (`WorkInv.init`) and after each way a pop can go (`WorkInv.drop`,
`WorkInv.visit`); with an empty stack it says that the nodes found are exactly `Reach`
(`WorkInv.mem_iff`). Neither the order of the stack nor bounds on the search enter.
-/
namespace SandboxedApi.Worklist

variable {α β : Type} (resolve : α → Option β) (deps : β → List α) (roots : List α)

/-- The nodes reachable from the roots' names. -/
inductive Reach : β → Prop
  | root {a : α} {b : β} : a ∈ roots → resolve a = some b → Reach b
  | dep {b : β} {a : α} {c : β} : Reach b → a ∈ deps b → resolve a = some c → Reach c

/-- A name the search has come across: a root, or a name of a node it found. -/
def Seen (found : List β) (a : α) : Prop := a ∈ roots ∨ ∃ b ∈ found, a ∈ deps b

/-- The nodes found are reachable, the pending names have been come across, and every name
come across is pending or has had its node found. -/
structure WorkInv (found : List β) (pending : List α) : Prop where
  reach : ∀ b ∈ found, Reach resolve deps roots b
  pending_seen : ∀ a ∈ pending, Seen deps roots found a
  closed : ∀ a, Seen deps roots found a → a ∈ pending ∨ ∀ c, resolve a = some c → c ∈ found

variable {resolve deps roots}

theorem Seen.mono {found found' : List β} (h : ∀ b ∈ found, b ∈ found') {a : α}
    (hs : Seen deps roots found a) : Seen deps roots found' a := by
  rcases hs with hr | ⟨b,hb,ha⟩
  · exact .inl hr
  · exact .inr ⟨b,h b hb,ha⟩

theorem Seen.reach {found : List β} (hf : ∀ b ∈ found, Reach resolve deps roots b) {a : α}
    (hs : Seen deps roots found a) {c : β} (hc : resolve a = some c) : Reach resolve deps roots c := by
  rcases hs with hr | ⟨b,hb,ha⟩
  · exact .root hr hc
  · exact .dep (hf b hb) ha hc

theorem WorkInv.init {pending : List α} (hpending : ∀ a, a ∈ pending ↔ a ∈ roots) :
    WorkInv resolve deps roots [] pending where
  reach _ hb := absurd hb List.not_mem_nil
  pending_seen a ha := .inl ((hpending a).mp ha)
  closed a ha := by
    rcases ha with hr | ⟨_,hb,_⟩
    · exact .inl ((hpending a).mpr hr)
    · exact absurd hb List.not_mem_nil

theorem WorkInv.drop {found : List β} {a : α} {rest : List α}
    (h : WorkInv resolve deps roots found (a :: rest))
    (hdone : ∀ c, resolve a = some c → c ∈ found) : WorkInv resolve deps roots found rest where
  reach := h.reach
  pending_seen x hx := h.pending_seen x (List.mem_cons_of_mem a hx)
  closed x hx := by
    rcases h.closed x hx with hp | hp
    · rcases List.mem_cons.mp hp with rfl | hp
      · exact .inr hdone
      · exact .inl hp
    · exact .inr hp

theorem WorkInv.visit {found : List β} {a : α} {rest : List α} {c : β}
    (h : WorkInv resolve deps roots found (a :: rest)) (hc : resolve a = some c)
    {pushed : List α} (hpushed : ∀ x, x ∈ pushed ↔ x ∈ deps c) :
    WorkInv resolve deps roots (found ++ [c]) (pushed ++ rest) := by
  have hsub : ∀ b ∈ found, b ∈ found ++ [c] := fun b hb => List.mem_append_left _ hb
  have hcnew : c ∈ found ++ [c] := List.mem_append_right _ (List.mem_singleton_self c)
  refine ⟨?_,?_,?_⟩
  · intro b hb
    rcases List.mem_append.mp hb with hb | hb
    · exact h.reach b hb
    · rw [List.mem_singleton.mp hb]
      exact (h.pending_seen a List.mem_cons_self).reach h.reach hc
  · intro x hx
    rcases List.mem_append.mp hx with hx | hx
    · exact .inr ⟨c,hcnew,(hpushed x).mp hx⟩
    · exact (h.pending_seen x (List.mem_cons_of_mem a hx)).mono hsub
  · intro x hx
    by_cases hxc : x ∈ deps c
    · exact .inl (List.mem_append_left _ ((hpushed x).mpr hxc))
    -- a name that is not one of the node's was come across before the pop
    have hold : Seen deps roots found x := by
      rcases hx with hr | ⟨b,hb,hx⟩
      · exact .inl hr
      · rcases List.mem_append.mp hb with hb | hb
        · exact .inr ⟨b,hb,hx⟩
        · rw [List.mem_singleton.mp hb] at hx
          exact absurd hx hxc
    rcases h.closed x hold with hp | hp
    · rcases List.mem_cons.mp hp with rfl | hp
      · exact .inr fun c' hc' => by rw [hc] at hc'; cases hc'; exact hcnew
      · exact .inl (List.mem_append_right _ hp)
    · exact .inr fun c' hc' => hsub c' (hp c' hc')

/-- With nothing pending, the nodes found are exactly the reachable ones. -/
theorem WorkInv.mem_iff {found : List β} (h : WorkInv resolve deps roots found []) (b : β) :
    b ∈ found ↔ Reach resolve deps roots b := by
  refine ⟨h.reach b,fun hb => ?_⟩
  have hdone : ∀ a, Seen deps roots found a → ∀ c, resolve a = some c → c ∈ found := by
    intro a ha
    rcases h.closed a ha with hp | hp
    · exact absurd hp List.not_mem_nil
    · exact hp
  induction hb with
  | root ha hc => exact hdone _ (.inl ha) _ hc
  | dep _ ha hc ih => exact hdone _ (.inr ⟨_,ih,ha⟩) _ hc

end SandboxedApi.Worklist
