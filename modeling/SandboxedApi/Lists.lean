import Mathlib

/-! # Splitting lists, and lists as maps

The pieces of `splitOn` hold none of the separator and only elements of the list. A list of
pairs is read as a map from keys to values, as `std::map` and the protobuf map are: `lookup`
finds the first entry of a key, `insertIfAbsent` is `insert({k, v})`, which keeps an existing
entry, and `setValue` overwrites the value of the entry of a key.
-/
namespace List

variable {α : Type} [DecidableEq α]

theorem not_mem_of_mem_splitOn {a : α} {xs l : List α} (h : l ∈ xs.splitOn a) : a ∉ l := by
  induction xs generalizing l with
  | nil =>
    rw [splitOn_nil,mem_singleton] at h
    subst h
    exact not_mem_nil
  | cons x xs ih =>
    rw [splitOn_cons_eq_if_modifyHead] at h
    split at h
    · rcases mem_cons.mp h with rfl | h
      · exact not_mem_nil
      · exact ih h
    · -- `x` is not the separator and goes in front of the first piece
      rename_i hx
      have hne := splitOn_ne_nil a xs
      obtain ⟨l0,rest,hl⟩ := exists_cons_of_ne_nil hne
      rw [hl,modifyHead_cons] at h
      rcases mem_cons.mp h with rfl | h
      · intro hm
        rcases mem_cons.mp hm with rfl | hm
        · exact hx (beq_self_eq_true _)
        · exact ih (hl ▸ mem_cons_self) hm
      · exact ih (hl ▸ mem_cons_of_mem _ h)

theorem subset_of_mem_splitOn {a : α} {xs l : List α} (h : l ∈ xs.splitOn a) : l ⊆ xs := by
  induction xs generalizing l with
  | nil =>
    rw [splitOn_nil,mem_singleton] at h
    subst h
    exact nil_subset _
  | cons x xs ih =>
    rw [splitOn_cons_eq_if_modifyHead] at h
    split at h
    · rcases mem_cons.mp h with rfl | h
      · exact nil_subset _
      · exact subset_cons_of_subset _ (ih h)
    · have hne := splitOn_ne_nil a xs
      obtain ⟨l0,rest,hl⟩ := exists_cons_of_ne_nil hne
      rw [hl,modifyHead_cons] at h
      rcases mem_cons.mp h with rfl | h
      · exact cons_subset_cons _ (ih (hl ▸ mem_cons_self))
      · exact subset_cons_of_subset _ (ih (hl ▸ mem_cons_of_mem _ h))

omit [DecidableEq α] in
theorem intercalate_map_append_pair {x : α} :
    ∀ l : List (List α × List α),
      [x].intercalate (l.map fun e => e.1 ++ [x] ++ e.2) = [x].intercalate (l.flatMap fun e => [e.1,e.2])
  | [] => rfl
  | [e] => by simp
  | e :: e' :: l => by
    have hl : [x].intercalate ((e :: e' :: l).map fun e => e.1 ++ [x] ++ e.2) =
        (e.1 ++ [x] ++ e.2) ++ [x] ++ [x].intercalate ((e' :: l).map fun e => e.1 ++ [x] ++ e.2) :=
      intercalate_cons_cons
    have hr : [x].intercalate ((e :: e' :: l).flatMap fun e => [e.1,e.2]) =
        e.1 ++ [x] ++ (e.2 ++ [x] ++ [x].intercalate ((e' :: l).flatMap fun e => [e.1,e.2])) := by
      rw [flatMap_cons,flatMap_cons]
      simp [intercalate_cons_cons]
    rw [hl,hr,@intercalate_map_append_pair x (e' :: l)]
    simp

omit [DecidableEq α] in
theorem not_mem_of_nodup_filter {p : α → Bool} {A B : List α} {x : α}
    (h : ((A ++ x :: B).filter p).Nodup) (hx : p x) : x ∉ A ∧ x ∉ B := by
  rw [filter_append,filter_cons_of_pos hx,nodup_append,nodup_cons] at h
  obtain ⟨-,⟨hxB,-⟩,hAB⟩ := h
  exact ⟨fun hA => hAB x (mem_filter.mpr ⟨hA,hx⟩) x mem_cons_self rfl,
    fun hB => hxB (mem_filter.mpr ⟨hB,hx⟩)⟩

end List

namespace ListMap

variable {α β : Type} [BEq α]

def insertIfAbsent (k : α) (v : β) (l : List (α × β)) : List (α × β) :=
  if (l.lookup k).isSome then l else l ++ [(k,v)]

def setValue (k : α) (v : β) : List (α × β) → List (α × β)
  | [] => []
  | e :: rest => if e.1 == k then (k,v) :: rest else e :: setValue k v rest

theorem mem_of_lookup [LawfulBEq α] {k : α} {v : β} {l : List (α × β)} (h : l.lookup k = some v) : (k,v) ∈ l := by
  obtain ⟨l1,l2,rfl,-⟩ := List.lookup_eq_some_iff.mp h
  exact List.mem_append_right _ List.mem_cons_self

theorem lookup_insertIfAbsent [LawfulBEq α] (k : α) (v : β) (l : List (α × β)) :
    (insertIfAbsent k v l).lookup k = some ((l.lookup k).getD v) := by
  unfold insertIfAbsent
  cases h : l.lookup k with
  | some w => simp [h]
  | none => simp [List.lookup_append,h]

theorem insertIfAbsent_of_lookup {k : α} {v w : β} {l : List (α × β)} (h : l.lookup k = some w) :
    insertIfAbsent k v l = l := by
  simp [insertIfAbsent,h]

theorem setValue_of_lookup [LawfulBEq α] {k : α} {v : β} {l : List (α × β)} (h : l.lookup k = some v) :
    setValue k v l = l := by
  induction l with
  | nil => rfl
  | cons e rest ih =>
    obtain ⟨k',v'⟩ := e
    by_cases hk : k' = k
    · subst hk
      simp only [List.lookup_cons,beq_self_eq_true,Option.some.injEq] at h
      simp [setValue,h]
    · have hb : (k == k') = false := beq_eq_false_iff_ne.mpr (Ne.symm hk)
      simp only [List.lookup_cons,hb] at h
      simp [setValue,beq_eq_false_iff_ne.mpr hk,ih h]

theorem insertIfAbsent_of_lookup_none {k : α} {v : β} {l : List (α × β)} (h : l.lookup k = none) :
    insertIfAbsent k v l = l ++ [(k,v)] := by
  simp [insertIfAbsent,h]

theorem setValue_append_of_lookup_none [LawfulBEq α] {k : α} {v w : β} :
    ∀ {l : List (α × β)}, l.lookup k = none → setValue k v (l ++ [(k,w)]) = l ++ [(k,v)]
  | [], _ => by simp [setValue]
  | e :: rest, h => by
    have hne : (e.1 == k) = false := by
      have := (List.lookup_eq_none_iff.mp h) e List.mem_cons_self
      rw [bne_iff_ne,ne_eq] at this
      exact beq_eq_false_iff_ne.mpr (Ne.symm this)
    have hrest : rest.lookup k = none := by
      obtain ⟨k',v'⟩ := e
      have hk : (k == k') = false := by
        rw [beq_eq_false_iff_ne] at hne ⊢
        exact Ne.symm hne
      simpa [List.lookup_cons,hk] using h
    simp [setValue,hne,setValue_append_of_lookup_none hrest]

theorem lookup_filter_ne [LawfulBEq α] (l : List (α × β)) (a n : α) :
    (l.filter fun e => e.1 != a).lookup n = if n == a then none else l.lookup n := by
  induction l with
  | nil => simp
  | cons e rest ih =>
    obtain ⟨k,w⟩ := e
    by_cases hk : k = a
    · -- the entry is erased
      subst hk
      have hf : (k != k) = false := by simp
      simp only [List.filter_cons,hf,Bool.false_eq_true,if_false,ih,List.lookup_cons]
      cases hn : n == k <;> simp
    · have hf : (k != a) = true := by simp [hk]
      simp only [List.filter_cons,hf,if_true,List.lookup_cons,ih]
      by_cases hn : n = a
      · rw [hn]
        have hne : (a == k) = false := beq_eq_false_iff_ne.mpr fun h => hk h.symm
        simp [hne]
      · have hna : (n == a) = false := beq_eq_false_iff_ne.mpr hn
        simp [hna]

theorem lookup_insertIfAbsent_eq_ite [LawfulBEq α] (k : α) (v : β) (l : List (α × β)) (n : α) :
    (insertIfAbsent k v l).lookup n = if n == k then some ((l.lookup k).getD v) else l.lookup n := by
  unfold insertIfAbsent
  by_cases hn : n = k
  · subst hn
    cases h : l.lookup n <;> simp [h,List.lookup_append]
  · have hne : (n == k) = false := beq_eq_false_iff_ne.mpr hn
    cases h : l.lookup k <;> simp [hne,List.lookup_append,List.lookup_cons]

section Forall

variable {P : α → β → Prop}

theorem forall_insertIfAbsent {k : α} {v : β} {l : List (α × β)} (hl : ∀ e ∈ l, P e.1 e.2)
    (hv : P k v) : ∀ e ∈ insertIfAbsent k v l, P e.1 e.2 := by
  unfold insertIfAbsent
  split
  · exact hl
  · intro e he
    rcases List.mem_append.mp he with he | he
    · exact hl e he
    · rw [List.mem_singleton.mp he]
      exact hv

theorem forall_setValue {k : α} {v : β} {l : List (α × β)} (hl : ∀ e ∈ l, P e.1 e.2)
    (hv : P k v) : ∀ e ∈ setValue k v l, P e.1 e.2 := by
  induction l with
  | nil => exact hl
  | cons e rest ih =>
    have hrest : ∀ e' ∈ rest, P e'.1 e'.2 := fun e' he' => hl e' (List.mem_cons_of_mem _ he')
    intro e' he'
    unfold setValue at he'
    split at he'
    · rcases List.mem_cons.mp he' with rfl | he'
      · exact hv
      · exact hrest e' he'
    · rcases List.mem_cons.mp he' with rfl | he'
      · exact hl _ List.mem_cons_self
      · exact ih hrest e' he'

end Forall

end ListMap
