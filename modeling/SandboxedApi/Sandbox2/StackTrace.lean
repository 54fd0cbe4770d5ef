import Mathlib
import SandboxedApi.Lists.RunLength

/-! # Compacting a stack trace

`CompactStackTrace` keeps the first frame of every run of equal neighbours and puts
`"(previous frame repeated N times)"` after it when the run has `N + 1 > 1` frames. It is the
run-length encoding of the trace: the frames are the runs' elements, and the markers their
counts. So, for a trace with no marker among its frames, putting `N` copies of the entry before
each marker back gives the trace again, the result is no longer than the trace, no two
neighbours are equal, and every marker counts at least one repeat and follows a frame.

The counter `seen` is an `int`; the model counts with `Nat`, and `seen_lt_of_length_le` shows
that the `int` never overflows on a trace of at most `2^31` frames.
-/
namespace SandboxedApi.Sandbox2
open RunLength

def previousFrameRepeated (seen : Nat) : String :=
  "(previous frame repeated " ++ toString seen ++ " times)"

/-- The state of the loop: the trace so far, the frame of the run in progress (the pointer
`prev`), and how many times it has repeated. -/
structure CompactState where
  compactTrace : List String
  prev : Option String
  seen : Nat

/-- The lambda `add_repeats`. -/
def addRepeats (compactTrace : List String) (seen : Nat) : List String :=
  if seen ≠ 0 then compactTrace ++ [previousFrameRepeated seen] else compactTrace

/-- One round of the loop over the frames. -/
def compactStep (st : CompactState) (frame : String) : CompactState :=
  if st.prev = some frame then { st with seen := st.seen + 1 }
  else ⟨addRepeats st.compactTrace st.seen ++ [frame],some frame,0⟩

def compactStackTrace (stackTrace : List String) : List String :=
  let st := stackTrace.foldl compactStep ⟨[],none,0⟩
  addRepeats st.compactTrace st.seen

theorem seen_foldl_compactStep_le (st : CompactState) (frames : List String) :
    (frames.foldl compactStep st).seen ≤ st.seen + frames.length := by
  induction frames generalizing st with
  | nil => simp
  | cons f fs ih =>
    have hstep : (compactStep st f).seen ≤ st.seen + 1 := by
      unfold compactStep
      split <;> simp
    have hrest := ih (compactStep st f)
    rw [List.foldl_cons,List.length_cons]
    omega

/-- At every point of the loop the counter is below the number of frames, so on a trace of at
most `2^31` frames (the unwinder returns at most `kDefaultMaxFrames`, 200) the `int seen` stays
below `2^31`. -/
theorem seen_lt_of_length_le {stackTrace : List String} (h : stackTrace.length ≤ 2 ^ 31) (n : Nat) :
    ((stackTrace.take n).foldl compactStep ⟨[],none,0⟩).seen < 2 ^ 31 := by
  have hlen : (stackTrace.take n).length ≤ 2 ^ 31 := (List.length_take_le' _ _).trans h
  cases hpre : stackTrace.take n with
  | nil => simp
  | cons x xs =>
    have hfirst : (compactStep ⟨[],none,0⟩ x).seen = 0 := rfl
    have hrest := seen_foldl_compactStep_le (compactStep ⟨[],none,0⟩ x) xs
    rw [hpre,List.length_cons] at hlen
    rw [List.foldl_cons]
    omega

/-! ### Markers -/

/-- The count of a marker, read back from its digits. -/
def repeatCount? (e : String) : Option Nat :=
  let n := Nat.ofDigitChars 10 ((e.toList.drop 25).take (e.toList.length - 32)) 0
  if previousFrameRepeated n = e then some n else none

def IsRepeatMarker (e : String) : Prop := ∃ n, e = previousFrameRepeated n

theorem toList_previousFrameRepeated (n : Nat) :
    (previousFrameRepeated n).toList =
      "(previous frame repeated ".toList ++ Nat.toDigits 10 n ++ " times)".toList := by
  unfold previousFrameRepeated
  rw [Nat.toString_eq_ofList_toDigits]
  simp only [String.toList_append,String.toList_ofList]

@[simp] theorem repeatCount?_previousFrameRepeated (n : Nat) :
    repeatCount? (previousFrameRepeated n) = some n := by
  have hpre : "(previous frame repeated ".toList.length = 25 := by decide
  have hsuf : " times)".toList.length = 7 := by decide
  have hdigits : ((previousFrameRepeated n).toList.drop 25).take
      ((previousFrameRepeated n).toList.length - 32) = Nat.toDigits 10 n := by
    rw [toList_previousFrameRepeated,List.append_assoc,List.drop_left' hpre]
    apply List.take_left'
    simp only [List.length_append,hpre,hsuf]
    omega
  simp only [repeatCount?,hdigits,Nat.ofDigitChars_ten_toDigits,if_true]

theorem repeatCount?_eq_some_iff {e : String} {n : Nat} :
    repeatCount? e = some n ↔ e = previousFrameRepeated n := by
  constructor
  · intro h
    unfold repeatCount? at h
    dsimp only at h
    split_ifs at h with he
    injection h with hn
    rw [← he,hn]
  · rintro rfl
    exact repeatCount?_previousFrameRepeated n

instance (e : String) : Decidable (IsRepeatMarker e) :=
  decidable_of_iff ((repeatCount? e).isSome) (by
    constructor
    · intro h
      obtain ⟨n,hn⟩ := Option.isSome_iff_exists.mp h
      exact ⟨n,repeatCount?_eq_some_iff.mp hn⟩
    · rintro ⟨n,rfl⟩
      simp)

/-! ### The loop is the run-length encoding -/

/-- The entries a run becomes: its frame, then a marker when it repeats. -/
def encodeRun (r : String × Nat) : List String := r.1 :: addRepeats [] r.2

theorem addRepeats_eq (compactTrace : List String) (seen : Nat) :
    addRepeats compactTrace seen = compactTrace ++ addRepeats [] seen := by
  unfold addRepeats
  split_ifs <;> simp

/-- From the first frame of a run on, the loop encodes the runs that follow, the run in
progress first. -/
theorem foldl_compactStep (pre : List String) (cur : String) (seen : Nat) (rest : List String) :
    addRepeats (rest.foldl compactStep ⟨pre ++ [cur],some cur,seen⟩).compactTrace
        (rest.foldl compactStep ⟨pre ++ [cur],some cur,seen⟩).seen =
      pre ++ (runsFrom cur seen rest).flatMap encodeRun := by
  induction rest generalizing pre cur seen with
  | nil => simp [runsFrom,encodeRun,addRepeats_eq (pre ++ [cur])]
  | cons x xs ih =>
    rw [List.foldl_cons,runsFrom]
    by_cases hx : x = cur
    · -- the run goes on: only the count changes
      have hstep : compactStep ⟨pre ++ [cur],some cur,seen⟩ x = ⟨pre ++ [cur],some cur,seen + 1⟩ := by
        simp [compactStep,hx]
      rw [hstep,ih,if_pos hx]
    · -- a new run: the marker of the old one, if any, then the new frame
      have hstep : compactStep ⟨pre ++ [cur],some cur,seen⟩ x =
          ⟨(pre ++ encodeRun (cur,seen)) ++ [x],some x,0⟩ := by
        simp [compactStep,Ne.symm hx,encodeRun,addRepeats_eq (pre ++ [cur])]
      rw [hstep,ih,if_neg hx]
      simp

theorem compactStackTrace_eq (stackTrace : List String) :
    compactStackTrace stackTrace = (runs stackTrace).flatMap encodeRun := by
  cases stackTrace with
  | nil => rfl
  | cons x xs =>
    have hstep : compactStep ⟨[],none,0⟩ x = ⟨[] ++ [x],some x,0⟩ := rfl
    have hrest := foldl_compactStep [] x 0 xs
    rw [List.nil_append] at hrest
    simp only [compactStackTrace,List.foldl_cons,hstep,List.nil_append,runs,hrest]

/-! ### What the encoding keeps -/

section Encoding

variable {rs : List (String × Nat)}

/-- Reading a compacted trace back: each marker replaced by as many copies of the entry before it
as it counts. -/
def expandRepeats : Option String → List String → List String
  | _, [] => []
  | prev, e :: es =>
    match repeatCount? e, prev with
    | some n, some p => List.replicate n p ++ expandRepeats (some e) es
    | _, _ => e :: expandRepeats (some e) es

theorem repeatCount?_eq_none {e : String} (h : ¬IsRepeatMarker e) : repeatCount? e = none := by
  cases hc : repeatCount? e with
  | none => rfl
  | some n => exact absurd ⟨n,repeatCount?_eq_some_iff.mp hc⟩ h

theorem expandRepeats_frame {e : String} (h : ¬IsRepeatMarker e) (prev : Option String)
    (es : List String) : expandRepeats prev (e :: es) = e :: expandRepeats (some e) es := by
  simp [expandRepeats,repeatCount?_eq_none h]

theorem expandRepeats_marker (p : String) (n : Nat) (es : List String) :
    expandRepeats (some p) (previousFrameRepeated n :: es) =
      List.replicate n p ++ expandRepeats (some (previousFrameRepeated n)) es := by
  simp [expandRepeats]

theorem expandRepeats_flatMap_encodeRun (hframes : ∀ r ∈ rs, ¬IsRepeatMarker r.1)
    (prev : Option String) : expandRepeats prev (rs.flatMap encodeRun) = RunLength.expandRuns rs := by
  induction rs generalizing prev with
  | nil => rfl
  | cons r rs ih =>
    obtain ⟨f,k⟩ := r
    have hf : ¬IsRepeatMarker f := hframes (f,k) List.mem_cons_self
    have hrs := ih (fun r hr => hframes r (List.mem_cons_of_mem _ hr))
    rw [List.flatMap_cons,encodeRun,List.cons_append,expandRepeats_frame hf,RunLength.expandRuns_cons]
    by_cases hk : k = 0
    · simp [addRepeats,hk,hrs]
    · simp only [addRepeats,hk,ne_eq,not_false_eq_true,if_true,List.nil_append,List.singleton_append,
        expandRepeats_marker,hrs]
      simp [List.replicate_succ]

theorem length_flatMap_encodeRun_le (rs : List (String × Nat)) :
    (rs.flatMap encodeRun).length ≤ (RunLength.expandRuns rs).length := by
  induction rs with
  | nil => simp
  | cons r rs ih =>
    have hr : (encodeRun r).length ≤ r.2 + 1 := by
      unfold encodeRun addRepeats
      split_ifs with hk
      · simp only [List.nil_append,List.length_cons,List.length_nil]
        omega
      · simp
    simp only [List.flatMap_cons,List.length_append,RunLength.expandRuns_cons,List.length_replicate]
    omega

theorem head?_flatMap_encodeRun (rs : List (String × Nat)) :
    (rs.flatMap encodeRun).head? = rs.head?.map Prod.fst := by
  cases rs <;> simp [encodeRun]

/-- What two neighbours of a compacted trace satisfy: they differ, and a marker follows a frame. -/
def CompactNeighbours (a b : String) : Prop := a ≠ b ∧ (IsRepeatMarker b → ¬IsRepeatMarker a)

theorem isChain_encodeRun {r : String × Nat} (hr : ¬IsRepeatMarker r.1) :
    (encodeRun r).IsChain CompactNeighbours := by
  unfold encodeRun addRepeats
  split_ifs with hk
  · refine List.isChain_cons_cons.mpr ⟨⟨fun he => hr ⟨r.2,he⟩,fun _ => hr⟩,List.isChain_singleton _⟩
  · exact List.isChain_singleton _

theorem isChain_flatMap_encodeRun (hchain : rs.IsChain fun r s => r.1 ≠ s.1)
    (hframes : ∀ r ∈ rs, ¬IsRepeatMarker r.1) : (rs.flatMap encodeRun).IsChain CompactNeighbours := by
  induction rs with
  | nil => exact List.isChain_nil
  | cons r rs ih =>
    have hr : ¬IsRepeatMarker r.1 := hframes r List.mem_cons_self
    rw [List.flatMap_cons,List.isChain_append]
    refine ⟨isChain_encodeRun hr,ih (List.isChain_cons.mp hchain).2
      (fun s hs => hframes s (List.mem_cons_of_mem _ hs)),fun x hx y hy => ?_⟩
    -- the next run starts with a frame other than this run's
    rw [head?_flatMap_encodeRun] at hy
    obtain ⟨s,hs,rfl⟩ := Option.map_eq_some_iff.mp hy
    have hsm : ¬IsRepeatMarker s.1 := hframes s (List.mem_cons_of_mem _ (List.mem_of_mem_head? hs))
    have hrs : r.1 ≠ s.1 := (List.isChain_cons.mp hchain).1 s hs
    refine ⟨fun he => ?_,fun h => absurd h hsm⟩
    subst he
    unfold encodeRun addRepeats at hx
    split_ifs at hx
    · simp only [List.nil_append,List.getLast?_cons_cons,List.getLast?_singleton,
        Option.mem_some_iff] at hx
      exact hsm ⟨r.2,hx.symm⟩
    · simp only [List.getLast?_singleton,Option.mem_some_iff] at hx
      exact hrs hx

theorem count_pos_of_mem_flatMap_encodeRun (hframes : ∀ r ∈ rs, ¬IsRepeatMarker r.1) {n : Nat}
    (hn : previousFrameRepeated n ∈ rs.flatMap encodeRun) : 1 ≤ n := by
  obtain ⟨r,hr,hn⟩ := List.mem_flatMap.mp hn
  unfold encodeRun addRepeats at hn
  split_ifs at hn with hk
  · rcases List.mem_cons.mp hn with hn | hn
    · exact absurd ⟨n,hn.symm⟩ (hframes r hr)
    · rw [List.nil_append,List.mem_singleton] at hn
      have := congrArg repeatCount? hn
      simp only [repeatCount?_previousFrameRepeated,Option.some.injEq] at this
      omega
  · rw [List.mem_singleton] at hn
    exact absurd ⟨n,hn.symm⟩ (hframes r hr)

end Encoding

/-- For a trace none of whose frames is a marker, `CompactStackTrace` is the run-length encoding
of it: expanding its markers gives the trace back, it is no longer, neighbours differ, and each
marker counts at least one repeat and follows a frame. -/
theorem compactStackTrace_runLength (stackTrace : List String)
    (hframes : ∀ f ∈ stackTrace, ¬IsRepeatMarker f) :
    expandRepeats none (compactStackTrace stackTrace) = stackTrace ∧
      (compactStackTrace stackTrace).length ≤ stackTrace.length ∧
      (compactStackTrace stackTrace).IsChain (· ≠ ·) ∧
      (∀ n, previousFrameRepeated n ∈ compactStackTrace stackTrace → 1 ≤ n) ∧
      (compactStackTrace stackTrace).IsChain (fun a b => IsRepeatMarker b → ¬IsRepeatMarker a) ∧
      ∀ e ∈ (compactStackTrace stackTrace).head?, ¬IsRepeatMarker e := by
  have hruns : ∀ r ∈ runs stackTrace, ¬IsRepeatMarker r.1 :=
    fun r hr => hframes r.1 (RunLength.mem_of_mem_runs hr)
  have hchain := isChain_flatMap_encodeRun (RunLength.isChain_runs stackTrace) hruns
  rw [compactStackTrace_eq]
  refine ⟨?_,?_,hchain.imp fun _ _ h => h.1,fun n hn => count_pos_of_mem_flatMap_encodeRun hruns hn,
    hchain.imp fun _ _ h => h.2,fun e he => ?_⟩
  · rw [expandRepeats_flatMap_encodeRun hruns,RunLength.expandRuns_runs]
  · calc ((runs stackTrace).flatMap encodeRun).length
        ≤ (RunLength.expandRuns (runs stackTrace)).length := length_flatMap_encodeRun_le _
      _ = stackTrace.length := by rw [RunLength.expandRuns_runs]
  · rw [head?_flatMap_encodeRun] at he
    obtain ⟨r,hr,rfl⟩ := Option.map_eq_some_iff.mp he
    exact hruns r (List.mem_of_mem_head? hr)

/-- The trace of the source's test, with a run of three. -/
theorem compactStackTrace_runLength_recursive :
    (∀ f ∈ ["_start","main","recursive_call","recursive_call","recursive_call","tail_call"],
      ¬IsRepeatMarker f) ∧
    expandRepeats none (compactStackTrace
      ["_start","main","recursive_call","recursive_call","recursive_call","tail_call"]) =
        ["_start","main","recursive_call","recursive_call","recursive_call","tail_call"] := by
  have h : ∀ f ∈ ["_start","main","recursive_call","recursive_call","recursive_call","tail_call"],
      ¬IsRepeatMarker f := by decide
  exact ⟨h,(compactStackTrace_runLength _ h).1⟩

end SandboxedApi.Sandbox2
