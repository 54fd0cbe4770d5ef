import SandboxedApi.Sandbox2.Comms.Tlv

/-! # Round trip of TLV messages

`recv_of_drop` is the one fact about the receive loop: however the `read()`s split them, `Recv`
hands over the bytes at the reader's position and moves past them. Each receive is then read off
the bytes of one message (`run_of_matches`, `run_of_not_matches`), a run of receives off the
messages one after the other (`mapM_run_of_frames`), and the stream of a finished run of the
senders is those messages in lock order (`LockedWriters.stream_of_done`).
-/
namespace SandboxedApi.Sandbox2.Comms
open Bytes LockedWriters

/-! ### Runs of the receiver -/

section Run

variable {α β : Type} {x : RecvM α} {f : α → RecvM β} {r r' : Reader} {a : α}

theorem run_bind_of_some (h : x.run r = some (a,r')) : (x >>= f).run r = (f a).run r' := by
  rw [StateT.run_bind,h]
  rfl

theorem run_bind_of_none (h : x.run r = none) : (x >>= f).run r = none := by
  rw [StateT.run_bind,h]
  rfl

end Run

section Bytes

variable {stream bs rest : List UInt8} {p : Nat}

theorem drop_add_length (h : stream.drop p = bs ++ rest) : stream.drop (p + bs.length) = rest := by
  rw [← List.drop_drop,h,List.drop_left]

theorem tag_leBytes (t : UInt32) : (leValue (leBytes 4 t.toNat)).toUInt32 = t := by
  rw [leValue_leBytes_of_lt (by simpa using t.toNat_lt)]
  exact UInt32.ofNat_toNat

theorem length_leBytes_of_le {n : Nat} (h : n ≤ getMaxMsgSize) : leValue (leBytes 8 n) = n :=
  leValue_leBytes_of_lt (by unfold getMaxMsgSize at h; omega)

theorem tlvBytes_eq (m : Tlv) :
    tlvBytes m = leBytes 4 m.tag.toNat ++ (leBytes 8 m.value.length ++ m.value) := by
  unfold tlvBytes sendTLVParts
  by_cases h : 0 < m.value.length
  · simp [h]
  · simp [List.length_eq_zero_iff.mp (Nat.eq_zero_of_not_pos h)]

end Bytes

variable {stream : List UInt8} {chunk : Nat → Nat}

theorem recv_zero (r : Reader) : (recv stream chunk 0).run r = some ([],r) := by
  show recv stream chunk 0 r = _
  rw [recv]
  rfl

theorem recv_step {len s : Nat} (r : Reader) (hlen : len ≠ 0)
    (hs : s = min (chunk r.reads) (min len (stream.length - r.pos))) (hs0 : s ≠ 0) :
    (recv stream chunk len).run r =
      ((recv stream chunk (len - s)).run ⟨r.pos + s,r.reads + 1⟩).map fun p =>
        ((stream.drop r.pos).take s ++ p.1,p.2) := by
  show recv stream chunk len r = _
  rw [recv]
  show (if len = 0 then _ else _) = _
  rw [if_neg hlen,← hs,if_neg hs0]
  rfl

/-- However the `read()`s split them, `Recv` hands over the bytes at the reader's position. -/
theorem recv_of_drop (hchunk : ∀ n, 0 < chunk n) (bs rest : List UInt8) (r : Reader)
    (h : stream.drop r.pos = bs ++ rest) :
    ∃ k, (recv stream chunk bs.length).run r = some (bs,⟨r.pos + bs.length,k⟩) := by
  -- on the number of bytes still to come: every `read()` brings at least one
  induction hn : bs.length using Nat.strongRecOn generalizing bs r with
  | _ n ih =>
    rcases Nat.eq_zero_or_pos n with rfl | hpos
    · rw [List.length_eq_zero_iff.mp hn]
      exact ⟨r.reads,recv_zero r⟩
    · have havail : n ≤ stream.length - r.pos := by
        have := congrArg List.length h
        simp only [List.length_drop,List.length_append] at this
        omega
      have hc := hchunk r.reads
      obtain ⟨s,hs⟩ : ∃ s, s = min (chunk r.reads) (min n (stream.length - r.pos)) := ⟨_,rfl⟩
      have hs0 : 0 < s := by omega
      have hsn : s ≤ n := by omega
      have hdrop : stream.drop (r.pos + s) = bs.drop s ++ rest := by
        rw [← List.drop_drop,h,List.drop_append_of_le_length (by omega)]
      obtain ⟨k,hk⟩ := ih (n - s) (by omega) (bs.drop s) ⟨r.pos + s,r.reads + 1⟩ hdrop
        (by simp [hn])
      refine ⟨k,?_⟩
      rw [recv_step r (by omega) hs (by omega),hk,h,List.take_append_of_le_length (by omega)]
      simp only [Option.map_some,List.take_append_drop]
      congr 3
      omega

theorem recvTL_of_drop (hchunk : ∀ n, 0 < chunk n) {tag : UInt32} {len : Nat}
    (hlen : len ≤ getMaxMsgSize) {rest : List UInt8} {r : Reader}
    (h : stream.drop r.pos = leBytes 4 tag.toNat ++ (leBytes 8 len ++ rest)) :
    ∃ k, (recvTL stream chunk).run r = some ((tag,len),⟨r.pos + 12,k⟩) := by
  obtain ⟨k,hk⟩ := recv_of_drop hchunk _ _ r h
  have h' := drop_add_length h
  obtain ⟨k',hk'⟩ := recv_of_drop hchunk _ _ ⟨r.pos + 4,k⟩ (by simpa using h')
  rw [length_leBytes] at hk hk'
  refine ⟨k',?_⟩
  unfold recvTL
  rw [run_bind_of_some hk,run_bind_of_some hk',length_leBytes_of_le hlen,tag_leBytes,
    if_neg (by omega)]
  rfl

section Message

variable (hchunk : ∀ n, 0 < chunk n) {m : Tlv} (hm : m.value.length ≤ getMaxMsgSize)
  {rest : List UInt8} {r : Reader} (h : stream.drop r.pos = tlvBytes m ++ rest)
include hchunk hm h

theorem recvTLVGeneric_of_drop :
    ∃ k, (recvTLVGeneric stream chunk).run r = some (m,⟨r.pos + (tlvBytes m).length,k⟩) := by
  rw [tlvBytes_eq,List.append_assoc,List.append_assoc] at h
  obtain ⟨k,hk⟩ := recvTL_of_drop hchunk hm h
  unfold recvTLVGeneric
  rw [run_bind_of_some hk]
  by_cases h0 : m.value.length = 0
  · have hv : m.value = [] := List.length_eq_zero_iff.mp h0
    refine ⟨k,?_⟩
    simp [tlvBytes_eq,hv]
    rw [← hv]
  · have h' := drop_add_length (drop_add_length h)
    rw [length_leBytes,length_leBytes,Nat.add_assoc] at h'
    obtain ⟨k',hk'⟩ := recv_of_drop hchunk _ _ ⟨r.pos + 12,k⟩ h'
    refine ⟨k',?_⟩
    simp only [h0,if_false]
    rw [run_bind_of_some hk']
    simp [tlvBytes_eq]
    omega

theorem recvTLVBuffer_of_drop {bufferSize : Nat} (hb : m.value.length ≤ bufferSize) :
    ∃ k, (recvTLVBuffer stream chunk bufferSize).run r =
      some ((m.tag,m.value.length,m.value),⟨r.pos + (tlvBytes m).length,k⟩) := by
  rw [tlvBytes_eq,List.append_assoc,List.append_assoc] at h
  obtain ⟨k,hk⟩ := recvTL_of_drop hchunk hm h
  unfold recvTLVBuffer
  rw [run_bind_of_some hk]
  by_cases h0 : m.value.length = 0
  · have hv : m.value = [] := List.length_eq_zero_iff.mp h0
    refine ⟨k,?_⟩
    simp [tlvBytes_eq,hv]
  · have h' := drop_add_length (drop_add_length h)
    rw [length_leBytes,length_leBytes,Nat.add_assoc] at h'
    obtain ⟨k',hk'⟩ := recv_of_drop hchunk _ _ ⟨r.pos + 12,k⟩ h'
    refine ⟨k',?_⟩
    simp only [h0,if_false,show ¬m.value.length > bufferSize by omega]
    rw [run_bind_of_some hk']
    simp [tlvBytes_eq]
    omega

theorem recvTLVBuffer_of_lt {bufferSize : Nat} (hb : bufferSize < m.value.length) :
    (recvTLVBuffer stream chunk bufferSize).run r = none := by
  rw [tlvBytes_eq,List.append_assoc,List.append_assoc] at h
  obtain ⟨k,hk⟩ := recvTL_of_drop hchunk hm h
  unfold recvTLVBuffer
  rw [run_bind_of_some hk]
  simp only [show m.value.length ≠ 0 by omega,show m.value.length > bufferSize from hb,if_false,
    if_true]
  rfl

theorem recvInt_of_drop {size : Nat} {tag : UInt32} (ht : m.tag = tag) (hs : m.value.length = size) :
    ∃ k, (recvInt stream chunk size tag).run r =
      some (m.value,⟨r.pos + (tlvBytes m).length,k⟩) := by
  obtain ⟨k,hk⟩ := recvTLVBuffer_of_drop hchunk hm h (show m.value.length ≤ size from Nat.le_of_eq hs)
  refine ⟨k,?_⟩
  unfold recvInt
  rw [run_bind_of_some hk]
  simp only [ht,hs,ne_eq,not_true_eq_false,if_false]
  rfl

theorem recvInt_of_not_matches {size : Nat} {tag : UInt32} (hn : ¬(m.tag = tag ∧ m.value.length = size)) :
    (recvInt stream chunk size tag).run r = none := by
  unfold recvInt
  by_cases hb : m.value.length ≤ size
  · obtain ⟨k,hk⟩ := recvTLVBuffer_of_drop hchunk hm h hb
    rw [run_bind_of_some hk]
    by_cases ht : m.tag = tag
    · have hs : m.value.length ≠ size := fun hs => hn ⟨ht,hs⟩
      simp only [ht,hs,ne_eq,not_true_eq_false,not_false_eq_true,if_false,if_true]
      rfl
    · simp only [ht,ne_eq,not_false_eq_true,if_true]
      rfl
  · rw [run_bind_of_none (recvTLVBuffer_of_lt hchunk hm h (by omega))]

theorem recvTagged_of_drop {tag : UInt32} (ht : m.tag = tag) :
    ∃ k, (recvTagged stream chunk tag).run r = some (m.value,⟨r.pos + (tlvBytes m).length,k⟩) := by
  obtain ⟨k,hk⟩ := recvTLVGeneric_of_drop hchunk hm h
  refine ⟨k,?_⟩
  unfold recvTagged
  rw [run_bind_of_some hk]
  simp only [ht,ne_eq,not_true_eq_false,if_false]
  rfl

theorem recvTagged_of_ne {tag : UInt32} (ht : m.tag ≠ tag) :
    (recvTagged stream chunk tag).run r = none := by
  obtain ⟨k,hk⟩ := recvTLVGeneric_of_drop hchunk hm h
  unfold recvTagged
  rw [run_bind_of_some hk]
  simp only [ht,ne_eq,not_false_eq_true,if_true]
  rfl

theorem run_of_matches {c : RecvCall} (hc : c.Matches m) :
    ∃ k, (c.run stream chunk).run r = some (m,⟨r.pos + (tlvBytes m).length,k⟩) := by
  cases c with
  | tlv => exact recvTLVGeneric_of_drop hchunk hm h
  | tagged tag =>
    change m.tag = tag at hc
    subst hc
    obtain ⟨k,hk⟩ := recvTagged_of_drop hchunk hm h rfl
    refine ⟨k,?_⟩
    rw [RecvCall.run,StateT.run_map,hk]
    rfl
  | int size tag =>
    obtain ⟨ht,hs⟩ := hc
    subst ht hs
    obtain ⟨k,hk⟩ := recvInt_of_drop hchunk hm h rfl rfl
    refine ⟨k,?_⟩
    rw [RecvCall.run,StateT.run_map,hk]
    rfl

theorem run_of_not_matches {c : RecvCall} (hc : ¬c.Matches m) :
    (c.run stream chunk).run r = none := by
  cases c with
  | tlv => exact absurd trivial hc
  | tagged tag =>
    rw [RecvCall.run,StateT.run_map,recvTagged_of_ne hchunk hm h hc]
    rfl
  | int size tag =>
    rw [RecvCall.run,StateT.run_map,recvInt_of_not_matches hchunk hm h hc]
    rfl

end Message

/-- Receive calls that match whole messages, one each, return them, and the reader ends after
the last. -/
theorem mapM_run_of_frames (hchunk : ∀ n, 0 < chunk n) {calls : List RecvCall} {ms : List Tlv}
    (hc : List.Forall₂ RecvCall.Matches calls ms) (hms : ∀ m ∈ ms, m.value.length ≤ getMaxMsgSize)
    {rest : List UInt8} {r : Reader} (h : stream.drop r.pos = ms.flatMap tlvBytes ++ rest) :
    ∃ k, (calls.mapM (RecvCall.run stream chunk)).run r =
      some (ms,⟨r.pos + (ms.flatMap tlvBytes).length,k⟩) := by
  induction hc generalizing r with
  | nil => exact ⟨r.reads,rfl⟩
  | @cons c m cs ms hcm _ ih =>
    rw [List.flatMap_cons,List.append_assoc] at h
    obtain ⟨k,hk⟩ := run_of_matches hchunk (hms m List.mem_cons_self) h hcm
    obtain ⟨k',hk'⟩ := ih (fun m' hm' => hms m' (List.mem_cons_of_mem m hm'))
      (r := ⟨r.pos + (tlvBytes m).length,k⟩) (drop_add_length h)
    refine ⟨k',?_⟩
    rw [List.mapM_cons,run_bind_of_some hk,run_bind_of_some hk']
    simp [Nat.add_assoc]

theorem mapM_run_of_not_matches (hchunk : ∀ n, 0 < chunk n) {calls : List RecvCall}
    {ms : List Tlv} (hc : List.Forall₂ RecvCall.Matches calls ms)
    (hms : ∀ m ∈ ms, m.value.length ≤ getMaxMsgSize) {c : RecvCall} {m : Tlv}
    (hm : m.value.length ≤ getMaxMsgSize) (hcm : ¬c.Matches m) {rest : List UInt8} {r : Reader}
    (h : stream.drop r.pos = ms.flatMap tlvBytes ++ (tlvBytes m ++ rest)) :
    ((calls ++ [c]).mapM (RecvCall.run stream chunk)).run r = none := by
  obtain ⟨k,hk⟩ := mapM_run_of_frames hchunk hc hms h
  rw [List.mapM_append,run_bind_of_some hk,List.mapM_cons]
  exact run_bind_of_none (run_bind_of_none (run_of_not_matches hchunk hm (drop_add_length h) hcm))

/-! ### The senders -/

theorem sendTLVParts_ne_nil (m : Tlv) : ∀ p ∈ sendTLVParts m, p ≠ [] := by
  intro p hp
  have hlen : ∀ w n, 0 < w → leBytes w n ≠ [] := fun w n hw =>
    List.ne_nil_of_length_pos (by rw [length_leBytes]; exact hw)
  unfold sendTLVParts at hp
  split at hp
  · rcases List.mem_cons.mp hp with rfl | hp
    · exact hlen 4 _ (by omega)
    rcases List.mem_cons.mp hp with rfl | hp
    · exact hlen 8 _ (by omega)
    rw [List.mem_singleton.mp hp]
    exact List.ne_nil_of_length_pos ‹_›
  · rcases List.mem_cons.mp hp with rfl | hp
    · exact hlen 4 _ (by omega)
    rw [List.mem_singleton.mp hp]
    exact hlen 8 _ (by omega)

theorem frames_sendTLVParts {τ : Type} (order : List (τ × Tlv)) :
    frames sendTLVParts order = (order.map Prod.snd).flatMap tlvBytes := by
  rw [frames,List.flatMap_map]
  rfl

/-- Whatever the interleaving of the senders and however `write()` and `read()` split the
bytes, every thread's messages go out in its own order, and the receive calls that match the
messages in the order their threads took the lock return those messages, whole; a receive call
that does not match the next message returns false. -/
theorem comms_tlv_roundTrip {τ : Type} [DecidableEq τ] {msgs : τ → List Tlv}
    (hsize : ∀ t, ∀ m ∈ msgs t, m.value.length ≤ getMaxMsgSize) {s : State τ Tlv UInt8}
    (hrun : Relation.ReflTransGen (Step sendTLVParts sendTLVAccepts) (State.init msgs) s)
    (hlock : s.lock = none) (hdone : ∀ t, (s.writers t).pending = [])
    {chunk : Nat → Nat} (hchunk : ∀ n, 0 < chunk n) :
    (∀ t, (s.order.filter (·.1 = t)).map Prod.snd = msgs t) ∧
    (∀ calls, List.Forall₂ RecvCall.Matches calls (s.order.map Prod.snd) →
      ∃ r, (calls.mapM (RecvCall.run s.stream chunk)).run ⟨0,0⟩ = some (s.order.map Prod.snd,r)) ∧
    (∀ pre m post, s.order.map Prod.snd = pre ++ m :: post →
      ∀ calls c, List.Forall₂ RecvCall.Matches calls pre → ¬c.Matches m →
        ((calls ++ [c]).mapM (RecvCall.run s.stream chunk)).run ⟨0,0⟩ = none) := by
  obtain ⟨hstream,hfifo⟩ := stream_of_done sendTLVParts_ne_nil hrun hlock hdone
  have hall : ∀ t, (msgs t).filter sendTLVAccepts = msgs t := fun t =>
    List.filter_eq_self.mpr fun m hm => decide_eq_true (hsize t m hm)
  have hsent : ∀ t, (s.order.filter (·.1 = t)).map Prod.snd = msgs t := fun t => by
    rw [hfifo t,hall t]
  -- every message on the stream is one a thread had to send
  have hms : ∀ m ∈ s.order.map Prod.snd, m.value.length ≤ getMaxMsgSize := by
    intro m hm
    obtain ⟨e,he,rfl⟩ := List.mem_map.mp hm
    apply hsize e.1
    rw [← hsent e.1]
    exact List.mem_map_of_mem (List.mem_filter.mpr ⟨he,by simp⟩)
  rw [frames_sendTLVParts] at hstream
  refine ⟨hsent,fun calls hc => ?_,fun pre m post hsplit calls c hc hcm => ?_⟩
  · have hd : s.stream.drop (Reader.pos ⟨0,0⟩) = (s.order.map Prod.snd).flatMap tlvBytes ++ [] := by
      rw [List.drop_zero,hstream,List.append_nil]
    obtain ⟨k,hk⟩ := mapM_run_of_frames hchunk hc hms hd
    exact ⟨_,hk⟩
  · rw [hsplit] at hms hstream
    have hd : s.stream.drop (Reader.pos ⟨0,0⟩) =
        pre.flatMap tlvBytes ++ (tlvBytes m ++ post.flatMap tlvBytes) := by
      rw [List.drop_zero,hstream,List.flatMap_append,List.flatMap_cons]
    exact mapM_run_of_not_matches hchunk hc (fun m' hm' => hms m' (by simp [hm']))
      (hms m (by simp)) hcm hd

theorem comms_tlv_roundTrip_uint8 :
    ∃ s : State Unit Tlv UInt8,
      Relation.ReflTransGen (Step sendTLVParts sendTLVAccepts) (State.init fun _ => [sendUint8 7]) s ∧
      s.lock = none ∧ (∀ t, (s.writers t).pending = []) ∧
      ∀ calls, List.Forall₂ RecvCall.Matches calls (s.order.map Prod.snd) →
        ∃ r, (calls.mapM (RecvCall.run s.stream fun _ => 1)).run ⟨0,0⟩ =
          some (s.order.map Prod.snd,r) := by
  have hrun : Relation.ReflTransGen (Step sendTLVParts sendTLVAccepts)
      (State.init fun _ => [sendUint8 7]) _ :=
    ((((Relation.ReflTransGen.single (.acquire (t := ()) rfl rfl rfl)).tail
      (.write (t := ()) (k := 4) rfl rfl (by decide) (by decide))).tail
      (.write (t := ()) (k := 8) rfl rfl (by decide) (by decide))).tail
      (.write (t := ()) (k := 1) rfl rfl (by decide) (by decide))).tail (.release (t := ()) rfl rfl)
  exact ⟨_,hrun,rfl,fun _ => rfl,
    (comms_tlv_roundTrip (fun _ m hm => by simp at hm; simp [hm,sendUint8,sendGeneric,getMaxMsgSize])
      hrun rfl (fun _ => rfl) fun _ => Nat.one_pos).2.1⟩

end SandboxedApi.Sandbox2.Comms
