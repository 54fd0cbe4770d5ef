import SandboxedApi.Bytes.Prefix
import SandboxedApi.Status

/-! # The hosts the network proxy lets a sandboxee connect to

`AllowedHosts` keeps a list of IPv4 and a list of IPv6 rules, each an address, a mask and a
port in network byte order, and allows an address when some rule of its family has the same
address under the mask and a port of `0` or the same port. `AllowIPv4` and `AllowIPv6` parse
`IP`, `IP/cidr` or (for IPv4) `IP/mask`, build the mask, and add a rule only when every check
passed.

Addresses are the bytes of `in_addr` and `in6_addr` in memory, so the byte-wise `&` and `==` of
the source need no byte order; `htonl` and `ntohl` are those of a little-endian host. The port
argument is a `uint32_t` and `htons` keeps its low 16 bits: a rule for port `65536` is a rule
for port `0`, which allows every port.
-/
namespace SandboxedApi.Sandbox2
open SandboxedApi.Bytes

/-- `in_addr`, as its four bytes in network order. -/
abbrev InAddr := Vector UInt8 4

/-- `in6_addr`, as its sixteen bytes in network order. -/
abbrev In6Addr := Vector UInt8 16

/-- What the filtering code takes from libc and absl: `inet_pton` for each family and
`absl::SimpleAtoi<uint32_t>`. -/
structure Parsers where
  inetPton4 : String → Option InAddr
  inetPton6 : String → Option In6Addr
  simpleAtoi : String → Option UInt32

/-- `htonl`: the bytes of the number, most significant first. -/
def htonl (x : UInt32) : InAddr :=
  #v[(x >>> 24).toUInt8,(x >>> 16).toUInt8,(x >>> 8).toUInt8,x.toUInt8]

def ntohl (a : InAddr) : UInt32 :=
  a[0].toUInt32 * (0x1000000 : UInt32) + a[1].toUInt32 * (0x10000 : UInt32) +
    a[2].toUInt32 * (0x100 : UInt32) + a[3].toUInt32

/-- `htons`: the two bytes swapped. -/
def htons (x : UInt16) : UInt16 := (x >>> 8) + (x <<< 8)

def ntohs (x : UInt16) : UInt16 := htons x

inductive Sockaddr where
  | in4 (sinPort : UInt16) (sinAddr : InAddr)
  | in6 (sin6Port : UInt16) (sin6Addr : In6Addr)
  | other (saFamily : Nat)
deriving DecidableEq, Repr

structure IPv4 where
  ip : InAddr
  mask : InAddr
  port : UInt32
deriving DecidableEq, Repr

structure IPv6 where
  ip : In6Addr
  mask : In6Addr
  port : UInt32
deriving DecidableEq, Repr

structure AllowedHosts where
  allowedIPv4 : List IPv4
  allowedIPv6 : List IPv6
deriving DecidableEq, Repr

def AllowedHosts.empty : AllowedHosts := ⟨[],[]⟩

/-! ### Parsing -/

section Parse

variable (p : Parsers)

def ipStringToAddr {α : Type} (inetPton : String → Option α) (ip : String) : Except Status α :=
  match inetPton ip with
  | some addr => .ok addr
  | none => .error (invalidArgumentError ("Invalid address: " ++ ip))

/-- `absl::StrSplit(ip_and_mask, absl::MaxSplits('/', 1))`: the part before the first `/`, and
the rest if there is a `/`. -/
def splitIpAndMask (ipAndMask : String) : String × Option String :=
  if '/' ∈ ipAndMask.toList then
    (String.ofList (ipAndMask.toList.takeWhile (· != '/')),
      some (String.ofList ((ipAndMask.toList.dropWhile (· != '/')).drop 1)))
  else (ipAndMask,none)

/-- The IP, the mask (empty when none was given) and the CIDR (`0` when none was given). -/
structure ParsedIpAndMask where
  ip : String
  mask : String
  cidr : UInt32

/-- `ParseIpAndMask`; `hasMaskArg` is whether the caller passed somewhere to put a mask. -/
def parseIpAndMask (ipAndMask : String) (hasMaskArg : Bool) : Except Status ParsedIpAndMask :=
  match splitIpAndMask ipAndMask with
  | (ip,none) => .ok ⟨ip,"",0⟩
  | (ip,some maskOrCidr) =>
    -- `has_dot` holds when there is no dot, and then the rest is a CIDR
    let hasDot := !maskOrCidr.toList.contains '.'
    if hasDot then
      match p.simpleAtoi maskOrCidr with
      | some cidr =>
        if cidr = 0 then .error (invalidArgumentError (maskOrCidr ++ " is not a correct cidr"))
        else .ok ⟨ip,"",cidr⟩
      | none => .error (invalidArgumentError (maskOrCidr ++ " is not a correct cidr"))
    else if !hasMaskArg then
      .error (invalidArgumentError "mask argument of ParseIpAndMask cannot be NULL in this case")
    else .ok ⟨ip,maskOrCidr,0⟩

end Parse

/-! ### Masks -/

/-- `while (cidr--) { tmp >>= 1; tmp |= top; }` -/
def shiftInOnes {α : Type} [HShiftRight α α α] [OrOp α] [OfNat α 1] (top : α) : Nat → α → α
  | 0, tmp => tmp
  | n + 1, tmp => shiftInOnes top n ((tmp >>> (1 : α)) ||| top)

def cidrToInAddr (cidr : UInt32) : Except Status InAddr :=
  if cidr > 32 then .error (invalidArgumentError (toString cidr ++ " is not a correct cidr"))
  else .ok (htonl (shiftInOnes (0x80000000 : UInt32) cidr.toNat 0))

/-- `while (cidr >= 8) { addr->s6_addr[i++] = 0xff; cidr -= 8; }`, which runs `cidr / 8`
rounds from byte `i`. -/
def fillOnes : Nat → Nat → In6Addr → In6Addr
  | 0, _, addr => addr
  | n + 1, i, addr => fillOnes n (i + 1) (addr.setIfInBounds i 0xff)

def cidrToIn6Addr (cidr : UInt32) : Except Status In6Addr :=
  if cidr > 128 then .error (invalidArgumentError (toString cidr ++ " is not a correct cidr"))
  else
    let addr := fillOnes (cidr.toNat / 8) 0 (Vector.replicate 16 0)
    if cidr.toNat % 8 ≠ 0 then
      .ok (addr.setIfInBounds (cidr.toNat / 8) (shiftInOnes (0x80 : UInt8) (cidr.toNat % 8) 0))
    else .ok addr

def isIPv4MaskCorrect (m : InAddr) : Bool :=
  let m := ntohl m
  if m = 0 then false
  else
    let m := ~~~m + 1
    (m &&& (m - 1)) == 0

/-! ### Adding rules -/

section Allow

variable (p : Parsers)

/-- The mask the private `AllowIPv4` builds: the dotted mask if one was given, else the
CIDR's. -/
def ipv4Mask (mask : String) (cidr : UInt32) : Except Status InAddr :=
  if mask.length ≠ 0 then do
    let m ← ipStringToAddr p.inetPton4 mask
    if !isIPv4MaskCorrect m then throw (invalidArgumentError (mask ++ " is not a correct mask"))
    pure m
  else do
    if cidr > 32 then throw (invalidArgumentError (toString cidr ++ " is not a correct cidr"))
    cidrToInAddr (if cidr = 0 then 32 else cidr)

/-- The private `AllowIPv4(ip, mask, cidr, port)`, up to the rule it adds. -/
def allowIPv4Split (ip mask : String) (cidr port : UInt32) : Except Status IPv4 := do
  let m ← ipv4Mask p mask cidr
  let addr ← ipStringToAddr p.inetPton4 ip
  pure ⟨addr,m,(htons port.toUInt16).toUInt32⟩

/-- The private `AllowIPv6(ip, cidr, port)`, up to the rule it adds. -/
def allowIPv6Split (ip : String) (cidr port : UInt32) : Except Status IPv6 := do
  let cidr := if cidr = 0 then 128 else cidr
  let addr ← ipStringToAddr p.inetPton6 ip
  let m ← cidrToIn6Addr cidr
  pure ⟨addr,m,(htons port.toUInt16).toUInt32⟩

def ipv4Rule (ipAndMask : String) (port : UInt32) : Except Status IPv4 := do
  let parsed ← parseIpAndMask p ipAndMask true
  allowIPv4Split p parsed.ip parsed.mask parsed.cidr port

def ipv6Rule (ipAndMask : String) (port : UInt32) : Except Status IPv6 := do
  let parsed ← parseIpAndMask p ipAndMask false
  allowIPv6Split p parsed.ip parsed.cidr port

/-- `AllowedHosts::AllowIPv4(ip_and_mask, port)`: the rule is added last, after every check. -/
def AllowedHosts.allowIPv4 (ipAndMask : String) (port : UInt32) (h : AllowedHosts) :
    Status × AllowedHosts :=
  match ipv4Rule p ipAndMask port with
  | .ok e => (Status.okStatus,{h with allowedIPv4 := h.allowedIPv4 ++ [e]})
  | .error s => (s,h)

def AllowedHosts.allowIPv6 (ipAndMask : String) (port : UInt32) (h : AllowedHosts) :
    Status × AllowedHosts :=
  match ipv6Rule p ipAndMask port with
  | .ok e => (Status.okStatus,{h with allowedIPv6 := h.allowedIPv6 ++ [e]})
  | .error s => (s,h)

end Allow

/-! ### Checking an address -/

def IPv4.allows (entry : IPv4) (sinPort : UInt16) (sinAddr : InAddr) : Bool :=
  Vector.zipWith (· &&& ·) entry.ip entry.mask == Vector.zipWith (· &&& ·) sinAddr entry.mask &&
    (entry.port == 0 || entry.port == sinPort.toUInt32)

def IPv6.allows (entry : IPv6) (sin6Port : UInt16) (sin6Addr : In6Addr) : Bool :=
  (List.finRange 16).all (fun i => (entry.ip[i] &&& entry.mask[i]) == (sin6Addr[i] &&& entry.mask[i])) &&
    (entry.port == 0 || entry.port == sin6Port.toUInt32)

def AllowedHosts.isIPv4Allowed (h : AllowedHosts) (sinPort : UInt16) (sinAddr : InAddr) : Bool :=
  h.allowedIPv4.any fun entry => entry.allows sinPort sinAddr

def AllowedHosts.isIPv6Allowed (h : AllowedHosts) (sin6Port : UInt16) (sin6Addr : In6Addr) : Bool :=
  h.allowedIPv6.any fun entry => entry.allows sin6Port sin6Addr

/-- `IsHostAllowed`; `none` where it stops the process with `LOG(FATAL)`. -/
def AllowedHosts.isHostAllowed (h : AllowedHosts) : Sockaddr → Option Bool
  | .in4 sinPort sinAddr => some (h.isIPv4Allowed sinPort sinAddr)
  | .in6 sin6Port sin6Addr => some (h.isIPv6Allowed sin6Port sin6Addr)
  | .other _ => none

/-! ### Byte order -/

theorem beValue_htonl (x : UInt32) : beValue (htonl x).toList = x.toNat := by
  have hx := x.toNat_lt
  simp only [htonl,Vector.toList_mk,List.length_cons,List.length_nil,beValue,UInt32.toNat_toUInt8,
    UInt32.toNat_shiftRight,UInt32.toNat_ofNat,Nat.shiftRight_eq_div_pow]
  norm_num
  omega

theorem toNat_ntohl (a : InAddr) : (ntohl a).toNat = beValue a.toList := by
  have h0 := a[0].toNat_lt
  have h1 := a[1].toNat_lt
  have h2 := a[2].toNat_lt
  have h3 := a[3].toNat_lt
  have ha : a.toList = [a[0],a[1],a[2],a[3]] := by
    apply List.ext_getElem
    · simp
    · intro i h1 _
      have : i < 4 := by simpa using h1
      interval_cases i <;> rfl
  rw [ha]
  simp only [ntohl,beValue,List.length_cons,List.length_nil,UInt32.toNat_add,UInt32.toNat_mul,
    UInt8.toNat_toUInt32,UInt32.toNat_ofNat]
  norm_num
  omega

theorem toNat_htons (x : UInt16) : (htons x).toNat = x.toNat % 256 * 256 + x.toNat / 256 := by
  have hx := x.toNat_lt
  simp only [htons,UInt16.toNat_add,UInt16.toNat_shiftRight,UInt16.toNat_shiftLeft,
    UInt16.toNat_ofNat,Nat.shiftRight_eq_div_pow,Nat.shiftLeft_eq]
  norm_num
  omega

/-- The port a rule keeps: the port argument modulo `2 ^ 16`, in network order. -/
theorem rulePort_eq_zero_iff (port : UInt32) :
    (htons port.toUInt16).toUInt32 = 0 ↔ port.toNat % 65536 = 0 := by
  rw [← UInt32.toNat_inj,UInt16.toNat_toUInt32,toNat_htons,UInt32.toNat_toUInt16]
  simp only [UInt32.reduceToNat]
  omega

theorem rulePort_eq_iff (port : UInt32) (sinPort : UInt16) :
    (htons port.toUInt16).toUInt32 = sinPort.toUInt32 ↔ port.toNat % 65536 = (ntohs sinPort).toNat := by
  have hs := sinPort.toNat_lt
  rw [← UInt32.toNat_inj,UInt16.toNat_toUInt32,UInt16.toNat_toUInt32,ntohs,toNat_htons,toNat_htons,
    UInt32.toNat_toUInt16]
  omega

/-! ### The masks are prefix masks -/

theorem toNat_shiftInOnes32 :
    ∀ (n k : Nat) (t : UInt32), k + n ≤ 32 → t.toNat = prefixMask 32 k →
      (shiftInOnes (0x80000000 : UInt32) n t).toNat = prefixMask 32 (k + n)
  | 0, _, _, _, ht => ht
  | n + 1, k, t, hkn, ht => by
    have hstep : ((t >>> (1 : UInt32)) ||| 0x80000000).toNat = prefixMask 32 (k + 1) := by
      have hlt : prefixMask 32 k / 2 < 2 ^ 31 := by
        have := prefixMask_lt 32 k
        omega
      have h : ((t >>> (1 : UInt32)) ||| 0x80000000).toNat = t.toNat / 2 ||| 2 ^ 31 := by
        simp [UInt32.toNat_or,UInt32.toNat_shiftRight,Nat.shiftRight_eq_div_pow]
      rw [h,ht,Nat.or_two_pow_eq_add_of_lt hlt]
      exact prefixMask_succ (by omega)
    rw [shiftInOnes,toNat_shiftInOnes32 n (k + 1) _ (by omega) hstep]
    congr 1
    omega

theorem toNat_shiftInOnes8 :
    ∀ (n k : Nat) (t : UInt8), k + n ≤ 8 → t.toNat = prefixMask 8 k →
      (shiftInOnes (0x80 : UInt8) n t).toNat = prefixMask 8 (k + n)
  | 0, _, _, _, ht => ht
  | n + 1, k, t, hkn, ht => by
    have hstep : ((t >>> (1 : UInt8)) ||| 0x80).toNat = prefixMask 8 (k + 1) := by
      have hlt : prefixMask 8 k / 2 < 2 ^ 7 := by
        have := prefixMask_lt 8 k
        omega
      have h : ((t >>> (1 : UInt8)) ||| 0x80).toNat = t.toNat / 2 ||| 2 ^ 7 := by
        simp [UInt8.toNat_or,UInt8.toNat_shiftRight,Nat.shiftRight_eq_div_pow]
      rw [h,ht,Nat.or_two_pow_eq_add_of_lt hlt]
      exact prefixMask_succ (by omega)
    rw [shiftInOnes,toNat_shiftInOnes8 n (k + 1) _ (by omega) hstep]
    congr 1
    omega

theorem cidrToInAddr_ok {cidr : UInt32} (h : cidr.toNat ≤ 32) :
    ∃ m, cidrToInAddr cidr = .ok m ∧ beValue m.toList = prefixMask 32 cidr.toNat := by
  refine ⟨_,if_neg (by rw [gt_iff_lt,UInt32.lt_iff_toNat_lt]; simpa using h),?_⟩
  rw [beValue_htonl,toNat_shiftInOnes32 cidr.toNat 0 0 (by omega) (by simp [prefixMask]),
    Nat.zero_add]

theorem getElem_fillOnes :
    ∀ (n i : Nat) (addr : In6Addr) (j : Nat) (hj : j < 16),
      (fillOnes n i addr)[j] = if i ≤ j ∧ j < i + n then 0xff else addr[j]
  | 0, i, addr, j, hj => by rw [fillOnes,if_neg (by omega)]
  | n + 1, i, addr, j, hj => by
    rw [fillOnes,getElem_fillOnes n (i + 1),Vector.getElem_setIfInBounds hj]
    by_cases hij : i = j
    · simp [hij]
    · simp only [hij,if_false]
      congr 1
      apply propext
      omega

theorem cidrToIn6Addr_ok {cidr : UInt32} (h : cidr.toNat ≤ 128) :
    ∃ m, cidrToIn6Addr cidr = .ok m ∧ m.toList = prefixBytes 16 cidr.toNat := by
  have hc : ¬cidr > 128 := by rw [gt_iff_lt,UInt32.lt_iff_toNat_lt]; simpa using h
  have hbyte : ∀ j < 16, (prefixMask 8 (min 8 (cidr.toNat - 8 * j))).toUInt8 =
      if j < cidr.toNat / 8 then 0xff
      else if j = cidr.toNat / 8 then shiftInOnes (0x80 : UInt8) (cidr.toNat % 8) 0 else 0 := by
    intro j hj
    split
    · rename_i hlt
      rw [min_eq_left (by omega),prefixMask_self]
      rfl
    · split
      · rename_i heq
        apply UInt8.toNat_inj.mp
        rw [toNat_prefixMask_eight,toNat_shiftInOnes8 _ 0 0 (by omega) (by simp [prefixMask]),
          Nat.zero_add]
        congr 1
        omega
      · rw [show cidr.toNat - 8 * j = 0 by omega,Nat.min_zero,prefixMask_zero]
        rfl
  unfold cidrToIn6Addr
  rw [if_neg hc]
  split
  · rename_i hr
    have hcode : ∀ j (hj : j < 16),
        ((fillOnes (cidr.toNat / 8) 0 (Vector.replicate 16 0)).setIfInBounds (cidr.toNat / 8)
          (shiftInOnes (0x80 : UInt8) (cidr.toNat % 8) 0))[j] =
        if j < cidr.toNat / 8 then 0xff
        else if j = cidr.toNat / 8 then shiftInOnes (0x80 : UInt8) (cidr.toNat % 8) 0 else 0 := by
      intro j hj
      rw [Vector.getElem_setIfInBounds hj,getElem_fillOnes _ _ _ _ hj,Vector.getElem_replicate]
      by_cases h1 : j < cidr.toNat / 8
      · rw [if_neg (by omega),if_pos ⟨Nat.zero_le _,by omega⟩,if_pos h1]
      · by_cases h2 : j = cidr.toNat / 8
        · rw [if_pos h2.symm,if_neg h1,if_pos h2]
        · rw [if_neg (fun h => h2 h.symm),if_neg (by omega),if_neg h1,if_neg h2]
    refine ⟨_,rfl,List.ext_getElem (by simp [length_prefixBytes]) fun j h1 _ => ?_⟩
    have hj : j < 16 := by simpa using h1
    rw [getElem_prefixBytes,Vector.getElem_toList,hcode j hj,hbyte j hj]
  · rename_i hr
    -- no partial byte: the byte where the prefix ends stays zero
    have hcode : ∀ j (hj : j < 16), (fillOnes (cidr.toNat / 8) 0 (Vector.replicate 16 0))[j] =
        if j < cidr.toNat / 8 then 0xff
        else if j = cidr.toNat / 8 then shiftInOnes (0x80 : UInt8) (cidr.toNat % 8) 0 else 0 := by
      intro j hj
      rw [getElem_fillOnes _ _ _ _ hj,Vector.getElem_replicate,show cidr.toNat % 8 = 0 by omega]
      by_cases h1 : j < cidr.toNat / 8
      · rw [if_pos ⟨Nat.zero_le _,by omega⟩,if_pos h1]
      · rw [if_neg (by omega),if_neg h1]
        split <;> rfl
    refine ⟨_,rfl,List.ext_getElem (by simp [length_prefixBytes]) fun j h1 _ => ?_⟩
    have hj : j < 16 := by simpa using h1
    rw [getElem_prefixBytes,Vector.getElem_toList,hcode j hj,hbyte j hj]

/-- `IsIPv4MaskCorrect` holds of exactly the nonzero prefix masks. -/
theorem isIPv4MaskCorrect_iff (m : InAddr) :
    isIPv4MaskCorrect m = true ↔ ∃ len, 1 ≤ len ∧ len ≤ 32 ∧ beValue m.toList = prefixMask 32 len := by
  rw [← toNat_ntohl]
  unfold isIPv4MaskCorrect
  by_cases h0 : ntohl m = 0
  · simp only [h0,if_true,Bool.false_eq_true,false_iff,not_exists,not_and]
    intro len h1 hl he
    have := prefixMask_pos h1 hl
    simp_all
  · rw [if_neg h0]
    have hx : (ntohl m).toNat ≠ 0 := fun h => h0 (UInt32.toNat_inj.mp (by simpa using h))
    have hxl := (ntohl m).toNat_lt
    have hneg : (~~~ntohl m + 1).toNat = 2 ^ 32 - (ntohl m).toNat := by
      rw [UInt32.toNat_add,UInt32.toNat_not]
      simp only [UInt32.size,UInt32.reduceToNat]
      omega
    have hone : 1 ≤ ~~~ntohl m + 1 := by
      rw [UInt32.le_iff_toNat_le,hneg]
      simp only [UInt32.reduceToNat]
      omega
    rw [beq_iff_eq,← UInt32.toNat_inj,UInt32.toNat_and,UInt32.toNat_sub_of_le _ _ hone,hneg,
      UInt32.toNat_zero,UInt32.toNat_one,Nat.and_sub_one_eq_zero_iff_isPowerOfTwo (by omega),
      isPowerOfTwo_sub_iff hx (by omega)]

/-! ### What a rule allows -/

theorem IPv4.allows_iff (entry : IPv4) {len : Nat} (hl : len ≤ 32)
    (hm : beValue entry.mask.toList = prefixMask 32 len) (sinPort : UInt16) (sinAddr : InAddr) :
    entry.allows sinPort sinAddr = true ↔
      SamePrefix 32 len (beValue entry.ip.toList) (beValue sinAddr.toList) ∧
        (entry.port = 0 ∨ entry.port = sinPort.toUInt32) := by
  have hlen : entry.mask.toList.length = 4 := by simp
  have hz := @zipWith_and_eq_iff entry.ip.toList sinAddr.toList entry.mask.toList (by simp) (by simp)
    len (by rw [hlen]; omega) (by rw [hlen]; exact hm)
  rw [IPv4.allows,Bool.and_eq_true,beq_iff_eq,Bool.or_eq_true,beq_iff_eq,beq_iff_eq,
    ← Vector.toList_inj,Vector.toList_zipWith,Vector.toList_zipWith,hz,hlen]

theorem IPv6.allows_iff (entry : IPv6) {len : Nat} (hl : len ≤ 128)
    (hm : beValue entry.mask.toList = prefixMask 128 len) (sin6Port : UInt16) (sin6Addr : In6Addr) :
    entry.allows sin6Port sin6Addr = true ↔
      SamePrefix 128 len (beValue entry.ip.toList) (beValue sin6Addr.toList) ∧
        (entry.port = 0 ∨ entry.port = sin6Port.toUInt32) := by
  have hlen : entry.mask.toList.length = 16 := by simp
  -- the loop over the sixteen bytes compares the masked addresses
  have hloop : ((List.finRange 16).all fun i =>
      (entry.ip[i] &&& entry.mask[i]) == (sin6Addr[i] &&& entry.mask[i])) = true ↔
      Vector.zipWith (· &&& ·) entry.ip entry.mask = Vector.zipWith (· &&& ·) sin6Addr entry.mask := by
    rw [List.all_eq_true]
    constructor
    · intro h
      apply Vector.ext
      intro i hi
      rw [Vector.getElem_zipWith,Vector.getElem_zipWith]
      exact beq_iff_eq.mp (h ⟨i,hi⟩ (List.mem_finRange _))
    · intro h i _
      have h' : (Vector.zipWith (· &&& ·) entry.ip entry.mask)[i.val] =
          (Vector.zipWith (· &&& ·) sin6Addr entry.mask)[i.val] := by rw [h]
      rw [Vector.getElem_zipWith,Vector.getElem_zipWith] at h'
      exact beq_iff_eq.mpr h'
  have hz := @zipWith_and_eq_iff entry.ip.toList sin6Addr.toList entry.mask.toList (by simp)
    (by simp) len (by rw [hlen]; omega) (by rw [hlen]; exact hm)
  rw [IPv6.allows,Bool.and_eq_true,hloop,Bool.or_eq_true,beq_iff_eq,beq_iff_eq,
    ← Vector.toList_inj,Vector.toList_zipWith,Vector.toList_zipWith,hz,hlen]

/-! ### When each step succeeds -/

section Steps

variable (p : Parsers)

@[simp] theorem ipStringToAddr_eq_ok {α : Type} {f : String → Option α} {ip : String} {a : α} :
    ipStringToAddr f ip = .ok a ↔ f ip = some a := by
  unfold ipStringToAddr
  cases h : f ip <;> simp

theorem cidrToInAddr_eq_ok {cidr : UInt32} (h : cidr.toNat ≤ 32) {m : InAddr} :
    cidrToInAddr cidr = .ok m ↔ beValue m.toList = prefixMask 32 cidr.toNat := by
  obtain ⟨m',hm',hv⟩ := cidrToInAddr_ok h
  rw [hm',Except.ok.injEq]
  constructor
  · rintro rfl
    exact hv
  · intro hm
    exact Vector.toList_inj.mp (beValue_inj (by simp) (hv.trans hm.symm))

theorem cidrToIn6Addr_eq_ok {cidr : UInt32} (h : cidr.toNat ≤ 128) {m : In6Addr} :
    cidrToIn6Addr cidr = .ok m ↔ beValue m.toList = prefixMask 128 cidr.toNat := by
  obtain ⟨m',hm',hb⟩ := cidrToIn6Addr_ok h
  have hv : beValue m'.toList = prefixMask 128 cidr.toNat := by
    rw [hb,beValue_prefixBytes,min_eq_left (by omega)]
  rw [hm',Except.ok.injEq]
  constructor
  · rintro rfl
    exact hv
  · intro hm
    exact Vector.toList_inj.mp (beValue_inj (by simp) (hv.trans hm.symm))

theorem ipv4Mask_eq_ok {mask : String} {cidr : UInt32} {m : InAddr} :
    ipv4Mask p mask cidr = .ok m ↔
      (mask ≠ "" ∧ p.inetPton4 mask = some m ∧ isIPv4MaskCorrect m = true) ∨
        (mask = "" ∧ cidr.toNat ≤ 32 ∧ cidrToInAddr (if cidr = 0 then 32 else cidr) = .ok m) := by
  by_cases hm : mask = ""
  · subst hm
    by_cases hc : 32 < cidr
    · have : 32 < cidr.toNat := by simpa using UInt32.lt_iff_toNat_lt.mp hc
      simp [ipv4Mask,hc]
      omega
    · have : cidr.toNat ≤ 32 := by simpa using UInt32.le_iff_toNat_le.mp (UInt32.not_lt.mp hc)
      simp [ipv4Mask,hc,this]
  · simp only [ipv4Mask,ne_eq,String.length_eq_zero_iff,hm,not_false_eq_true,if_true,bind_eq_ok,
      ipStringToAddr_eq_ok,true_and,false_and,or_false]
    constructor
    · rintro ⟨a,ha,he⟩
      cases hc : isIPv4MaskCorrect a
      · simp [hc] at he
      · simp [hc] at he
        subst he
        exact ⟨ha,hc⟩
    · rintro ⟨ha,hc⟩
      exact ⟨m,ha,by simp [hc]⟩

theorem allowIPv4Split_eq_ok {ip mask : String} {cidr port : UInt32} {e : IPv4} :
    allowIPv4Split p ip mask cidr port = .ok e ↔
      ipv4Mask p mask cidr = .ok e.mask ∧ p.inetPton4 ip = some e.ip ∧
        e.port = (htons port.toUInt16).toUInt32 := by
  simp only [allowIPv4Split,bind_eq_ok,ipStringToAddr_eq_ok,pure_eq_ok,Except.ok.injEq]
  constructor
  · rintro ⟨m,hm,a,ha,rfl⟩
    exact ⟨hm,ha,rfl⟩
  · rintro ⟨hm,ha,hp⟩
    exact ⟨e.mask,hm,e.ip,ha,by rw [← hp]⟩

theorem allowIPv6Split_eq_ok {ip : String} {cidr port : UInt32} {e : IPv6} :
    allowIPv6Split p ip cidr port = .ok e ↔
      p.inetPton6 ip = some e.ip ∧ cidrToIn6Addr (if cidr = 0 then 128 else cidr) = .ok e.mask ∧
        e.port = (htons port.toUInt16).toUInt32 := by
  simp only [allowIPv6Split,bind_eq_ok,ipStringToAddr_eq_ok,pure_eq_ok,Except.ok.injEq]
  constructor
  · rintro ⟨a,ha,m,hm,rfl⟩
    exact ⟨ha,hm,rfl⟩
  · rintro ⟨ha,hm,hp⟩
    exact ⟨e.ip,ha,e.mask,hm,by rw [← hp]⟩

theorem parseIpAndMask_of_none {ipAndMask ip : String} (hs : splitIpAndMask ipAndMask = (ip,none))
    (hasMaskArg : Bool) : parseIpAndMask p ipAndMask hasMaskArg = .ok ⟨ip,"",0⟩ := by
  rw [parseIpAndMask,hs]

theorem parseIpAndMask_of_dot {ipAndMask ip t : String} (hs : splitIpAndMask ipAndMask = (ip,some t))
    (ht : '.' ∈ t.toList) (hasMaskArg : Bool) {parsed : ParsedIpAndMask} :
    parseIpAndMask p ipAndMask hasMaskArg = .ok parsed ↔
      hasMaskArg = true ∧ parsed = ⟨ip,t,0⟩ := by
  have hc : t.toList.contains '.' = true := List.elem_iff.mpr ht
  rw [parseIpAndMask,hs]
  simp only [hc,Bool.not_true,Bool.false_eq_true,if_false]
  cases hasMaskArg
  · simp
  · simp only [Bool.not_true,Bool.false_eq_true,if_false,Except.ok.injEq,true_and]
    exact eq_comm

theorem parseIpAndMask_of_cidr {ipAndMask ip t : String} (hs : splitIpAndMask ipAndMask = (ip,some t))
    (ht : '.' ∉ t.toList) (hasMaskArg : Bool) {parsed : ParsedIpAndMask} :
    parseIpAndMask p ipAndMask hasMaskArg = .ok parsed ↔
      ∃ cidr, p.simpleAtoi t = some cidr ∧ cidr ≠ 0 ∧ parsed = ⟨ip,"",cidr⟩ := by
  have hc : t.toList.contains '.' = false := by simpa using ht
  simp only [parseIpAndMask,hs,hc,Bool.not_false,if_true]
  cases ha : p.simpleAtoi t with
  | none => simp
  | some cidr =>
    by_cases h0 : cidr = 0
    · simp [h0]
    · simp [h0,eq_comm]

end Steps

/-! ### What the checks fail with -/

section Errors

variable (p : Parsers)

/-- Every check of the filter fails with `kInvalidArgument`. -/
def InvalidArgument (s : Status) : Prop := s.code = .invalidArgument

@[simp] theorem invalidArgument_invalidArgumentError (message : String) :
    InvalidArgument (invalidArgumentError message) := rfl

theorem ipStringToAddr_errorsIn {α : Type} (inetPton : String → Option α) (ip : String) :
    ErrorsIn InvalidArgument (ipStringToAddr inetPton ip) := by
  unfold ipStringToAddr
  split <;> simp

theorem parseIpAndMask_errorsIn (ipAndMask : String) (hasMaskArg : Bool) :
    ErrorsIn InvalidArgument (parseIpAndMask p ipAndMask hasMaskArg) := by
  unfold parseIpAndMask
  split
  · simp
  · dsimp only
    split
    · split
      · split <;> simp
      · simp
    · split <;> simp

theorem cidrToInAddr_errorsIn (cidr : UInt32) : ErrorsIn InvalidArgument (cidrToInAddr cidr) := by
  unfold cidrToInAddr
  split <;> simp

theorem cidrToIn6Addr_errorsIn (cidr : UInt32) : ErrorsIn InvalidArgument (cidrToIn6Addr cidr) := by
  unfold cidrToIn6Addr
  split
  · simp
  · dsimp only
    split <;> simp

theorem ipv4Mask_errorsIn (mask : String) (cidr : UInt32) :
    ErrorsIn InvalidArgument (ipv4Mask p mask cidr) := by
  unfold ipv4Mask
  split
  · refine errorsIn_bind (ipStringToAddr_errorsIn _ _) fun m _ => ?_
    split <;> simp
  · by_cases hc : cidr > 32
    · simp [hc]
    · simpa [hc] using cidrToInAddr_errorsIn _

theorem ipv4Rule_errorsIn (ipAndMask : String) (port : UInt32) :
    ErrorsIn InvalidArgument (ipv4Rule p ipAndMask port) := by
  refine errorsIn_bind (parseIpAndMask_errorsIn p _ _) fun parsed _ => ?_
  refine errorsIn_bind (ipv4Mask_errorsIn p _ _) fun m _ => ?_
  refine errorsIn_bind (ipStringToAddr_errorsIn _ _) fun addr _ => ?_
  simp

theorem ipv6Rule_errorsIn (ipAndMask : String) (port : UInt32) :
    ErrorsIn InvalidArgument (ipv6Rule p ipAndMask port) := by
  refine errorsIn_bind (parseIpAndMask_errorsIn p _ _) fun parsed _ => ?_
  refine errorsIn_bind (ipStringToAddr_errorsIn _ _) fun addr _ => ?_
  refine errorsIn_bind (cidrToIn6Addr_errorsIn _) fun m _ => ?_
  simp

end Errors

/-! ### The rules the calls state -/

inductive AllowedHosts.Call where
  | allowIPv4 (ipAndMask : String) (port : UInt32)
  | allowIPv6 (ipAndMask : String) (port : UInt32)
deriving DecidableEq, Repr

def AllowedHosts.call (p : Parsers) (h : AllowedHosts) :
    AllowedHosts.Call → Status × AllowedHosts
  | .allowIPv4 ipAndMask port => h.allowIPv4 p ipAndMask port
  | .allowIPv6 ipAndMask port => h.allowIPv6 p ipAndMask port

def AllowedHosts.run (p : Parsers) (h : AllowedHosts) (calls : List AllowedHosts.Call) :
    AllowedHosts :=
  calls.foldl (fun h c => (h.call p c).2) h

/-- A rule as a call states it: its family, the address and prefix length it names, and its
port. -/
structure Rule where
  v6 : Bool
  ip : Nat
  len : Nat
  port : Nat
deriving DecidableEq, Repr

/-- What the header says a rule allows: an address of its family with the same prefix, on every
port if the rule's port is `0` and on that port otherwise. -/
def Rule.Allows (r : Rule) : Sockaddr → Prop
  | .in4 sinPort sinAddr => r.v6 = false ∧ SamePrefix 32 r.len r.ip (beValue sinAddr.toList) ∧
      (r.port = 0 ∨ r.port = (ntohs sinPort).toNat)
  | .in6 sin6Port sin6Addr => r.v6 = true ∧ SamePrefix 128 r.len r.ip (beValue sin6Addr.toList) ∧
      (r.port = 0 ∨ r.port = (ntohs sin6Port).toNat)
  | .other _ => False

instance (r : Rule) (a : Sockaddr) : Decidable (r.Allows a) :=
  match a with
  | .in4 sinPort sinAddr => inferInstanceAs (Decidable (r.v6 = false ∧
      SamePrefix 32 r.len r.ip (beValue sinAddr.toList) ∧ (r.port = 0 ∨ r.port = (ntohs sinPort).toNat)))
  | .in6 sin6Port sin6Addr => inferInstanceAs (Decidable (r.v6 = true ∧
      SamePrefix 128 r.len r.ip (beValue sin6Addr.toList) ∧ (r.port = 0 ∨ r.port = (ntohs sin6Port).toNat)))
  | .other _ => inferInstanceAs (Decidable False)

/-- The rule with its port taken modulo `2 ^ 16`, as `htons` keeps it. -/
def Rule.truncatePort (r : Rule) : Rule := {r with port := r.port % 65536}

/-- The length of a nonzero prefix mask of 32 bits. -/
def maskLength? (m : Nat) : Option Nat := (List.range' 1 32).find? fun len => m == prefixMask 32 len

/-- The prefix length an IPv4 call states: the whole address, a CIDR of `1` to `32`, or the
length of a dotted nonzero prefix mask. -/
def prefixLength4? (p : Parsers) (ipAndMask : String) : Option Nat :=
  match (splitIpAndMask ipAndMask).2 with
  | none => some 32
  | some t =>
    if '.' ∈ t.toList then (p.inetPton4 t).bind fun m => maskLength? (beValue m.toList)
    else (p.simpleAtoi t).bind fun c => if 1 ≤ c.toNat ∧ c.toNat ≤ 32 then some c.toNat else none

/-- The prefix length an IPv6 call states: the whole address or a CIDR of `1` to `128`. -/
def prefixLength6? (p : Parsers) (ipAndMask : String) : Option Nat :=
  match (splitIpAndMask ipAndMask).2 with
  | none => some 128
  | some t =>
    if '.' ∈ t.toList then none
    else (p.simpleAtoi t).bind fun c => if 1 ≤ c.toNat ∧ c.toNat ≤ 128 then some c.toNat else none

/-- The rule a call states, if it is well formed: an address that parses and a prefix length. -/
def AllowedHosts.Call.rule? (p : Parsers) : AllowedHosts.Call → Option Rule
  | .allowIPv4 ipAndMask port =>
    (p.inetPton4 (splitIpAndMask ipAndMask).1).bind fun ip =>
      (prefixLength4? p ipAndMask).map fun len => ⟨false,beValue ip.toList,len,port.toNat⟩
  | .allowIPv6 ipAndMask port =>
    (p.inetPton6 (splitIpAndMask ipAndMask).1).bind fun ip =>
      (prefixLength6? p ipAndMask).map fun len => ⟨true,beValue ip.toList,len,port.toNat⟩

/-- The rule a call adds when it succeeds. -/
def AllowedHosts.Call.addedIPv4? (p : Parsers) : AllowedHosts.Call → Option IPv4
  | .allowIPv4 ipAndMask port => (ipv4Rule p ipAndMask port).toOption
  | .allowIPv6 _ _ => none

def AllowedHosts.Call.addedIPv6? (p : Parsers) : AllowedHosts.Call → Option IPv6
  | .allowIPv4 _ _ => none
  | .allowIPv6 ipAndMask port => (ipv6Rule p ipAndMask port).toOption

/-! ### The rules successful calls add -/

section Rules

variable (p : Parsers)

theorem maskLength?_eq_some {v len : Nat} :
    maskLength? v = some len ↔ 1 ≤ len ∧ len ≤ 32 ∧ v = prefixMask 32 len := by
  unfold maskLength?
  constructor
  · intro h
    have hp := List.find?_some h
    have hm := List.mem_range'_1.mp (List.mem_of_find?_eq_some h)
    exact ⟨by omega,by omega,beq_iff_eq.mp hp⟩
  · rintro ⟨h1,h2,rfl⟩
    -- the prefix masks of different lengths differ, so the first match is `len` itself
    have hsome : ((List.range' 1 32).find? fun l => prefixMask 32 len == prefixMask 32 l).isSome :=
      List.find?_isSome.mpr ⟨len,List.mem_range'_1.mpr ⟨h1,by omega⟩,by simp⟩
    obtain ⟨x,hx⟩ := Option.isSome_iff_exists.mp hsome
    have hpx := List.find?_some hx
    have hmx := List.mem_range'_1.mp (List.mem_of_find?_eq_some hx)
    rw [hx,prefixMask_inj (by omega) h2 (beq_iff_eq.mp hpx).symm]

theorem ipv4Mask_of_none {m : InAddr} : ipv4Mask p "" 0 = .ok m ↔ beValue m.toList = prefixMask 32 32 := by
  rw [ipv4Mask_eq_ok]
  simp only [ne_eq,not_true_eq_false,false_and,false_or,true_and]
  exact ⟨fun h => (cidrToInAddr_eq_ok (by decide)).mp h.2,
    fun h => ⟨by decide,(cidrToInAddr_eq_ok (by decide)).mpr h⟩⟩

theorem ipv4Mask_of_cidr {cidr : UInt32} (h0 : cidr ≠ 0) {m : InAddr} :
    ipv4Mask p "" cidr = .ok m ↔ cidr.toNat ≤ 32 ∧ beValue m.toList = prefixMask 32 cidr.toNat := by
  rw [ipv4Mask_eq_ok]
  simp only [ne_eq,not_true_eq_false,false_and,false_or,true_and,if_neg h0]
  constructor
  · rintro ⟨hc,hm⟩
    exact ⟨hc,(cidrToInAddr_eq_ok hc).mp hm⟩
  · rintro ⟨hc,hm⟩
    exact ⟨hc,(cidrToInAddr_eq_ok hc).mpr hm⟩

theorem ipv4Mask_of_dot {t : String} (ht : t ≠ "") {m : InAddr} :
    ipv4Mask p t 0 = .ok m ↔ p.inetPton4 t = some m ∧ isIPv4MaskCorrect m = true := by
  rw [ipv4Mask_eq_ok]
  simp [ht]

theorem prefixLength4?_le {ipAndMask : String} {len : Nat} (h : prefixLength4? p ipAndMask = some len) :
    len ≤ 32 := by
  unfold prefixLength4? at h
  split at h
  · cases h
    exact le_refl _
  · split at h
    · obtain ⟨m,_,hl⟩ := Option.bind_eq_some_iff.mp h
      exact (maskLength?_eq_some.mp hl).2.1
    · obtain ⟨c,_,hl⟩ := Option.bind_eq_some_iff.mp h
      split at hl
      · cases hl
        omega
      · cases hl

/-- A successful `AllowIPv4` adds a rule for the address the call names, whose mask is the
prefix mask of the length the call states. -/
theorem ipv4Rule_eq_ok {ipAndMask : String} {port : UInt32} {e : IPv4} :
    ipv4Rule p ipAndMask port = .ok e ↔
      p.inetPton4 (splitIpAndMask ipAndMask).1 = some e.ip ∧
        (∃ len, prefixLength4? p ipAndMask = some len ∧ beValue e.mask.toList = prefixMask 32 len) ∧
        e.port = (htons port.toUInt16).toUInt32 := by
  rcases hs : splitIpAndMask ipAndMask with ⟨ip,_ | t⟩
  · -- `IP`: the whole address
    have hl : prefixLength4? p ipAndMask = some 32 := by rw [prefixLength4?,hs]
    rw [ipv4Rule,parseIpAndMask_of_none p hs,ok_bind,allowIPv4Split_eq_ok,ipv4Mask_of_none,hl]
    simp only [Option.some.injEq,exists_eq_left']
    tauto
  · by_cases ht : '.' ∈ t.toList
    · -- `IP/mask`
      have hl : prefixLength4? p ipAndMask =
          (p.inetPton4 t).bind fun m => maskLength? (beValue m.toList) := by
        rw [prefixLength4?,hs]
        exact if_pos ht
      have hne : t ≠ "" := by
        rintro rfl
        simp at ht
      simp only [ipv4Rule,bind_eq_ok,parseIpAndMask_of_dot p hs ht,true_and,exists_eq_left,
        allowIPv4Split_eq_ok,ipv4Mask_of_dot p hne,hl,Option.bind_eq_some_iff,isIPv4MaskCorrect_iff]
      constructor
      · rintro ⟨⟨hm,len,h1,h2,hv⟩,hip,hp⟩
        exact ⟨hip,⟨len,⟨e.mask,hm,maskLength?_eq_some.mpr ⟨h1,h2,hv⟩⟩,hv⟩,hp⟩
      · rintro ⟨hip,⟨len,⟨m,hm,hlen⟩,hv⟩,hp⟩
        obtain ⟨h1,h2,hmv⟩ := maskLength?_eq_some.mp hlen
        -- the mask the call names is the one the rule keeps
        have he : m = e.mask := Vector.toList_inj.mp (beValue_inj (by simp) (hmv.trans hv.symm))
        subst he
        exact ⟨⟨hm,len,h1,h2,hv⟩,hip,hp⟩
    · -- `IP/cidr`
      have hl : prefixLength4? p ipAndMask = (p.simpleAtoi t).bind fun c =>
          if 1 ≤ c.toNat ∧ c.toNat ≤ 32 then some c.toNat else none := by
        rw [prefixLength4?,hs]
        exact if_neg ht
      simp only [ipv4Rule,bind_eq_ok,parseIpAndMask_of_cidr p hs ht]
      constructor
      · rintro ⟨_,⟨c,hc,h0,rfl⟩,he⟩
        obtain ⟨hm,hip,hp⟩ := (allowIPv4Split_eq_ok p).mp he
        obtain ⟨hle,hv⟩ := (ipv4Mask_of_cidr p h0).mp hm
        have h1 : 1 ≤ c.toNat := by
          have : c.toNat ≠ 0 := fun h => h0 (UInt32.toNat_inj.mp (by simpa using h))
          omega
        refine ⟨hip,⟨c.toNat,?_,hv⟩,hp⟩
        rw [hl,Option.bind_eq_some_iff]
        exact ⟨c,hc,if_pos ⟨h1,hle⟩⟩
      · rintro ⟨hip,⟨len,hlen,hv⟩,hp⟩
        rw [hl,Option.bind_eq_some_iff] at hlen
        obtain ⟨c,hc,hcl⟩ := hlen
        split at hcl
        · rename_i hb
          cases hcl
          have h0 : c ≠ 0 := by
            rintro rfl
            simp at hb
          exact ⟨_,⟨c,hc,h0,rfl⟩,(allowIPv4Split_eq_ok p).mpr
            ⟨(ipv4Mask_of_cidr p h0).mpr ⟨hb.2,hv⟩,hip,hp⟩⟩
        · cases hcl

theorem cidrToIn6Addr_eq_ok_iff {cidr : UInt32} {m : In6Addr} :
    cidrToIn6Addr cidr = .ok m ↔ cidr.toNat ≤ 128 ∧ beValue m.toList = prefixMask 128 cidr.toNat := by
  by_cases hc : cidr.toNat ≤ 128
  · rw [cidrToIn6Addr_eq_ok hc]
    exact ⟨fun h => ⟨hc,h⟩,fun h => h.2⟩
  · have h : cidr > 128 := by rw [gt_iff_lt,UInt32.lt_iff_toNat_lt]; simpa using hc
    simp [cidrToIn6Addr,h,hc]

theorem prefixLength6?_le {ipAndMask : String} {len : Nat} (h : prefixLength6? p ipAndMask = some len) :
    len ≤ 128 := by
  unfold prefixLength6? at h
  split at h
  · cases h
    exact le_refl _
  · split at h
    · cases h
    · obtain ⟨c,_,hl⟩ := Option.bind_eq_some_iff.mp h
      split at hl
      · cases hl
        omega
      · cases hl

/-- A successful `AllowIPv6` adds a rule for the address the call names, whose mask is the
prefix mask of the length the call states. -/
theorem ipv6Rule_eq_ok {ipAndMask : String} {port : UInt32} {e : IPv6} :
    ipv6Rule p ipAndMask port = .ok e ↔
      p.inetPton6 (splitIpAndMask ipAndMask).1 = some e.ip ∧
        (∃ len, prefixLength6? p ipAndMask = some len ∧ beValue e.mask.toList = prefixMask 128 len) ∧
        e.port = (htons port.toUInt16).toUInt32 := by
  rcases hs : splitIpAndMask ipAndMask with ⟨ip,_ | t⟩
  · -- `IP`: the whole address
    have hl : prefixLength6? p ipAndMask = some 128 := by rw [prefixLength6?,hs]
    rw [ipv6Rule,parseIpAndMask_of_none p hs,ok_bind,allowIPv6Split_eq_ok,if_pos rfl,
      cidrToIn6Addr_eq_ok (by decide),hl]
    simp only [Option.some.injEq,exists_eq_left']
    rfl
  · by_cases ht : '.' ∈ t.toList
    · -- `IP/mask`, which has nowhere to go
      have hl : prefixLength6? p ipAndMask = none := by
        rw [prefixLength6?,hs]
        exact if_pos ht
      simp [ipv6Rule,bind_eq_ok,parseIpAndMask_of_dot p hs ht,hl]
    · -- `IP/cidr`
      have hl : prefixLength6? p ipAndMask = (p.simpleAtoi t).bind fun c =>
          if 1 ≤ c.toNat ∧ c.toNat ≤ 128 then some c.toNat else none := by
        rw [prefixLength6?,hs]
        exact if_neg ht
      simp only [ipv6Rule,bind_eq_ok,parseIpAndMask_of_cidr p hs ht]
      constructor
      · rintro ⟨_,⟨c,hc,h0,rfl⟩,he⟩
        obtain ⟨hip,hm,hp⟩ := (allowIPv6Split_eq_ok p).mp he
        rw [if_neg h0,cidrToIn6Addr_eq_ok_iff] at hm
        have h1 : 1 ≤ c.toNat := by
          have : c.toNat ≠ 0 := fun h => h0 (UInt32.toNat_inj.mp (by simpa using h))
          omega
        refine ⟨hip,⟨c.toNat,?_,hm.2⟩,hp⟩
        rw [hl,Option.bind_eq_some_iff]
        exact ⟨c,hc,if_pos ⟨h1,hm.1⟩⟩
      · rintro ⟨hip,⟨len,hlen,hv⟩,hp⟩
        rw [hl,Option.bind_eq_some_iff] at hlen
        obtain ⟨c,hc,hcl⟩ := hlen
        split at hcl
        · rename_i hb
          cases hcl
          have h0 : c ≠ 0 := by
            rintro rfl
            simp at hb
          refine ⟨_,⟨c,hc,h0,rfl⟩,(allowIPv6Split_eq_ok p).mpr ⟨hip,?_,hp⟩⟩
          rw [if_neg h0,cidrToIn6Addr_eq_ok_iff]
          exact ⟨hb.2,hv⟩
        · cases hcl

/-- A mask of the prefix length `len`, as the code builds it from a number. -/
theorem exists_inAddr_of_prefixMask (len : Nat) :
    ∃ m : InAddr, beValue m.toList = prefixMask 32 len := by
  refine ⟨htonl (prefixMask 32 len).toUInt32,?_⟩
  rw [beValue_htonl,UInt32.toNat_ofNat',Nat.mod_eq_of_lt (prefixMask_lt 32 len)]

theorem exists_in6Addr_of_prefixMask {len : Nat} (hl : len ≤ 128) :
    ∃ m : In6Addr, beValue m.toList = prefixMask 128 len := by
  obtain ⟨m,_,hm⟩ := @cidrToIn6Addr_ok len.toUInt32 (by
    rw [Nat.toUInt32,UInt32.toNat_ofNat',Nat.mod_eq_of_lt (by omega)]
    exact hl)
  refine ⟨m,?_⟩
  rw [hm,beValue_prefixBytes,Nat.toUInt32,UInt32.toNat_ofNat',Nat.mod_eq_of_lt (by omega),
    min_eq_left (by omega)]

/-- The port test of a rule the code keeps is the header's port test on the port modulo
`2 ^ 16`. -/
theorem rulePort_test (port : UInt32) (sinPort : UInt16) :
    ((htons port.toUInt16).toUInt32 = 0 ∨ (htons port.toUInt16).toUInt32 = sinPort.toUInt32) ↔
      (port.toNat % 65536 = 0 ∨ port.toNat % 65536 = (ntohs sinPort).toNat) := by
  rw [rulePort_eq_zero_iff,rulePort_eq_iff]

/-- A call adds a rule that allows an IPv4 address exactly when the rule it states, with its
port taken modulo `2 ^ 16`, allows the address. -/
theorem addedIPv4_allows_iff (c : AllowedHosts.Call) (sinPort : UInt16) (sinAddr : InAddr) :
    (∃ e, c.addedIPv4? p = some e ∧ e.allows sinPort sinAddr = true) ↔
      ∃ r, c.rule? p = some r ∧ r.truncatePort.Allows (.in4 sinPort sinAddr) := by
  cases c with
  | allowIPv6 ipAndMask port =>
    simp only [AllowedHosts.Call.addedIPv4?,reduceCtorEq,false_and,exists_false,false_iff,
      not_exists,not_and]
    intro r hr
    obtain ⟨ip,_,len,_,rfl⟩ : ∃ ip, _ ∧ ∃ len, _ ∧ _ = r := by
      simpa [AllowedHosts.Call.rule?,Option.bind_eq_some_iff] using hr
    simp [Rule.Allows,Rule.truncatePort]
  | allowIPv4 ipAndMask port =>
    simp only [AllowedHosts.Call.addedIPv4?,toOption_eq_some,AllowedHosts.Call.rule?,
      Option.bind_eq_some_iff,
      Option.map_eq_some_iff]
    constructor
    · rintro ⟨e,he,ha⟩
      obtain ⟨hip,⟨len,hl,hm⟩,hp⟩ := (ipv4Rule_eq_ok p).mp he
      rw [IPv4.allows_iff e (prefixLength4?_le p hl) hm,hp,rulePort_test] at ha
      exact ⟨_,⟨e.ip,hip,len,hl,rfl⟩,⟨rfl,ha⟩⟩
    · rintro ⟨r,⟨ip,hip,len,hl,rfl⟩,ha⟩
      obtain ⟨m,hm⟩ := exists_inAddr_of_prefixMask len
      refine ⟨⟨ip,m,(htons port.toUInt16).toUInt32⟩,(ipv4Rule_eq_ok p).mpr ⟨hip,⟨len,hl,hm⟩,rfl⟩,?_⟩
      rw [IPv4.allows_iff _ (prefixLength4?_le p hl) hm,rulePort_test]
      exact ha.2

theorem addedIPv6_allows_iff (c : AllowedHosts.Call) (sin6Port : UInt16) (sin6Addr : In6Addr) :
    (∃ e, c.addedIPv6? p = some e ∧ e.allows sin6Port sin6Addr = true) ↔
      ∃ r, c.rule? p = some r ∧ r.truncatePort.Allows (.in6 sin6Port sin6Addr) := by
  cases c with
  | allowIPv4 ipAndMask port =>
    simp only [AllowedHosts.Call.addedIPv6?,reduceCtorEq,false_and,exists_false,false_iff,
      not_exists,not_and]
    intro r hr
    obtain ⟨ip,_,len,_,rfl⟩ : ∃ ip, _ ∧ ∃ len, _ ∧ _ = r := by
      simpa [AllowedHosts.Call.rule?,Option.bind_eq_some_iff] using hr
    simp [Rule.Allows,Rule.truncatePort]
  | allowIPv6 ipAndMask port =>
    simp only [AllowedHosts.Call.addedIPv6?,toOption_eq_some,AllowedHosts.Call.rule?,
      Option.bind_eq_some_iff,
      Option.map_eq_some_iff]
    constructor
    · rintro ⟨e,he,ha⟩
      obtain ⟨hip,⟨len,hl,hm⟩,hp⟩ := (ipv6Rule_eq_ok p).mp he
      rw [IPv6.allows_iff e (prefixLength6?_le p hl) hm,hp,rulePort_test] at ha
      exact ⟨_,⟨e.ip,hip,len,hl,rfl⟩,⟨rfl,ha⟩⟩
    · rintro ⟨r,⟨ip,hip,len,hl,rfl⟩,ha⟩
      obtain ⟨m,hm⟩ := exists_in6Addr_of_prefixMask (prefixLength6?_le p hl)
      refine ⟨⟨ip,m,(htons port.toUInt16).toUInt32⟩,(ipv6Rule_eq_ok p).mpr ⟨hip,⟨len,hl,hm⟩,rfl⟩,?_⟩
      rw [IPv6.allows_iff _ (prefixLength6?_le p hl) hm,rulePort_test]
      exact ha.2


theorem ipv4Rule_ok_iff {ipAndMask : String} {port : UInt32} :
    (∃ e, ipv4Rule p ipAndMask port = .ok e) ↔
      ((AllowedHosts.Call.allowIPv4 ipAndMask port).rule? p).isSome := by
  simp only [AllowedHosts.Call.rule?,Option.isSome_iff_exists,Option.bind_eq_some_iff,
    Option.map_eq_some_iff]
  constructor
  · rintro ⟨e,he⟩
    obtain ⟨hip,⟨len,hl,_⟩,_⟩ := (ipv4Rule_eq_ok p).mp he
    exact ⟨_,e.ip,hip,len,hl,rfl⟩
  · rintro ⟨_,ip,hip,len,hl,_⟩
    obtain ⟨m,hm⟩ := exists_inAddr_of_prefixMask len
    exact ⟨⟨ip,m,_⟩,(ipv4Rule_eq_ok p).mpr ⟨hip,⟨len,hl,hm⟩,rfl⟩⟩

theorem ipv6Rule_ok_iff {ipAndMask : String} {port : UInt32} :
    (∃ e, ipv6Rule p ipAndMask port = .ok e) ↔
      ((AllowedHosts.Call.allowIPv6 ipAndMask port).rule? p).isSome := by
  simp only [AllowedHosts.Call.rule?,Option.isSome_iff_exists,Option.bind_eq_some_iff,
    Option.map_eq_some_iff]
  constructor
  · rintro ⟨e,he⟩
    obtain ⟨hip,⟨len,hl,_⟩,_⟩ := (ipv6Rule_eq_ok p).mp he
    exact ⟨_,e.ip,hip,len,hl,rfl⟩
  · rintro ⟨_,ip,hip,len,hl,_⟩
    obtain ⟨m,hm⟩ := exists_in6Addr_of_prefixMask (prefixLength6?_le p hl)
    exact ⟨⟨ip,m,_⟩,(ipv6Rule_eq_ok p).mpr ⟨hip,⟨len,hl,hm⟩,rfl⟩⟩

/-! ### A run of calls -/

theorem call_snd (h : AllowedHosts) (c : AllowedHosts.Call) :
    (h.call p c).2 =
      ⟨h.allowedIPv4 ++ (c.addedIPv4? p).toList,h.allowedIPv6 ++ (c.addedIPv6? p).toList⟩ := by
  cases c with
  | allowIPv4 ipAndMask port =>
    simp only [AllowedHosts.call,AllowedHosts.allowIPv4,AllowedHosts.Call.addedIPv4?,
      AllowedHosts.Call.addedIPv6?]
    split <;> rename_i he <;> simp [he,Except.toOption]
  | allowIPv6 ipAndMask port =>
    simp only [AllowedHosts.call,AllowedHosts.allowIPv6,AllowedHosts.Call.addedIPv4?,
      AllowedHosts.Call.addedIPv6?]
    split <;> rename_i he <;> simp [he,Except.toOption]

/-- A call returns `OkStatus()` exactly when the rule it states is well formed; every other call
returns `kInvalidArgument`. -/
theorem call_fst_eq_okStatus_iff (h : AllowedHosts) (c : AllowedHosts.Call) :
    (h.call p c).1 = Status.okStatus ↔ (c.rule? p).isSome := by
  cases c with
  | allowIPv4 ipAndMask port =>
    rw [← ipv4Rule_ok_iff]
    simp only [AllowedHosts.call,AllowedHosts.allowIPv4]
    split
    · rename_i e he
      exact ⟨fun _ => ⟨e,he⟩,fun _ => rfl⟩
    · rename_i st he
      have hc : st.code = .invalidArgument := ipv4Rule_errorsIn p ipAndMask port st he
      simp only [he,reduceCtorEq,exists_false,iff_false]
      rintro rfl
      simp at hc
  | allowIPv6 ipAndMask port =>
    rw [← ipv6Rule_ok_iff]
    simp only [AllowedHosts.call,AllowedHosts.allowIPv6]
    split
    · rename_i e he
      exact ⟨fun _ => ⟨e,he⟩,fun _ => rfl⟩
    · rename_i st he
      have hc : st.code = .invalidArgument := ipv6Rule_errorsIn p ipAndMask port st he
      simp only [he,reduceCtorEq,exists_false,iff_false]
      rintro rfl
      simp at hc

theorem run_allowedIPv4 (h : AllowedHosts) (calls : List AllowedHosts.Call) :
    (h.run p calls).allowedIPv4 = h.allowedIPv4 ++ calls.filterMap (·.addedIPv4? p) := by
  induction calls generalizing h with
  | nil => simp [AllowedHosts.run]
  | cons c calls ih =>
    have hstep : (h.run p (c :: calls)) = ((h.call p c).2.run p calls) := rfl
    rw [hstep,ih,call_snd]
    cases he : c.addedIPv4? p <;> simp [he]

theorem run_allowedIPv6 (h : AllowedHosts) (calls : List AllowedHosts.Call) :
    (h.run p calls).allowedIPv6 = h.allowedIPv6 ++ calls.filterMap (·.addedIPv6? p) := by
  induction calls generalizing h with
  | nil => simp [AllowedHosts.run]
  | cons c calls ih =>
    have hstep : (h.run p (c :: calls)) = ((h.call p c).2.run p calls) := rfl
    rw [hstep,ih,call_snd]
    cases he : c.addedIPv6? p <;> simp [he]

/-- After a run of calls, an address is allowed exactly when it was before or some call of the
run states a rule that, with its port taken modulo `2 ^ 16`, allows it. -/
theorem isHostAllowed_run (h : AllowedHosts) (calls : List AllowedHosts.Call) (a : Sockaddr) :
    (h.run p calls).isHostAllowed a = some true ↔
      h.isHostAllowed a = some true ∨ ∃ c ∈ calls, ∃ r, c.rule? p = some r ∧ r.truncatePort.Allows a := by
  cases a with
  | in4 sinPort sinAddr =>
    simp only [AllowedHosts.isHostAllowed,Option.some.injEq,AllowedHosts.isIPv4Allowed,
      run_allowedIPv4,List.any_append,Bool.or_eq_true,List.any_eq_true,List.mem_filterMap]
    refine or_congr_right ⟨?_,?_⟩
    · rintro ⟨e,⟨c,hc,he⟩,ha⟩
      exact ⟨c,hc,(addedIPv4_allows_iff p c sinPort sinAddr).mp ⟨e,he,ha⟩⟩
    · rintro ⟨c,hc,hr⟩
      obtain ⟨e,he,ha⟩ := (addedIPv4_allows_iff p c sinPort sinAddr).mpr hr
      exact ⟨e,⟨c,hc,he⟩,ha⟩
  | in6 sin6Port sin6Addr =>
    simp only [AllowedHosts.isHostAllowed,Option.some.injEq,AllowedHosts.isIPv6Allowed,
      run_allowedIPv6,List.any_append,Bool.or_eq_true,List.any_eq_true,List.mem_filterMap]
    refine or_congr_right ⟨?_,?_⟩
    · rintro ⟨e,⟨c,hc,he⟩,ha⟩
      exact ⟨c,hc,(addedIPv6_allows_iff p c sin6Port sin6Addr).mp ⟨e,he,ha⟩⟩
    · rintro ⟨c,hc,hr⟩
      obtain ⟨e,he,ha⟩ := (addedIPv6_allows_iff p c sin6Port sin6Addr).mpr hr
      exact ⟨e,⟨c,hc,he⟩,ha⟩
  | other saFamily => simp [AllowedHosts.isHostAllowed,Rule.Allows]

/-- `AllowIPv4("127.0.0.1", 65536)` is accepted, and `htons` keeps the port as `0`: the rule
then allows port `22`, which the rule the call states does not. -/
theorem allowIPv4_port65536_allowsEveryPort (hp : p.inetPton4 "127.0.0.1" = some #v[127,0,0,1]) :
    (AllowedHosts.empty.call p (.allowIPv4 "127.0.0.1" 65536)).1 = Status.okStatus ∧
      (AllowedHosts.empty.run p [.allowIPv4 "127.0.0.1" 65536]).isHostAllowed
        (.in4 (htons 22) #v[127,0,0,1]) = some true ∧
      ∃ r, (AllowedHosts.Call.allowIPv4 "127.0.0.1" 65536).rule? p = some r ∧
        ¬r.Allows (.in4 (htons 22) #v[127,0,0,1]) := by
  have hs : splitIpAndMask "127.0.0.1" = ("127.0.0.1",none) := by decide
  have hr : (AllowedHosts.Call.allowIPv4 "127.0.0.1" 65536).rule? p =
      some ⟨false,beValue [127,0,0,1],32,65536⟩ := by
    simp [AllowedHosts.Call.rule?,hs,hp,prefixLength4?]
  refine ⟨(call_fst_eq_okStatus_iff p _ _).mpr (by rw [hr]; rfl),?_,⟨_,hr,by decide⟩⟩
  rw [isHostAllowed_run]
  exact Or.inr ⟨_,List.mem_singleton_self _,_,hr,by decide⟩

theorem allowIPv4_port65536_loopbackParser :
    Parsers.inetPton4
        ⟨fun s => if s = "127.0.0.1" then some #v[127,0,0,1] else none,fun _ => none,fun _ => none⟩
        "127.0.0.1" = some #v[127,0,0,1] ∧
      ((AllowedHosts.empty.call
          ⟨fun s => if s = "127.0.0.1" then some #v[127,0,0,1] else none,fun _ => none,fun _ => none⟩
          (.allowIPv4 "127.0.0.1" 65536)).1 = Status.okStatus ∧
        (AllowedHosts.empty.run
          ⟨fun s => if s = "127.0.0.1" then some #v[127,0,0,1] else none,fun _ => none,fun _ => none⟩
          [.allowIPv4 "127.0.0.1" 65536]).isHostAllowed (.in4 (htons 22) #v[127,0,0,1]) = some true ∧
        ∃ r, (AllowedHosts.Call.allowIPv4 "127.0.0.1" 65536).rule?
            ⟨fun s => if s = "127.0.0.1" then some #v[127,0,0,1] else none,fun _ => none,fun _ => none⟩ = some r ∧
          ¬r.Allows (.in4 (htons 22) #v[127,0,0,1])) :=
  ⟨rfl,allowIPv4_port65536_allowsEveryPort _ rfl⟩

end Rules

end SandboxedApi.Sandbox2
