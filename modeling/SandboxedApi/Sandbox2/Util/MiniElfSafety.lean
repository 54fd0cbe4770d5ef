import SandboxedApi.Sandbox2.Util.MiniElf

/-! # `minielf`: what a run of the parser cannot do

Every run of `ElfFile::ParseFromFile` ends, and it ends with an `ElfFile` or a status: no access
of the parser leaves the buffer it reads and no `%` or `/` takes a zero entry size, whatever the
file holds. What it returns has an interpreter without NUL of at most `kMaxInterpreterSize`
bytes, library names without NUL of at most `kMaxLibPathSize` bytes, at most
`kMaxSymbolEntries` symbols and at most `kMaxDynamicEntries` libraries.

The reading functions leave what the parser has produced, its `Produced` part, as it is
(`KeepsProduced`); the functions that add symbols, libraries and the interpreter keep
`Produced.Bounded`, with the symbols and libraries still to come counted against the two
counters.
-/
namespace SandboxedApi.Sandbox2

open StateExcept

namespace ElfParser

/-! ### Buffers -/

section Buffers

variable {src : List UInt8} (little : Bool)

theorem loadBytes_of_le {off n : Nat} (h : off + n ≤ src.length) :
    loadBytes src off n = some ((src.drop off).take n) := if_pos h

theorem loadEhdr_isSome (h : kElfHeaderSize ≤ src.length) : (loadEhdr little src).isSome := by
  simp only [kElfHeaderSize] at h
  simp (disch := omega) [loadEhdr,loadMember,loadBytes_of_le]

theorem loadShdr_isSome (h : sizeofShdr ≤ src.length) : (loadShdr little src).isSome := by
  simp only [sizeofShdr] at h
  simp (disch := omega) [loadShdr,loadMember,loadBytes_of_le]

theorem loadPhdr_isSome (h : sizeofPhdr ≤ src.length) : (loadPhdr little src).isSome := by
  simp only [sizeofPhdr] at h
  simp (disch := omega) [loadPhdr,loadMember,loadBytes_of_le]

theorem loadSym_isSome (h : sizeofSym ≤ src.length) : (loadSym little src).isSome := by
  simp only [sizeofSym] at h
  simp (disch := omega) [loadSym,loadMember,loadBytes_of_le]

theorem loadDyn_isSome (h : sizeofDyn ≤ src.length) : (loadDyn little src).isSome := by
  simp only [sizeofDyn] at h
  simp (disch := omega) [loadDyn,loadMember,loadBytes_of_le]

theorem substr_of_le {pos : Nat} (h : pos ≤ src.length) : substr src pos = some (src.drop pos) :=
  if_pos h

theorem readName_isSome {offset : Nat} (h : offset < src.length) : (readName offset src).isSome := by
  simp [readName,substr_of_le (Nat.le_of_lt h)]

theorem le_length_of_mod_eq_zero {n : Nat} {b : UInt8} {bs : List UInt8}
    (h : (b :: bs).length % n = 0) : n ≤ (b :: bs).length :=
  Nat.le_of_dvd (by simp) (Nat.dvd_of_mod_eq_zero h)

end Buffers

/-! ### The monad -/

@[simp] theorem fail_bind {α β : Type} (s : Status) (f : α → ElfM β) : fail s >>= f = fail s := rfl

@[simp] theorem throw_bind {α β : Type} (e : ElfFault) (f : α → ElfM β) :
    (throw e : ElfM α) >>= f = throw e := rfl

theorem inRange_of_isSome {α : Type} {o : Option α} (h : o.isSome) :
    inRange o = pure (o.get h) := by
  obtain ⟨a,rfl⟩ := Option.isSome_iff_exists.mp h
  rfl

theorem checkedMod_of_ne {a b : Nat} (h : b ≠ 0) : checkedMod a b = pure (a % b) := if_neg h

theorem checkedDiv_of_ne {a b : Nat} (h : b ≠ 0) : checkedDiv a b = pure (a / b) := if_neg h

theorem sizeT_sub {limit count : Nat} (h : count ≤ limit) (hl : limit < 2 ^ 64) :
    sizeT ((limit : Int) - count) = limit - count := by
  unfold sizeT
  rw [Int.emod_eq_of_lt (by omega) (by omega)]
  omega

/-! ### What the parser has produced -/

/-- The part of the parser that `Parse` returns from or counts with. -/
structure Produced where
  result : ElfFile
  symbolEntriesRead : Nat
  dynamicEntriesRead : Nat

def produced (p : ElfParser) : Produced := ⟨p.result,p.symbolEntriesRead,p.dynamicEntriesRead⟩

/-- A program that leaves what the parser has produced as it is, and stops only with a
status. -/
abbrev KeepsProduced {α : Type} (m : ElfM α) : Prop := Keeps produced ElfFault.IsStatus m

theorem triple_fail {α : Type} {P : ElfParser → Prop} {Q : α → ElfParser → Prop} (s : Status) :
    Triple P (fail s) Q ElfFault.IsStatus :=
  Triple.throw fun _ _ => trivial

theorem keeps_fail {α : Type} (s : Status) : KeepsProduced (fail s : ElfM α) := keeps_throw trivial

section Io

variable (file : List UInt8) (errno : Nat)

theorem keeps_checkedFSeek (offset : Nat) : KeepsProduced (checkedFSeek offset) := by
  unfold checkedFSeek
  exact keeps_ite (fun _ => keeps_modify fun _ => rfl) fun _ => keeps_throw trivial

theorem keeps_fread (n : Nat) : KeepsProduced (fread file n) := keeps_modifyGet fun _ => rfl

theorem fread_length_le (n : Nat) :
    Triple (fun _ => True) (fread file n) (fun got _ => got.length ≤ n) ElfFault.IsStatus :=
  Triple.modifyGet fun _ _ => List.length_take_le _ _

theorem keeps_checkedRead (n : Nat) : KeepsProduced (checkedRead file errno n) := by
  unfold checkedRead
  refine (keeps_fread file n).bind fun got => ?_
  exact keeps_ite (fun _ => keeps_pure _) fun _ =>
    keeps_ite (fun _ => keeps_pure _) fun _ => keeps_throw trivial

/-- `CheckedRead` fills the whole string, from the file or with the NULs it was made with. -/
theorem checkedRead_length (n : Nat) :
    Triple (fun _ => True) (checkedRead file errno n) (fun got _ => got.length = n)
      ElfFault.IsStatus := by
  unfold checkedRead
  refine Triple.bind (fread_length_le file n) fun got => ?_
  refine Triple.ite (fun h => Triple.pure fun _ _ => h) fun _ => ?_
  refine Triple.ite (fun _ => Triple.pure fun _ hle => ?_) fun _ => Triple.throw fun _ _ => trivial
  simp only [List.length_append,List.length_replicate]
  omega

theorem keeps_readFileSize : KeepsProduced (readFileSize file) := by
  unfold readFileSize
  refine Keeps.bind (keeps_modify fun _ => rfl) fun _ => keeps_get.bind fun p => ?_
  exact keeps_ite (fun _ => keeps_fail _) fun _ => keeps_pure _

theorem keeps_readFileHeader : KeepsProduced (readFileHeader file errno) := by
  unfold readFileHeader
  dsimp only
  simp only [fail_bind]
  refine (keeps_checkedFSeek 0).bind fun _ => ?_
  refine (keeps_checkedRead file errno _).bind_of (checkedRead_length file errno _) fun header hlen => ?_
  -- the header read is `kElfHeaderSize` bytes long, so every index and member is in range
  have hidx : ∀ i, i < kElfHeaderSize → (header[i]?).isSome := fun i hi => by
    simp [hlen,hi]
  refine keeps_ite (fun _ => keeps_fail _) fun _ => ?_
  rw [inRange_of_isSome (hidx _ (by decide)),pure_bind]
  refine keeps_ite (fun _ => keeps_fail _) fun _ => ?_
  rw [inRange_of_isSome (hidx _ (by decide)),pure_bind]
  refine Keeps.bind (keeps_modify fun _ => rfl) fun _ => keeps_ite (fun _ => keeps_fail _) fun _ => ?_
  rw [inRange_of_isSome (hidx _ (by decide)),pure_bind]
  refine keeps_ite (fun _ => keeps_fail _) fun _ => keeps_get.bind fun p => ?_
  rw [inRange_of_isSome (loadEhdr_isSome p.elfLittle (Nat.le_of_eq hlen.symm)),pure_bind]
  exact keeps_modify fun _ => rfl

theorem readSectionHeader_length (src : List UInt8) :
    Triple (fun _ => True) (readSectionHeader src) (fun _ _ => sizeofShdr ≤ src.length)
      ElfFault.IsStatus := by
  unfold readSectionHeader
  simp only [fail_bind]
  refine Triple.ite (fun _ => triple_fail _) fun h => ?_
  refine Triple.bind (R := fun _ _ => True) (Triple.get fun _ _ => trivial) fun p => ?_
  rw [inRange_of_isSome (loadShdr_isSome p.elfLittle (by omega))]
  exact Triple.pure fun _ _ => by omega

theorem keeps_readSectionHeader (src : List UInt8) : KeepsProduced (readSectionHeader src) := by
  unfold readSectionHeader
  simp only [fail_bind]
  refine keeps_ite (fun _ => keeps_fail _) fun h => keeps_get.bind fun p => ?_
  rw [inRange_of_isSome (loadShdr_isSome p.elfLittle (by omega))]
  exact keeps_pure _

theorem keeps_readSectionHeaderList {shentsize : Nat} (h : shentsize ≤ sizeofShdr) :
    ∀ (src : List UInt8) (n : Nat), KeepsProduced (readSectionHeaderList shentsize src n)
  | _, 0 => keeps_pure _
  | src, n + 1 => by
    unfold readSectionHeaderList
    refine (keeps_readSectionHeader src).bind_of (readSectionHeader_length src) fun _ hlen => ?_
    rw [inRange_of_isSome (by simp [substr_of_le (Nat.le_trans h hlen)]),pure_bind]
    exact (keeps_readSectionHeaderList h _ n).bind fun _ => keeps_pure _

theorem keeps_readSectionHeaders : KeepsProduced (readSectionHeaders file errno) := by
  unfold readSectionHeaders
  dsimp only
  simp only [fail_bind]
  refine keeps_get.bind fun p => keeps_ite (fun _ => keeps_fail _) fun _ => ?_
  refine keeps_ite (fun _ => keeps_fail _) fun hent => keeps_ite (fun _ => keeps_fail _) fun _ => ?_
  refine (keeps_checkedFSeek _).bind fun _ => (keeps_checkedRead file errno _).bind fun headers => ?_
  refine (keeps_readSectionHeaderList (Nat.le_of_eq (not_not.mp hent)) _ _).bind fun _ => ?_
  exact keeps_modify fun _ => rfl

theorem keeps_readSectionContents (hdr : ElfShdr) :
    KeepsProduced (readSectionContents file errno hdr) := by
  unfold readSectionContents
  simp only [fail_bind]
  refine keeps_get.bind fun p => keeps_ite (fun _ => keeps_fail _) fun _ => ?_
  refine keeps_ite (fun _ => keeps_fail _) fun _ => ?_
  exact (keeps_checkedFSeek _).bind fun _ => keeps_checkedRead file errno _

theorem readSectionContents_length (hdr : ElfShdr) :
    Triple (fun _ => True) (readSectionContents file errno hdr) (fun got _ => got.length = hdr.shSize)
      ElfFault.IsStatus := by
  unfold readSectionContents
  simp only [fail_bind]
  refine Triple.bind (R := fun _ _ => True) (Triple.get fun _ _ => trivial) fun p => ?_
  refine Triple.ite (fun _ => triple_fail _) fun _ => ?_
  refine Triple.ite (fun _ => triple_fail _) fun _ => ?_
  refine Triple.bind ((keeps_checkedFSeek _).preserves (P := fun _ => True) fun _ _ _ _ => trivial)
    fun _ => ?_
  exact checkedRead_length file errno _

theorem keeps_readSectionContentsAt (idx : Int) :
    KeepsProduced (readSectionContentsAt file errno idx) := by
  unfold readSectionContentsAt
  simp only [fail_bind]
  refine keeps_get.bind fun p => keeps_ite (fun _ => keeps_fail _) fun hidx => ?_
  -- the index was checked against the section headers just before
  rw [inRange_of_isSome (by simp; omega),pure_bind]
  exact keeps_readSectionContents file errno _

theorem readProgramHeader_length (src : List UInt8) :
    Triple (fun _ => True) (readProgramHeader src) (fun _ _ => sizeofPhdr ≤ src.length)
      ElfFault.IsStatus := by
  unfold readProgramHeader
  simp only [fail_bind]
  refine Triple.ite (fun _ => triple_fail _) fun h => ?_
  refine Triple.bind (R := fun _ _ => True) (Triple.get fun _ _ => trivial) fun p => ?_
  rw [inRange_of_isSome (loadPhdr_isSome p.elfLittle (by omega))]
  exact Triple.pure fun _ _ => by omega

theorem keeps_readProgramHeader (src : List UInt8) : KeepsProduced (readProgramHeader src) := by
  unfold readProgramHeader
  simp only [fail_bind]
  refine keeps_ite (fun _ => keeps_fail _) fun h => keeps_get.bind fun p => ?_
  rw [inRange_of_isSome (loadPhdr_isSome p.elfLittle (by omega))]
  exact keeps_pure _

theorem keeps_readProgramHeaderList {phentsize : Nat} (h : phentsize ≤ sizeofPhdr) :
    ∀ (src : List UInt8) (n : Nat), KeepsProduced (readProgramHeaderList phentsize src n)
  | _, 0 => keeps_pure _
  | src, n + 1 => by
    unfold readProgramHeaderList
    refine (keeps_readProgramHeader src).bind_of (readProgramHeader_length src) fun _ hlen => ?_
    rw [inRange_of_isSome (by simp [substr_of_le (Nat.le_trans h hlen)]),pure_bind]
    exact (keeps_readProgramHeaderList h _ n).bind fun _ => keeps_pure _

theorem keeps_readProgramHeaders : KeepsProduced (readProgramHeaders file errno) := by
  unfold readProgramHeaders
  dsimp only
  simp only [fail_bind]
  refine keeps_get.bind fun p => keeps_ite (fun _ => keeps_fail _) fun _ => ?_
  refine keeps_ite (fun _ => keeps_fail _) fun hent => keeps_ite (fun _ => keeps_fail _) fun _ => ?_
  refine (keeps_checkedFSeek _).bind fun _ => (keeps_checkedRead file errno _).bind fun headers => ?_
  refine (keeps_readProgramHeaderList (Nat.le_of_eq (not_not.mp hent)) _ _).bind fun _ => ?_
  exact keeps_modify fun _ => rfl

end Io

/-! ### Bounds on what is produced -/

/-- The bounds `Parse` keeps on what it has produced. -/
structure Produced.Bounded (o : Produced) : Prop where
  interpreterNoNul : 0 ∉ o.result.interpreter
  interpreterSize : o.result.interpreter.length ≤ kMaxInterpreterSize
  libraries : ∀ lib ∈ o.result.importedLibraries, 0 ∉ lib ∧ lib.length ≤ kMaxLibPathSize
  symbolCount : o.result.symbols.length ≤ o.symbolEntriesRead
  symbolEntries : o.symbolEntriesRead ≤ kMaxSymbolEntries
  libraryCount : o.result.importedLibraries.length ≤ o.dynamicEntriesRead
  dynamicEntries : o.dynamicEntriesRead ≤ kMaxDynamicEntries

theorem bounded_init : init.produced.Bounded :=
  ⟨List.not_mem_nil,Nat.zero_le _,fun _ h => absurd h List.not_mem_nil,le_refl 0,Nat.zero_le _,le_refl 0,
    Nat.zero_le _⟩

theorem Produced.Bounded.setPositionIndependent {o : Produced} (h : o.Bounded) (b : Bool) :
    Produced.Bounded ⟨{o.result with positionIndependent := b},o.symbolEntriesRead,o.dynamicEntriesRead⟩ :=
  ⟨h.1,h.2,h.3,h.4,h.5,h.6,h.7⟩

theorem zero_not_mem_takeWhile (l : List UInt8) : 0 ∉ l.takeWhile (· != 0) := fun h => by
  simpa using List.mem_takeWhile_imp h

section Tables

variable (file : List UInt8) (errno : Nat)

theorem readSymbol_bounded (strtab : List UInt8) (symbol : ElfSym) (k : Nat) :
    Triple (fun p => p.produced.Bounded ∧ p.result.symbols.length + (k + 1) ≤ p.symbolEntriesRead)
      (readSymbol strtab symbol)
      (fun _ p => p.produced.Bounded ∧ p.result.symbols.length + k ≤ p.symbolEntriesRead)
      ElfFault.IsStatus := by
  unfold readSymbol
  dsimp only
  simp only [fail_bind]
  -- undefined and absolute symbols are skipped
  refine Triple.ite (fun _ => Triple.pure fun _ hp => ⟨hp.1,by omega⟩) fun _ => ?_
  refine Triple.ite (fun _ => Triple.pure fun _ hp => ⟨hp.1,by omega⟩) fun _ => ?_
  refine Triple.bind Triple.get_pre fun p => ?_
  refine Triple.ite (fun _ => triple_fail _) fun _ => Triple.ite (fun _ => triple_fail _) fun hname => ?_
  rw [inRange_of_isSome (readName_isSome (by omega)),pure_bind]
  refine Triple.modify fun s hs => ⟨{hs.1 with symbolCount := ?_},?_⟩
  · have := hs.2
    simp only [produced,List.length_append,List.length_singleton]
    omega
  · have := hs.2
    simp only [List.length_append,List.length_singleton]
    omega

/-- The loop over a symbol table whose size is a multiple of a symbol: each entry left in `src`
has a slot counted for it. -/
theorem readSymbols_bounded (strtab : List UInt8) {entsize : Nat} (hent : 0 < entsize)
    (hsym : entsize = sizeofSym) :
    ∀ src : List UInt8, src.length % entsize = 0 →
      Triple (fun p => p.produced.Bounded ∧ p.result.symbols.length + src.length / entsize ≤ p.symbolEntriesRead)
        (readSymbols strtab entsize hent src) (fun _ p => p.produced.Bounded) ElfFault.IsStatus
  | [], _ => by
    rw [readSymbols]
    exact Triple.pure fun _ hp => hp.1
  | b :: bs, hmod => by
    have hlen := le_length_of_mod_eq_zero hmod
    simp only [sizeofSym] at hsym
    subst hsym
    rw [readSymbols]
    refine Triple.bind Triple.get_pre fun p => ?_
    rw [inRange_of_isSome (loadSym_isSome p.elfLittle hlen),pure_bind]
    have hrest : ((b :: bs).drop 24).length % 24 = 0 ∧
        (b :: bs).length / 24 = ((b :: bs).drop 24).length / 24 + 1 := by
      simp only [List.length_drop]
      omega
    refine Triple.bind ((readSymbol_bounded strtab _ (((b :: bs).drop 24).length / 24)).mono
      (fun s hs => ⟨hs.1,hrest.2 ▸ hs.2⟩) (fun _ _ h => h) fun _ h => h) fun _ => ?_
    rw [if_pos hlen]
    exact readSymbols_bounded strtab hent rfl _ hrest.1
termination_by src => src.length
decreasing_by
  simp only [List.length_drop,List.length_cons]
  omega

theorem readSymbolsFromSymtab_bounded (symtab : ElfShdr) :
    Triple (fun p => p.produced.Bounded) (readSymbolsFromSymtab file errno symtab)
      (fun _ p => p.produced.Bounded) ElfFault.IsStatus := by
  unfold readSymbolsFromSymtab
  dsimp only
  simp only [fail_bind]
  refine Triple.ite (fun _ => triple_fail _) fun _ => Triple.dite (fun _ => triple_fail _) fun hent => ?_
  have hent' : symtab.shEntsize = 24 := not_not.mp hent
  rw [checkedMod_of_ne (by omega),pure_bind]
  refine Triple.ite (fun _ => triple_fail _) fun hmod => ?_
  rw [checkedDiv_of_ne (by omega),pure_bind]
  -- the counter is compared and advanced on the same state
  refine Triple.bind (R := fun p s => p = s ∧ s.produced.Bounded) (Triple.get fun s hs => ⟨rfl,hs⟩)
    fun p => Triple.ite (fun _ => triple_fail _) fun hroom => ?_
  let Counted : Produced → Prop := fun o =>
    o.Bounded ∧ o.result.symbols.length + symtab.shSize / symtab.shEntsize ≤ o.symbolEntriesRead
  refine Triple.bind (R := fun _ s => Counted s.produced) (Triple.modify fun s hs => ?_) fun _ => ?_
  · obtain ⟨rfl,hb⟩ := hs
    have hle : p.symbolEntriesRead ≤ kMaxSymbolEntries := hb.symbolEntries
    have hcount : p.result.symbols.length ≤ p.symbolEntriesRead := hb.symbolCount
    rw [sizeT_sub hle (by decide)] at hroom
    refine ⟨⟨hb.1,hb.2,hb.3,?_,?_,hb.6,hb.7⟩,?_⟩ <;> dsimp only [produced] <;>
      generalize symtab.shSize / symtab.shEntsize = entries at hroom ⊢ <;> omega
  refine Triple.bind Triple.get_pre fun _ => Triple.ite (fun _ => triple_fail _) fun _ => ?_
  refine Triple.bind ((keeps_readSectionContentsAt file errno _).triple (R := Counted)) fun strtab => ?_
  refine Triple.bind (((keeps_readSectionContents file errno symtab).triple (R := Counted)).and
    ((readSectionContents_length file errno symtab).mono (fun _ _ => trivial) (fun _ _ h => h)
      fun _ h => h)) fun symbols => ?_
  -- the table read is `sh_size` bytes, a whole number of symbols
  refine Triple.of_pure (c := symbols.length = symtab.shSize) (fun hlen => ?_) |>.mono
    (fun s hs => ⟨hs.2,hs⟩) (fun _ _ h => h) fun _ h => h
  refine (readSymbols_bounded strtab _ hent' symbols (by rw [hlen]; exact not_not.mp hmod)).mono
    (fun s hs => ⟨hs.1.1,by rw [hlen]; exact hs.1.2⟩) (fun _ _ h => h) fun _ h => h

/-- A needed library takes at most the one slot its entry was counted for, and its name, cut at
the first NUL of at most `kMaxLibPathSize` bytes read, has no NUL. -/
theorem readDynamicEntry_bounded (strtabSection : ElfShdr) (strtabEnd : Nat) (dyn : ElfDyn) (k : Nat) :
    Triple (fun p => p.produced.Bounded ∧
        p.result.importedLibraries.length + (k + 1) ≤ p.dynamicEntriesRead)
      (readDynamicEntry file strtabSection strtabEnd dyn)
      (fun _ p => p.produced.Bounded ∧ p.result.importedLibraries.length + k ≤ p.dynamicEntriesRead)
      ElfFault.IsStatus := by
  unfold readDynamicEntry
  dsimp only
  simp only [fail_bind]
  refine Triple.ite (fun _ => Triple.pure fun _ hp => ⟨hp.1,by omega⟩) fun _ => ?_
  refine Triple.ite (fun _ => triple_fail _) fun _ => ?_
  let Counted : Produced → Prop := fun o =>
    o.Bounded ∧ o.result.importedLibraries.length + (k + 1) ≤ o.dynamicEntriesRead
  refine Triple.bind ((keeps_checkedFSeek _).triple (R := Counted)) fun _ => ?_
  refine Triple.bind (((keeps_fread file _).triple (R := Counted)).and
    ((fread_length_le file _).mono (fun _ _ => trivial) (fun _ _ h => h) fun _ h => h)) fun path => ?_
  refine Triple.modify fun s hs => ?_
  obtain ⟨⟨hb,hk⟩,hlen⟩ := hs
  have hpath : (path.takeWhile (· != 0)).length ≤ kMaxLibPathSize :=
    (List.takeWhile_sublist _).length_le.trans (hlen.trans (Nat.min_le_left _ _))
  have hk' : s.result.importedLibraries.length + (k + 1) ≤ s.dynamicEntriesRead := hk
  refine ⟨⟨hb.1,hb.2,fun lib hlib => ?_,hb.4,hb.5,?_,hb.7⟩,?_⟩
  · rcases List.mem_append.mp hlib with hlib | hlib
    · exact hb.3 lib hlib
    · rw [List.mem_singleton.mp hlib]
      exact ⟨zero_not_mem_takeWhile path,hpath⟩
  · dsimp only [produced]
    simp only [List.length_append,List.length_singleton]
    omega
  · simp only [List.length_append,List.length_singleton]
    omega

theorem readDynamicEntries_bounded (strtabSection : ElfShdr) (strtabEnd : Nat) {entsize : Nat}
    (hent : 0 < entsize) (hdyn : entsize = sizeofDyn) :
    ∀ src : List UInt8, src.length % entsize = 0 →
      Triple (fun p => p.produced.Bounded ∧
          p.result.importedLibraries.length + src.length / entsize ≤ p.dynamicEntriesRead)
        (readDynamicEntries file strtabSection strtabEnd entsize hent src)
        (fun _ p => p.produced.Bounded) ElfFault.IsStatus
  | [], _ => by
    rw [readDynamicEntries]
    exact Triple.pure fun _ hp => hp.1
  | b :: bs, hmod => by
    have hlen := le_length_of_mod_eq_zero hmod
    simp only [sizeofDyn] at hdyn
    subst hdyn
    rw [readDynamicEntries]
    refine Triple.bind Triple.get_pre fun p => ?_
    rw [inRange_of_isSome (loadDyn_isSome p.elfLittle hlen),pure_bind]
    have hrest : ((b :: bs).drop 16).length % 16 = 0 ∧
        (b :: bs).length / 16 = ((b :: bs).drop 16).length / 16 + 1 := by
      simp only [List.length_drop]
      omega
    refine Triple.bind ((readDynamicEntry_bounded file strtabSection strtabEnd _
      (((b :: bs).drop 16).length / 16)).mono (fun s hs => ⟨hs.1,hrest.2 ▸ hs.2⟩) (fun _ _ h => h)
        fun _ h => h) fun _ => ?_
    rw [if_pos hlen]
    exact readDynamicEntries_bounded strtabSection strtabEnd hent rfl _ hrest.1
termination_by src => src.length
decreasing_by
  simp only [List.length_drop,List.length_cons]
  omega

/-- Reading a dynamic section counts its entries against `kMaxDynamicEntries` before it adds
any library. -/
theorem readImportedLibrariesFromDynamic_bounded (dynamic : ElfShdr) :
    Triple (fun p => p.produced.Bounded) (readImportedLibrariesFromDynamic file errno dynamic)
      (fun _ p => p.produced.Bounded) ElfFault.IsStatus := by
  unfold readImportedLibrariesFromDynamic
  dsimp only
  simp only [fail_bind]
  refine Triple.ite (fun _ => triple_fail _) fun _ => Triple.dite (fun _ => triple_fail _) fun hent => ?_
  have hent' : dynamic.shEntsize = 16 := not_not.mp hent
  rw [checkedMod_of_ne (by omega),pure_bind]
  refine Triple.ite (fun _ => triple_fail _) fun hmod => ?_
  rw [checkedDiv_of_ne (by omega),pure_bind]
  refine Triple.bind (R := fun p s => p = s ∧ s.produced.Bounded) (Triple.get fun s hs => ⟨rfl,hs⟩)
    fun p => Triple.ite (fun _ => triple_fail _) fun hroom => ?_
  let Counted : Produced → Prop := fun o =>
    o.Bounded ∧ o.result.importedLibraries.length + dynamic.shSize / dynamic.shEntsize ≤ o.dynamicEntriesRead
  refine Triple.bind (R := fun _ s => Counted s.produced) (Triple.modify fun s hs => ?_) fun _ => ?_
  · obtain ⟨rfl,hb⟩ := hs
    have hle : p.dynamicEntriesRead ≤ kMaxDynamicEntries := hb.dynamicEntries
    have hcount : p.result.importedLibraries.length ≤ p.dynamicEntriesRead := hb.libraryCount
    rw [sizeT_sub hle (by decide)] at hroom
    refine ⟨⟨hb.1,hb.2,hb.3,hb.4,hb.5,?_,?_⟩,?_⟩ <;> dsimp only [produced] <;>
      generalize dynamic.shSize / dynamic.shEntsize = entries at hroom ⊢ <;> omega
  refine Triple.bind Triple.get_pre fun p => Triple.ite (fun _ => triple_fail _) fun hlink => ?_
  -- the string table's header was checked to exist just before
  rw [inRange_of_isSome (by simp; omega),pure_bind]
  refine Triple.ite (fun _ => triple_fail _) fun _ => Triple.ite (fun _ => triple_fail _) fun _ => ?_
  refine Triple.bind (((keeps_readSectionContents file errno dynamic).triple (R := Counted)).and
    ((readSectionContents_length file errno dynamic).mono (fun _ _ => trivial) (fun _ _ h => h)
      fun _ h => h)) fun entries => ?_
  refine Triple.of_pure (c := entries.length = dynamic.shSize) (fun hlen => ?_) |>.mono
    (fun s hs => ⟨hs.2,hs⟩) (fun _ _ h => h) fun _ h => h
  refine (readDynamicEntries_bounded file _ _ _ hent' entries (by rw [hlen]; exact not_not.mp hmod)).mono
    (fun s hs => ⟨hs.1.1,by rw [hlen]; exact hs.1.2⟩) (fun _ _ h => h) fun _ h => h

end Tables

section Parse

variable (file : List UInt8) (errno : Nat)

/-- The interpreter is cut at its first NUL, from at most `kMaxInterpreterSize` bytes. -/
theorem readInterpreter_bounded :
    Triple (fun p => p.produced.Bounded) (readInterpreter file errno) (fun _ p => p.produced.Bounded)
      ElfFault.IsStatus := by
  unfold readInterpreter
  simp only [fail_bind]
  refine Triple.bind ((keeps_readProgramHeaders file errno).triple (R := Produced.Bounded)) fun _ => ?_
  refine Triple.bind Triple.get_pre fun p => ?_
  refine Triple.bind (R := fun (interpreter : List UInt8) (s : ElfParser) => s.produced.Bounded ∧
      0 ∉ interpreter ∧ interpreter.length ≤ kMaxInterpreterSize) ?_
    fun interpreter => Triple.modify fun s hs => ⟨hs.2.1,hs.2.2,hs.1.3,hs.1.4,hs.1.5,hs.1.6,hs.1.7⟩
  split
  · exact Triple.pure fun s hs => ⟨hs,List.not_mem_nil,Nat.zero_le _⟩
  · refine Triple.ite (fun _ => triple_fail _) fun hsize => ?_
    refine Triple.bind ((keeps_checkedFSeek _).triple (R := Produced.Bounded)) fun _ => ?_
    refine Triple.bind (((keeps_checkedRead file errno _).triple (R := Produced.Bounded)).and
      ((checkedRead_length file errno _).mono (fun _ _ => trivial) (fun _ _ h => h) fun _ h => h))
      fun interpreter => Triple.pure fun s hs => ⟨hs.1,zero_not_mem_takeWhile _,?_⟩
    exact (List.takeWhile_sublist _).length_le.trans (by omega)

theorem readSections_bounded (features : UInt32) :
    ∀ hdrs : List ElfShdr, Triple (fun p => p.produced.Bounded) (readSections file errno features hdrs)
      (fun _ p => p.produced.Bounded) ElfFault.IsStatus
  | [] => Triple.pure fun _ h => h
  | hdr :: hdrs => by
    rw [readSections]
    refine Triple.bind (Triple.ifThen (fun _ => readSymbolsFromSymtab_bounded file errno hdr)
      fun _ h => h) fun _ => ?_
    refine Triple.bind (Triple.ifThen (fun _ => readImportedLibrariesFromDynamic_bounded file errno hdr)
      fun _ h => h) fun _ => ?_
    exact readSections_bounded features hdrs

/-- `Parse` keeps the bounds, and returns the result it has produced. -/
theorem parse_bounded (features : UInt32) :
    Triple (fun p => p.produced.Bounded) (parse file errno features)
      (fun elf p => p.produced.Bounded ∧ elf = p.result) ElfFault.IsStatus := by
  unfold parse
  simp only [fail_bind]
  refine Triple.ite (fun _ => triple_fail _) fun _ => ?_
  refine Triple.bind ((keeps_readFileSize file).triple (R := Produced.Bounded)) fun _ => ?_
  refine Triple.bind ((keeps_readFileHeader file errno).triple (R := Produced.Bounded)) fun _ => ?_
  refine Triple.bind Triple.get_pre fun p => ?_
  -- the switch on `e_type` only picks the flag
  refine Triple.bind (R := fun _ s => s.produced.Bounded)
    (Triple.ite (fun _ => Triple.pure fun _ h => h) fun _ =>
      Triple.ite (fun _ => Triple.pure fun _ h => h) fun _ => triple_fail _) fun b => ?_
  refine Triple.bind (R := fun _ s => s.produced.Bounded)
    (Triple.modify fun s hs => hs.setPositionIndependent b) fun _ => ?_
  refine Triple.bind (R := fun _ s => s.produced.Bounded)
    (Triple.ifThen (fun _ => readInterpreter_bounded file errno) fun _ h => h) fun _ => ?_
  refine Triple.bind (R := fun _ s => s.produced.Bounded) (Triple.ifThen (fun _ => ?_) fun _ h => h)
    fun _ => ?_
  · refine Triple.bind ((keeps_readSectionHeaders file errno).triple (R := Produced.Bounded))
      fun _ => ?_
    exact Triple.bind Triple.get_pre fun p => readSections_bounded file errno features _
  exact Triple.bind (R := fun p s => s.produced.Bounded ∧ p = s) (Triple.get fun s hs => ⟨hs,rfl⟩)
    fun p => Triple.pure fun s hs => ⟨hs.1,by rw [hs.2]⟩

end Parse

end ElfParser

/-- Whatever the file holds, `ElfFile::ParseFromFile` returns an `ElfFile` or a status, never
reading outside a buffer or dividing by a zero entry size; a file it returns has an interpreter
and library names without NUL within their limits, and symbols and libraries within theirs. -/
theorem parseFromFile_safe (file : List UInt8) (errno : Nat) (features : UInt32) :
    (∀ e, ElfFile.parseFromFile file errno features = .error e → e.IsStatus) ∧
      ∀ elf, ElfFile.parseFromFile file errno features = .ok elf →
        0 ∉ elf.interpreter ∧ elf.interpreter.length ≤ ElfParser.kMaxInterpreterSize ∧
        (∀ lib ∈ elf.importedLibraries, 0 ∉ lib ∧ lib.length ≤ ElfParser.kMaxLibPathSize) ∧
        elf.symbols.length ≤ ElfParser.kMaxSymbolEntries ∧
        elf.importedLibraries.length ≤ ElfParser.kMaxDynamicEntries := by
  have h := ElfParser.parse_bounded file errno features ElfParser.init ElfParser.bounded_init
  unfold ElfFile.parseFromFile
  cases hr : (ElfParser.parse file errno features).run ElfParser.init with
  | error e =>
    rw [hr] at h
    have hrun : (ElfParser.parse file errno features).run' ElfParser.init = .error e := by
      simp only [StateT.run'_eq,hr]
      rfl
    rw [hrun]
    refine ⟨fun e' he' => ?_,fun _ he' => by cases he'⟩
    rw [← Except.error.inj he']
    exact h
  | ok r =>
    obtain ⟨elf,p⟩ := r
    rw [hr] at h
    obtain ⟨hb,rfl⟩ := h
    have hrun : (ElfParser.parse file errno features).run' ElfParser.init = .ok p.result := by
      simp only [StateT.run'_eq,hr]
      rfl
    rw [hrun]
    refine ⟨fun _ he' => (by cases he'),fun elf he' => ?_⟩
    rw [← Except.ok.inj he']
    exact ⟨hb.1,hb.2,hb.3,hb.4.trans hb.5,hb.6.trans hb.7⟩

end SandboxedApi.Sandbox2
