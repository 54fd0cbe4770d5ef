import SandboxedApi.Bytes.LittleEndian
import SandboxedApi.Logic.StateExcept
import SandboxedApi.Status

/-! # `minielf`: the ELF parser

`ElfParser::Parse` reads an ELF file of the 64-bit host: the file header, then, as the features
ask, the program headers and the interpreter they name, and the section headers with the
symbols of each symbol table and the libraries each dynamic section needs.

The file is its bytes, and the parser's `FILE*` its position in them. `fread` gives what the
file has from the position on. A short read makes `CheckedFRead` return
`absl::ErrnoToStatus(errno, ...)`, which is OK when `errno` is 0, so the buffer keeps the NULs
it was made with; no call of a successful run sets `errno`, so it is the value it had when
`Parse` began. `fseek` takes a `long`, so an offset from `2^63` on is negative and fails with
`EINVAL`.

Each `LOAD_MEMBER`, `substr`, `at` and `operator[]` is modelled with its bounds: out of range
the run stops with `outOfRange`, and a `%` or `/` by zero with `divisionByZero`. Neither is a
status the code returns; they mark undefined behaviour and uncaught exceptions.
-/
namespace SandboxedApi.Sandbox2

open Bytes StateExcept

/-- How a run of the parser stops early. -/
inductive ElfFault where
  /-- A status the parser returns. -/
  | status (s : Status)
  /-- `absl::ErrnoToStatus(errno, message)` for a nonzero `errno`. -/
  | errno (errno : Nat) (message : String)
  /-- An access outside a buffer. -/
  | outOfRange
  /-- A `%` or `/` by zero. -/
  | divisionByZero
  deriving DecidableEq, Repr

/-- The faults a caller receives as a status, as opposed to undefined behaviour. -/
def ElfFault.IsStatus : ElfFault → Prop
  | .status _ | .errno _ _ => True
  | .outOfRange | .divisionByZero => False

def eINVAL : Nat := 22

structure ElfSymbol where
  address : Nat
  name : List UInt8
  deriving DecidableEq, Repr

/-- `ElfFile` as the parser fills it. -/
structure ElfFile where
  positionIndependent : Bool
  interpreter : List UInt8
  symbols : List ElfSymbol
  importedLibraries : List (List UInt8)
  deriving DecidableEq, Repr

namespace ElfFile

def kGetInterpreter : UInt32 := 1
def kLoadSymbols : UInt32 := 2
def kLoadImportedLibraries : UInt32 := 4
def kAll : UInt32 := kGetInterpreter ||| kLoadSymbols ||| kLoadImportedLibraries

end ElfFile

/-! ### The records of an ELF64 file -/

structure ElfEhdr where
  eIdent : List UInt8
  eType : Nat
  eMachine : Nat
  eVersion : Nat
  eEntry : Nat
  ePhoff : Nat
  eShoff : Nat
  eFlags : Nat
  eEhsize : Nat
  ePhentsize : Nat
  ePhnum : Nat
  eShentsize : Nat
  eShnum : Nat
  eShstrndx : Nat
  deriving Inhabited, DecidableEq, Repr

structure ElfShdr where
  shName : Nat
  shType : Nat
  shFlags : Nat
  shAddr : Nat
  shOffset : Nat
  shSize : Nat
  shLink : Nat
  shInfo : Nat
  shAddralign : Nat
  shEntsize : Nat
  deriving DecidableEq, Repr

structure ElfPhdr where
  pType : Nat
  pFlags : Nat
  pOffset : Nat
  pVaddr : Nat
  pPaddr : Nat
  pFilesz : Nat
  pMemsz : Nat
  pAlign : Nat
  deriving DecidableEq, Repr

structure ElfSym where
  stName : Nat
  stInfo : Nat
  stOther : Nat
  stShndx : Nat
  stValue : Nat
  stSize : Nat
  deriving DecidableEq, Repr

structure ElfDyn where
  dTag : Nat
  dVal : Nat
  deriving DecidableEq, Repr

/-- `sizeof(Elf64_Ehdr)`, `kElfHeaderSize`. -/
def kElfHeaderSize : Nat := 64
def sizeofShdr : Nat := 64
def sizeofPhdr : Nat := 56
def sizeofSym : Nat := 24
def sizeofDyn : Nat := 16

def kElfMagic : List UInt8 := [0x7f,0x45,0x4c,0x46]
def kEiClassOffset : Nat := 4
/-- `ELFCLASS64`, the class of the 64-bit host. -/
def kEiClass : UInt8 := 2
def kEiDataOffset : Nat := 5
def kEiDataLittle : UInt8 := 1
def kEiDataBig : UInt8 := 2
def kEiVersionOffset : Nat := 6
def kEvCurrent : UInt8 := 1

def etExec : Nat := 2
def etDyn : Nat := 3
def ptInterp : Nat := 3
def shtSymtab : Nat := 2
def shtDynamic : Nat := 6
def shnUndef : Nat := 0
def shnAbs : Nat := 0xfff1
def dtNeeded : Nat := 1

/-! ### Reading from buffers -/

/-- The `n` bytes at `off` of `src`, if `src` has them. -/
def loadBytes (src : List UInt8) (off n : Nat) : Option (List UInt8) :=
  if off + n ≤ src.length then some ((src.drop off).take n) else none

/-- `LOAD_MEMBER` of a member of `width` bytes at `off`, in the byte order of the file. -/
def loadMember (little : Bool) (src : List UInt8) (off width : Nat) : Option Nat :=
  (loadBytes src off width).map fun bytes => if little then leValue bytes else leValue bytes.reverse

/-- `absl::string_view::substr(pos)`, which throws past the end. -/
def substr (src : List UInt8) (pos : Nat) : Option (List UInt8) :=
  if pos ≤ src.length then some (src.drop pos) else none

/-- `ReadName`: the string at `offset` of `strtab`, up to its NUL. -/
def readName (offset : Nat) (strtab : List UInt8) : Option (List UInt8) :=
  (substr strtab offset).map (·.takeWhile (· != 0))

def loadEhdr (little : Bool) (src : List UInt8) : Option ElfEhdr := do
  let eIdent ← loadBytes src 0 16
  let eType ← loadMember little src 16 2
  let eMachine ← loadMember little src 18 2
  let eVersion ← loadMember little src 20 4
  let eEntry ← loadMember little src 24 8
  let ePhoff ← loadMember little src 32 8
  let eShoff ← loadMember little src 40 8
  let eFlags ← loadMember little src 48 4
  let eEhsize ← loadMember little src 52 2
  let ePhentsize ← loadMember little src 54 2
  let ePhnum ← loadMember little src 56 2
  let eShentsize ← loadMember little src 58 2
  let eShnum ← loadMember little src 60 2
  let eShstrndx ← loadMember little src 62 2
  pure ⟨eIdent,eType,eMachine,eVersion,eEntry,ePhoff,eShoff,eFlags,eEhsize,ePhentsize,ePhnum,
    eShentsize,eShnum,eShstrndx⟩

def loadShdr (little : Bool) (src : List UInt8) : Option ElfShdr := do
  let shName ← loadMember little src 0 4
  let shType ← loadMember little src 4 4
  let shFlags ← loadMember little src 8 8
  let shAddr ← loadMember little src 16 8
  let shOffset ← loadMember little src 24 8
  let shSize ← loadMember little src 32 8
  let shLink ← loadMember little src 40 4
  let shInfo ← loadMember little src 44 4
  let shAddralign ← loadMember little src 48 8
  let shEntsize ← loadMember little src 56 8
  pure ⟨shName,shType,shFlags,shAddr,shOffset,shSize,shLink,shInfo,shAddralign,shEntsize⟩

def loadPhdr (little : Bool) (src : List UInt8) : Option ElfPhdr := do
  let pType ← loadMember little src 0 4
  let pFlags ← loadMember little src 4 4
  let pOffset ← loadMember little src 8 8
  let pVaddr ← loadMember little src 16 8
  let pPaddr ← loadMember little src 24 8
  let pFilesz ← loadMember little src 32 8
  let pMemsz ← loadMember little src 40 8
  let pAlign ← loadMember little src 48 8
  pure ⟨pType,pFlags,pOffset,pVaddr,pPaddr,pFilesz,pMemsz,pAlign⟩

def loadSym (little : Bool) (src : List UInt8) : Option ElfSym := do
  let stName ← loadMember little src 0 4
  let stInfo ← loadMember little src 4 1
  let stOther ← loadMember little src 5 1
  let stShndx ← loadMember little src 6 2
  let stValue ← loadMember little src 8 8
  let stSize ← loadMember little src 16 8
  pure ⟨stName,stInfo,stOther,stShndx,stValue,stSize⟩

def loadDyn (little : Bool) (src : List UInt8) : Option ElfDyn := do
  let dTag ← loadMember little src 0 8
  let dVal ← loadMember little src 8 8
  pure ⟨dTag,dVal⟩

/-! ### The parser -/

/-- The members of `ElfParser`; `pos` is the position of `elf_`. -/
structure ElfParser where
  result : ElfFile
  pos : Nat
  fileSize : Nat
  elfLittle : Bool
  fileHeader : ElfEhdr
  programHeaders : List ElfPhdr
  sectionHeaders : List ElfShdr
  symbolEntriesRead : Nat
  dynamicEntriesRead : Nat

namespace ElfParser

def kMaxProgramHeaderEntries : Nat := 500
def kMaxSectionHeaderEntries : Nat := 500
def kMaxSectionSize : Nat := 200 * 1024 * 1024
def kMaxStrtabSize : Nat := 500 * 1024 * 1024
def kMaxLibPathSize : Nat := 1024
def kMaxSymbolEntries : Nat := 2 * 1000 * 1000
def kMaxDynamicEntries : Nat := 10000
def kMaxInterpreterSize : Nat := 1000

/-- A parser before `Parse` has read anything. -/
def init : ElfParser := ⟨⟨false,[],[],[]⟩,0,0,false,default,[],[],0,0⟩

abbrev ElfM := StateT ElfParser (Except ElfFault)

/-- An access that has to be in range. -/
def inRange {α : Type} : Option α → ElfM α
  | some a => pure a
  | none => throw .outOfRange

def fail {α : Type} (s : Status) : ElfM α := throw (.status s)

/-- `%` of `size_t` values. -/
def checkedMod (a b : Nat) : ElfM Nat := if b = 0 then throw .divisionByZero else pure (a % b)

/-- `/` of `size_t` values. -/
def checkedDiv (a b : Nat) : ElfM Nat := if b = 0 then throw .divisionByZero else pure (a / b)

/-- An `int` difference compared with a `size_t`: negative values wrap around. -/
def sizeT (i : Int) : Nat := (i % 2 ^ 64).toNat

/-- The `int` parameter of `ReadSectionContents(int idx)` given an `Elf64_Word`. -/
def intOfWord (w : Nat) : Int := if w < 2 ^ 31 then w else w - 2 ^ 32

section Io

variable (file : List UInt8) (errno : Nat)

/-- `CheckedFSeek(elf_, offset, SEEK_SET)`. -/
def checkedFSeek (offset : Nat) : ElfM Unit :=
  if offset < 2 ^ 63 then modify fun p => {p with pos := offset}
  else throw (.errno eINVAL "Fseek on ELF failed")

/-- `std::fread` of `n` bytes. -/
def fread (n : Nat) : ElfM (List UInt8) :=
  modifyGet fun p =>
    let got := (file.drop p.pos).take n
    (got,{p with pos := p.pos + got.length})

/-- `CheckedRead` into a string of `n` NULs. -/
def checkedRead (n : Nat) : ElfM (List UInt8) := do
  let got ← fread file n
  if got.length = n then pure got
  else if errno = 0 then pure (got ++ List.replicate (n - got.length) 0)
  else throw (.errno errno "Reading ELF data failed")

def readFileSize : ElfM Unit := do
  modify fun p => {p with pos := file.length,fileSize := file.length}
  let p ← get
  if p.fileSize < kElfHeaderSize then
    fail (failedPreconditionError ("file too small: " ++ toString p.fileSize ++
      " bytes, at least 64 bytes expected"))

def readFileHeader : ElfM Unit := do
  checkedFSeek 0
  let header ← checkedRead file errno kElfHeaderSize
  if !kElfMagic.isPrefixOf header then fail (failedPreconditionError "magic not found, not an ELF")
  let eiClass ← inRange header[kEiClassOffset]?
  if eiClass ≠ kEiClass then fail (failedPreconditionError "invalid ELF class")
  let elfData ← inRange header[kEiDataOffset]?
  modify fun p => {p with elfLittle := elfData == kEiDataLittle}
  if elfData ≠ kEiDataLittle ∧ elfData ≠ kEiDataBig then
    fail (failedPreconditionError "invalid endianness")
  let eiVersion ← inRange header[kEiVersionOffset]?
  if eiVersion ≠ kEvCurrent then fail (failedPreconditionError "invalid ELF version")
  let p ← get
  let fileHeader ← inRange (loadEhdr p.elfLittle header)
  modify fun p => {p with fileHeader := fileHeader}

def readSectionHeader (src : List UInt8) : ElfM ElfShdr := do
  if src.length < sizeofShdr then
    fail (failedPreconditionError ("invalid section header data: got " ++ toString src.length ++
      " bytes, 64 bytes expected."))
  let p ← get
  inRange (loadShdr p.elfLittle src)

/-- The loop of `ReadSectionHeaders`: a header, then `src.substr(e_shentsize)`. -/
def readSectionHeaderList (shentsize : Nat) : List UInt8 → Nat → ElfM (List ElfShdr)
  | _, 0 => pure []
  | src, n + 1 => do
    let hdr ← readSectionHeader src
    let src ← inRange (substr src shentsize)
    let hdrs ← readSectionHeaderList shentsize src n
    pure (hdr :: hdrs)

def readSectionHeaders : ElfM Unit := do
  let p ← get
  let fh := p.fileHeader
  if fh.eShoff > p.fileSize then
    fail (failedPreconditionError ("invalid section header offset: " ++ toString fh.eShoff))
  if fh.eShentsize ≠ sizeofShdr then
    fail (failedPreconditionError ("section header entry size incorrect: " ++
      toString fh.eShentsize ++ " bytes, 64 expected."))
  if fh.eShnum > kMaxSectionHeaderEntries then
    fail (failedPreconditionError ("too many section header entries: " ++ toString fh.eShnum ++
      " limit: 500"))
  checkedFSeek fh.eShoff
  let headers ← checkedRead file errno (fh.eShentsize * fh.eShnum)
  let sectionHeaders ← readSectionHeaderList fh.eShentsize headers fh.eShnum
  modify fun p => {p with sectionHeaders := sectionHeaders}

def readSectionContents (hdr : ElfShdr) : ElfM (List UInt8) := do
  let p ← get
  if hdr.shOffset > p.fileSize then
    fail (failedPreconditionError ("invalid section offset: " ++ toString hdr.shOffset))
  if hdr.shSize > kMaxSectionSize then
    fail (failedPreconditionError ("section too big: " ++ toString hdr.shSize ++
      " limit: 209715200"))
  checkedFSeek hdr.shOffset
  checkedRead file errno hdr.shSize

/-- `ReadSectionContents(int idx)`. -/
def readSectionContentsAt (idx : Int) : ElfM (List UInt8) := do
  let p ← get
  if idx < 0 ∨ idx ≥ p.sectionHeaders.length then
    fail (failedPreconditionError ("invalid section header index: " ++ toString idx))
  let hdr ← inRange p.sectionHeaders[idx.toNat]?
  readSectionContents file errno hdr

def readProgramHeader (src : List UInt8) : ElfM ElfPhdr := do
  if src.length < sizeofPhdr then
    fail (failedPreconditionError ("invalid program header data: got " ++ toString src.length ++
      " bytes, 56 bytes expected."))
  let p ← get
  inRange (loadPhdr p.elfLittle src)

/-- The loop of `ReadProgramHeaders`: a header, then `src.substr(e_phentsize)`. -/
def readProgramHeaderList (phentsize : Nat) : List UInt8 → Nat → ElfM (List ElfPhdr)
  | _, 0 => pure []
  | src, n + 1 => do
    let hdr ← readProgramHeader src
    let src ← inRange (substr src phentsize)
    let hdrs ← readProgramHeaderList phentsize src n
    pure (hdr :: hdrs)

def readProgramHeaders : ElfM Unit := do
  let p ← get
  let fh := p.fileHeader
  if fh.ePhoff > p.fileSize then
    fail (failedPreconditionError ("invalid program header offset: " ++ toString fh.ePhoff))
  if fh.ePhentsize ≠ sizeofPhdr then
    fail (failedPreconditionError ("section header entry size incorrect: " ++
      toString fh.ePhentsize ++ " bytes, 56 expected."))
  if fh.ePhnum > kMaxProgramHeaderEntries then
    fail (failedPreconditionError ("too many program header entries: " ++ toString fh.ePhnum ++
      " limit: 500"))
  checkedFSeek fh.ePhoff
  let headers ← checkedRead file errno (fh.ePhentsize * fh.ePhnum)
  let programHeaders ← readProgramHeaderList fh.ePhentsize headers fh.ePhnum
  modify fun p => {p with programHeaders := programHeaders}

end Io

/-! ### Symbols and imported libraries -/

section Tables

variable (file : List UInt8) (errno : Nat)

/-- One round of the loop of `ReadSymbolsFromSymtab`. -/
def readSymbol (strtab : List UInt8) (symbol : ElfSym) : ElfM Unit := do
  -- external and absolute symbols are not supported
  if symbol.stShndx = shnUndef then return
  if symbol.stShndx = shnAbs then return
  let p ← get
  if symbol.stShndx ≥ p.sectionHeaders.length then
    fail (failedPreconditionError ("invalid symbol data: section index: " ++
      toString symbol.stShndx))
  if symbol.stName ≥ strtab.length then
    fail (failedPreconditionError ("invalid name reference: REL" ++ toString symbol.stValue))
  let name ← inRange (readName symbol.stName strtab)
  modify fun p => {p with result := {p.result with symbols := p.result.symbols ++ [⟨symbol.stValue,name⟩]}}

/-- The loop of `ReadSymbolsFromSymtab`: a symbol from the front of `src`, then
`src.substr(sh_entsize)`, until `src` is empty. -/
def readSymbols (strtab : List UInt8) (entsize : Nat) (hent : 0 < entsize) : List UInt8 → ElfM Unit
  | [] => pure ()
  | b :: bs => do
    let p ← get
    let symbol ← inRange (loadSym p.elfLittle (b :: bs))
    readSymbol strtab symbol
    if entsize ≤ (b :: bs).length then readSymbols strtab entsize hent ((b :: bs).drop entsize)
    else throw .outOfRange
termination_by src => src.length
decreasing_by
  simp only [List.length_drop,List.length_cons]
  omega

def readSymbolsFromSymtab (symtab : ElfShdr) : ElfM Unit := do
  if symtab.shType ≠ shtSymtab then fail (failedPreconditionError "invalid symtab type")
  if hent : symtab.shEntsize ≠ sizeofSym then
    fail (internalError ("invalid symbol entry size: " ++ toString symtab.shEntsize))
  else
    let rest ← checkedMod symtab.shSize symtab.shEntsize
    if rest ≠ 0 then fail (internalError ("invalid symbol table size: " ++ toString symtab.shSize))
    let symbolEntries ← checkedDiv symtab.shSize symtab.shEntsize
    let p ← get
    if symbolEntries > sizeT ((kMaxSymbolEntries : Int) - p.symbolEntriesRead) then
      fail (internalError ("too many symbols: " ++ toString symbolEntries))
    modify fun p => {p with symbolEntriesRead := p.symbolEntriesRead + symbolEntries}
    let p ← get
    if symtab.shLink ≥ p.sectionHeaders.length then
      fail (internalError ("invalid symtab's strtab reference: " ++ toString symtab.shLink))
    let strtab ← readSectionContentsAt file errno (intOfWord symtab.shLink)
    let symbols ← readSectionContents file errno symtab
    readSymbols strtab symtab.shEntsize (by simp only [sizeofSym] at hent; omega) symbols

/-- One round of the loop of `ReadImportedLibrariesFromDynamic`. -/
def readDynamicEntry (strtabSection : ElfShdr) (strtabEnd : Nat) (dyn : ElfDyn) : ElfM Unit := do
  if dyn.dTag ≠ dtNeeded then return
  if dyn.dVal ≥ strtabSection.shSize then fail (failedPreconditionError "invalid name reference")
  let offset := strtabSection.shOffset + dyn.dVal
  checkedFSeek offset
  let path ← fread file (min kMaxLibPathSize (strtabEnd - offset))
  modify fun p => {p with result := {p.result with
    importedLibraries := p.result.importedLibraries ++ [path.takeWhile (· != 0)]}}

/-- The loop of `ReadImportedLibrariesFromDynamic` over the dynamic entries. -/
def readDynamicEntries (strtabSection : ElfShdr) (strtabEnd entsize : Nat) (hent : 0 < entsize) :
    List UInt8 → ElfM Unit
  | [] => pure ()
  | b :: bs => do
    let p ← get
    let dyn ← inRange (loadDyn p.elfLittle (b :: bs))
    readDynamicEntry file strtabSection strtabEnd dyn
    if entsize ≤ (b :: bs).length then
      readDynamicEntries strtabSection strtabEnd entsize hent ((b :: bs).drop entsize)
    else throw .outOfRange
termination_by src => src.length
decreasing_by
  simp only [List.length_drop,List.length_cons]
  omega

def readImportedLibrariesFromDynamic (dynamic : ElfShdr) : ElfM Unit := do
  if dynamic.shType ≠ shtDynamic then fail (failedPreconditionError "invalid dynamic type")
  if hent : dynamic.shEntsize ≠ sizeofDyn then
    fail (internalError ("invalid dynamic entry size: " ++ toString dynamic.shEntsize))
  else
    let rest ← checkedMod dynamic.shSize dynamic.shEntsize
    if rest ≠ 0 then fail (internalError ("invalid dynamic table size: " ++ toString dynamic.shSize))
    let entries ← checkedDiv dynamic.shSize dynamic.shEntsize
    let p ← get
    if entries > sizeT ((kMaxDynamicEntries : Int) - p.dynamicEntriesRead) then
      fail (internalError ("too many dynamic entries: " ++ toString entries))
    modify fun p => {p with dynamicEntriesRead := p.dynamicEntriesRead + entries}
    let p ← get
    if dynamic.shLink ≥ p.sectionHeaders.length then
      fail (internalError ("invalid dynamic's strtab reference: " ++ toString dynamic.shLink))
    -- the string table may be shared with the symbols, and therefore huge
    let strtabSection ← inRange p.sectionHeaders[dynamic.shLink]?
    if strtabSection.shOffset > p.fileSize then
      fail (failedPreconditionError ("invalid symtab's strtab section offset: " ++
        toString strtabSection.shOffset))
    if strtabSection.shSize ≥ kMaxStrtabSize ∨ strtabSection.shSize ≥ p.fileSize ∨
        strtabSection.shOffset ≥ p.fileSize - strtabSection.shSize then
      fail (failedPreconditionError ("symtab's strtab too big: " ++ toString strtabSection.shSize))
    let strtabEnd := strtabSection.shOffset + strtabSection.shSize
    let dynamicEntries ← readSectionContents file errno dynamic
    readDynamicEntries file strtabSection strtabEnd dynamic.shEntsize
      (by simp only [sizeofDyn] at hent; omega) dynamicEntries

end Tables

/-! ### `Parse` -/

section Parse

variable (file : List UInt8) (errno : Nat)

/-- The interpreter part of `Parse`. -/
def readInterpreter : ElfM Unit := do
  readProgramHeaders file errno
  let p ← get
  let interpreter ← (match p.programHeaders.find? (·.pType == ptInterp) with
    -- no interpreter usually means a statically linked executable
    | none => pure []
    | some hdr => do
      if hdr.pFilesz > kMaxInterpreterSize then
        fail (failedPreconditionError ("program interpeter path too long: " ++
          toString hdr.pFilesz))
      checkedFSeek hdr.pOffset
      let interpreter ← checkedRead file errno hdr.pFilesz
      pure (interpreter.takeWhile (· != 0)))
  modify fun p => {p with result := {p.result with interpreter := interpreter}}

/-- The loop of `Parse` over the section headers. -/
def readSections (features : UInt32) : List ElfShdr → ElfM Unit
  | [] => pure ()
  | hdr :: hdrs => do
    ifThen (hdr.shType = shtSymtab ∧ features &&& ElfFile.kLoadSymbols ≠ 0)
      (readSymbolsFromSymtab file errno hdr)
    ifThen (hdr.shType = shtDynamic ∧ features &&& ElfFile.kLoadImportedLibraries ≠ 0)
      (readImportedLibrariesFromDynamic file errno hdr)
    readSections features hdrs

def parse (features : UInt32) : ElfM ElfFile := do
  if features &&& ~~~ElfFile.kAll ≠ 0 then
    fail (invalidArgumentError "Unknown feature flags specified")
  readFileSize file
  readFileHeader file errno
  let p ← get
  -- the `switch` on `e_type`
  let positionIndependent ←
    (if p.fileHeader.eType = etExec then pure false
    else if p.fileHeader.eType = etDyn then pure true
    else fail (failedPreconditionError "not an executable: "))
  modify fun p => {p with result := {p.result with positionIndependent := positionIndependent}}
  ifThen (features &&& ElfFile.kGetInterpreter ≠ 0) (readInterpreter file errno)
  ifThen (features &&& (ElfFile.kLoadSymbols ||| ElfFile.kLoadImportedLibraries) ≠ 0) do
    readSectionHeaders file errno
    let p ← get
    readSections file errno features p.sectionHeaders
  let p ← get
  pure p.result

end Parse

end ElfParser

/-- `ElfFile::ParseFromFile` on the bytes of the file it opens, with the `errno` of the caller. -/
def ElfFile.parseFromFile (file : List UInt8) (errno : Nat) (features : UInt32) : Except ElfFault ElfFile :=
  (ElfParser.parse file errno features).run' ElfParser.init

end SandboxedApi.Sandbox2
