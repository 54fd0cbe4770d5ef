import Mathlib
import SandboxedApi.Text.Scanf
import SandboxedApi.Util.Path
import SandboxedApi.Status

/-! # `ParseProcMaps`

`ParseProcMaps` splits `/proc/<pid>/maps` into its nonempty lines and reads each with
`sscanf(line.c_str(), "%lx-%lx %c%c%c%c %lx %x:%x %lu %1023s", ...)`: ten items make an entry
without a path, eleven one with a path, and any other count fails the whole parse.

What it reads is what the kernel's `show_map_vma` writes: the header
`%08lx-%08lx %c%c%c%c %08llx %02x:%02x %lu `, then, for a named mapping, spaces up to a column
and the name. Every such text parses back to its entries, each name cut as `%1023s` cuts it: at
a NUL, after the white space in front of it, before the next white space, and after 1023
characters. A name with a space in it comes back cut at the space.
-/
namespace SandboxedApi.Sandbox2

open Decimal Scanf File

structure MapsEntry where
  start : UInt64
  «end» : UInt64
  isReadable : Bool
  isWritable : Bool
  isExecutable : Bool
  isShared : Bool
  pgoff : UInt64
  major : Int32
  minor : Int32
  inode : UInt64
  path : List Char
  deriving DecidableEq, Repr

/-- `"%lx-%lx %c%c%c%c %lx %x:%x %lu %1023s"`. -/
def kFormatString : List Directive :=
  [.unsigned 16 true,.literal '-',.unsigned 16 true,.space,.char,.char,.char,.char,.space,
    .unsigned 16 true,.space,.unsigned 16 false,.literal ':',.unsigned 16 false,.space,
    .unsigned 10 true,.space,.string 1023]

/-- `line.c_str()`: the line up to its first NUL. -/
def cStr (line : List Char) : List Char := line.takeWhile (· != '\x00')

/-- The entry `sscanf` filled in: `entry{}` starts zeroed, `%x` writes the `int`s `major` and
`minor` as `unsigned int`s, and each permission is read off its character. -/
def entryOf (items : List Item) (path : List Char) : MapsEntry where
  start := (items.getD 0 (.num 0)).number.toUInt64
  «end» := (items.getD 1 (.num 0)).number.toUInt64
  isReadable := (items.getD 2 (.num 0)).character == 'r'
  isWritable := (items.getD 3 (.num 0)).character == 'w'
  isExecutable := (items.getD 4 (.num 0)).character == 'x'
  isShared := (items.getD 5 (.num 0)).character == 's'
  pgoff := (items.getD 6 (.num 0)).number.toUInt64
  major := (items.getD 7 (.num 0)).number.toUInt32.toInt32
  minor := (items.getD 8 (.num 0)).number.toUInt32.toInt32
  inode := (items.getD 9 (.num 0)).number.toUInt64
  path := path

/-- The body of the loop over the lines. -/
def parseProcMapsLine (line : List Char) : Except Status MapsEntry :=
  let (items,nMatches) := sscanf kFormatString (cStr line)
  -- some lines do not have a filename
  if nMatches = 10 then .ok (entryOf items [])
  -- `%1023s` wrote the word and a NUL into the path's buffer, and `strlen` finds the word
  else if nMatches = 11 then .ok (entryOf items (items.getD 10 (.string [])).text)
  else .error (failedPreconditionError "Invalid format")

def parseProcMaps (contents : List Char) : Except Status (List MapsEntry) :=
  (strSplitSkipEmpty contents '\n').mapM parseProcMapsLine

/-! ### What the kernel writes -/

def MapsEntry.perms (e : MapsEntry) : List Char :=
  [if e.isReadable then 'r' else '-',if e.isWritable then 'w' else '-',
    if e.isExecutable then 'x' else '-',if e.isShared then 's' else 'p']

/-- `show_vma_header_prefix`: `%08lx-%08lx %c%c%c%c %08llx %02x:%02x %lu `. -/
def MapsEntry.header (e : MapsEntry) : List Char :=
  numeral 16 8 e.start.toNat ++ ['-'] ++ numeral 16 8 e.end.toNat ++ [' '] ++ e.perms ++ [' '] ++
    numeral 16 8 e.pgoff.toNat ++ [' '] ++ numeral 16 2 e.major.toUInt32.toNat ++ [':'] ++
    numeral 16 2 e.minor.toUInt32.toNat ++ [' '] ++ numeral 10 0 e.inode.toNat ++ [' ']

/-- `show_map_vma`: the header, then for a named mapping `pad` spaces and the name. -/
def MapsEntry.line (pad : Nat) (e : MapsEntry) : List Char :=
  e.header ++ if e.path = [] then [] else List.replicate pad ' ' ++ e.path

def procMaps (pad : MapsEntry → Nat) (entries : List MapsEntry) : List Char :=
  entries.flatMap fun e => e.line (pad e) ++ ['\n']

/-- What `%1023s` keeps of a name at the end of a line. -/
def readPath (path : List Char) : List Char :=
  ((skipSpace (cStr path)).takeWhile fun c => !asciiIsspace c).take 1023

/-! ### Reading a line back -/

/-- The ten items of the header, in the order of the format. -/
def MapsEntry.items (e : MapsEntry) : List Item :=
  [.num e.start.toNat,.num e.end.toNat] ++ e.perms.map .char ++
    [.num e.pgoff.toNat,.num e.major.toUInt32.toNat,.num e.minor.toUInt32.toNat,.num e.inode.toNat]

theorem isAlphanum_of_mem_header {e : MapsEntry} {c : Char} (hc : c ∈ e.header) :
    c.isAlphanum = true ∨ c ∈ [' ','-',':','r','w','x','s','p'] := by
  simp only [MapsEntry.header,MapsEntry.perms,List.mem_append] at hc
  rcases hc with ((((((((((((hc | hc) | hc) | hc) | hc) | hc) | hc) | hc) | hc) | hc) | hc) | hc) | hc) |
    hc <;> first
    | exact Or.inl (isAlphanum_of_mem_numeral (by norm_num) (by norm_num) hc)
    | exact Or.inr (by simp only [List.mem_singleton] at hc; subst hc; decide)
    | exact Or.inr (by simp only [List.mem_cons,List.not_mem_nil,or_false] at hc; split_ifs at hc <;>
        rcases hc with rfl | rfl | rfl | rfl <;> decide)

theorem ne_of_mem_header {e : MapsEntry} {c : Char} (hc : c ∈ e.header) : c ≠ '\x00' ∧ c ≠ '\n' := by
  rcases isAlphanum_of_mem_header hc with hc | hc
  · constructor <;> rintro rfl <;> simp at hc
  · simp only [List.mem_cons,List.not_mem_nil,or_false] at hc
    rcases hc with rfl | rfl | rfl | rfl | rfl | rfl | rfl | rfl <;> decide

theorem cStr_header_append (e : MapsEntry) (t : List Char) : cStr (e.header ++ t) = e.header ++ cStr t :=
  List.takeWhile_append_of_pos fun c hc => by simpa using (ne_of_mem_header hc).1

theorem skipSpace_cStr_tail (pad : Nat) (path : List Char) :
    skipSpace (cStr (if path = [] then [] else List.replicate pad ' ' ++ path)) =
      skipSpace (cStr path) := by
  split
  · simp_all [cStr]
  · rw [cStr,List.takeWhile_append_of_pos (fun c hc => by simp [List.eq_of_mem_replicate hc]),
      skipSpace_replicate_append]
    rfl

theorem head_perms_ne_space (e : MapsEntry) (s : List Char) :
    ∀ c ∈ (e.perms ++ s).head?, asciiIsspace c = false := by
  intro c hc
  simp only [MapsEntry.perms,List.cons_append,List.head?_cons,Option.mem_def,Option.some.injEq] at hc
  subst hc
  split <;> decide

theorem scan_header (e : MapsEntry) (t : List Char) :
    sscanf kFormatString (e.header ++ t) = scan [.string 1023] (skipSpace t) e.items := by
  have hnum := fun {base : Nat} (hb : 1 < base) (hb' : base ≤ 16) (long : Bool) (width n : Nat)
    (hn : n < 2 ^ 64) (sep : Char) (hsep : isDigitIn base sep = false ∧ sep ≠ 'x' ∧ sep ≠ 'X')
    (rest : List Char) => readDirective_numeral hb hb' long width hn
      (forall_mem_head?_cons (P := fun c => isDigitIn base c = false ∧ c ≠ 'x' ∧ c ≠ 'X') hsep rest)
  have hspace := fun {base : Nat} (hb : 1 < base) (hb' : base ≤ 16) (width n : Nat) (rest : List Char) =>
    readDirective_space_of_head (s := numeral base width n ++ rest) (head_numeral_ne_space hb hb')
  simp only [sscanf,kFormatString,MapsEntry.header,List.append_assoc,List.cons_append,
    List.nil_append]
  rw [scan_of_ok _ (hnum (by norm_num) le_rfl true 8 _ (UInt64.toNat_lt _) '-' (by decide) _),
    scan_of_ok _ (readDirective_literal _ _),
    scan_of_ok _ (hnum (by norm_num) le_rfl true 8 _ (UInt64.toNat_lt _) ' ' (by decide) _),
    scan_of_ok _ (readDirective_space_of_head (head_perms_ne_space e _))]
  simp only [MapsEntry.perms,List.cons_append,List.nil_append]
  rw [scan_of_ok _ (readDirective_char _ _),scan_of_ok _ (readDirective_char _ _),
    scan_of_ok _ (readDirective_char _ _),scan_of_ok _ (readDirective_char _ _),
    scan_of_ok _ (hspace (by norm_num) le_rfl 8 _ _),
    scan_of_ok _ (hnum (by norm_num) le_rfl true 8 _ (UInt64.toNat_lt _) ' ' (by decide) _),
    scan_of_ok _ (hspace (by norm_num) le_rfl 2 _ _),
    scan_of_ok _ (hnum (by norm_num) le_rfl false 2 _ (by have := UInt32.toNat_lt (e.major.toUInt32); omega)
      ':' (by decide) _),
    scan_of_ok _ (readDirective_literal _ _),
    scan_of_ok _ (hnum (by norm_num) le_rfl false 2 _ (by have := UInt32.toNat_lt (e.minor.toUInt32); omega)
      ' ' (by decide) _),
    scan_of_ok _ (hspace (by norm_num) (by norm_num) 0 _ _),
    scan_of_ok _ (hnum (by norm_num) (by norm_num) true 0 _ (UInt64.toNat_lt _) ' ' (by decide) _)]
  rw [scan_of_ok _ rfl,skipSpace_space]
  simp [MapsEntry.items,MapsEntry.perms,Nat.mod_eq_of_lt (UInt32.toNat_lt _)]

theorem entryOf_items (e : MapsEntry) : entryOf e.items (readPath e.path) = { e with path := readPath e.path } := by
  have hchar : ∀ (b : Bool) (c c' : Char), c ≠ c' → ((if b then c else c') == c) = b := by
    intro b c c' hne
    cases b <;> simp [hne.symm]
  simp [entryOf,MapsEntry.items,MapsEntry.perms,Item.number,Item.character,hchar]

theorem entryOf_append {items : List Item} (h : items.length = 10) (more : List Item)
    (path : List Char) : entryOf (items ++ more) path = entryOf items path := by
  simp [entryOf,List.getElem?_append_left,h]

theorem parseProcMapsLine_line (pad : Nat) (e : MapsEntry) :
    parseProcMapsLine (e.line pad) = .ok { e with path := readPath e.path } := by
  have hlen : e.items.length = 10 := by simp [MapsEntry.items,MapsEntry.perms]
  have hne : e.items ≠ [] := by simp [MapsEntry.items]
  have hscan := scan_header e (cStr (if e.path = [] then [] else List.replicate pad ' ' ++ e.path))
  rw [skipSpace_cStr_tail] at hscan
  unfold parseProcMapsLine
  rw [MapsEntry.line,cStr_header_append,hscan]
  by_cases hp : skipSpace (cStr e.path) = []
  · -- no name: `%1023s` meets the end of the input, after ten items
    rw [scan_of_input _ (readDirective_string_of_nil (by rw [skipSpace_skipSpace,hp]) 1023)]
    have hread : readPath e.path = [] := by simp [readPath,hp]
    simp [hlen,hne,← hread,entryOf_items]
  · -- a name: `%1023s` stores the eleventh item, the name as `readPath` cuts it
    rw [scan_of_ok _ (readDirective_string (by rwa [skipSpace_skipSpace]) (by norm_num)),scan]
    have hget : ∀ x : Item, (e.items ++ [x]).getD 10 (.string []) = x := by
      intro x
      simp [hlen]
    simp only [skipSpace_skipSpace,Option.toList_some,List.length_append,hlen,List.length_singleton,
      hget,Item.text,entryOf_append hlen]
    rw [if_neg (by norm_num),if_pos (by norm_num)]
    exact congrArg Except.ok (entryOf_items e)

theorem strSplitSkipEmpty_flatMap {lines : List (List Char)} (h : ∀ l ∈ lines, l ≠ [] ∧ '\n' ∉ l) :
    strSplitSkipEmpty (lines.flatMap fun l => l ++ ['\n']) '\n' = lines := by
  induction lines with
  | nil => rfl
  | cons l lines ih =>
    have hl := h l List.mem_cons_self
    have hrest := ih fun l' hl' => h l' (List.mem_cons_of_mem _ hl')
    rw [List.flatMap_cons,List.append_assoc,List.singleton_append,strSplitSkipEmpty,
      List.splitOn_append_cons_self,List.splitOn_eq_singleton hl.2,List.filter_append]
    rw [strSplitSkipEmpty] at hrest
    simp [hrest,hl.1]

theorem line_ne_nil (pad : Nat) (e : MapsEntry) : e.line pad ≠ [] := by
  simp [MapsEntry.line,MapsEntry.header]

theorem newline_not_mem_line (pad : Nat) {e : MapsEntry} (h : '\n' ∉ e.path) : '\n' ∉ e.line pad := by
  intro hmem
  rcases List.mem_append.mp hmem with hmem | hmem
  · exact (ne_of_mem_header hmem).2 rfl
  · split at hmem
    · simp at hmem
    · rcases List.mem_append.mp hmem with hmem | hmem
      · simp at hmem
      · exact h hmem

theorem mapM_parseProcMapsLine (pad : MapsEntry → Nat) (entries : List MapsEntry) :
    (entries.map fun e => e.line (pad e)).mapM parseProcMapsLine =
      .ok (entries.map fun e => { e with path := readPath e.path }) := by
  induction entries with
  | nil => rfl
  | cons e entries ih => simp [List.mapM_cons,parseProcMapsLine_line,ih]

/-- Whatever the padding, `ParseProcMaps` reads the kernel's `/proc/<pid>/maps` back to its
entries, each name kept as `%1023s` keeps it. -/
theorem parseProcMaps_procMaps (pad : MapsEntry → Nat) (entries : List MapsEntry)
    (h : ∀ e ∈ entries, '\n' ∉ e.path) :
    parseProcMaps (procMaps pad entries) = .ok (entries.map fun e => { e with path := readPath e.path }) := by
  have hok : ∀ l ∈ entries.map (fun e => e.line (pad e)), l ≠ [] ∧ '\n' ∉ l := by
    simp only [List.mem_map]
    rintro _ ⟨e,he,rfl⟩
    exact ⟨line_ne_nil _ e,newline_not_mem_line _ (h e he)⟩
  have hlines : strSplitSkipEmpty (procMaps pad entries) '\n' = entries.map fun e => e.line (pad e) := by
    rw [← strSplitSkipEmpty_flatMap hok,procMaps,List.flatMap_map]
  rw [parseProcMaps,hlines,mapM_parseProcMapsLine]

/-- A name with a space in it comes back cut at the space. -/
def spacedMaps : List MapsEntry :=
  [⟨0x7f0000000000,0x7f0000021000,true,false,true,false,0,8,1,1234,"/tmp/my lib.so".toList⟩,
    ⟨0x7ffc0000,0x7ffd0000,true,true,false,false,0,0,0,0,[]⟩]

theorem parseProcMaps_procMaps_spacedName :
    (∀ e ∈ spacedMaps, '\n' ∉ e.path) ∧
      parseProcMaps (procMaps (fun _ => 20) spacedMaps) =
        .ok [⟨0x7f0000000000,0x7f0000021000,true,false,true,false,0,8,1,1234,"/tmp/my".toList⟩,
          ⟨0x7ffc0000,0x7ffd0000,true,true,false,false,0,0,0,0,[]⟩] :=
  ⟨by decide,(parseProcMaps_procMaps _ _ (by decide)).trans (by decide)⟩

end SandboxedApi.Sandbox2
