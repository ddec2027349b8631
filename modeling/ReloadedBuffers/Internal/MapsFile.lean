import Mathlib.Data.List.Infix
import ReloadedBuffers.Internal.FreeRegions
import ReloadedBuffers.Utilities.LinuxMapParser
import ReloadedBuffers.Utilities.ReadToString

/-! From the file `/proc/{id}/maps` to the free regions of a process, in both libraries:
the file is opened and read, its text is cut into lines and parsed, and the gaps
between the mappings are listed.
-/

set_option autoImplicit false

namespace ReloadedBuffers

namespace LinuxMapParser

variable {σ : Type}

def mapsPath (processId : Int32) : String := "/proc/" ++ toString processId.toInt ++ "/maps"

/-- The bytes of a string, one character for each: no character that the parser looks for
has more than one. -/
def characters (bytes : List UInt8) : List Char := bytes.map fun byte => Char.ofNat byte.toNat

def parseMemoryMapFromProcessId (target : Target) (reserve : Nat → Nat → Nat → Nat) (calls : FileCalls σ) (fuel : Nat)
    (processId : Int32) (world : σ) : Option (Except String (List MemoryMapEntry) × σ) :=
  match readToString reserve calls fuel (mapsPath processId) world with
  | none => none
  | some (.error text, world) => some (.error text, world)
  | some (.ok allLines, world) => some (.ok (parseMemoryMap target.usize (characters allLines)), world)

def getFreeRegionsFromProcessId (target : Target) (reserve : Nat → Nat → Nat → Nat) (calls : FileCalls σ) (fuel : Nat)
    (processId : Int32) (world : σ) : Option (Except String (List MemoryMapEntry) × σ) :=
  match parseMemoryMapFromProcessId target reserve calls fuel processId world with
  | none => none
  | some (.error text, world) => some (.error text, world)
  | some (.ok regions, world) => some (.ok (getFreeRegions target regions), world)

namespace Managed

/-- `File.ReadAllLines`: a line ends with a line feed, a carriage return, or both. -/
def readAllLines (line : List Char) : List Char → List (List Char)
  | [] => if line = [] then [] else [line]
  | '\r' :: '\n' :: rest => line :: readAllLines [] rest
  | c :: rest => if c = '\n' ∨ c = '\r' then line :: readAllLines [] rest else readAllLines (line ++ [c]) rest

/-- `none` is the exception at the first line that cannot be parsed. -/
def parseMemoryMap (framework : Framework) (usize : Nat) (text : List Char) : Option (List MemoryMapEntry) :=
  (readAllLines [] text).mapM (parseMemoryMapEntry framework usize)

def getFreeRegionsFromText (framework : Framework) (target : Target) (text : List Char) :
    Option (List MemoryMapEntry) :=
  (parseMemoryMap framework target.usize text).map (getFreeRegions target)

/-- A character that ends no line. -/
theorem readAllLines_cons {first rest : List Char} {c : Char} (feed : c ≠ '\n') (carriage : c ≠ '\r') :
    readAllLines first (c :: rest) = readAllLines (first ++ [c]) rest := by
  rw [readAllLines.eq_def]
  split
  · rename_i wrong
    cases wrong
  · rename_i same
    exact absurd (List.cons.inj same).1 carriage
  · rename_i other tail _ same
    obtain ⟨rfl, rfl⟩ := List.cons.inj same
    rw [if_neg (not_or.mpr ⟨feed, carriage⟩)]

theorem readAllLines_append {first line rest : List Char} (feed : '\n' ∉ line) (carriage : '\r' ∉ line) :
    readAllLines first (line ++ rest) = readAllLines (first ++ line) rest := by
  induction line generalizing first with
  | nil => simp
  | cons c line ih =>
      rw [List.mem_cons, not_or] at feed carriage
      rw [List.cons_append, readAllLines_cons (Ne.symm feed.1) (Ne.symm carriage.1), ih feed.2 carriage.2,
        List.append_assoc, List.singleton_append]

/-- A carriage return ends a line, with the line feed behind it if there is one. -/
theorem readAllLines_carriage {first rest : List Char} {c : Char} (feed : c ≠ '\n') :
    readAllLines first ('\r' :: c :: rest) = first :: readAllLines [] (c :: rest) := by
  rw [readAllLines.eq_def]
  split
  · rename_i wrong
    cases wrong
  · rename_i same
    cases same
    exact absurd rfl feed
  · rename_i other tail _ same
    obtain ⟨rfl, rfl⟩ := List.cons.inj same
    rw [if_pos (.inr rfl)]

theorem mapM_length {α β : Type} {parse : α → Option β} {lines : List α} {entries : List β}
    (parsed : lines.mapM parse = some entries) : entries.length = lines.length := by
  induction lines generalizing entries with
  | nil =>
      cases parsed
      rfl
  | cons line lines ih =>
      rw [List.mapM_cons] at parsed
      obtain ⟨entry, _, rest⟩ := Option.bind_eq_some_iff.mp parsed
      obtain ⟨others, later, same⟩ := Option.bind_eq_some_iff.mp rest
      cases same
      rw [List.length_cons, ih later, List.length_cons]

/-- A printed line is one line at least, and more with a carriage return in its midst. -/
theorem readAllLines_length {first line rest : List Char} (feed : '\n' ∉ line) :
    (readAllLines [] rest).length + 1 ≤ (readAllLines first (line ++ '\n' :: rest)).length ∧
      ('\r' ∈ line.dropLast → (readAllLines [] rest).length + 1 < (readAllLines first (line ++ '\n' :: rest)).length) := by
  induction line generalizing first with
  | nil => simp [readAllLines]
  | cons c line ih =>
      rw [List.mem_cons, not_or] at feed
      by_cases carriage : c = '\r'
      · subst carriage
        cases line with
        | nil => simp [readAllLines]
        | cons d line =>
            have first_feed : d ≠ '\n' := fun same => feed.2 (same ▸ List.mem_cons_self)
            have later := (@ih [] feed.2).1
            rw [List.cons_append] at later
            rw [List.cons_append, List.cons_append, readAllLines_carriage first_feed, List.length_cons]
            exact ⟨by omega, fun _ => by omega⟩
      · obtain ⟨most, more⟩ := @ih (first ++ [c]) feed.2
        rw [List.cons_append, readAllLines_cons (Ne.symm feed.1) carriage]
        refine ⟨most, fun inside => more ?_⟩
        cases line with
        | nil => cases inside
        | cons d line =>
            rw [List.dropLast_cons_of_ne_nil (List.cons_ne_nil _ _)] at inside
            exact (List.mem_cons.mp inside).resolve_left (Ne.symm carriage)

end Managed

open LinuxMapParser.Mapping

variable {usize : Nat}

theorem print_cons (mapping : Mapping) (mappings : List Mapping) :
    Mapping.print (mapping :: mappings) = mapping.line ++ '\n' :: Mapping.print mappings := by
  simp [Mapping.print]

/-- No carriage return, or one right at the end of the line, where it belongs to the line feed. -/
def Mapping.Unbroken (mapping : Mapping) : Prop := '\r' ∉ mapping.line.dropLast

instance (mapping : Mapping) : Decidable mapping.Unbroken := inferInstanceAs (Decidable ('\r' ∉ mapping.line.dropLast))

/-- What precedes the last character of the trailer is a printed line too. -/
theorem line_dropLast {mapping : Mapping} {last : Char} (ends : mapping.trailer.getLast? = some last) :
    mapping.line.dropLast =
      Mapping.line { mapping with fields := mapping.trailer.dropLast, path := none } := by
  have some_char : mapping.trailer ≠ [] := by
    rintro empty
    rw [empty] at ends
    cases ends
  simp only [line, trailer, Option.elim_none, List.append_nil] at some_char ⊢
  rw [List.dropLast_append_of_ne_nil (List.cons_ne_nil _ _), List.dropLast_cons_of_ne_nil (by simp),
    List.dropLast_append_of_ne_nil (List.cons_ne_nil _ _), List.dropLast_cons_of_ne_nil some_char]

/-- A line with its only carriage return at the end is read without it. -/
theorem Managed.readAllLines_line {mapping : Mapping} (unbroken : mapping.Unbroken) {target : Target}
    (printable : mapping.Printable target.usize) (framework : Framework) (rest : List Char) :
    ∃ cut, Managed.readAllLines [] (mapping.line ++ '\n' :: rest) = cut :: Managed.readAllLines [] rest ∧
      Managed.parseMemoryMapEntry framework target.usize cut = some mapping.entry := by
  have feed := newline_not_mem_line printable
  by_cases carriage : '\r' ∈ mapping.line
  · have some_char := List.ne_nil_of_mem carriage
    have split := List.dropLast_append_getLast some_char
    -- The carriage return is the last character, and so the last one of the trailer.
    have last : mapping.line.getLast some_char = '\r' := by
      rw [← split] at carriage
      rcases List.mem_append.mp carriage with inside | last
      · exact absurd inside unbroken
      · exact (List.mem_singleton.mp last).symm
    have ends : mapping.trailer.getLast? = some '\r' := by
      have shape : mapping.line = (printAddress mapping.startPadding mapping.startAddress ++
          '-' :: printAddress mapping.endPadding mapping.endAddress ++ [' ']) ++ mapping.trailer := by
        simp [line]
      rw [List.getLast_eq_iff_getLast?_eq_some, shape, List.getLast?_append] at last
      cases behind : mapping.trailer with
      | nil =>
          rw [behind, List.getLast?_nil, Option.none_or, List.getLast?_concat] at last
          exact absurd last (by decide)
      | cons c trailer =>
          rw [behind] at last
          simpa using last
    rw [last] at split
    have short := line_dropLast ends
    have below : '\n' ∉ mapping.trailer.dropLast := by
      intro inside
      apply feed
      simp [line, List.mem_of_mem_dropLast inside]
    refine ⟨mapping.line.dropLast, ?_, ?_⟩
    · calc Managed.readAllLines [] (mapping.line ++ '\n' :: rest)
          = Managed.readAllLines [] (mapping.line.dropLast ++ '\r' :: '\n' :: rest) := by
            conv_lhs => rw [← split, List.append_assoc, List.singleton_append]
        _ = Managed.readAllLines mapping.line.dropLast ('\r' :: '\n' :: rest) :=
            Managed.readAllLines_append (fun inside => feed (List.mem_of_mem_dropLast inside)) unbroken
        _ = mapping.line.dropLast :: Managed.readAllLines [] rest := by
            simp [Managed.readAllLines]
    · rw [short]
      exact Managed.parseMemoryMapEntry_line target.usize_le
        ⟨printable.startAddress_lt, printable.endAddress_lt, below, fun _ none => by cases none⟩
  · refine ⟨mapping.line, ?_, Managed.parseMemoryMapEntry_line target.usize_le printable⟩
    rw [Managed.readAllLines_append feed carriage]
    simp [Managed.readAllLines]

theorem Managed.readAllLines_print_length {mappings : List Mapping}
    (printable : ∀ mapping ∈ mappings, mapping.Printable usize) :
    mappings.length ≤ (Managed.readAllLines [] (Mapping.print mappings)).length ∧
      ((∃ mapping ∈ mappings, ¬ mapping.Unbroken) →
        mappings.length < (Managed.readAllLines [] (Mapping.print mappings)).length) := by
  induction mappings with
  | nil => simp
  | cons mapping mappings ih =>
      obtain ⟨most, more⟩ := ih fun other later => printable other (List.mem_cons_of_mem _ later)
      have here := @Managed.readAllLines_length [] _ (Mapping.print mappings)
        (newline_not_mem_line (printable mapping List.mem_cons_self))
      rw [print_cons, List.length_cons]
      refine ⟨by omega, ?_⟩
      rintro ⟨other, member, broken⟩
      rcases List.mem_cons.mp member with rfl | later
      · have longer := here.2 (not_not.mp broken)
        omega
      · have longer := more ⟨other, later, broken⟩
        omega

theorem Managed.parseMemoryMap_text {framework : Framework} {target : Target} {mappings : List Mapping}
    (printable : ∀ mapping ∈ mappings, mapping.Printable target.usize)
    (unbroken : ∀ mapping ∈ mappings, mapping.Unbroken) :
    Managed.parseMemoryMap framework target.usize (Mapping.print mappings) = some (mappings.map Mapping.entry) := by
  unfold Managed.parseMemoryMap
  induction mappings with
  | nil => rfl
  | cons mapping mappings ih =>
      have later := ih (fun other later => printable other (List.mem_cons_of_mem _ later))
        (fun other later => unbroken other (List.mem_cons_of_mem _ later))
      obtain ⟨cut, lines, here⟩ := Managed.readAllLines_line (unbroken mapping List.mem_cons_self)
        (printable mapping List.mem_cons_self) framework (Mapping.print mappings)
      rw [print_cons, lines, List.mapM_cons, here, later]
      rfl

/-- The C# library reads the regions back exactly when no line is broken by a carriage
return, which the kernel prints in a path as it is. -/
theorem Managed.parseMemoryMap_iff_unbroken {framework : Framework} {target : Target} {mappings : List Mapping}
    (printable : ∀ mapping ∈ mappings, mapping.Printable target.usize) :
    Managed.parseMemoryMap framework target.usize (Mapping.print mappings) = some (mappings.map Mapping.entry) ↔
      ∀ mapping ∈ mappings, mapping.Unbroken := by
  constructor
  · intro parsed mapping member
    by_contra broken
    -- Every line is an entry, and there are more lines than mappings.
    have longer := (Managed.readAllLines_print_length printable).2 ⟨mapping, member, broken⟩
    have same := Managed.mapM_length parsed
    rw [List.length_map] at same
    omega
  · exact Managed.parseMemoryMap_text printable

/-- A file whose name has a carriage return in it. -/
def carriageMapping : Mapping :=
  ⟨0, 0x7f9c89991000, 0, 0x7f9c89993000, "r--p 00000000 08:01 3932177".toList, some "  /tmp/a\rb".toList⟩

theorem Managed.parseMemoryMap_iff_unbroken_carriage :
    Managed.parseMemoryMap .net6 smallTarget.usize (Mapping.print [carriageMapping]) ≠ some [carriageMapping.entry] := by
  intro parsed
  have printable : ∀ mapping ∈ [carriageMapping], mapping.Printable smallTarget.usize := by
    intro mapping member
    rcases List.mem_singleton.mp member with rfl
    exact ⟨by decide, by decide, by decide, by simp [carriageMapping]⟩
  have unbroken := (Managed.parseMemoryMap_iff_unbroken printable).mp parsed carriageMapping List.mem_cons_self
  exact absurd unbroken (by decide)

/-- Behind the last newline there is one more line, which is empty and skipped. -/
theorem parseMemoryMap_text {usize : Nat} {mappings : List Mapping}
    (printable : ∀ mapping ∈ mappings, mapping.Printable usize) :
    parseMemoryMap usize (Mapping.print mappings) = mappings.map Mapping.entry := by
  rw [parseMemoryMap, splitOn_print printable]
  induction mappings with
  | nil => rfl
  | cons mapping mappings ih =>
      have here := parseMemoryMapEntry_line (printable mapping List.mem_cons_self)
      have later := ih fun other later => printable other (List.mem_cons_of_mem _ later)
      rw [parseMemoryMapFromLines] at later ⊢
      rw [List.map_cons, List.cons_append, List.filterMap_cons_some here, later]
      rfl

/-- A read delivers less than a whole buffer: the maps file comes a page of lines at a time. -/
def FileCalls.Short (calls : FileCalls σ) (file : Int32) : Prop :=
  ∀ count world, ∀ bytes ∈ (calls.read file count world).1, bytes.length < bufferSize

theorem FileCalls.Short.unfilled {calls : FileCalls σ} {file : Int32} {rest : σ → List UInt8} (short : calls.Short file)
    (reading : Reading σ) : ¬ reading.Filled calls file rest := by
  rintro ⟨large, bytes, answer, full, _⟩
  have less := short _ _ bytes answer
  omega

section

variable {target : Target} {reserve : Nat → Nat → Nat → Nat} {calls : FileCalls σ} {file : Int32}
  {rest : σ → List UInt8} {mappings : List Mapping} {processId : Int32} {world start : σ} {fuel : Nat}

/-- What the parser is given is what the kernel has printed. -/
theorem parseMemoryMapFromProcessId_text (reserves : Reserves reserve) (delivers : calls.Delivers file rest)
    (short : calls.Short file) (opened : calls.openReadOnly (mapsPath processId) world = (some file, start))
    (text : characters (rest start) = Mapping.print mappings) (enough : (rest start).length < fuel)
    (printable : ∀ mapping ∈ mappings, mapping.Printable target.usize) :
    ∃ last, parseMemoryMapFromProcessId target reserve calls fuel processId world =
      some (.ok (mappings.map Mapping.entry), last) := by
  have unfilled : ∀ other, Reaches reserve calls file ⟨[], bufferSize, start⟩ other → ¬ other.Filled calls file rest :=
    fun other _ => short.unfilled other
  obtain ⟨last, run⟩ := @readLoop_complete _ reserve calls file rest ⟨[], bufferSize, start⟩ reserves delivers fuel enough
    (fun _ => Nat.zero_lt_succ _) unfilled
  refine ⟨last, ?_⟩
  rw [List.nil_append] at run
  rw [parseMemoryMapFromProcessId, readToString, opened]
  simp only [run]
  rw [text, parseMemoryMap_text printable]

/-- From the file to the free regions. As long as no read fills the buffer, the regions have
in them just the addresses at which nothing is mapped, in whatever parts the file comes,
and the C# library has the same regions wherever no path breaks a line. -/
theorem freeRegions_exact (reserves : Reserves reserve) (delivers : calls.Delivers file rest) (short : calls.Short file)
    (opened : calls.openReadOnly (mapsPath processId) world = (some file, start))
    (text : characters (rest start) = Mapping.print mappings) (enough : (rest start).length < fuel)
    (printable : ∀ mapping ∈ mappings, mapping.Printable target.usize)
    (map : SortedMap target.usize (mappings.map Mapping.entry)) {page : Nat} (pages : 1 < page)
    (aligned : ∀ mapping ∈ mappings, page ∣ mapping.endAddress) (top : page ∣ target.sysInfo.maxAddress + 1) :
    ∃ frees last, getFreeRegionsFromProcessId target reserve calls fuel processId world = some (.ok frees, last) ∧
      (∀ address ≤ target.sysInfo.maxAddress,
        (∃ free ∈ frees, free.Frees address) ↔ ∀ mapping ∈ mappings, ¬ mapping.entry.Maps address) ∧
      ∀ framework, ∀ decoded : List Mapping, decoded.map Mapping.entry = mappings.map Mapping.entry →
        (∀ mapping ∈ decoded, mapping.Printable target.usize ∧ mapping.Unbroken) →
        Managed.getFreeRegionsFromText framework target (Mapping.print decoded) = some frees := by
  have behind : ∀ region ∈ mappings.map Mapping.entry, 0 ≤ region.startAddress := fun _ _ => Nat.zero_le _
  obtain ⟨last, parsed⟩ := parseMemoryMapFromProcessId_text reserves delivers short opened text enough printable
  refine ⟨getFreeRegions target (mappings.map Mapping.entry), last, ?_, ?_, ?_⟩
  · rw [getFreeRegionsFromProcessId, parsed]
  · intro address below
    constructor
    · rintro ⟨free, member, low, high⟩ mapping inside ⟨start, stop⟩
      have apart := (freeRegionsFrom_free map behind member).2.2 mapping.entry (List.mem_map_of_mem inside)
      omega
    · intro unmapped
      refine freeRegionsFrom_frees map behind pages (Nat.dvd_zero page) ?_ top (Nat.zero_le address) below ?_
      · rintro region inside
        obtain ⟨mapping, member, rfl⟩ := List.mem_map.mp inside
        exact aligned mapping member
      · rintro region inside
        obtain ⟨mapping, member, rfl⟩ := List.mem_map.mp inside
        exact unmapped mapping member
  · intro framework decoded same plain
    have text : Managed.parseMemoryMap framework target.usize (Mapping.print decoded) =
        some (decoded.map Mapping.entry) :=
      Managed.parseMemoryMap_text (fun mapping member => (plain mapping member).1)
        fun mapping member => (plain mapping member).2
    rw [Managed.getFreeRegionsFromText, text, same]
    rfl

end

/-- A file that delivers at most a page at a time; the state is what is left of it. -/
def pagedReads : FileCalls (List UInt8) where
  openReadOnly _ left := (some 3, left)
  read _ count left := (some (left.take (min count 4096)), left.drop (min count 4096))
  close _ left := left

theorem pagedReads_delivers (file : Int32) : pagedReads.Delivers file id where
  nothing count left finished := by
    rcases finished with rfl | empty
    · exact ⟨rfl, rfl⟩
    · cases (empty : left = [])
      simp [pagedReads]
  something count left asked some_left := by
    refine ⟨left.take (min count 4096), rfl, ?_, ?_, (List.take_append_drop _ _).symm⟩
    · intro empty
      rcases List.take_eq_nil_iff.mp empty with none | none
      · omega
      · exact some_left none
    · exact (List.length_take_le _ _).trans (Nat.min_le_left _ _)

theorem pagedReads_short (file : Int32) : pagedReads.Short file := by
  rintro count left bytes answer
  cases answer
  rw [List.length_take, bufferSize]
  omega

/-- A program, a library with a dash in its name and the page above user space. -/
def threeMappings : List Mapping :=
  [⟨2, 0x400000, 2, 0x401000, "r-xp 00000000 08:01 3932177".toList, some "  /bin/a".toList⟩,
    ⟨0, 0x7f9c89991000, 0, 0x7f9c89993000, "r--p 00000000 08:01 3932178".toList, some "  /lib/b-c.so".toList⟩,
    ⟨0, 0xffffffffff600000, 0, 0xffffffffff601000, "--xp 00000000 00:00 0".toList, some "  [vsyscall]".toList⟩]

theorem threeMappings_printable : ∀ mapping ∈ threeMappings,
    mapping.Printable smallTarget.usize ∧ mapping.Unbroken := by
  intro mapping member
  simp only [threeMappings, List.mem_cons, List.not_mem_nil, or_false] at member
  rcases member with rfl | rfl | rfl
  · exact ⟨⟨by decide, by decide, by decide, by simp⟩, by decide⟩
  · exact ⟨⟨by decide, by decide, by decide, by simp⟩, by decide⟩
  · exact ⟨⟨by decide, by decide, by decide, by simp⟩, by decide⟩

def threeBytes : List UInt8 := (Mapping.print threeMappings).map fun c => UInt8.ofNat c.toNat

theorem freeRegions_exact_three : ∃ frees last, getFreeRegionsFromProcessId smallTarget reserveDouble pagedReads 200 1
      threeBytes = some (.ok frees, last) ∧
    ∀ address ≤ smallTarget.sysInfo.maxAddress,
      (∃ free ∈ frees, free.Frees address) ↔ ∀ mapping ∈ threeMappings, ¬ mapping.entry.Maps address := by
  have opened : pagedReads.openReadOnly (mapsPath 1) threeBytes = (some 3, threeBytes) := rfl
  have text : characters (id threeBytes) = Mapping.print threeMappings := by decide +kernel
  have enough : (id threeBytes).length < 200 := by decide +kernel
  obtain ⟨frees, last, run, exact, _⟩ := freeRegions_exact reserveDouble_reserves (pagedReads_delivers 3)
    (pagedReads_short 3) opened text enough (fun mapping member => (threeMappings_printable mapping member).1)
    ⟨by decide, by decide⟩ (Nat.one_lt_ofNat : 1 < 4096) (by decide) (by decide)
  exact ⟨frees, last, run, exact⟩

end LinuxMapParser

end ReloadedBuffers
