import ReloadedBuffers.Foundation.Numeral
import Mathlib.Logic.Function.Basic

/-! `cleanup` on a file system with directories and a working directory: the names are
read from one directory and removed from another.
-/

set_option autoImplicit false

namespace ReloadedBuffers

namespace Cleanup

/-- A name as `CStr::to_str` takes it: characters, or bytes that are no UTF-8. -/
inductive FileName where
  | utf8 (text : List Char)
  | other (bytes : List UInt8)
  deriving DecidableEq, Repr

structure Entry where
  name : FileName
  isFile : Bool
  deriving DecidableEq, Repr

/-- What `readdir` lists in each directory that exists. -/
abbrev FileSystem (δ : Type) := δ → Option (List Entry)

/-- The processes and process groups, and those that the caller may send a signal to. -/
structure Processes where
  running : Int → Bool
  permitted : Int → Bool

inductive KillAnswer where
  | delivered
  | eperm
  | esrch
  deriving DecidableEq, Repr

/-- `kill` with signal zero. -/
def Processes.kill (processes : Processes) (pid : Int) : KillAnswer :=
  if processes.running pid then if processes.permitted pid then .delivered else .eperm else .esrch

def isProcessRunning (processes : Processes) (pid : Int) : Bool :=
  processes.kill pid == .delivered || processes.kill pid == .eperm

def memoryMappedFilePrefix : List Char := "Reloaded.Memory.Buffers.MemoryBuffer, PID ".toList

variable {δ : Type} [DecidableEq δ]

/-- `unlink` of a bare name, in the directory that resolves it; it removes no directory. -/
def unlink (directory : δ) (name : FileName) (files : FileSystem δ) : FileSystem δ :=
  Function.update files directory
    ((files directory).map fun entries => entries.filter fun entry => !(entry.isFile && entry.name == name))

/-- The body of the loop over the entries. -/
def visit (processes : Processes) (workingDirectory : δ) (files : FileSystem δ) (entry : Entry) : FileSystem δ :=
  match entry.name with
  | .other _ => files
  | .utf8 fileName =>
    if memoryMappedFilePrefix.isPrefixOf fileName then
      match Numeral.parseSigned 10 (2 ^ 31) (fileName.drop memoryMappedFilePrefix.length) with
      -- The name comes without its directory, so it is resolved in the working directory.
      | some pid => if isProcessRunning processes pid then files else unlink workingDirectory entry.name files
      | none => files
    else files

def cleanup (processes : Processes) (mmfDirectory workingDirectory : δ) (files : FileSystem δ) : FileSystem δ :=
  match files mmfDirectory with
  | none => files
  | some entries => entries.foldl (visit processes workingDirectory) files

/-- The name of the locator file of a process that is not running. Process ids are positive,
and printed in decimal without a sign or a zero in front. -/
def Dead (processes : Processes) (name : FileName) : Prop :=
  ∃ pid : Nat, 0 < pid ∧ pid < 2 ^ 31 ∧ name = .utf8 (memoryMappedFilePrefix ++ Nat.toDigits 10 pid) ∧
    processes.running pid = false

/-- What the loop takes for such a name: signs and zeros are let through, and a number that
is not positive stands for a process group. -/
def TakenForDead (processes : Processes) (name : FileName) : Prop :=
  ∃ text pid, name = .utf8 (memoryMappedFilePrefix ++ text) ∧ Numeral.Denotes 10 (2 ^ 31) text pid ∧
    processes.running pid = false

theorem Dead.takenForDead {processes : Processes} {name : FileName} (dead : Dead processes name) :
    TakenForDead processes name := by
  obtain ⟨pid, _, below, named, gone⟩ := dead
  exact ⟨_, _, named, Numeral.denotes_toDigits (by decide) (by decide) below, gone⟩

/-- The files of dead processes are gone from the directory, and nothing else is gone. -/
structure Cleaned (processes : Processes) (mmfDirectory : δ) (before after : FileSystem δ) : Prop where
  gone : ∀ entries, before mmfDirectory = some entries → ∃ left, after mmfDirectory = some left ∧
    ∀ entry ∈ entries, entry.isFile = true → (entry ∉ left ↔ Dead processes entry.name)
  elsewhere : ∀ directory, directory ≠ mmfDirectory → after directory = before directory

/-- The name is taken for that of a dead process. -/
def stale (processes : Processes) : FileName → Bool
  | .other _ => false
  | .utf8 fileName => memoryMappedFilePrefix.isPrefixOf fileName &&
    (Numeral.parseSigned 10 (2 ^ 31) (fileName.drop memoryMappedFilePrefix.length)).any (!isProcessRunning processes ·)

theorem isProcessRunning_eq (processes : Processes) (pid : Int) :
    isProcessRunning processes pid = processes.running pid := by
  unfold isProcessRunning Processes.kill
  cases processes.running pid <;> cases processes.permitted pid <;> rfl

/-- The parser and the signal find just these names. -/
theorem stale_iff {processes : Processes} {name : FileName} : stale processes name = true ↔ TakenForDead processes name := by
  cases name with
  | other bytes =>
      constructor
      · exact fun taken => by cases taken
      · rintro ⟨_, _, named, _⟩
        cases named
  | utf8 fileName =>
      simp only [stale, Bool.and_eq_true, Option.any_eq_true, List.isPrefixOf_iff_prefix, Bool.not_eq_true',
        isProcessRunning_eq]
      constructor
      · rintro ⟨⟨text, rfl⟩, pid, parsed, gone⟩
        rw [List.drop_left] at parsed
        exact ⟨text, pid, rfl, (Numeral.parseSigned_eq_some_iff (by decide) (by decide)).mp parsed, gone⟩
      · rintro ⟨text, pid, named, denotes, gone⟩
        cases named
        refine ⟨List.prefix_append _ _, pid, ?_, gone⟩
        rw [List.drop_left]
        exact (Numeral.parseSigned_eq_some_iff (by decide) (by decide)).mpr denotes

variable {processes : Processes} {mmfDirectory workingDirectory : δ} {files : FileSystem δ}

theorem visit_eq (entry : Entry) : visit processes workingDirectory files entry =
    if stale processes entry.name then unlink workingDirectory entry.name files else files := by
  unfold visit stale
  cases entry.name with
  | other bytes => rfl
  | utf8 fileName =>
      dsimp only
      split
      · rename_i named
        simp only [named, Bool.true_and]
        cases Numeral.parseSigned 10 (2 ^ 31) (fileName.drop memoryMappedFilePrefix.length) with
        | none => rfl
        | some pid => cases running : isProcessRunning processes pid <;> simp [running]
      · rename_i named
        simp [named]

/-- The loop takes the entry out of the working directory. -/
def taken (processes : Processes) (entries : List Entry) (other : Entry) : Bool :=
  other.isFile && stale processes other.name && entries.any (·.name == other.name)

theorem taken_cons_of_stale {entry : Entry} {entries : List Entry} (gone : stale processes entry.name = true)
    (other : Entry) : (!taken processes (entry :: entries) other) =
      (!taken processes entries other && !(other.isFile && other.name == entry.name)) := by
  unfold taken
  rw [List.any_cons]
  rcases eq_or_ne entry.name other.name with same | apart
  · rw [← same, gone]
    cases other.isFile <;> simp
  · simp [beq_eq_false_iff_ne.mpr apart, beq_eq_false_iff_ne.mpr apart.symm]

theorem taken_cons_of_fresh {entry : Entry} {entries : List Entry} (kept : stale processes entry.name = false)
    (other : Entry) : taken processes (entry :: entries) other = taken processes entries other := by
  unfold taken
  rw [List.any_cons]
  rcases eq_or_ne entry.name other.name with same | apart
  · rw [← same, kept]
    simp
  · simp [beq_eq_false_iff_ne.mpr apart]

/-- The loop takes the files with stale names out of the working directory. -/
theorem foldl_visit (entries : List Entry) :
    entries.foldl (visit processes workingDirectory) files = Function.update files workingDirectory
      ((files workingDirectory).map (List.filter (!taken processes entries ·))) := by
  induction entries generalizing files with
  | nil =>
      have nothing : List.filter (!taken processes [] ·) = id := by
        funext others
        exact List.filter_eq_self.mpr fun other _ => by simp [taken]
      rw [nothing, Option.map_id, id, Function.update_eq_self]
      rfl
  | cons entry entries ih =>
      -- What the first entry takes out is out before the others are visited, and all of it is out in the end.
      rw [List.foldl_cons, ih, visit_eq]
      split
      · rename_i gone
        simp only [unlink, Function.update_self, Function.update_idem, Option.map_map, Function.comp_def,
          List.filter_filter, taken_cons_of_stale gone]
      · rename_i kept
        simp only [taken_cons_of_fresh (Bool.eq_false_of_not_eq_true kept)]

theorem cleanup_eq (processes : Processes) (workingDirectory : δ) {entries : List Entry}
    (listed : files mmfDirectory = some entries) :
    cleanup processes mmfDirectory workingDirectory files = Function.update files workingDirectory
      ((files workingDirectory).map (List.filter (!taken processes entries ·))) := by
  rw [cleanup, listed]
  exact foldl_visit entries

theorem any_name {entries : List Entry} {entry : Entry} (member : entry ∈ entries) :
    entries.any (·.name == entry.name) = true :=
  List.any_eq_true.mpr ⟨entry, member, beq_self_eq_true _⟩

/-- Where the directory that is read is the one that is removed from, all files go that are
taken for those of dead processes. -/
theorem cleanup_here_cleaned_iff :
    Cleaned processes mmfDirectory files (cleanup processes mmfDirectory mmfDirectory files) ↔
      ∀ entries, files mmfDirectory = some entries → ∀ entry ∈ entries, entry.isFile = true →
        TakenForDead processes entry.name → Dead processes entry.name := by
  have left : ∀ {entries}, files mmfDirectory = some entries →
      cleanup processes mmfDirectory mmfDirectory files mmfDirectory =
        some (entries.filter (!taken processes entries ·)) := by
    intro entries listed
    rw [cleanup_eq processes mmfDirectory listed, Function.update_self, listed, Option.map_some]
  have out : ∀ {entries : List Entry} {entry : Entry}, entry ∈ entries → entry.isFile = true →
      (entry ∉ entries.filter (!taken processes entries ·) ↔ TakenForDead processes entry.name) := by
    intro entries entry member file
    simp [taken, member, file, any_name member, ← stale_iff]
  constructor
  · intro cleaned entries listed entry member file stale
    obtain ⟨rest, after, gone⟩ := cleaned.gone entries listed
    cases (left listed).symm.trans after
    exact (gone entry member file).mp ((out member file).mpr stale)
  · intro proper
    constructor
    · intro entries listed
      refine ⟨_, left listed, fun entry member file => (out member file).trans ?_⟩
      exact ⟨proper entries listed entry member file, Dead.takenForDead⟩
    · intro directory apart
      cases listed : files mmfDirectory with
      | none => rw [cleanup, listed]
      | some entries => rw [cleanup_eq processes mmfDirectory listed, Function.update_of_ne apart]

/-- Nothing is taken out of a working directory that holds no listed file of such a name. -/
theorem cleanup_eq_self {entries : List Entry} (listed : files mmfDirectory = some entries)
    (harmless : ∀ entry ∈ entries, TakenForDead processes entry.name →
      ∀ others, files workingDirectory = some others → ⟨entry.name, true⟩ ∉ others) :
    cleanup processes mmfDirectory workingDirectory files = files := by
  rw [cleanup_eq processes workingDirectory listed]
  apply Function.update_eq_iff.mpr
  refine ⟨?_, fun _ _ => rfl⟩
  cases present : files workingDirectory with
  | none => rfl
  | some others =>
      refine congrArg some (List.filter_eq_self.mpr fun other inside => ?_)
      by_contra out
      simp only [taken, Bool.not_eq_true', Bool.not_eq_false, Bool.and_eq_true, List.any_eq_true, beq_iff_eq] at out
      obtain ⟨⟨file, gone⟩, entry, member, same⟩ := out
      apply harmless entry member (stale_iff.mp (same ▸ gone)) others present
      rwa [same, ← file]

/-- Elsewhere, a cleanup that did what it should had nothing to remove, and removed nothing. -/
theorem cleanup_elsewhere_cleaned_iff (apart : workingDirectory ≠ mmfDirectory) :
    Cleaned processes mmfDirectory files (cleanup processes mmfDirectory workingDirectory files) ↔
      ∀ entries, files mmfDirectory = some entries → ∀ entry ∈ entries,
        (entry.isFile = true → ¬ Dead processes entry.name) ∧
        (TakenForDead processes entry.name →
          ∀ others, files workingDirectory = some others → ⟨entry.name, true⟩ ∉ others) := by
  constructor
  · intro cleaned entries listed entry member
    have result := cleanup_eq processes workingDirectory listed
    obtain ⟨left, after, gone⟩ := cleaned.gone entries listed
    rw [result, Function.update_of_ne (Ne.symm apart), listed] at after
    cases after
    refine ⟨fun file dead => (gone entry member file).mpr dead member, fun stale others present inside => ?_⟩
    have same := cleaned.elsewhere workingDirectory apart
    rw [result, Function.update_self, present, Option.map_some, Option.some.injEq, List.filter_eq_self] at same
    have kept := same _ inside
    simp [taken, stale_iff.mpr stale, any_name member] at kept
  · intro harmless
    have unchanged : cleanup processes mmfDirectory workingDirectory files = files := by
      cases listed : files mmfDirectory with
      | none => rw [cleanup, listed]
      | some entries => exact cleanup_eq_self listed fun entry member => (harmless entries listed entry member).2
    rw [unchanged]
    refine ⟨fun entries listed => ⟨entries, listed, fun entry member file => ?_⟩, fun _ _ => rfl⟩
    exact ⟨fun gone => absurd member gone, fun dead => absurd dead ((harmless entries listed entry member).1 file)⟩

/-- Exactly the dead processes' files are removed: when the working directory is the one that
is read, if no other file has a name that is let through; when it is another one, if no
file is of a dead process, and none there has a listed name that is let through. -/
theorem cleanup_cleaned_iff :
    Cleaned processes mmfDirectory files (cleanup processes mmfDirectory workingDirectory files) ↔
      ∀ entries, files mmfDirectory = some entries → ∀ entry ∈ entries,
        if workingDirectory = mmfDirectory then
          entry.isFile = true → TakenForDead processes entry.name → Dead processes entry.name
        else
          (entry.isFile = true → ¬ Dead processes entry.name) ∧
          (TakenForDead processes entry.name →
            ∀ others, files workingDirectory = some others → ⟨entry.name, true⟩ ∉ others) := by
  by_cases here : workingDirectory = mmfDirectory
  · simp only [if_pos here]
    rw [here]
    exact cleanup_here_cleaned_iff
  · simp only [if_neg here]
    exact cleanup_elsewhere_cleaned_iff here

/-- Two directories that each hold the file of process 7. -/
def twoDirectories : FileSystem Bool :=
  fun _ => some [⟨.utf8 "Reloaded.Memory.Buffers.MemoryBuffer, PID 7".toList, true⟩]

/-- A file whose name holds the number with a sign, and so is no process's. -/
def signedName : FileSystem Bool :=
  fun _ => some [⟨.utf8 "Reloaded.Memory.Buffers.MemoryBuffer, PID +7".toList, true⟩]

/-- The file is read in one directory and removed from the other; and where there is only
one directory, a file that belongs to no process goes as well. -/
theorem cleanup_elsewhere :
    cleanup ⟨fun _ => false, fun _ => false⟩ false true twoDirectories false = twoDirectories false ∧
    cleanup ⟨fun _ => false, fun _ => false⟩ false true twoDirectories true = some [] ∧
    ¬ Cleaned ⟨fun _ => false, fun _ => false⟩ false twoDirectories
      (cleanup ⟨fun _ => false, fun _ => false⟩ false true twoDirectories) ∧
    cleanup ⟨fun _ => false, fun _ => false⟩ false false signedName false = some [] ∧
    ¬ Cleaned ⟨fun _ => false, fun _ => false⟩ false signedName
      (cleanup ⟨fun _ => false, fun _ => false⟩ false false signedName) := by
  have removed : cleanup ⟨fun _ => false, fun _ => false⟩ false false signedName false = some [] := by decide
  refine ⟨rfl, by decide, fun cleaned => ?_, removed, fun cleaned => ?_⟩
  · have same := cleaned.elsewhere true (by decide)
    exact absurd same (by decide)
  · obtain ⟨left, after, gone⟩ := cleaned.gone _ rfl
    rw [removed] at after
    cases after
    obtain ⟨pid, _, _, named, _⟩ := (gone _ List.mem_cons_self rfl).mp List.not_mem_nil
    -- A plus sign is no digit.
    have digits : '+' ∈ Nat.toDigits 10 pid := by
      have text := List.append_cancel_left (FileName.utf8.inj named : memoryMappedFilePrefix ++ ['+', '7'] = _)
      rw [← text]
      exact List.mem_cons_self
    have digit := Numeral.toDigit_of_mem_toDigits (by decide) (by decide) digits
    exact absurd digit (by decide)

end Cleanup

end ReloadedBuffers
