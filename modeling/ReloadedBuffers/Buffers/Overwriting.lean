import ReloadedBuffers.Structs.PageProtection

/-! The ways of writing code into a buffer: appending it, and overwriting what is there,
through the methods and through the exported functions. All of them make a range writable,
write, protect the range again and flush a range; they differ in where the ranges come from.
-/

set_option autoImplicit false

namespace ReloadedBuffers

/-- The bytes that `copy_nonoverlapping` reads. -/
def bytesAt (usize : Nat) (memory : Nat → UInt8) (address size : Nat) : List UInt8 :=
  (List.range size).map fun offset => memory (Words.add usize address offset)

/-- Write with a range of `size` bytes from `start` made writable, and flush up to `last`. -/
def writing (platform : Target) (start size first last : Nat) (writes : List Effect) : List Effect :=
  disableWriteXorExecute platform start size ++ writes ++ restoreWriteXorExecute platform start size ++
    clearInstructionCache platform first last

namespace Buffers

/-- A caller's own way of overwriting, given the source, the target and the size. -/
abbrev Callback := Nat → Nat → Nat → List Effect

def overwriteAllocatedCode (platform : Target) (memory : Nat → UInt8) (source target size : Nat) : List Effect :=
  writing platform target size target (Words.add platform.usize target size)
    [.copy target (bytesAt platform.usize memory source size)]

def overwriteAllocatedCodeEx (platform : Target) (source target size : Nat) (callback : Callback) : List Effect :=
  writing platform target size target (Words.add platform.usize target size) (callback source target size)

namespace Exports

/-- The end of the flushed range is `source.wrapping_add(size)`. -/
def overwriteAllocatedCode (platform : Target) (memory : Nat → UInt8) (source target size : Nat) : List Effect :=
  writing platform target size target (Words.add platform.usize source size)
    [.copy target (bytesAt platform.usize memory source size)]

def overwriteAllocatedCodeEx (platform : Target) (source target size : Nat) (callback : Callback) : List Effect :=
  writing platform target size target (Words.add platform.usize source size) (callback source target size)

end Exports

/-- A call that writes code. -/
inductive CodeWrite where
  | append (item : LocatorItem) (data : List UInt8)
  | overwrite (source target size : Nat)
  | overwriteEx (source target size : Nat) (callback : Callback)
  | exportedOverwrite (source target size : Nat)
  | exportedOverwriteEx (source target size : Nat) (callback : Callback)

namespace CodeWrite

variable (platform : Target) (memory : Nat → UInt8)

def trace : CodeWrite → List Effect
  | .append item data => (item.appendCode platform data).2.2
  | .overwrite source target size => overwriteAllocatedCode platform memory source target size
  | .overwriteEx source target size callback => overwriteAllocatedCodeEx platform source target size callback
  | .exportedOverwrite source target size => Exports.overwriteAllocatedCode platform memory source target size
  | .exportedOverwriteEx source target size callback =>
    Exports.overwriteAllocatedCodeEx platform source target size callback

/-- The first byte to be written. -/
def target : CodeWrite → Nat
  | .append item _ => item.cursor platform.usize
  | .overwrite _ target _ | .overwriteEx _ target _ _ | .exportedOverwrite _ target _
  | .exportedOverwriteEx _ target _ _ => target

/-- The number of bytes to be written. -/
def size : CodeWrite → Nat
  | .append _ data => data.length
  | .overwrite _ _ size | .overwriteEx _ _ size _ | .exportedOverwrite _ _ size
  | .exportedOverwriteEx _ _ size _ => size

def writes : CodeWrite → List Effect
  | .append item data => [.copy (item.cursor platform.usize) data]
  | .overwrite source target size | .exportedOverwrite source target size =>
    [.copy target (bytesAt platform.usize memory source size)]
  | .overwriteEx source target size callback | .exportedOverwriteEx source target size callback =>
    callback source target size

/-- The method that an exported function has the name of. -/
def method : CodeWrite → CodeWrite
  | .exportedOverwrite source target size => .overwrite source target size
  | .exportedOverwriteEx source target size callback => .overwriteEx source target size callback
  | write => write

/-- Pointers hold words. -/
def Pointers (usize : Nat) : CodeWrite → Prop
  | .append _ _ => True
  | .overwrite source target _ | .overwriteEx source target _ _ | .exportedOverwrite source target _
  | .exportedOverwriteEx source target _ _ => source < usize ∧ target < usize

end CodeWrite

/-- Whatever the protection of the pages was, the bytes of one range are writable once
that of the other has been changed. -/
def MakesWritable (start length target size : Nat) : Prop :=
  ∀ (pages : Pages), ∀ byte ∈ Words.extent target size,
    pages.run (.protect start length .readWrite) (byte / pageLength) = .readWrite

/-- The writes happen on writable pages, whose protection is restored, and then exactly the
bytes written are flushed. Only Apple silicon protects, and only x86 has nothing to flush. -/
def Flushes (platform : Target) (target size : Nat) (writes trace : List Effect) : Prop :=
  ∃ start length first last, trace = writing platform start length first last writes ∧
    (platform.appleSilicon = true → MakesWritable start length target size) ∧
    (platform.arch = .aarch64 → first ≤ last ∧ Set.Ico first last = Words.extent target size)

/-- A call that writes and flushes as it should, and as the method of its name does. -/
structure Proper (platform : Target) (memory : Nat → UInt8) (write : CodeWrite) : Prop where
  flushes : Flushes platform (write.target platform) write.size (write.writes platform memory)
    (write.trace platform memory)
  same : write.trace platform memory = write.method.trace platform memory

/-- The bytes end in the address space; an append covers them with the pages it counts
from the base of the buffer, and an exported function is given the target as its source. -/
def Covered (platform : Target) : CodeWrite → Prop
  | .append item data => item.cursor platform.usize + data.length < platform.usize ∧
    (platform.appleSilicon = true → data.length = 0 ∨
      item.baseAddress / pageLength ≤ item.cursor platform.usize / pageLength ∧
      (item.cursor platform.usize + data.length - 1) / pageLength ≤ (item.baseAddress + data.length - 1) / pageLength)
  | .overwrite _ target size | .overwriteEx _ target size _ => target + size < platform.usize
  | .exportedOverwrite source target size | .exportedOverwriteEx source target size _ =>
    target + size < platform.usize ∧ source = target

variable {platform : Target} {start length first last target size : Nat} {writes : List Effect}

theorem makesWritable_iff : MakesWritable start length target size ↔
    size = 0 ∨ 0 < length ∧ start / pageLength ≤ target / pageLength ∧
      (target + size - 1) / pageLength ≤ (start + length - 1) / pageLength := by
  constructor
  · intro writable
    rcases Nat.eq_zero_or_pos size with empty | positive
    · exact .inl empty
    · right
      -- Of pages that were executable, the first and the last byte's have changed.
      have touched : ∀ byte ∈ Words.extent target size, 0 < length ∧ start / pageLength ≤ byte / pageLength ∧
          byte / pageLength ≤ (start + length - 1) / pageLength := by
        intro byte inside
        have changed := writable (fun _ => .readExecute) byte inside
        by_contra outside
        cases changed.symm.trans (if_neg outside)
      obtain ⟨positive, low, _⟩ := touched target (by rw [Words.mem_extent]; omega)
      obtain ⟨_, _, high⟩ := touched (target + size - 1) (by rw [Words.mem_extent]; omega)
      exact ⟨positive, low, high⟩
  · rintro covers pages byte inside
    rw [Words.mem_extent] at inside
    rcases covers with empty | ⟨positive, low, high⟩
    · omega
    · refine if_pos ⟨positive, low.trans ?_, le_trans ?_ high⟩
      · exact Nat.div_le_div_right inside.1
      · exact Nat.div_le_div_right (by omega)

theorem makesWritable_self : MakesWritable target size target size := by
  apply makesWritable_iff.mpr
  rcases Nat.eq_zero_or_pos size with empty | positive
  · exact .inl empty
  · exact .inr ⟨positive, Nat.le_refl _, Nat.le_refl _⟩

/-- A range that starts where the bytes do covers them exactly when it ends where they do. -/
theorem covers_exactly_iff : target ≤ last ∧ Set.Ico target last = Words.extent target size ↔ last = target + size := by
  constructor
  · rintro ⟨order, same⟩
    have inside : ∀ byte, target ≤ byte ∧ byte < last ↔ target ≤ byte ∧ byte < target + size := fun byte =>
      Set.ext_iff.mp same byte
    have one := inside last
    have other := inside (target + size)
    omega
  · rintro rfl
    exact ⟨Nat.le_add_right _ _, rfl⟩

/-- What a trace of this shape has to show. -/
theorem writing_flushes_iff :
    Flushes platform target size writes (writing platform start length target last writes) ↔
      (platform.appleSilicon = true → MakesWritable start length target size) ∧
        (platform.arch = .aarch64 → last = target + size) := by
  constructor
  · rintro ⟨start', length', first', last', same, writable, exactly⟩
    cases arch : platform.arch with
    | x86_64 =>
        have plain : platform.appleSilicon = false := by simp [Target.appleSilicon, arch]
        simp [plain]
    | aarch64 =>
        have flushed := exactly arch
        cases apple : platform.appleSilicon with
        | false =>
            simp only [writing, disableWriteXorExecute, restoreWriteXorExecute, clearInstructionCache, apple, arch,
              Bool.false_eq_true, if_false, List.nil_append, List.append_nil, List.append_cancel_left_eq,
              List.cons.injEq, Effect.flush.injEq, and_true] at same
            obtain ⟨rfl, rfl⟩ := same
            exact ⟨fun wrong => absurd wrong (by decide), fun _ => covers_exactly_iff.mp flushed⟩
        | true =>
            simp only [writing, disableWriteXorExecute, restoreWriteXorExecute, clearInstructionCache, apple, arch,
              if_true, List.cons_append, List.nil_append, List.append_assoc, List.cons.injEq, Effect.protect.injEq,
              List.append_cancel_left_eq, Effect.flush.injEq, and_true] at same
            obtain ⟨⟨rfl, rfl⟩, _, rfl, rfl⟩ := same
            exact ⟨fun _ => writable apple, fun _ => covers_exactly_iff.mp flushed⟩
  · rintro ⟨writable, ends⟩
    exact ⟨start, length, target, last, rfl, writable, fun arch => covers_exactly_iff.mpr (ends arch)⟩

/-- A sum of words is exact when it is less than the modulus. -/
theorem add_word_iff : Words.add platform.usize target size = target + size ↔ target + size < platform.usize := by
  have positive := platform.usize_pos
  constructor
  · intro exact
    rw [← exact]
    exact Nat.mod_lt _ positive
  · exact Words.add_eq

/-- Counted from another word, the end comes out the same only if that is the target. -/
theorem add_source_iff {source : Nat} (sourceWord : source < platform.usize) (targetWord : target < platform.usize) :
    Words.add platform.usize source size = target + size ↔ target + size < platform.usize ∧ source = target := by
  constructor
  · intro same
    have below : target + size < platform.usize := by
      rw [← same]
      exact Nat.mod_lt _ platform.usize_pos
    refine ⟨below, ?_⟩
    rcases Nat.lt_or_ge (source + size) platform.usize with fits | wraps
    · rw [Words.add_eq fits] at same
      omega
    · rw [Words.add, Nat.mod_eq_sub_mod wraps, Nat.mod_eq_of_lt (by omega)] at same
      omega
  · rintro ⟨below, rfl⟩
    exact Words.add_eq below

/-- Where the range made writable is the one that is written, only the end of the flush counts. -/
theorem overwriting_flushes_iff :
    Flushes platform target size writes (writing platform target size target last writes) ↔
      platform.arch = .x86_64 ∨ last = target + size := by
  rw [writing_flushes_iff]
  cases arch : platform.arch with
  | x86_64 => simp [Target.appleSilicon, arch]
  | aarch64 => simp [makesWritable_self]

theorem append_flushes_iff {item : LocatorItem} {data : List UInt8} :
    Flushes platform (item.cursor platform.usize) data.length [.copy (item.cursor platform.usize) data]
        (item.appendCode platform data).2.2 ↔
      platform.arch = .x86_64 ∨ Covered platform (.append item data) := by
  have shape : (item.appendCode platform data).2.2 = writing platform item.baseAddress data.length
      (item.cursor platform.usize) (Words.add platform.usize (item.cursor platform.usize) data.length)
      [.copy (item.cursor platform.usize) data] := rfl
  rw [shape, writing_flushes_iff, add_word_iff, makesWritable_iff]
  cases arch : platform.arch with
  | x86_64 => simp [Target.appleSilicon, arch]
  | aarch64 =>
      have bytes : 0 < data.length ∨ data.length = 0 := (Nat.eq_zero_or_pos _).symm
      simp only [Covered, reduceCtorEq, false_or, forall_const]
      constructor
      · rintro ⟨covers, ends⟩
        exact ⟨ends, fun apple => (covers apple).imp_right fun pages => pages.2⟩
      · rintro ⟨ends, covers⟩
        refine ⟨fun apple => ?_, ends⟩
        rcases bytes with bytes | none
        · exact (covers apple).imp_right fun pages => ⟨bytes, pages⟩
        · exact .inl none

/-- On x86 a flush is no effect at all, whatever its range. -/
theorem writing_unified (arch : platform.arch = .x86_64) (other : Nat) :
    writing platform start length first last writes = writing platform start length first other writes := by
  simp [writing, clearInstructionCache, arch]

theorem flushes_iff {memory : Nat → UInt8} {write : CodeWrite} (pointers : write.Pointers platform.usize) :
    Flushes platform (write.target platform) write.size (write.writes platform memory) (write.trace platform memory) ↔
      platform.arch = .x86_64 ∨ Covered platform write := by
  cases write with
  | append item data => exact append_flushes_iff
  | overwrite source target size => exact overwriting_flushes_iff.trans (or_congr_right add_word_iff)
  | overwriteEx source target size callback => exact overwriting_flushes_iff.trans (or_congr_right add_word_iff)
  | exportedOverwrite source target size =>
      exact overwriting_flushes_iff.trans (or_congr_right (add_source_iff pointers.1 pointers.2))
  | exportedOverwriteEx source target size callback =>
      exact overwriting_flushes_iff.trans (or_congr_right (add_source_iff pointers.1 pointers.2))

/-- A call has the effects of the method of its name where it does as it should. -/
theorem trace_method {memory : Nat → UInt8} {write : CodeWrite} (covered : platform.arch = .x86_64 ∨ Covered platform write) :
    write.trace platform memory = write.method.trace platform memory := by
  cases write with
  | append item data => rfl
  | overwrite source target size => rfl
  | overwriteEx source target size callback => rfl
  | exportedOverwrite source target size =>
      rcases covered with arch | ⟨_, rfl⟩
      · exact writing_unified arch _
      · rfl
  | exportedOverwriteEx source target size callback =>
      rcases covered with arch | ⟨_, rfl⟩
      · exact writing_unified arch _
      · rfl

/-- Exactly which calls write and flush as they should. -/
theorem codeWrite_proper_iff {memory : Nat → UInt8} {write : CodeWrite} (pointers : write.Pointers platform.usize) :
    Proper platform memory write ↔ platform.arch = .x86_64 ∨ Covered platform write := by
  constructor
  · exact fun proper => (flushes_iff pointers).mp proper.flushes
  · exact fun covered => ⟨(flushes_iff pointers).mpr covered, trace_method covered⟩

/-- Sixteen bytes of code, overwritten through the method. -/
theorem codeWrite_proper_method : Proper appleTarget (fun _ => 0x90) (.overwrite 0x10000 0x20000 16) := by
  have pointers : (CodeWrite.overwrite 0x10000 0x20000 16).Pointers appleTarget.usize := by
    constructor <;> decide
  apply (codeWrite_proper_iff pointers).mpr
  right
  unfold Covered
  decide

/-- The same through the exported function: the range that is flushed ends before it starts.
And an append of code behind the first page of its buffer: the page is not made writable. -/
theorem exported_flushes_backwards :
    .flush 0x20000 0x10010 ∈ CodeWrite.trace appleTarget (fun _ => 0x90) (.exportedOverwrite 0x10000 0x20000 16) ∧
      ¬ Proper appleTarget (fun _ => 0x90) (.exportedOverwrite 0x10000 0x20000 16) ∧
      ¬ Proper appleTarget (fun _ => 0x90) (.append ⟨0x10000, 0x8000, 0x4000, 1⟩ [0x90, 0xC3]) := by
  refine ⟨by decide, fun proper => ?_, fun proper => ?_⟩
  · exact absurd proper.same (by decide)
  · rcases append_flushes_iff.mp proper.flushes with other | ⟨_, covers⟩
    · exact absurd other (by decide)
    · exact absurd (covers (by decide)) (by decide)

end Buffers

end ReloadedBuffers
