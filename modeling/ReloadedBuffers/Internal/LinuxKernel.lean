import ReloadedBuffers.Internal.BufferAllocatorLinux

/-! A Linux kernel whose decisions are written on a tape: what each reading of a memory
map shows, if it can be read, and what each `mmap` returns. It keeps the mappings of the
calling process.
-/

set_option autoImplicit false

namespace ReloadedBuffers

structure Mapping where
  address : Nat
  length : Nat
  deriving DecidableEq, Repr

/-- `mapped` counts the mappings ever made. -/
structure LinuxKernel where
  mappings : List Mapping
  mapped : Nat
  answers : Nat → Nat
  readings : Nat → Option (List MemoryMapEntry)

/-- A request to map memory, with the address returned. -/
structure Reply where
  request : Nat
  answer : Nat
  deriving DecidableEq, Repr

/-- The back end keeps memory that is where it asked for it, but never at null. -/
def Reply.kept (reply : Reply) : Bool := reply.answer == reply.request && reply.answer != 0

theorem Reply.kept_iff {reply : Reply} : reply.kept = true ↔ reply.answer = reply.request ∧ reply.answer ≠ 0 := by
  simp [Reply.kept]

namespace LinuxKernel

/-- The address asked for does not bind the kernel. -/
def mmap (usize _address length : Nat) (kernel : LinuxKernel) : Nat × LinuxKernel :=
  let answer := kernel.answers 0
  let kernel := { kernel with answers := fun index => kernel.answers (index + 1) }
  if answer = mapFailed usize then (answer, kernel)
  else (answer, { kernel with mappings := ⟨answer, length⟩ :: kernel.mappings, mapped := kernel.mapped + 1 })

/-- Only whole mappings are ever unmapped here. `MAP_FAILED` is no page address, and
unmapping it fails. -/
def munmap (usize address length : Nat) (kernel : LinuxKernel) : LinuxKernel :=
  if address = mapFailed usize then kernel
  else { kernel with mappings := kernel.mappings.erase ⟨address, length⟩ }

/-- The kernel when the next memory map has been read. -/
def afterReading (kernel : LinuxKernel) : LinuxKernel :=
  { kernel with readings := fun index => kernel.readings (index + 1) }

def memoryMap (kernel : LinuxKernel) : Option (List MemoryMapEntry × LinuxKernel) :=
  (kernel.readings 0).map fun regions => (regions, kernel.afterReading)

def calls (usize : Nat) : LinuxCalls LinuxKernel where
  memoryMap _ := memoryMap
  mmap := mmap usize
  munmap := munmap usize

/-- The requests with the answers from the start of a tape. -/
def replies : List Nat → (Nat → Nat) → List Reply
  | [], _ => []
  | request :: rest, answers => ⟨request, answers 0⟩ :: replies rest fun index => answers (index + 1)

theorem replies_append (first second : List Nat) (answers : Nat → Nat) :
    replies (first ++ second) answers =
      replies first answers ++ replies second fun index => answers (index + first.length) := by
  induction first generalizing answers with
  | nil => rfl
  | cons request rest ih =>
      simp only [List.cons_append, replies, ih, List.length_cons]
      congr

variable {usize length : Nat}

/-- None of the requests was kept. What was mapped elsewhere has been given back; what
was mapped at null has not. -/
structure Refused (usize length : Nat) (requests : List Nat) (before after : LinuxKernel) : Prop where
  refused : ∀ reply ∈ replies requests before.answers, reply.kept = false
  mappings : after.mappings =
    List.replicate ((replies requests before.answers).countP (·.answer == 0)) ⟨0, length⟩ ++ before.mappings
  mapped : after.mapped =
    before.mapped + (replies requests before.answers).countP (·.answer != mapFailed usize)
  answers : after.answers = fun index => before.answers (index + requests.length)

/-- The first reply that is kept ends the requests. -/
inductive Served (usize length : Nat) (requests : List Nat) (before : LinuxKernel) : Option Nat → LinuxKernel → Prop where
  | refused {after : LinuxKernel} : Refused usize length requests before after →
      Served usize length requests before none after
  | kept {first rest : List Nat} {request : Nat} {middle after : LinuxKernel} :
      requests = first ++ request :: rest → Refused usize length first before middle →
      (⟨request, middle.answers 0⟩ : Reply).kept = true → after = (mmap usize request length middle).2 →
      Served usize length requests before (some request) after

theorem Refused.nil (kernel : LinuxKernel) : Refused usize length [] kernel kernel where
  refused _ member := nomatch member
  mappings := rfl
  mapped := rfl
  answers := rfl

theorem Refused.append {first second : List Nat} {before middle after : LinuxKernel}
    (left : Refused usize length first before middle) (right : Refused usize length second middle after) :
    Refused usize length (first ++ second) before after where
  refused := by
    rw [replies_append, ← left.answers]
    exact fun reply member => (List.mem_append.mp member).elim (left.refused reply) (right.refused reply)
  mappings := by
    rw [right.mappings, left.mappings, replies_append, ← left.answers, List.countP_append, Nat.add_comm,
      ← List.replicate_append_replicate, List.append_assoc]
  mapped := by
    rw [right.mapped, left.mapped, replies_append, ← left.answers, List.countP_append, Nat.add_assoc]
  answers := by
    funext index
    simp only [right.answers, left.answers, List.length_append, Nat.add_comm first.length, Nat.add_assoc]

theorem Served.append {first second : List Nat} {before middle after : LinuxKernel} {result : Option Nat}
    (right : Served usize length second middle result after) (left : Refused usize length first before middle) :
    Served usize length (first ++ second) before result after := by
  cases right with
  | refused refused => exact .refused (left.append refused)
  | kept split refused kept last =>
      rw [split, ← List.append_assoc]
      exact .kept rfl (left.append refused) kept last

variable {request : Nat} {kernel : LinuxKernel}

theorem Refused.null (wide : 1 < usize) (null : kernel.answers 0 = 0) :
    Refused usize length [request] kernel (mmap usize request length kernel).2 := by
  have failed : mapFailed usize ≠ 0 := by unfold mapFailed; omega
  constructor
  · simp [replies, Reply.kept, null]
  · simp [replies, mmap, null, failed.symm]
  · simp [replies, mmap, null, failed.symm]
  · simp only [mmap, null, failed.symm, if_false]
    rfl

/-- Memory that is mapped elsewhere is unmapped again. -/
theorem Refused.elsewhere (given : kernel.answers 0 ≠ 0) (elsewhere : kernel.answers 0 ≠ request) :
    Refused usize length [request] kernel
      (munmap usize (kernel.answers 0) length (mmap usize request length kernel).2) := by
  by_cases failed : kernel.answers 0 = mapFailed usize
  · constructor
    · simp [replies, Reply.kept, elsewhere]
    · have apart : mapFailed usize ≠ 0 := failed ▸ given
      simp [replies, mmap, munmap, failed, apart]
    · simp [replies, mmap, munmap, failed]
    · simp [mmap, munmap, failed]
  · constructor
    · simp [replies, Reply.kept, elsewhere]
    · simp [replies, mmap, munmap, given, failed]
    · simp [replies, mmap, munmap, failed]
    · simp [mmap, munmap, failed]

theorem tryCandidates_served (length : Nat) (wide : 1 < usize) (requests : List Nat) (kernel : LinuxKernel) :
    Served usize length requests kernel
      (tryCandidates (mmap usize · length) (munmap usize · length) requests kernel).1
      (tryCandidates (mmap usize · length) (munmap usize · length) requests kernel).2 := by
  induction requests generalizing kernel with
  | nil => exact .refused (.nil kernel)
  | cons request rest ih =>
      have answer : (mmap usize request length kernel).1 = kernel.answers 0 := by
        simp only [mmap]
        split <;> rfl
      unfold tryCandidates
      simp only [answer]
      by_cases null : kernel.answers 0 = 0
      · rw [if_pos null]
        exact (ih _).append (.null wide null)
      -- The answer itself decides: the candidate is kept, another address is unmapped.
      · rw [if_neg null]
        by_cases elsewhere : kernel.answers 0 = request
        · rw [if_neg (not_not.mpr elsewhere), elsewhere]
          have kept : (⟨request, kernel.answers 0⟩ : Reply).kept = true := by
            simp [Reply.kept, ← elsewhere, null]
          exact .kept rfl (.nil kernel) kept rfl
        · rw [if_pos elsewhere]
          exact (ih _).append (.elsewhere null elsewhere)

theorem Served.weaken {requests more : List Nat} {before after : LinuxKernel}
    (served : Served usize length requests before (some request) after) :
    Served usize length (requests ++ more) before (some request) after := by
  cases served with
  | kept split refused kept last =>
      rw [split, List.append_assoc]
      exact .kept rfl refused kept last

/-- Reading a memory map answers no request. -/
theorem Served.memoryMap {requests : List Nat} {after : LinuxKernel} {result : Option Nat}
    (served : Served usize length requests kernel.afterReading result after) :
    Served usize length requests kernel result after := by
  cases served with
  | refused refused => exact .refused ⟨refused.refused, refused.mappings, refused.mapped, refused.answers⟩
  | kept split refused kept last =>
      exact .kept split ⟨refused.refused, refused.mappings, refused.mapped, refused.answers⟩ kept last

theorem mmap_readings (address : Nat) (kernel : LinuxKernel) :
    (mmap usize address length kernel).2.readings = kernel.readings := by
  simp only [mmap]
  split <;> rfl

theorem munmap_readings (address : Nat) (kernel : LinuxKernel) :
    (munmap usize address length kernel).readings = kernel.readings := by
  unfold munmap
  split <;> rfl

theorem tryCandidates_readings (usize length : Nat) (requests : List Nat) (kernel : LinuxKernel) :
    (tryCandidates (mmap usize · length) (munmap usize · length) requests kernel).2.readings = kernel.readings := by
  induction requests generalizing kernel with
  | nil => rfl
  | cons request rest ih =>
      unfold tryCandidates
      split
      rename_i allocated next answered
      have kept : next.readings = kernel.readings := by rw [← mmap_readings request kernel, answered]
      split
      · rw [ih, kept]
      · split
        · rw [ih, munmap_readings, kept]
        · exact kept

variable {target : Target} {settings : BufferAllocatorSettings}

/-- The candidates in the free regions that start below the highest address. -/
def regionRequests (target : Target) (settings : BufferAllocatorSettings) (regions : List MemoryMapEntry) : List Nat :=
  (regions.takeWhile fun region => region.startAddress ≤ settings.maxAddress).flatMap
    (BufferAllocatorLinux.candidates target settings)

/-- All the requests that the retries can make, up to a memory map that cannot be read. -/
def requests (target : Target) (settings : BufferAllocatorSettings) :
    Nat → (Nat → Option (List MemoryMapEntry)) → List Nat
  | 0, _ => []
  | count + 1, readings =>
    match readings 0 with
    | none => []
    | some regions =>
      regionRequests target settings (getFreeRegions target regions) ++
        requests target settings count fun index => readings (index + 1)

/-- Every memory map that the retries can come to is there to be read. -/
def Readable (count : Nat) (readings : Nat → Option (List MemoryMapEntry)) : Prop :=
  ∀ index < count, (readings index).isSome = true

theorem Readable.succ_iff {count : Nat} {readings : Nat → Option (List MemoryMapEntry)} :
    Readable (count + 1) readings ↔ (readings 0).isSome = true ∧ Readable count fun index => readings (index + 1) := by
  constructor
  · exact fun readable => ⟨readable 0 (Nat.succ_pos _), fun index below => readable (index + 1) (Nat.succ_lt_succ below)⟩
  · rintro ⟨first, rest⟩ index below
    cases index with
    | zero => exact first
    | succ index => exact rest index (Nat.lt_of_succ_lt_succ below)

theorem tryRegions_served (regions : List MemoryMapEntry) (kernel : LinuxKernel) :
    ∃ result, (BufferAllocatorLinux.tryRegions target (calls target.usize) settings regions kernel).1 =
        result.map (LocatorItem.new · settings.size) ∧
      (BufferAllocatorLinux.tryRegions target (calls target.usize) settings regions kernel).2.readings =
        kernel.readings ∧
      Served target.usize settings.size.toNat (regionRequests target settings regions) kernel result
        (BufferAllocatorLinux.tryRegions target (calls target.usize) settings regions kernel).2 := by
  have wide : 1 < target.usize := Nat.lt_of_lt_of_le (by decide) target.u32_le_usize
  induction regions generalizing kernel with
  | nil => exact ⟨none, rfl, rfl, .refused (.nil kernel)⟩
  | cons region rest ih =>
      unfold BufferAllocatorLinux.tryRegions regionRequests
      by_cases beyond : region.startAddress > settings.maxAddress
      · rw [if_pos beyond, List.takeWhile_cons_of_neg (by simpa using beyond)]
        exact ⟨none, rfl, rfl, .refused (.nil kernel)⟩
      · have served := tryCandidates_served settings.size.toNat wide
          (BufferAllocatorLinux.candidates target settings region) kernel
        have readings := tryCandidates_readings target.usize settings.size.toNat
          (BufferAllocatorLinux.candidates target settings region) kernel
        -- This region is not beyond the window, so its candidates come first among the requests.
        rw [if_neg beyond, List.takeWhile_cons_of_pos (by simpa using beyond), List.flatMap_cons]
        simp only [BufferAllocatorLinux.tryAllocateBuffer, calls]
        revert served readings
        generalize tryCandidates (mmap target.usize · settings.size.toNat) (munmap target.usize · settings.size.toNat)
          (BufferAllocatorLinux.candidates target settings region) kernel = outcome
        intro served readings
        obtain ⟨found, next⟩ := outcome
        cases found with
        | none =>
            cases served with
            | refused refused =>
                obtain ⟨result, same, kept, more⟩ := ih next
                exact ⟨result, same, kept.trans readings, more.append refused⟩
        | some found => exact ⟨some found, rfl, readings, served.weaken⟩

/-- What the whole allocation does, in terms of its requests and the answers to them. It
does not return where a memory map cannot be read, and has kept nothing then. -/
theorem allocateLinux_served (kernel : LinuxKernel) :
    (∃ result after, allocateLinux target (calls target.usize) settings kernel =
        some (result.map (LocatorItem.new · settings.size), after) ∧
      Served target.usize settings.size.toNat (requests target settings settings.retries kernel.readings) kernel
        result after ∧ (result = none → Readable settings.retries kernel.readings)) ∨
      allocateLinux target (calls target.usize) settings kernel = none ∧ ¬ Readable settings.retries kernel.readings ∧
        ∀ reply ∈ replies (requests target settings settings.retries kernel.readings) kernel.answers,
          reply.kept = false := by
  unfold allocateLinux
  generalize settings.retries = count
  induction count generalizing kernel with
  | zero => exact .inl ⟨none, kernel, rfl, .refused (.nil kernel), fun _ _ below => absurd below (Nat.not_lt_zero _)⟩
  | succ count ih =>
      unfold retry BufferAllocatorLinux.walkRegions
      simp only [calls, memoryMap, requests]
      cases read : kernel.readings 0 with
      | none =>
          refine .inr ⟨rfl, fun readable => ?_, fun reply member => by cases member⟩
          have first := readable 0 (Nat.succ_pos _)
          rw [read] at first
          cases first
      | some regions =>
          obtain ⟨result, found, readings, served⟩ :=
            @tryRegions_served target settings (getFreeRegions target regions) kernel.afterReading
          simp only [Option.map_some]
          simp only [calls] at found readings served ih
          generalize BufferAllocatorLinux.tryRegions target _ settings (getFreeRegions target regions)
            kernel.afterReading = outcome at found readings served
          obtain ⟨item, next⟩ := outcome
          cases found
          replace readings : next.readings = fun index => kernel.readings (index + 1) := readings
          have later : Readable count next.readings → Readable (count + 1) kernel.readings := fun rest =>
            Readable.succ_iff.mpr ⟨by rw [read]; rfl, by rwa [← readings]⟩
          cases served with
          -- A round without success leaves the later readings of the map to the next one.
          | refused refused =>
              rcases ih next with ⟨result, after, rest, more, readable⟩ | ⟨stuck, unreadable, more⟩
              · rw [readings] at more
                exact .inl ⟨result, after, rest, (more.append refused).memoryMap, fun missed => later (readable missed)⟩
              · refine .inr ⟨stuck, fun readable => unreadable ?_, ?_⟩
                · rw [readings]
                  exact (Readable.succ_iff.mp readable).2
                · have here := refused.refused
                  rw [readings, refused.answers] at more
                  rw [replies_append]
                  exact fun reply member => (List.mem_append.mp member).elim (here reply) (more reply)
          | kept split refused kept last =>
              exact .inl ⟨some _, next, rfl, (Served.kept split refused kept last).weaken.memoryMap, by rintro ⟨⟩⟩

/-- Unmapping what has just been mapped restores the mappings. -/
theorem munmap_mmap (usize length address : Nat) (kernel : LinuxKernel) :
    (munmap usize (kernel.answers 0) length (mmap usize address length kernel).2).mappings = kernel.mappings := by
  by_cases failed : kernel.answers 0 = mapFailed usize
  · simp [mmap, munmap, failed]
  · simp [mmap, munmap, failed]

theorem Refused.mappings_eq_iff {requests : List Nat} {before after : LinuxKernel}
    (refused : Refused usize length requests before after) :
    after.mappings = before.mappings ↔ ∀ reply ∈ replies requests before.answers, reply.answer ≠ 0 := by
  rw [refused.mappings]
  simp [List.countP_eq_zero]

theorem Refused.mapped_eq_iff {requests : List Nat} {before after : LinuxKernel}
    (refused : Refused usize length requests before after) :
    after.mapped = before.mapped ↔ ∀ reply ∈ replies requests before.answers, reply.answer = mapFailed usize := by
  rw [refused.mapped]
  simp [List.countP_eq_zero]

end LinuxKernel

end ReloadedBuffers
