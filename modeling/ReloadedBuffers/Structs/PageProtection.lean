import Mathlib.Data.List.Induction
import ReloadedBuffers.Structs.LocatorItem

/-! Appends on Apple silicon, where a page is writable or executable but not both. Each
append changes the pages at the base of the buffer, and then writes at the cursor.
-/

set_option autoImplicit false

namespace ReloadedBuffers

/-- Bytes in a page on Apple silicon. -/
def pageLength : Nat := 16384

/-- The protection of every page, by its number. -/
abbrev Pages := Nat → Protection

namespace Pages

/-- `mach_vm_protect` changes every page that its range touches. -/
def run (pages : Pages) : Effect → Pages
  | .protect address size protection => fun page =>
    if 0 < size ∧ address / pageLength ≤ page ∧ page ≤ (address + size - 1) / pageLength then protection
    else pages page
  | .copy _ _ | .flush _ _ => pages

def runAll (pages : Pages) (effects : List Effect) : Pages := effects.foldl run pages

/-- Every byte that is copied goes to a writable page. -/
def Permits : Pages → List Effect → Prop
  | _, [] => True
  | pages, .copy address data :: rest =>
    (∀ byte ∈ Words.extent address data.length, pages (byte / pageLength) = .readWrite) ∧ Permits pages rest
  | pages, effect :: rest => Permits (pages.run effect) rest

end Pages

structure AppendCall where
  kind : LocatorItem.Append
  data : List UInt8

namespace AppendCall

def run (target : Target) (call : AppendCall) (state : LocatorItem × Pages) : LocatorItem × Pages :=
  let (_, item, effects) := call.kind.run target state.1 call.data
  (item, state.2.runAll effects)

def runAll (target : Target) (state : LocatorItem × Pages) (calls : List AppendCall) : LocatorItem × Pages :=
  calls.foldl (fun state call => call.run target state) state

/-- The append writes to writable pages, and leaves code on executable ones. -/
structure Allowed (target : Target) (call : AppendCall) (state : LocatorItem × Pages) : Prop where
  writable : state.2.Permits (call.kind.run target state.1 call.data).2.2
  executable : call.kind = .code → ∀ byte ∈
    Words.extent (call.kind.run target state.1 call.data).1 call.data.length,
    (call.run target state).2 (byte / pageLength) = .readExecute

/-- Pages that an append of so many bytes covers, counted from the base of the buffer. -/
def pages (call : AppendCall) : Nat := (call.data.length + pageLength - 1) / pageLength

/-- An append at `position`, when as many pages as `executable` are executable already:
the last byte lies in the pages that are counted from the base, or, for data, none
of the bytes lies in a page behind them that is executable. -/
def Covers (call : AppendCall) (position executable : Nat) : Prop :=
  call.data = [] ∨ (position + call.data.length - 1) / pageLength < call.pages ∨
    call.kind ≠ .code ∧ executable ≤ max (position / pageLength) call.pages

/-- Bytes appended by some calls. -/
def appended (calls : List AppendCall) : Nat := (calls.map fun call => call.data.length).sum

/-- Pages made executable by some calls. -/
def executable (calls : List AppendCall) : Nat := (calls.map pages).foldl max 0

end AppendCall

/-- A buffer in whole pages, of which the first ones are executable and the others writable. -/
structure Laid (target : Target) (position executable : Nat) (state : LocatorItem × Pages) : Prop where
  sound : state.1.Sound target.usize
  aligned : state.1.baseAddress % pageLength = 0
  position_eq : state.1.position.toNat = position
  pages : ∀ byte ∈ Words.extent state.1.baseAddress state.1.size.toNat, state.2 (byte / pageLength) =
    if byte / pageLength < state.1.baseAddress / pageLength + executable then .readExecute else .readWrite

variable {target : Target} {call : AppendCall} {state : LocatorItem × Pages} {position executable : Nat}

/-- The pages an append changes are counted from the base, not from the cursor. -/
theorem AppendCall.effects (apple : target.appleSilicon = true) : ∃ flushes : List Effect,
    (∀ effect ∈ flushes, ∃ first last, effect = .flush first last) ∧
    (call.kind.run target state.1 call.data).2.2 =
      .protect state.1.baseAddress call.data.length .readWrite ::
      .copy (state.1.cursor target.usize) call.data ::
      .protect state.1.baseAddress call.data.length .readExecute :: flushes := by
  cases kind : call.kind with
  | bytes =>
      refine ⟨[], by simp, ?_⟩
      simp [LocatorItem.Append.run, LocatorItem.appendBytes, disableWriteXorExecute, restoreWriteXorExecute, apple]
  | copy =>
      refine ⟨[], by simp, ?_⟩
      simp [LocatorItem.Append.run, LocatorItem.appendCopy, disableWriteXorExecute, restoreWriteXorExecute, apple]
  | code =>
      refine ⟨clearInstructionCache target (state.1.cursor target.usize)
        (Words.add target.usize (state.1.cursor target.usize) call.data.length), ?_, ?_⟩
      · intro effect member
        unfold clearInstructionCache at member
        split at member
        · cases member
        · exact ⟨_, _, List.mem_singleton.mp member⟩
      · simp [LocatorItem.Append.run, LocatorItem.appendCode, disableWriteXorExecute, restoreWriteXorExecute,
          apple]

theorem Pages.runAll_flushes {flushes : List Effect} (only : ∀ effect ∈ flushes, ∃ first last, effect = .flush first last)
    (pages : Pages) : pages.runAll flushes = pages := by
  induction flushes with
  | nil => rfl
  | cons effect rest ih =>
      obtain ⟨first, last, rfl⟩ := only effect List.mem_cons_self
      exact ih fun later member => only later (List.mem_cons_of_mem _ member)

theorem Pages.permits_flushes {flushes : List Effect}
    (only : ∀ effect ∈ flushes, ∃ first last, effect = .flush first last) (pages : Pages) : pages.Permits flushes := by
  induction flushes with
  | nil => trivial
  | cons effect rest ih =>
      obtain ⟨first, last, rfl⟩ := only effect List.mem_cons_self
      exact ih fun later member => only later (List.mem_cons_of_mem _ member)

theorem AppendCall.run_pages (apple : target.appleSilicon = true) (page : Nat) :
    (call.run target state).2 page =
      if 0 < call.data.length ∧ state.1.baseAddress / pageLength ≤ page ∧
        page ≤ (state.1.baseAddress + call.data.length - 1) / pageLength then .readExecute
      else state.2 page := by
  obtain ⟨flushes, only, effects⟩ := effects apple
  have changed : (call.run target state).2 = state.2.runAll (call.kind.run target state.1 call.data).2.2 := rfl
  rw [changed, effects]
  -- The second change of protection covers the pages of the first.
  change ((((state.2.run (.protect _ _ .readWrite)).run (.copy _ _)).run (.protect _ _ .readExecute)).runAll flushes) page =
    _
  rw [Pages.runAll_flushes only]
  simp only [Pages.run]
  split <;> rfl

theorem AppendCall.permits_iff (apple : target.appleSilicon = true) :
    state.2.Permits (call.kind.run target state.1 call.data).2.2 ↔
      ∀ byte ∈ Words.extent (state.1.cursor target.usize) call.data.length,
        state.1.baseAddress / pageLength ≤ byte / pageLength ∧
          byte / pageLength ≤ (state.1.baseAddress + call.data.length - 1) / pageLength ∨
        state.2 (byte / pageLength) = .readWrite := by
  obtain ⟨flushes, only, effects⟩ := effects apple
  rw [effects]
  simp only [Pages.Permits, Pages.run, Pages.permits_flushes only, and_true]
  apply forall₂_congr
  intro byte inside
  have some_byte : 0 < call.data.length := by
    rw [Words.mem_extent] at inside
    omega
  by_cases touched : state.1.baseAddress / pageLength ≤ byte / pageLength ∧
      byte / pageLength ≤ (state.1.baseAddress + call.data.length - 1) / pageLength
  · simp [some_byte, touched]
  · simp only [some_byte, touched, true_and, if_false, false_or]

theorem Laid.run (laid : Laid target position executable state) (apple : target.appleSilicon = true)
    (room : position + call.data.length ≤ state.1.size.toNat) :
    Laid target (position + call.data.length) (max executable call.pages) (call.run target state) := by
  have advanced : (call.run target state).1 = state.1.advance call.data.length :=
    (call.kind.run_eq target state.1 call.data).2
  have inside : state.1.position.toNat + call.data.length ≤ state.1.size.toNat := by rw [laid.position_eq]; exact room
  constructor
  · rw [advanced]
    exact laid.sound.advance inside
  · rw [advanced]
    exact laid.aligned
  · rw [advanced, LocatorItem.advance_position inside, laid.position_eq]
  · rw [advanced]
    intro byte member
    have before := laid.pages byte member
    have aligned := laid.aligned
    have start : state.1.baseAddress ≤ byte := (Words.mem_extent.mp member).1
    rw [AppendCall.run_pages apple]
    change _ = if byte / pageLength < state.1.baseAddress / pageLength + max executable call.pages then _ else _
    unfold AppendCall.pages
    -- The pages that are protected start at the base, so they extend the executable ones or lie among them.
    by_cases touched : 0 < call.data.length ∧ state.1.baseAddress / pageLength ≤ byte / pageLength ∧
        byte / pageLength ≤ (state.1.baseAddress + call.data.length - 1) / pageLength
    · rw [if_pos touched, if_pos]
      unfold pageLength at *
      omega
    · rw [if_neg touched, before]
      have same : byte / pageLength < state.1.baseAddress / pageLength + executable ↔ byte / pageLength <
          state.1.baseAddress / pageLength + max executable ((call.data.length + pageLength - 1) / pageLength) := by
        unfold pageLength at *
        omega
      rw [if_congr same rfl rfl]

/-- Where the bytes of an append go, and what is known of their pages before. -/
theorem Laid.bytes (laid : Laid target position executable state)
    (room : position + call.data.length ≤ state.1.size.toNat) :
    state.1.cursor target.usize = state.1.baseAddress + position ∧
      ∀ byte ∈ Words.extent (state.1.baseAddress + position) call.data.length,
        (state.2 (byte / pageLength) = .readWrite ↔
          state.1.baseAddress / pageLength + executable ≤ byte / pageLength) ∧
        (state.2 (byte / pageLength) = .readExecute ↔
          byte / pageLength < state.1.baseAddress / pageLength + executable) := by
  constructor
  · rw [laid.sound.cursor_eq, laid.position_eq]
  · intro byte member
    have inside : byte ∈ Words.extent state.1.baseAddress state.1.size.toNat := by
      rw [Words.mem_extent] at member ⊢
      omega
    rw [laid.pages byte inside]
    split
    · rename_i low
      simp [low]
    · rename_i high
      simp [high, Nat.not_lt.mp high]

theorem Laid.covers (laid : Laid target position executable state) (apple : target.appleSilicon = true)
    (room : position + call.data.length ≤ state.1.size.toNat) (allowed : call.Allowed target state) :
    call.Covers position executable := by
  obtain ⟨cursor, bytes⟩ := laid.bytes room
  have writable := (AppendCall.permits_iff apple).mp allowed.writable
  have aligned := laid.aligned
  rw [cursor] at writable
  by_contra uncovered
  simp only [AppendCall.Covers, not_or, not_and, Nat.not_lt, Nat.not_le] at uncovered
  obtain ⟨some_data, beyond, taken⟩ := uncovered
  have some_byte : 0 < call.data.length := List.length_pos_iff.mpr some_data
  unfold AppendCall.pages at beyond taken
  by_cases code : call.kind = .code
  · -- The last byte of the code lies behind the pages that the append makes executable.
    have last : state.1.baseAddress + position + (call.data.length - 1) ∈
        Words.extent (state.1.baseAddress + position) call.data.length := by
      rw [Words.mem_extent]
      omega
    have executed := allowed.executable code
    rw [(call.kind.run_eq target state.1 call.data).1, cursor] at executed
    have ends := executed _ last
    rw [AppendCall.run_pages apple, if_neg (by unfold pageLength at *; omega)] at ends
    have low := (bytes _ last).2.mp ends
    have high := (writable _ last).resolve_left (by unfold pageLength at *; omega)
    have above := (bytes _ last).1.mp high
    omega
  · -- Some byte lies behind them too, in a page that an earlier append has made executable.
    have more := taken code
    have stuck : max (state.1.baseAddress + position)
        (state.1.baseAddress + (call.data.length + pageLength - 1) / pageLength * pageLength) ∈
        Words.extent (state.1.baseAddress + position) call.data.length := by
      rw [Words.mem_extent]
      unfold pageLength at *
      omega
    have high := (writable _ stuck).resolve_left (by unfold pageLength at *; omega)
    have above := (bytes _ stuck).1.mp high
    unfold pageLength at *
    omega

theorem Laid.allowed (laid : Laid target position executable state) (apple : target.appleSilicon = true)
    (room : position + call.data.length ≤ state.1.size.toNat) (covers : call.Covers position executable) :
    call.Allowed target state := by
  obtain ⟨cursor, bytes⟩ := laid.bytes room
  have aligned := laid.aligned
  have touched : ∀ byte ∈ Words.extent (state.1.baseAddress + position) call.data.length,
      (position + call.data.length - 1) / pageLength < call.pages →
      0 < call.data.length ∧ state.1.baseAddress / pageLength ≤ byte / pageLength ∧
        byte / pageLength ≤ (state.1.baseAddress + call.data.length - 1) / pageLength := by
    intro byte member covered
    rw [Words.mem_extent] at member
    unfold AppendCall.pages at covered
    unfold pageLength at *
    omega
  have nonempty : ∀ byte ∈ Words.extent (state.1.baseAddress + position) call.data.length, call.data ≠ [] := by
    intro byte member empty
    rw [Words.mem_extent, empty, List.length_nil] at member
    omega
  constructor
  · rw [AppendCall.permits_iff apple, cursor]
    intro byte member
    rcases covers with empty | covered | ⟨_, free⟩
    · exact absurd empty (nonempty byte member)
    · exact .inl (touched byte member covered).2
    · rw [(bytes byte member).1]
      rw [Words.mem_extent] at member
      unfold AppendCall.pages at free
      unfold pageLength at *
      omega
  · intro code byte member
    rw [(call.kind.run_eq target state.1 call.data).1, cursor] at member
    rw [AppendCall.run_pages apple, if_pos]
    rcases covers with empty | covered | ⟨data, _⟩
    · exact absurd empty (nonempty byte member)
    · exact touched byte member covered
    · exact absurd code data

/-- Within the first page the base and the cursor are the same. -/
theorem AppendCall.covers_first (first : position + call.data.length ≤ pageLength) :
    call.Covers position executable := by
  by_cases empty : call.data = []
  · exact .inl empty
  · have some_byte : 0 < call.data.length := List.length_pos_iff.mpr empty
    right
    left
    unfold pages pageLength at *
    omega

variable {calls : List AppendCall}

theorem AppendCall.appended_append (calls : List AppendCall) (call : AppendCall) :
    appended (calls ++ [call]) = appended calls + call.data.length := by
  simp [appended]

theorem AppendCall.executable_append (calls : List AppendCall) (call : AppendCall) :
    AppendCall.executable (calls ++ [call]) = max (AppendCall.executable calls) call.pages := by
  simp [AppendCall.executable]

theorem AppendCall.runAll_append (state : LocatorItem × Pages) (calls : List AppendCall) (call : AppendCall) :
    runAll target state (calls ++ [call]) = call.run target (runAll target state calls) := by
  simp [runAll]

theorem AppendCall.run_size (call : AppendCall) (state : LocatorItem × Pages) :
    (call.run target state).1.size = state.1.size := by
  have advanced : (call.run target state).1 = state.1.advance call.data.length :=
    (call.kind.run_eq target state.1 call.data).2
  rw [advanced]
  rfl

theorem Laid.runAll (laid : Laid target 0 0 state) (apple : target.appleSilicon = true)
    (room : AppendCall.appended calls ≤ state.1.size.toNat) :
    Laid target (AppendCall.appended calls) (AppendCall.executable calls) (AppendCall.runAll target state calls) ∧
      (AppendCall.runAll target state calls).1.size = state.1.size := by
  induction calls using List.reverseRecOn with
  | nil => exact ⟨laid, rfl⟩
  | append_singleton calls call ih =>
      rw [AppendCall.appended_append] at room
      obtain ⟨before, size⟩ := ih (by omega)
      rw [AppendCall.appended_append, AppendCall.executable_append, AppendCall.runAll_append, AppendCall.run_size]
      exact ⟨before.run apple (by rw [size]; exact room), size⟩

/-- A buffer fresh from the allocator, on writable pages. -/
theorem Laid.fresh (target : Target) {base : Nat} {size : UInt32} {pages : Pages} (aligned : base % pageLength = 0)
    (word : base + size.toNat < target.usize)
    (writable : ∀ byte ∈ Words.extent base size.toNat, pages (byte / pageLength) = .readWrite) :
    Laid target 0 0 (LocatorItem.new base size, pages) where
  sound := ⟨UInt32.le_iff_toNat_le.mpr (Nat.zero_le _), word⟩
  aligned := aligned
  position_eq := rfl
  pages byte member := by
    have start : base ≤ byte := (Words.mem_extent.mp member).1
    rw [if_neg]
    · exact writable byte member
    · rw [Nat.not_lt]
      exact Nat.div_le_div_right start

/-- Every append of a sequence meets the protection of the pages exactly when every one
of them covers the pages it writes. -/
theorem appends_allowed_iff (apple : target.appleSilicon = true) {base : Nat} {size : UInt32} {pages : Pages}
    (aligned : base % pageLength = 0) (word : base + size.toNat < target.usize)
    (writable : ∀ byte ∈ Words.extent base size.toNat, pages (byte / pageLength) = .readWrite)
    (room : AppendCall.appended calls ≤ size.toNat) :
    (∀ before call after, calls = before ++ call :: after →
      call.Allowed target (AppendCall.runAll target (LocatorItem.new base size, pages) before)) ↔
      ∀ before call after, calls = before ++ call :: after →
        call.Covers (AppendCall.appended before) (AppendCall.executable before) := by
  have each : ∀ before call after, calls = before ++ call :: after →
      (call.Allowed target (AppendCall.runAll target (LocatorItem.new base size, pages) before) ↔
        call.Covers (AppendCall.appended before) (AppendCall.executable before)) := by
    intro before call after split
    have total : AppendCall.appended before + call.data.length ≤ size.toNat := by
      have parts : AppendCall.appended calls =
          AppendCall.appended before + (call.data.length + AppendCall.appended after) := by
        simp [split, AppendCall.appended]
      omega
    obtain ⟨laid, same⟩ := (Laid.fresh target aligned word writable).runAll apple
      (Nat.le_trans (Nat.le_add_right _ _) total)
    have fits : AppendCall.appended before + call.data.length ≤
        (AppendCall.runAll target (LocatorItem.new base size, pages) before).1.size.toNat := by
      rw [same]
      exact total
    exact ⟨laid.covers apple fits, laid.allowed apple fits⟩
  constructor
  · intro allowed before call after split
    exact (each before call after split).mp (allowed before call after split)
  · intro covers before call after split
    exact (each before call after split).mpr (covers before call after split)

/-- Apple silicon, with its pages of 16 KiB. -/
def appleTarget : Target := ⟨.bits64, .macos, .aarch64, ⟨0x7FFFFFFFFFFF, 16384, 16384, 1⟩⟩

theorem appends_allowed_iff_first : AppendCall.Allowed appleTarget ⟨.code, [0x90, 0xC3]⟩
    (AppendCall.runAll appleTarget (LocatorItem.new 0x10000 32768, fun _ => .readWrite) [⟨.bytes, [1, 2, 3]⟩]) := by
  have all := (@appends_allowed_iff appleTarget [⟨.bytes, [1, 2, 3]⟩, ⟨.code, [0x90, 0xC3]⟩] (by decide) 0x10000 32768
    (fun _ => .readWrite) (by decide) (by decide) (fun _ _ => rfl) (by decide)).mpr
  apply all _ [⟨.bytes, [1, 2, 3]⟩] ⟨.code, [0x90, 0xC3]⟩ [] rfl
  intro before call after split
  have total := congrArg AppendCall.appended split
  have parts : AppendCall.appended (before ++ call :: after) =
      AppendCall.appended before + (call.data.length + AppendCall.appended after) := by
    simp [AppendCall.appended]
  have small : AppendCall.appended [⟨.bytes, [1, 2, 3]⟩, ⟨.code, [0x90, 0xC3]⟩] = 5 := rfl
  apply AppendCall.covers_first
  unfold pageLength
  omega

/-- One page and a byte of data, and then code behind it: the page at the cursor has
become executable, and only the page at the base is made writable. -/
theorem not_allowed_behind {data : List UInt8} (length : data.length = 16385) :
    ¬ AppendCall.Allowed appleTarget ⟨.code, [0x90, 0xC3]⟩
      (AppendCall.runAll appleTarget (LocatorItem.new 0x10000 32768, fun _ => .readWrite) [⟨.bytes, data⟩]) := by
  have filled : AppendCall.appended [⟨.bytes, data⟩] = 16385 := by
    simp only [AppendCall.appended, List.map_cons, List.map_nil, List.sum_cons, List.sum_nil, length,
      Nat.add_zero]
  have pages : AppendCall.executable [⟨.bytes, data⟩] = 2 := by
    simp only [AppendCall.executable, AppendCall.pages, List.map_cons, List.map_nil, List.foldl_cons, List.foldl_nil,
      length]
    decide
  have fresh : Laid appleTarget 0 0 (LocatorItem.new 0x10000 32768, fun _ => .readWrite) :=
    .fresh appleTarget (by decide) (by decide) (fun _ _ => rfl)
  obtain ⟨laid, same⟩ := @Laid.runAll _ _ [⟨.bytes, data⟩] fresh (by decide) (by rw [filled]; decide)
  intro allowed
  have covers := laid.covers (by decide) (by rw [same, filled]; decide) allowed
  rw [filled, pages] at covers
  exact absurd covers (by unfold AppendCall.Covers; decide)

theorem appends_faulting : ¬ AppendCall.Allowed appleTarget ⟨.code, [0x90, 0xC3]⟩
    (AppendCall.runAll appleTarget (LocatorItem.new 0x10000 32768, fun _ => .readWrite)
      [⟨.bytes, List.replicate 16385 0⟩]) :=
  not_allowed_behind List.length_replicate

end ReloadedBuffers
