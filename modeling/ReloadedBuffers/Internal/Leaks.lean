import ReloadedBuffers.Internal.Postcondition
import ReloadedBuffers.Internal.WindowsFreeSpace

/-! What an allocation maps and does not return. A misplaced mapping is given back, so
only two answers lose memory: a mapping at address zero on Linux, which is taken for a
failure, and a mapping elsewhere on Windows, which `VirtualFree` does not release when it
is told a size.
-/

set_option autoImplicit false

namespace ReloadedBuffers

section

variable {before middle after leaks more gained taken : Set Nat}

/-- From `before` to `after` exactly the bytes of `leaks` and of `gained` were added. -/
structure Balance (before after leaks gained : Set Nat) : Prop where
  fresh : Disjoint leaks before
  separate : Disjoint gained (before ∪ leaks)
  total : after = before ∪ leaks ∪ gained

theorem Balance.same (same : after = before) : Balance before after ∅ ∅ where
  fresh := Set.empty_disjoint _
  separate := Set.empty_disjoint _
  total := by simp [same]

theorem Balance.leaked (fresh : Disjoint taken before) (total : after = before ∪ taken) :
    Balance before after taken ∅ where
  fresh := fresh
  separate := Set.empty_disjoint _
  total := by simp [total]

theorem Balance.kept (fresh : Disjoint taken before) (total : after = before ∪ taken) :
    Balance before after ∅ taken where
  fresh := Set.empty_disjoint _
  separate := by simpa using fresh
  total := by simp [total]

/-- Taken and given back. -/
theorem Balance.returned (fresh : Disjoint taken before) (total : middle = before ∪ taken)
    (released : after = middle \ taken) : Balance before after ∅ ∅ := by
  apply Balance.same
  rw [released, total, Set.union_sdiff_right]
  exact fresh.symm.sdiff_eq_left

theorem Balance.trans (first : Balance before middle leaks ∅) (second : Balance middle after more gained) :
    Balance before after (more ∪ leaks) gained := by
  obtain ⟨fresh, _, rfl⟩ := first
  obtain ⟨later, separate, rfl⟩ := second
  simp only [Set.union_empty, Set.disjoint_union_right] at later separate ⊢
  obtain ⟨⟨away, apart⟩, beside⟩ := separate
  refine ⟨Set.disjoint_union_left.mpr ⟨later.1, fresh⟩, ?_, ?_⟩
  · exact Set.disjoint_union_right.mpr ⟨away, Set.disjoint_union_right.mpr ⟨beside, apart⟩⟩
  · rw [Set.union_comm more leaks, ← Set.union_assoc]

/-- Nothing but the gain was added exactly when nothing was lost. -/
theorem Balance.settled_iff (balance : Balance before after leaks gained) :
    after = before ∪ gained ↔ leaks = ∅ := by
  obtain ⟨fresh, separate, rfl⟩ := balance
  constructor
  · intro settled
    apply Set.eq_empty_of_forall_notMem
    intro byte lost
    have inside : byte ∈ before ∪ gained := settled ▸ .inl (.inr lost)
    rcases inside with old | new
    · exact Set.disjoint_left.mp fresh lost old
    · exact Set.disjoint_left.mp separate new (.inr lost)
  · rintro rfl
    rw [Set.union_empty]

end

/-- The call was answered with a mapping that neither is returned nor can be released. -/
def SystemCall.Leaks : SystemCall → Prop
  | .mmap _ length answer => answer = 0 ∧ 0 < length
  | .virtualAlloc address length answer => answer ≠ 0 ∧ answer ≠ address ∧ 0 < length
  | _ => False

/-- The bytes of that mapping. -/
def SystemCall.leaked : SystemCall → Set Nat
  | .mmap _ length answer => if answer = 0 then Words.extent answer length else ∅
  | .virtualAlloc address length answer =>
    if answer ≠ 0 ∧ answer ≠ address then Words.extent answer length else ∅
  | _ => ∅

theorem Words.extent_eq_empty_iff {start length : Nat} : Words.extent start length = ∅ ↔ length = 0 := by
  simp [Words.extent, Set.Ico_eq_empty_iff]

theorem SystemCall.leaked_eq_empty_iff (call : SystemCall) : call.leaked = ∅ ↔ ¬ call.Leaks := by
  cases call with
  | mmap address length answer =>
      by_cases null : answer = 0 <;> simp [leaked, Leaks, null, Words.extent_eq_empty_iff]
  | virtualAlloc address length answer =>
      by_cases elsewhere : answer ≠ 0 ∧ answer ≠ address
      · simp [leaked, Leaks, elsewhere, Words.extent_eq_empty_iff]
      · simp only [leaked, Leaks, if_neg elsewhere, true_iff]
        exact fun leaks => elsewhere ⟨leaks.1, leaks.2.1⟩
  | _ => simp [leaked, Leaks]

def leaked (log : List SystemCall) : Set Nat := {byte | ∃ call ∈ log, byte ∈ call.leaked}

@[simp] theorem leaked_nil : leaked [] = ∅ := by simp [leaked]

@[simp] theorem leaked_append (recent past : List SystemCall) : leaked (recent ++ past) = leaked recent ∪ leaked past := by
  ext byte
  simp [leaked, or_and_right, exists_or]

theorem leaked_singleton (call : SystemCall) : leaked [call] = call.leaked := by simp [leaked]

theorem leaked_eq_empty_iff (log : List SystemCall) : leaked log = ∅ ↔ ∀ call ∈ log, ¬ call.Leaks := by
  simp only [← SystemCall.leaked_eq_empty_iff, leaked, Set.eq_empty_iff_forall_notMem, Set.mem_ofPred_eq]
  grind

/-- The bytes of an item that was obtained. -/
def gained : Option LocatorItem → Set Nat
  | none => ∅
  | some item => Words.extent item.baseAddress item.size.toNat

variable {σ : Type}

/-- The memory that is mapped later, by what was mapped before, by the answers to the
calls in between and by what they gained. -/
def Accounted (mapped : σ → Set Nat) (world last : Logged σ) (obtained : Set Nat) : Prop :=
  ∃ recent, last.calls = recent ++ world.calls ∧
    Balance (mapped world.system) (mapped last.system) (leaked recent) obtained

section

variable {mapped : σ → Set Nat} {world next last : Logged σ} {obtained : Set Nat}

theorem Accounted.refl (world : Logged σ) : Accounted mapped world world ∅ :=
  ⟨[], rfl, by simpa using Balance.same rfl⟩

theorem Accounted.trans (first : Accounted mapped world next ∅) (later : Accounted mapped next last obtained) :
    Accounted mapped world last obtained := by
  obtain ⟨recent, calls, balance⟩ := first
  obtain ⟨more, since, second⟩ := later
  refine ⟨more ++ recent, by rw [since, calls, List.append_assoc], ?_⟩
  rw [leaked_append]
  exact balance.trans second

theorem Accounted.walkRule {α : Type} (mapped : σ → Set Nat) (gain : Option α → Set Nat) (nothing : gain none = ∅) :
    WalkRule fun before result after => Accounted mapped before after (gain result) where
  idle world := nothing ▸ .refl world
  again _ _ _ _ first later := (nothing ▸ first).trans later

/-- One call that is answered. -/
theorem Accounted.call {α : Type} {ask : σ → α × σ} {entry : α → SystemCall}
    (balance : Balance (mapped world.system) (mapped (ask world.system).2) (entry (ask world.system).1).leaked
      obtained) : Accounted mapped world (Logged.call ask entry world).2 obtained :=
  ⟨[entry (ask world.system).1], rfl, by rwa [leaked_singleton]⟩

/-- One call that is answered, and what was answered is given back. -/
theorem Accounted.call_tell {α : Type} {ask : σ → α × σ} {entry : α → SystemCall} {act : α → σ → σ}
    {release : α → SystemCall} (silent : ∀ answer, (release answer).leaked = ∅)
    (balance : Balance (mapped world.system) (mapped (act (ask world.system).1 (ask world.system).2))
      (entry (ask world.system).1).leaked obtained) :
    Accounted mapped world (Logged.tell (act (Logged.call ask entry world).1) (release (Logged.call ask entry world).1)
      (Logged.call ask entry world).2) obtained := by
  refine ⟨[release (ask world.system).1, entry (ask world.system).1], rfl, ?_⟩
  have both : leaked [release (ask world.system).1, entry (ask world.system).1] =
      (entry (ask world.system).1).leaked := by simp [leaked, silent]
  rwa [both]

/-- A call whose answer maps nothing. -/
theorem Accounted.asked {α : Type} {ask : σ → α × σ} {entry : α → SystemCall} (silent : ∀ answer, (entry answer).leaked = ∅)
    (same : mapped (ask world.system).2 = mapped world.system) :
    Accounted mapped world (Logged.call ask entry world).2 ∅ :=
  .call (by rw [silent]; exact Balance.same same)

/-- What one request does to the mapped memory, and the release of an answer elsewhere. -/
structure Attempts (mapped : σ → Set Nat) (length : Nat) (ask : Nat → σ → Nat × σ) (give : Nat → σ → σ)
    (asked : Nat → Nat → SystemCall) (given : Nat → SystemCall) (address : Nat) : Prop where
  null : ∀ system, (ask address system).1 = 0 →
    Balance (mapped system) (mapped (ask address system).2) (asked address 0).leaked ∅
  elsewhere : ∀ system, (ask address system).1 ≠ 0 → (ask address system).1 ≠ address →
    Balance (mapped system) (mapped (give (ask address system).1 (ask address system).2))
      (asked address (ask address system).1).leaked ∅
  here : ∀ system, (ask address system).1 = address → address ≠ 0 →
    Balance (mapped system) (mapped (ask address system).2) (asked address address).leaked
      (Words.extent address length)
  silent : ∀ answer, (given answer).leaked = ∅

variable {length : Nat} {ask : Nat → σ → Nat × σ} {give : Nat → σ → σ} {asked : Nat → Nat → SystemCall}
  {given : Nat → SystemCall}

theorem tryCandidates_accounted {candidates : List Nat}
    (attempts : ∀ address ∈ candidates, Attempts mapped length ask give asked given address)
    {result : Option Nat}
    (run : tryCandidates (fun address => Logged.call (ask address) (asked address))
      (fun address => Logged.tell (give address) (given address)) candidates world = (result, last)) :
    Accounted mapped world last (result.elim ∅ (Words.extent · length)) := by
  refine (Accounted.walkRule mapped (·.elim ∅ (Words.extent · length)) rfl).tryCandidates ?_ ?_ ?_ run
  · intro address member start null
    have balance := (attempts address member).null start.system null
    exact Accounted.call (null ▸ balance)
  · intro address member start nonzero elsewhere
    have attempt := attempts address member
    exact Accounted.call_tell attempt.silent (attempt.elsewhere start.system nonzero elsewhere)
  · intro address member start here nonzero
    have balance := (attempts address member).here start.system here nonzero
    have answer : (ask address start.system).1 = address := here
    apply Accounted.call
    rwa [answer]

end

/-- The calls of the Linux back end in terms of the memory they map. A request may fail,
or be answered anywhere; `munmap` releases the range it is given, which `MAP_FAILED` is
not the start of. -/
structure LinuxCalls.Tracks (calls : LinuxCalls σ) (usize : Nat) (mapped : σ → Set Nat) : Prop where
  words : ∀ processId system regions next, calls.memoryMap processId system = some (regions, next) →
    ∀ entry ∈ regions, entry.startAddress < usize ∧ entry.endAddress < usize
  reads : ∀ processId system regions next, calls.memoryMap processId system = some (regions, next) →
    mapped next = mapped system
  failed : ∀ address length system, (calls.mmap address length system).1 = mapFailed usize →
    mapped (calls.mmap address length system).2 = mapped system
  made : ∀ address length system, (calls.mmap address length system).1 ≠ mapFailed usize →
    Disjoint (Words.extent (calls.mmap address length system).1 length) (mapped system) ∧
    mapped (calls.mmap address length system).2 =
      mapped system ∪ Words.extent (calls.mmap address length system).1 length
  released : ∀ address length system, address ≠ mapFailed usize →
    mapped (calls.munmap address length system) = mapped system \ Words.extent address length
  ignored : ∀ length system, mapped (calls.munmap (mapFailed usize) length system) = mapped system

/-- The calls of the Windows back end in terms of the memory they map. `VirtualFree` fails
without an effect unless the size it is given is zero. -/
structure WindowsCalls.Tracks (calls : WindowsCalls σ) (mapped : σ → Set Nat) : Prop where
  opens : ∀ processId system, mapped (calls.openProcess processId system).2 = mapped system
  wow64 : ∀ processId system, mapped (calls.isWow64Process processId system).2 = mapped system
  queries : ∀ address system, mapped (calls.virtualQuery address system).2 = mapped system
  failed : ∀ address length system, (calls.virtualAlloc address length system).1 = 0 →
    mapped (calls.virtualAlloc address length system).2 = mapped system
  made : ∀ address length system, (calls.virtualAlloc address length system).1 ≠ 0 →
    Disjoint (Words.extent (calls.virtualAlloc address length system).1 length) (mapped system) ∧
    mapped (calls.virtualAlloc address length system).2 =
      mapped system ∪ Words.extent (calls.virtualAlloc address length system).1 length
  empty : ∀ address system, (calls.virtualAlloc address 0 system).1 = 0
  kept : ∀ address length system, length ≠ 0 → mapped (calls.virtualFree address length system) = mapped system

def Os.Tracks (os : Os σ) (target : Target) (mapped : σ → Set Nat) : Prop :=
  match target.os with
  | .linux => os.linux.Tracks target.usize mapped
  | .windows => os.windows.Tracks mapped
  | .macos => False

variable {mapped : σ → Set Nat} {target : Target} {settings : BufferAllocatorSettings} {world last : Logged σ}
  {result : Option LocatorItem}

theorem gained_new (length : UInt32) (allocated : Option Nat) :
    gained (allocated.map (LocatorItem.new · length)) = allocated.elim ∅ (Words.extent · length.toNat) := by
  cases allocated <;> rfl

theorem gained_rule (mapped : σ → Set Nat) :
    WalkRule fun before result after => Accounted mapped before after (gained result) :=
  Accounted.walkRule mapped gained rfl

namespace BufferAllocatorLinux

variable {calls : LinuxCalls σ}

theorem attempts (tracks : calls.Tracks target.usize mapped) {address : Nat}
    (proper : address ≠ mapFailed target.usize) (length : Nat) :
    Attempts mapped length (calls.mmap · length) (calls.munmap · length) (.mmap · length) (.munmap · length) address where
  null system null := by
    -- Address zero is no failure of `mmap`: the mapping was made, and is forgotten.
    have live : (calls.mmap address length system).1 ≠ mapFailed target.usize := by
      have wide := target.u32_le_usize
      unfold mapFailed
      omega
    obtain ⟨fresh, total⟩ := tracks.made address length system live
    rw [null] at fresh total
    exact .leaked fresh total
  elsewhere system nonzero _ := by
    simp only [SystemCall.leaked, if_neg nonzero]
    by_cases failed : (calls.mmap address length system).1 = mapFailed target.usize
    · apply Balance.same
      rw [failed, tracks.ignored]
      exact tracks.failed _ _ _ failed
    · obtain ⟨fresh, total⟩ := tracks.made address length system failed
      exact .returned fresh total (tracks.released _ _ _ failed)
  here system same nonzero := by
    simp only [SystemCall.leaked, if_neg nonzero]
    have live : (calls.mmap address length system).1 ≠ mapFailed target.usize := by rwa [same]
    obtain ⟨fresh, total⟩ := tracks.made address length system live
    rw [same] at fresh total
    exact .kept fresh total
  silent _ := rfl

theorem tryAllocateBuffer_accounted (tracks : calls.Tracks target.usize mapped) {entry : MemoryMapEntry}
    (proper : ∀ address ∈ candidates target settings entry, address ≠ mapFailed target.usize)
    (run : tryAllocateBuffer target calls.logged settings entry world = (result, last)) :
    Accounted mapped world last (gained result) := by
  cases run
  rw [gained_new]
  exact tryCandidates_accounted (fun address member => attempts tracks (proper address member) settings.size.toNat) rfl

end BufferAllocatorLinux

theorem allocateLinux_accounted {calls : LinuxCalls σ} (tracks : calls.Tracks target.usize mapped)
    (booted : target.Booted) (tells : target.TellsFailure) (posix : target.os ≠ .windows)
    (minimum : settings.minAddress < target.usize) (maximum : settings.maxAddress < target.usize)
    (run : allocateLinux target calls.logged settings world = some (result, last)) :
    Accounted mapped world last (gained result) := by
  refine allocateLinux_rule (gained_rule mapped) ?_ ?_ run
  · intro start regions next read
    obtain ⟨system, asked, rfl⟩ := Logged.ask_eq_some.mp read
    exact ⟨[.memoryMap regions], rfl, by rw [leaked_singleton]; exact Balance.same (tracks.reads _ _ _ _ asked)⟩
  · intro system regions after read region member start found next tried
    obtain ⟨reached, asked, rfl⟩ := Logged.ask_eq_some.mp read
    refine BufferAllocatorLinux.tryAllocateBuffer_accounted tracks (fun address listed => ?_) tried
    exact BufferAllocatorLinux.candidate_ne_mapFailed booted tells (booted.maxAddress_lt · posix)
      (booted.maxAddress_word posix) minimum maximum (tracks.words _ _ _ _ asked) member listed

namespace BufferAllocatorWindows

variable {calls : WindowsCalls σ}

theorem attempts (tracks : calls.Tracks mapped) (address length : Nat) :
    Attempts mapped length (calls.virtualAlloc · length) (calls.virtualFree · length) (.virtualAlloc · length)
      (.virtualFree · length) address where
  null system null := by
    simp only [SystemCall.leaked, ne_eq, not_true_eq_false, false_and, if_false]
    exact .same (tracks.failed _ _ _ null)
  elsewhere system nonzero elsewhere := by
    obtain ⟨fresh, total⟩ := tracks.made address length system nonzero
    have positive : length ≠ 0 := by
      rintro rfl
      exact nonzero (tracks.empty address system)
    simp only [SystemCall.leaked, if_pos (And.intro nonzero elsewhere)]
    -- The release is refused: the mapping stays.
    exact .leaked fresh ((tracks.kept _ _ _ positive).trans total)
  here system same nonzero := by
    obtain ⟨fresh, total⟩ := tracks.made address length system (fun null => nonzero (same.symm.trans null))
    rw [same] at fresh total
    simp only [SystemCall.leaked, ne_eq, not_true_eq_false, and_false, if_false]
    exact .kept fresh total
  silent _ := rfl

theorem tryAllocateBuffer_accounted (tracks : calls.Tracks mapped) {info : MemoryBasicInformation}
    (run : tryAllocateBuffer target calls.logged settings info world = (result, last)) :
    Accounted mapped world last (gained result) := by
  unfold tryAllocateBuffer at run
  split at run
  · cases run
    exact .refl _
  · cases run
    rw [gained_new]
    exact tryCandidates_accounted (fun address _ => attempts tracks address settings.size.toNat) rfl

end BufferAllocatorWindows

theorem allocateWindows_accounted {calls : WindowsCalls σ} (tracks : calls.Tracks mapped) {fuel : Nat}
    {result : Except String LocatorItem}
    (run : allocateWindows target calls.logged fuel settings world = some (result, last)) :
    Accounted mapped world last (gained result.toOption) := by
  have queried : ∀ address start, Accounted mapped start (calls.logged.virtualQuery address start).2 ∅ :=
    fun _ _ => .asked (fun _ => rfl) (tracks.queries _ _)
  refine allocateWindows_rule ⟨gained_rule mapped, queried, ?_⟩ ?_ ?_ run
  · intro address start info next found after answer tried
    have asked := queried address start
    rw [answer] at asked
    exact asked.trans (BufferAllocatorWindows.tryAllocateBuffer_accounted tracks tried)
  · exact fun _ => .asked (fun _ => rfl) (tracks.opens _ _)
  · exact fun _ => .asked (fun _ => rfl) (tracks.wow64 _ _)

/-- Every byte that is mapped after an allocation was mapped before, belongs to the item
that is returned, or was lost by one of the calls. -/
theorem allocate_accounted {os : Os σ} (tracks : os.Tracks target mapped) (booted : target.Booted)
    (tells : target.TellsFailure) (minimum : settings.minAddress < target.usize)
    (maximum : settings.maxAddress < target.usize) {fuel : Nat} {result : Except BufferAllocationError LocatorItem}
    (run : allocate target os.logged fuel settings world = some (result, last)) :
    Accounted mapped world last (gained result.toOption) := by
  have lower := BufferAllocatorSettings.sanitize_minAddress_lt target minimum booted.granularity_lt
  have allocated := allocate_cases run
  unfold Os.Tracks at tracks
  cases system : target.os with
  | linux =>
      simp only [system] at allocated tracks
      exact allocateLinux_accounted tracks booted tells (by simp [system]) lower maximum allocated
  | windows =>
      simp only [system] at allocated tracks
      obtain ⟨found, allocated, same⟩ := allocated
      rw [same]
      exact allocateWindows_accounted tracks allocated
  | macos => simp only [system] at tracks

/-- An allocation maps the item it returns and nothing else, exactly when none of its
requests was answered at zero on Linux or elsewhere on Windows. -/
theorem allocate_settled_iff {os : Os σ} (tracks : os.Tracks target mapped) (booted : target.Booted)
    (tells : target.TellsFailure) (minimum : settings.minAddress < target.usize)
    (maximum : settings.maxAddress < target.usize) {fuel : Nat} {system : σ}
    {result : Except BufferAllocationError LocatorItem}
    (run : allocate target os.logged fuel settings ⟨system, []⟩ = some (result, last)) :
    (mapped last.system =
      match result with
      | .ok item => mapped system ∪ Words.extent item.baseAddress item.size.toNat
      | .error _ => mapped system) ↔ ∀ call ∈ last.calls, ¬ call.Leaks := by
  obtain ⟨recent, calls, balance⟩ := allocate_accounted tracks booted tells minimum maximum run
  rw [List.append_nil] at calls
  rw [calls, ← leaked_eq_empty_iff, ← balance.settled_iff]
  cases result with
  | ok item => exact Iff.rfl
  | error reason => simp [Except.toOption, gained]

inductive MappingStep where
  | made (address length : Nat)
  | released (address length : Nat)

/-- What a history of mappings, the latest first, leaves mapped. -/
def mappedBy : List MappingStep → Set Nat
  | [] => ∅
  | .made address length :: past => mappedBy past ∪ Words.extent address length
  | .released address length :: past => mappedBy past \ Words.extent address length

/-- The first request is served, at address zero on Linux and at `elsewhere` on Windows,
and all later ones are refused. -/
def misplacingOs (elsewhere : Nat) : Os (List MappingStep) where
  linux :=
    { memoryMap := fun _ past => some ([⟨0x10000, 0x7FFFFFFFFFFF⟩], past)
      mmap := fun _ length past => if past.isEmpty then (0, [.made 0 length]) else (mapFailed (2 ^ 64), past)
      munmap := fun address length past =>
        if address = mapFailed (2 ^ 64) then past else .released address length :: past }
  windows :=
    { openProcess := fun _ past => (true, past)
      isWow64Process := fun _ past => (some false, past)
      virtualQuery := fun address past => (if address < 0x40000 then some ⟨0x30000, 0x10000, true⟩ else none, past)
      virtualAlloc := fun _ length past =>
        if past.isEmpty ∧ length ≠ 0 then (elsewhere, [.made elsewhere length]) else (0, past)
      virtualFree := fun address length past => if length = 0 then .released address length :: past else past }
  macos := ⟨fun _ past => (.failure, past), fun _ _ past => (none, past), fun _ _ past => (false, past),
    fun _ _ past => past⟩
  alloc _ _ past := (0, past)
  raw _ _ := ⟨0, 0, 0, 0, 0, fun _ => ⟨0, 0, 0, 0⟩⟩

theorem misplacingOs_linux (elsewhere : Nat) : (misplacingOs elsewhere).Tracks smallTarget mappedBy := by
  refine ⟨?_, ?_, ?_, ?_, ?_, fun _ _ => rfl⟩
  · intro _ _ _ _ read entry member
    cases read
    obtain rfl := List.mem_singleton.mp member
    decide
  · intro _ _ _ _ read
    cases read
    rfl
  · intro address length past failed
    cases past with
    | nil =>
        have live : 0 ≠ mapFailed (2 ^ 64) := by decide
        exact absurd failed live
    | cons step past => rfl
  · intro address length past made
    cases past with
    | nil => exact ⟨Set.disjoint_empty _, rfl⟩
    | cons step past => exact absurd rfl made
  · intro address length past live
    have other : ¬ address = mapFailed (2 ^ 64) := live
    simp only [misplacingOs, if_neg other, mappedBy]

theorem misplacingOs_windows {elsewhere : Nat} (nonzero : elsewhere ≠ 0) :
    (misplacingOs elsewhere).Tracks windowsTarget mappedBy := by
  refine ⟨fun _ _ => rfl, fun _ _ => rfl, fun _ _ => rfl, ?_, ?_, ?_, ?_⟩
  · intro address length past failed
    simp only [misplacingOs] at failed ⊢
    split at failed
    · exact absurd failed nonzero
    · rename_i refused
      rw [if_neg refused]
  · intro address length past made
    simp only [misplacingOs] at made ⊢
    split at made
    · rename_i served
      obtain rfl := List.isEmpty_iff.mp served.1
      rw [if_pos served]
      exact ⟨Set.disjoint_empty _, rfl⟩
    · exact absurd rfl made
  · exact fun _ _ => by simp [misplacingOs]
  · intro address length past positive
    simp only [misplacingOs, if_neg positive]

theorem allocate_settled_misplaced : ∃ error last,
    allocate windowsTarget (misplacingOs 0x50000).logged 2 (lowSettings 0x30000) ⟨[], []⟩ = some (.error error, last) ∧
    (mappedBy last.system = mappedBy [] ↔ ∀ call ∈ last.calls, ¬ call.Leaks) := by
  have run : ∃ error last, allocate windowsTarget (misplacingOs 0x50000).logged 2 (lowSettings 0x30000) ⟨[], []⟩ =
      some (.error error, last) := ⟨_, _, rfl⟩
  obtain ⟨error, last, run⟩ := run
  exact ⟨error, last, run, allocate_settled_iff (misplacingOs_windows (by decide)) windowsTarget_booted (.inl rfl)
    (by decide) (by decide) run⟩

/-- Both systems keep a mapping although the allocation fails. -/
theorem allocate_leaks :
    ((misplacingOs 0x50000).Tracks windowsTarget mappedBy ∧ ∃ error last,
      allocate windowsTarget (misplacingOs 0x50000).logged 2 (lowSettings 0x30000) ⟨[], []⟩ =
        some (.error error, last) ∧ mappedBy last.system ≠ mappedBy []) ∧
    (misplacingOs 0x50000).Tracks smallTarget mappedBy ∧ ∃ error last,
      allocate smallTarget (misplacingOs 0x50000).logged 0 (BufferAllocatorSettings.new smallTarget) ⟨[], []⟩ =
        some (.error error, last) ∧ mappedBy last.system ≠ mappedBy [] := by
  constructor
  · refine ⟨misplacingOs_windows (by decide), _, _, rfl, fun same => ?_⟩
    have inside : 0x50000 ∈ mappedBy [.made 0x50000 0x10000] := .inr ⟨by decide, by decide⟩
    exact absurd (same ▸ inside) (Set.notMem_empty _)
  · refine ⟨misplacingOs_linux _, _, _, rfl, fun same => ?_⟩
    have inside : 0 ∈ mappedBy [.made 0 0x1000] := .inr ⟨by decide, by decide⟩
    exact absurd (same ▸ inside) (Set.notMem_empty _)

end ReloadedBuffers
