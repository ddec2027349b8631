import ReloadedBuffers.Buffers.Packing
import ReloadedBuffers.Buffers.Visits
import ReloadedBuffers.Internal.Returning

/-! A search returns. It leaves full locators only, and the one it may create is not
full, so it visits every locator of the chain once at most and one new one behind it.
-/

set_option autoImplicit false

namespace ReloadedBuffers

theorem LocatorHeader.lock_of_free {header : LocatorHeader} (free : header.isLocked = 0) :
    header.lock = some { header with isLocked := 1 } := by
  simp [lock, tryLock, free]

theorem LocatorItem.lock_of_free {item : LocatorItem} (free : item.isTaken = 0) :
    item.lock = some { item with isTaken := 1 } := by
  simp [lock, tryLock, free]

/-- Memory is asked for from the global allocator: only for a new locator. -/
def SystemCall.creates : SystemCall → Bool
  | .alloc _ _ _ => true
  | _ => false

namespace Logged

variable {σ α : Type}

def creations (world : Logged σ) : Nat := world.calls.countP SystemCall.creates

theorem creations_call {ask : σ → α × σ} {entry : α → SystemCall} (world : Logged σ)
    (silent : ∀ answer, (entry answer).creates = false) : (call ask entry world).2.creations = world.creations := by
  simp [creations, call, silent]

theorem creations_tell {act : σ → σ} {entry : SystemCall} (world : Logged σ) (silent : entry.creates = false) :
    (tell act entry world).creations = world.creations := by
  simp [creations, tell, silent]

end Logged

variable {σ : Type} {target : Target} {os : Os σ}

theorem Os.Called.creations {before after : Logged σ} (called : os.logged.Called target before after) :
    after.creations = before.creations := by
  unfold Os.Called at called
  cases system : target.os with
  | linux =>
      simp only [system] at called
      cases called with
      | memoryMap read =>
          obtain ⟨system, _, rfl⟩ := Logged.ask_eq_some.mp read
          rfl
      | mmap => exact Logged.creations_call _ fun _ => rfl
      | munmap => exact Logged.creations_tell _ rfl
  | windows =>
      simp only [system] at called
      cases called with
      | openProcess => exact Logged.creations_call _ fun _ => rfl
      | isWow64Process => exact Logged.creations_call _ fun _ => rfl
      | virtualQuery => exact Logged.creations_call _ fun _ => rfl
      | virtualAlloc => exact Logged.creations_call _ fun _ => rfl
      | virtualFree => exact Logged.creations_tell _ rfl
  | macos =>
      simp only [system] at called
      cases called with
      | machVmRegion => exact Logged.creations_call _ fun _ => rfl
      | machVmAllocate => exact Logged.creations_call _ fun _ => rfl
      | machVmProtect => exact Logged.creations_call _ fun _ => rfl
      | machVmDeallocate => exact Logged.creations_tell _ rfl

/-- An allocation maps memory for an item. It creates no locator. -/
theorem allocate_creations {fuel : Nat} {settings : BufferAllocatorSettings} {world last : Logged σ}
    {result : Except BufferAllocationError LocatorItem}
    (run : allocate target os.logged fuel settings world = some (result, last)) : last.creations = world.creations := by
  have called := allocate_called run
  clear run
  induction called with
  | refl => rfl
  | tail _ called ih => exact (Os.Called.creations called).trans ih

namespace Buffers

section

variable {before after : World (Logged σ)} {fuel locator : Nat} {settings : BufferSearchSettings}

theorem getNextLocator_creations {result : Except String Nat}
    (run : getNextLocator target os.logged locator before = some (result, after)) :
    ∃ header, before.locators locator = some header ∧
      (after.os.creations = before.os.creations ∨
        after.os.creations = before.os.creations + 1 ∧ header.nextLocatorPtr = 0) := by
  obtain ⟨header, found, ⟨_, _, rfl⟩ | ⟨ended, _, address, answer, _⟩⟩ := getNextLocator_steps run
  · exact ⟨header, found, .inl rfl⟩
  · have asked : after.os = (os.logged.alloc target.granularity target.sysInfo.pageSize before.os).2 := by rw [answer]
    refine ⟨header, found, .inr ⟨?_, ended⟩⟩
    rw [asked]
    exact List.countP_cons_of_pos rfl

theorem passed_creations {header scanned : LocatorHeader} {middle next : World (Logged σ)} {result : Except String Nat}
    (missed : World.Missed before locator header scanned middle)
    (tried : tryAllocateItem target os.logged fuel locator settings.size settings.minAddress settings.maxAddress
      middle = some (.error .noSpaceInHeader, next))
    (grown : getNextLocator target os.logged locator next = some (result, after)) :
    ∃ header, before.locators locator = some header ∧
      (after.os.creations = before.os.creations ∨
        after.os.creations = before.os.creations + 1 ∧ header.isFull target.width = true ∧ header.nextLocatorPtr = 0) := by
  obtain ⟨rfl, other, there, full⟩ := tryAllocateItem_noSpaceInHeader tried
  obtain ⟨known, here, made⟩ := getNextLocator_creations grown
  cases here.symm.trans missed.here
  cases there.symm.trans missed.here
  rw [missed.os_eq, missed.link] at made
  rw [missed.isFull] at full
  exact ⟨header, missed.found, made.imp id fun more => ⟨more.1, full, more.2⟩⟩

/-- A visit creates a locator only behind a full one that ends the chain. -/
theorem visit_creations {outcome : Visit}
    (run : visit target os.logged fuel settings locator before = some (outcome, after)) :
    ∃ header, before.locators locator = some header ∧
      (after.os.creations = before.os.creations ∨
        after.os.creations = before.os.creations + 1 ∧ header.isFull target.width = true ∧ header.nextLocatorPtr = 0) := by
  cases visit_visited run with
  | taken found scan => exact ⟨_, found, .inl rfl⟩
  | allocated found scan tried =>
      obtain ⟨_, _, _, _, _, answer, _⟩ := tryAllocateItem_ok tried
      exact ⟨_, found, .inl (allocate_creations answer)⟩
  | refused found scan tried =>
      obtain ⟨_, _, answer⟩ := tryAllocateItem_cannotAllocateMemory tried
      exact ⟨_, found, .inl (allocate_creations answer)⟩
  | passed found scan tried grown => exact passed_creations (.of_scan found scan) tried grown
  | stuck found scan tried grown => exact passed_creations (.of_scan found scan) tried grown

end

section

variable {held : σ → Set Nat} {first locator : Nat} {nodes : List Nat} {before : World σ} {fuel : Nat}
  {header : LocatorHeader}

theorem tryAllocateItem_returns (advances : os.Advances target) (granular : 0 < target.granularity)
    (enough : target.usize ≤ fuel) (found : before.locators locator = some header) (unlocked : header.isLocked = 0)
    (settings : BufferSearchSettings) :
    ∃ result last, tryAllocateItem target os fuel locator settings.size settings.minAddress settings.maxAddress
      before = some (result, last) := by
  have own : (itemRequest target settings).targetProcessId = target.sysInfo.thisProcessId := rfl
  obtain ⟨allocated, system, answer, free⟩ := allocate_returns advances granular enough own before.os
  unfold itemRequest at answer
  simp only [tryAllocateItem, found, Option.bind_eq_bind, Option.bind_some]
  by_cases full : header.isFull target.width = true
  · rw [if_pos full]
    exact ⟨_, _, rfl⟩
  · have again : ¬ LocatorHeader.isFull target.width { header with isLocked := 1 } = true := full
    rw [if_neg full, LocatorHeader.lock_of_free unlocked, Option.bind_some, if_neg again, answer, Option.bind_some]
    cases allocated with
    | error text => exact ⟨_, _, rfl⟩
    | ok item =>
        dsimp only
        rw [LocatorItem.lock_of_free (free item rfl)]
        exact ⟨_, _, rfl⟩

variable (reserves : os.Reserves target held) (booted : target.Booted) (room : target.LeavesRoom)
include reserves booted room

theorem getNextLocator_returns (found : before.locators locator = some header) (unlocked : header.isLocked = 0) :
    ∃ result last, getNextLocator target os locator before = some (result, last) := by
  simp only [getNextLocator, found, Option.bind_eq_bind, Option.bind_some]
  by_cases linked : header.hasNextLocator = true
  · rw [if_pos linked]
    exact ⟨_, _, rfl⟩
  · have again : ¬ LocatorHeader.hasNextLocator { header with isLocked := 1 } = true := linked
    rw [if_neg linked, LocatorHeader.lock_of_free unlocked, Option.bind_some, if_neg again]
    split
    · exact ⟨_, _, rfl⟩
    · rename_i notNull
      obtain ⟨word, _, _⟩ := reserves.heap.granted _ _ _ notNull
      obtain ⟨more, laid⟩ := LocatorHeader.initializeHeader_laidOut (os.raw (os.alloc target.granularity
          target.sysInfo.pageSize before.os).2) (before.locators.store locator { header with
            isLocked := 1, nextLocatorPtr := (os.alloc target.granularity target.sysInfo.pageSize before.os).1 })
        booted room word
      -- The locator that is linked is still there, whether or not the block was laid out over it.
      have there : ∃ kept, LocatorHeader.initializeHeader target (os.raw (os.alloc target.granularity
          target.sysInfo.pageSize before.os).2) (os.alloc target.granularity target.sysInfo.pageSize before.os).1
          target.granularity (before.locators.store locator { header with
            isLocked := 1, nextLocatorPtr := (os.alloc target.granularity target.sysInfo.pageSize before.os).1 })
          locator = some kept := by
        by_cases member : locator ∈ more
        · obtain ⟨kept, here, _⟩ := laid.blank locator member
          exact ⟨kept, here⟩
        · exact ⟨_, (laid.frame locator member).trans Locators.store_self⟩
      obtain ⟨kept, here⟩ := there
      unfold Target.granularity at here
      rw [here]
      exact ⟨_, _, rfl⟩

theorem visit_returns (advances : os.Advances target) (enough : target.usize ≤ fuel)
    (formed : before.WellFormed held first nodes) (found : before.locators locator = some header)
    (settings : BufferSearchSettings) :
    ∃ outcome last, visit target os fuel settings locator before = some (outcome, last) := by
  have granular : 0 < target.granularity := Nat.lt_of_lt_of_le (by decide) booted.large
  simp only [visit, found]
  generalize scan : header.getFirstAvailableItemLocked target.usize settings.size settings.minAddress
    settings.maxAddress = scanned
  obtain ⟨slot, scanned⟩ := scanned
  cases slot with
  | some slot => exact ⟨_, _, rfl⟩
  | none =>
      have missed : World.Missed before locator header scanned _ := .of_scan found scan
      have unlocked := ((missed.wellFormed formed).tidy locator scanned missed.here).unlocked
      obtain ⟨tried, middle, run⟩ := tryAllocateItem_returns advances granular enough missed.here unlocked settings
      dsimp only
      rw [run]
      cases tried with
      | ok pointer => exact ⟨_, _, rfl⟩
      | error error =>
          cases error with
          | cannotAllocateMemory => exact ⟨_, _, rfl⟩
          | noSpaceInHeader =>
              obtain ⟨rfl, _⟩ := tryAllocateItem_noSpaceInHeader run
              obtain ⟨grown, last, next⟩ := getNextLocator_returns reserves booted room missed.here unlocked
              simp only [reduceCtorEq, if_false, next]
              cases grown with
              | ok address => exact ⟨_, _, rfl⟩
              | error text => exact ⟨_, _, rfl⟩

end

/-- The locators that a search visits, first to last. -/
def trail (target : Target) (os : Os σ) (fuel : Nat) (settings : BufferSearchSettings) : Nat → Nat → World σ → List Nat
  | 0, _, _ => []
  | depth + 1, locator, world =>
    locator ::
      match visit target os fuel settings locator world with
      | some (.moved next, world) => trail target os fuel settings depth next world
      | _ => []

section

variable {held : Logged σ → Set Nat} {first locator : Nat} {nodes rest : List Nat} {before : World (Logged σ)}
  {fuel depth : Nat} {settings : BufferSearchSettings}

/-- The search returns, and creates one locator at most. It visits the rest of the chain
and new locators, none of them twice. -/
structure Traversal (target : Target) (os : Os σ) (fuel depth : Nat) (settings : BufferSearchSettings) (locator : Nat)
    (rest : List Nat) (before : World (Logged σ)) : Prop where
  returns : ∃ result last, getBufferRecursive target os.logged fuel settings depth locator before = some (result, last) ∧
    last.os.creations ≤ before.os.creations + 1
  once : (trail target os.logged fuel settings depth locator before).Nodup
  visits : ∀ node ∈ trail target os.logged fuel settings depth locator before,
    node ∈ rest ∨ before.locators node = none

/-- A visit that ends the search. -/
theorem Traversal.stop {result : Except BufferSearchError SafeLocatorItem} {last : World (Logged σ)}
    (member : locator ∈ rest)
    (run : visit target os.logged fuel settings locator before = some (.ended result, last))
    (most : last.os.creations ≤ before.os.creations + 1) :
    Traversal target os fuel (depth + 1) settings locator rest before := by
  refine ⟨⟨result, last, ?_, most⟩, ?_, ?_⟩
  · rw [getBufferRecursive, run]
  · rw [trail, run]
    exact List.nodup_singleton _
  · rw [trail, run]
    intro node visited
    obtain rfl := List.mem_singleton.mp visited
    exact .inl member

/-- A visit that goes on to a new locator, and ends the search there. -/
theorem Traversal.grow {next : Nat} {header : LocatorHeader} {middle last : World (Logged σ)}
    {result : Except BufferSearchError SafeLocatorItem} (found : before.locators locator = some header)
    (fresh : before.locators next = none)
    (run : visit target os.logged fuel settings locator before = some (.moved next, middle))
    (once : trail target os.logged fuel settings depth next middle = [next])
    (ended : getBufferRecursive target os.logged fuel settings depth next middle = some (result, last))
    (most : last.os.creations ≤ before.os.creations + 1) :
    Traversal target os fuel (depth + 1) settings locator [locator] before := by
  have visited : trail target os.logged fuel settings (depth + 1) locator before = [locator, next] := by
    rw [trail, run]
    dsimp only
    rw [once]
  have apart : locator ≠ next := by
    rintro rfl
    rw [fresh] at found
    cases found
  refine ⟨⟨result, last, ?_, most⟩, ?_, ?_⟩
  · rw [getBufferRecursive, run]
    exact ended
  · rw [visited]
    exact List.nodup_cons.mpr ⟨fun same => apart (List.mem_singleton.mp same), List.nodup_singleton _⟩
  · rw [visited]
    intro node member
    rcases List.mem_cons.mp member with rfl | behind
    · exact .inl List.mem_cons_self
    · obtain rfl := List.mem_singleton.mp behind
      exact .inr fresh

/-- A visit that goes on along the chain, and the rest of the search. -/
theorem Traversal.follow {next : Nat} {header scanned : LocatorHeader} {middle : World (Logged σ)}
    (missed : World.Missed before locator header scanned middle) (tail : before.locators.Chain locator (locator :: rest))
    (run : visit target os.logged fuel settings locator before = some (.moved next, middle))
    (later : Traversal target os fuel depth settings next rest middle) :
    Traversal target os fuel (depth + 1) settings locator (locator :: rest) before := by
  have there : ∀ node, middle.locators node = none → before.locators node = none := by
    intro node absent
    by_contra present
    obtain ⟨known, found⟩ := Option.ne_none_iff_exists'.mp present
    obtain ⟨kept, here, _⟩ := missed.rescanned node known found
    rw [absent] at here
    cases here
  refine ⟨?_, ?_, ?_⟩
  · rw [getBufferRecursive, run, ← missed.os_eq]
    exact later.returns
  · rw [trail, run]
    refine List.nodup_cons.mpr ⟨fun again => ?_, later.once⟩
    rcases later.visits locator again with behind | absent
    · exact (List.nodup_cons.mp tail.nodup).1 behind
    · rw [missed.here] at absent
      cases absent
  · rw [trail, run]
    intro node visited
    rcases List.mem_cons.mp visited with rfl | visited
    · exact .inl List.mem_cons_self
    · exact (later.visits node visited).imp (List.mem_cons_of_mem _) (there node)

variable (reserves : os.logged.Reserves target held) (booted : target.Booted) (room : target.LeavesRoom)
  (advances : os.Advances target) (enough : target.usize ≤ fuel)
include reserves booted room advances enough

/-- A locator that is not full is visited last. -/
theorem traversal_of_room {header : LocatorHeader} (formed : before.WellFormed held first nodes)
    (found : before.locators locator = some header) (vacant : header.isFull target.width = false) (depth : Nat) :
    trail target os.logged fuel settings (depth + 1) locator before = [locator] ∧
      ∃ result last, getBufferRecursive target os.logged fuel settings (depth + 1) locator before =
        some (result, last) ∧ last.os.creations = before.os.creations := by
  obtain ⟨outcome, last, run⟩ := visit_returns reserves booted room advances.logged enough formed found settings
  rw [getBufferRecursive, trail, run]
  cases outcome with
  | moved next =>
      obtain ⟨known, _, _, missed, full, _⟩ := visit_moved reserves booted room formed run
      cases missed.found.symm.trans found
      rw [vacant] at full
      cases full
  | ended result =>
      obtain ⟨known, here, made⟩ := visit_creations run
      cases here.symm.trans found
      refine ⟨rfl, result, last, rfl, made.resolve_right fun more => ?_⟩
      rw [vacant] at more
      cases more.2.1

theorem traversal (formed : before.WellFormed held first nodes) (member : locator ∈ nodes)
    (tail : before.locators.Chain locator rest) (deep : rest.length < depth) :
    Traversal target os fuel depth settings locator rest before := by
  induction depth generalizing locator before rest with
  | zero => exact absurd deep (Nat.not_lt_zero _)
  | succ depth ih =>
      obtain ⟨header, found⟩ := Option.isSome_iff_exists.mp (Locators.next_isSome ▸ tail.defined tail.head_mem)
      obtain ⟨outcome, after, run⟩ := visit_returns reserves booted room advances.logged enough formed found settings
      obtain ⟨known, here, made⟩ := visit_creations run
      have most : after.os.creations ≤ before.os.creations + 1 := by
        rcases made with same | ⟨more, _⟩ <;> omega
      cases outcome with
      | ended result => exact .stop tail.head_mem run most
      | moved next =>
          obtain ⟨header, scanned, middle, missed, _, ⟨follows, rfl⟩ | ⟨more, grown⟩⟩ :=
            visit_moved reserves booted room formed run
          · cases tail with
            | last ends =>
                rw [ends] at follows
                cases follows
            | @link _ _ rest goes later =>
                rw [goes] at follows
                cases follows
                have behind : after.locators.Chain next rest := by
                  unfold Locators.Chain
                  rwa [missed.next]
                refine .follow missed (.link goes later) run (ih (missed.wellFormed formed)
                  (formed.chain.next_mem member goes) behind ?_)
                rw [List.length_cons] at deep
                omega
          · -- The chain ends here, and the search ends at the locator behind it.
            have kept := missed.wellFormed formed
            have ended := LocatorHeader.next_of_eq_zero grown.found grown.ended
            rw [missed.next] at ended
            cases tail with
            | link goes _ =>
                rw [ended] at goes
                cases goes
            | last _ =>
                obtain ⟨depth, rfl⟩ : ∃ more, depth = more + 1 := ⟨depth - 1, by
                  rw [List.length_singleton] at deep
                  omega⟩
                have fresh : before.locators next = none := by
                  by_contra present
                  obtain ⟨known, found⟩ := Option.ne_none_iff_exists'.mp present
                  obtain ⟨_, here, _⟩ := missed.rescanned next known found
                  exact grown.outside kept (by rw [here]; rfl) grown.laid.chain.head_mem
                obtain ⟨blank, there, vacant⟩ := grown.laid.blank next grown.laid.chain.head_mem
                obtain ⟨once, result, last, ran, same⟩ := @traversal_of_room _ _ _ _ _ _ _ _ _ settings reserves booted
                  room advances enough _ (grown.wellFormed kept member) there vacant.room depth
                exact .grow missed.found fresh run once ran (same ▸ most)

end

namespace Session

/-- After every run the chain is finite and its headers lie apart, links that were set
earlier are as they were, and every search returns, visits each locator once at most and
creates one at most. -/
theorem run_terminates {held : Logged σ → Set Nat} {fuel depth first : Nat} {system : Logged σ}
    {middle last : Session (Logged σ)} {operations more : List Operation} (reserves : os.logged.Reserves target held)
    (advances : os.Advances target) (booted : target.Booted) (small : target.granularity ≤ 65536)
    (word : first + target.granularity < target.usize) (inUse : Words.extent first target.granularity ⊆ held system)
    (run : Transition.Run (step target os.logged fuel depth first) Transition.always
      (initial target os.logged first system) operations middle)
    (rest : Transition.Run (step target os.logged fuel depth first) Transition.always middle more last) :
    (∀ node next, middle.world.locators.next node = some (some next) →
      last.world.locators.next node = some (some next)) ∧
    ∃ nodes, last.world.locators.Chain first nodes ∧ nodes.Nodup ∧
      (nodes.Pairwise fun node other =>
        Disjoint (Words.extent node locatorLength) (Words.extent other locatorLength)) ∧
      ∀ fuel depth settings, target.usize ≤ fuel → nodes.length < depth →
        Traversal target os fuel depth settings first nodes last.world := by
  have room := Target.leavesRoom_of_le small
  have preserved : ∀ session operation next, (∃ nodes, session.world.WellFormed held first nodes) →
      Transition.always session operation → step target os.logged fuel depth first session operation = some next →
      ∃ nodes, next.world.WellFormed held first nodes := by
    rintro session operation next ⟨nodes, formed⟩ _ taken
    obtain ⟨⟨more, kept⟩, _⟩ := step_kept reserves booted room formed taken
    exact ⟨_, kept⟩
  have reached := run_kept reserves booted room word inUse run
  have links := rest.monotone (fun session : Session (Logged σ) => ∃ nodes, session.world.WellFormed held first nodes)
    (fun earlier later => LinksKept earlier.world.locators later.world.locators) (fun _ => .of_next rfl)
    (fun _ _ _ left right => left.trans right) preserved
    (fun _ _ _ ⟨_, formed⟩ _ taken => (step_kept reserves booted room formed taken).2) reached
  obtain ⟨nodes, formed⟩ := rest.invariant (fun session => ∃ nodes, session.world.WellFormed held first nodes) preserved
    reached
  have present : ∀ node ∈ nodes, (last.world.locators node).isSome := by
    intro node member
    rw [← Locators.next_isSome]
    exact formed.chain.defined member
  refine ⟨links, nodes, formed.chain, formed.chain.nodup, ?_, fun fuel depth settings enough deep => ?_⟩
  · exact formed.chain.nodup.imp_of_mem fun here there different =>
      formed.apart _ _ (present _ here) (present _ there) different
  · exact traversal reserves booted room advances enough formed formed.chain.head_mem formed.chain deep

/-- A search, and another one over the chain that the first has left. -/
theorem run_terminates_twice : ∃ session : Session (Logged Nat), ∃ nodes,
    session.world.locators.Chain 0x10000 nodes ∧ nodes.Nodup ∧
      Traversal smallTarget (Os.upwards smallTarget.usize emptyHeader) smallTarget.usize (nodes.length + 1)
        ⟨0x20000, 0x7FFFFFFFFFFF, 10000⟩ 0x10000 nodes session.world := by
  have searched : ∃ session : Session (Logged Nat),
      (initial smallTarget (Os.upwards smallTarget.usize emptyHeader).logged 0x10000 ⟨0x11000, []⟩).step smallTarget
        (Os.upwards smallTarget.usize emptyHeader).logged 0 2 0x10000 (.getBuffer 0 ⟨0x20000, 0x40000, 5000⟩) =
        some session := ⟨_, rfl⟩
  obtain ⟨session, searched⟩ := searched
  have readable : (Os.upwards smallTarget.usize emptyHeader).linux.Readable 1 := fun _ => rfl
  obtain ⟨_, nodes, chain, once, _, traverses⟩ := run_terminates upwards_reserves readable smallTarget_booted (by decide)
    (by decide) (fun byte inside => inside.2) .nil (.single trivial searched)
  exact ⟨session, nodes, chain, once, traverses _ _ _ (Nat.le_refl _) (Nat.lt_succ_self _)⟩

end Session

end Buffers

end ReloadedBuffers
