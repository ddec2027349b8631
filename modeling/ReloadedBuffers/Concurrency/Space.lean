import ReloadedBuffers.Concurrency.Ownership

/-! The space that a search promises, in a shared locator. The test of an item and the
swap of its lock word are separate accesses: the promise holds as long as nobody
appends into the space that a thread in between has already tested.
-/

set_option autoImplicit false

namespace ReloadedBuffers

namespace SharedLocator

/-- The request of a thread that has tested the space left in a slot, and has not yet
tried to lock it. -/
def Pc.tested : Pc → Option (Nat × BufferSearchSettings)
  | .canUse settings _ slot .startBase | .canUse settings _ slot (.startPosition _)
  | .canUse settings _ slot (.endBase _) | .canUse settings _ slot (.endSize _ _) => some (slot, settings)
  | .tryLock settings _ slot => some (slot, settings)
  | _ => none

variable {τ : Type}

/-- An append stays in its buffer, and leaves room for every request that has tested
the space left there. -/
def LeavesRoom (state : State τ) : τ × Action → Prop
  | (_, .append slot count) =>
    (state.items slot).position.toNat + count ≤ (state.items slot).size.toNat ∧
    ∀ other settings, (state.pc other).tested = some (slot, settings) →
      (state.items slot).position.toNat + count + settings.size.toNat ≤ (state.items slot).size.toNat
  | _ => True

/-- Searches, appends through live items and drops, and nothing else. -/
def Searches (_ : State τ) (label : τ × Action) : Prop := ∀ settings, label.2 ≠ .tryAllocate settings

def Pc.inSearch : Pc → Bool
  | .idle | .readCount _ | .canUse _ _ _ _ | .tryLock _ _ _ | .returning _ _ => true
  | _ => false

/-- What an item must offer to be usable for a request, in exact arithmetic. -/
structure Offers (item : LocatorItem) (settings : BufferSearchSettings) : Prop where
  allocated : item.baseAddress ≠ 0
  room : item.position.toNat + settings.size.toNat ≤ item.size.toNat
  low : settings.minAddress ≤ item.baseAddress + item.position.toNat
  high : item.baseAddress + item.size.toNat ≤ settings.maxAddress

theorem Offers.canUse {usize : Nat} {item : LocatorItem} {settings : BufferSearchSettings}
    (offers : Offers item settings) (sound : item.Sound usize) :
    item.canUse usize settings.size settings.minAddress settings.maxAddress = true := by
  have left := sound.bytesLeft_toNat
  have start : Words.add usize item.baseAddress item.position.toNat = _ := sound.cursor_eq
  have last : addWithOverflowCap usize item.baseAddress item.size.toNat = _ := Words.satAdd_eq sound.end_lt
  have enough : ¬ item.bytesLeft < settings.size := by
    have room := offers.room
    rw [UInt32.lt_iff_toNat_lt]
    omega
  simp [LocatorItem.canUse, LocatorItem.isAllocated, offers.allocated, enough, start, last, offers.low, offers.high]

/-- What the loads done so far say about the item as it is now. -/
def CanUse.Holds (settings : BufferSearchSettings) (item : LocatorItem) : CanUse → Prop
  | .isAllocated => True
  | .size => item.baseAddress ≠ 0
  | .position sizeLoaded => item.baseAddress ≠ 0 ∧ sizeLoaded = item.size
  | .startBase => item.baseAddress ≠ 0 ∧ item.position.toNat + settings.size.toNat ≤ item.size.toNat
  | .startPosition base => item.baseAddress ≠ 0 ∧
    item.position.toNat + settings.size.toNat ≤ item.size.toNat ∧ base = item.baseAddress
  | .endBase start => item.baseAddress ≠ 0 ∧
    item.position.toNat + settings.size.toNat ≤ item.size.toNat ∧ start ≤ item.baseAddress + item.position.toNat
  | .endSize start base => item.baseAddress ≠ 0 ∧
    item.position.toNat + settings.size.toNat ≤ item.size.toNat ∧ start ≤ item.baseAddress + item.position.toNat ∧
    base = item.baseAddress

def Pc.Holds (items : Nat → LocatorItem) : Pc → Prop
  | .canUse settings _ slot load => load.Holds settings (items slot)
  | .tryLock settings _ slot | .returning settings slot => Offers (items slot) settings
  | _ => True

/-- The invariant of searches. -/
structure Promising (width : PointerWidth) (initial : Nat) (state : State τ) : Prop where
  inv : Inv width initial state
  inSearch : ∀ thread, (state.pc thread).inSearch = true
  sound : ∀ slot < state.numItems.toNat, (state.items slot).Sound width.modulus
  holds : ∀ thread, (state.pc thread).Holds state.items
  owns : ∀ thread settings slot, state.pc thread = .returning settings slot → (thread, slot) ∈ state.live

variable {width : PointerWidth} {initial : Nat} {state after : State τ} {settings : BufferSearchSettings}
  {item : LocatorItem}

/-- One load, and the verdict that follows from it. -/
theorem CanUse.Holds.run {load : CanUse} (holds : load.Holds settings item) (sound : item.Sound width.modulus) :
    match load.run width.modulus settings item with
    | .load next => next.Holds settings item
    | .usable => Offers item settings
    | .unusable => True := by
  cases load with
  | isAllocated =>
      simp only [CanUse.run]
      by_cases null : item.baseAddress = 0
      · rw [if_pos null]
        trivial
      · rw [if_neg null]
        exact null
  | size => exact ⟨holds, rfl⟩
  | position sizeLoaded =>
      obtain ⟨allocated, rfl⟩ := holds
      have left : (item.size - item.position).toNat = _ := sound.bytesLeft_toNat
      have inside := sound.position_le_toNat
      simp only [CanUse.run]
      by_cases short : item.size - item.position < settings.size
      · rw [if_pos short]
        trivial
      · rw [if_neg short]
        rw [UInt32.lt_iff_toNat_lt] at short
        exact ⟨allocated, by omega⟩
  | startBase => exact ⟨holds.1, holds.2, rfl⟩
  | startPosition base =>
      obtain ⟨allocated, room, rfl⟩ := holds
      have start : Words.add width.modulus item.baseAddress item.position.toNat = _ := sound.cursor_eq
      simp only [CanUse.run, start]
      exact ⟨allocated, room, Nat.le_refl _⟩
  | endBase start => exact ⟨holds.1, holds.2.1, holds.2.2, rfl⟩
  | endSize start base =>
      obtain ⟨allocated, room, early, rfl⟩ := holds
      have last : addWithOverflowCap width.modulus item.baseAddress item.size.toNat = _ :=
        Words.satAdd_eq sound.end_lt
      simp only [CanUse.run, last]
      split
      · rename_i verdict
        split at verdict <;> cases verdict
      · rename_i verdict
        split at verdict
        · rename_i inside
          simp only [Bool.and_eq_true, decide_eq_true_eq] at inside
          exact ⟨allocated, room, inside.1.trans early, inside.2⟩
        · cases verdict
      · trivial

/-- What has been read stays true while the item only advances and room is left. -/
theorem CanUse.Holds.stable {load : CanUse} {later : LocatorItem} (holds : load.Holds settings item)
    (base : later.baseAddress = item.baseAddress) (size : later.size = item.size)
    (position : item.position.toNat ≤ later.position.toNat)
    (room : (Pc.canUse settings 0 0 load).tested = some (0, settings) →
      later.position.toNat + settings.size.toNat ≤ later.size.toNat) : load.Holds settings later := by
  cases load with
  | isAllocated => trivial
  | size =>
      change later.baseAddress ≠ 0
      rw [base]
      exact holds
  | position sizeLoaded => exact ⟨base ▸ holds.1, size ▸ holds.2⟩
  | startBase => exact ⟨base ▸ holds.1, room rfl⟩
  | startPosition loaded => exact ⟨base ▸ holds.1, room rfl, base ▸ holds.2.2⟩
  | endBase start =>
      refine ⟨base ▸ holds.1, room rfl, ?_⟩
      have early := holds.2.2
      omega
  | endSize start loaded =>
      refine ⟨base ▸ holds.1, room rfl, ?_, base ▸ holds.2.2.2⟩
      have early := holds.2.2.1
      omega

theorem Pc.Holds.stable {pc : Pc} {items : Nat → LocatorItem} {slot : Nat} {later : LocatorItem}
    (holds : pc.Holds items) (base : later.baseAddress = (items slot).baseAddress)
    (size : later.size = (items slot).size) (position : (items slot).position.toNat ≤ later.position.toNat)
    (room : ∀ settings, pc.tested = some (slot, settings) →
      later.position.toNat + settings.size.toNat ≤ later.size.toNat)
    (unreturned : ∀ settings, pc = .returning settings slot → later.position = (items slot).position) :
    pc.Holds (Function.update items slot later) := by
  cases pc with
  | canUse settings final place load =>
      rcases eq_or_ne place slot with rfl | apart
      · simp only [Pc.Holds, Function.update_self]
        refine CanUse.Holds.stable holds base size position fun tested => room settings ?_
        -- Loads up to the test of the room rely on no room.
        cases load <;> simp_all [Pc.tested]
      · simpa only [Pc.Holds, Function.update_of_ne apart] using holds
  | tryLock settings final place =>
      rcases eq_or_ne place slot with rfl | apart
      · simp only [Pc.Holds, Function.update_self]
        refine ⟨base ▸ holds.allocated, room settings rfl, ?_, ?_⟩
        · have low := holds.low
          omega
        · rw [base, size]
          exact holds.high
      · simpa only [Pc.Holds, Function.update_of_ne apart] using holds
  | returning settings place =>
      rcases eq_or_ne place slot with rfl | apart
      · simp only [Pc.Holds, Function.update_self]
        -- An item that is about to be returned is not advanced.
        have same := unreturned settings rfl
        refine ⟨base ▸ holds.allocated, ?_, ?_, ?_⟩
        · rw [same, size]
          exact holds.room
        · rw [same, base]
          exact holds.low
        · rw [base, size]
          exact holds.high
      · simpa only [Pc.Holds, Function.update_of_ne apart] using holds
  | _ => trivial

/-- The tested room and the promised room are the same while nobody appends. -/
theorem Pc.Holds.tested {pc : Pc} {items : Nat → LocatorItem} {slot : Nat} (holds : pc.Holds items)
    (tested : pc.tested = some (slot, settings)) :
    (items slot).position.toNat + settings.size.toNat ≤ (items slot).size.toNat := by
  cases pc with
  | canUse wanted final place load =>
      cases load <;> cases tested
      · exact holds.2
      · exact holds.2.1
      · exact holds.2.1
      · exact holds.2.1
  | tryLock wanted final place =>
      cases tested
      exact holds.room
  | _ => cases tested

/-- A swap or a store of a lock word leaves everything that has been read true. -/
theorem Promising.holds_lock (promising : Promising width initial state) (slot : Nat) (value : Int32) (thread : τ) :
    (state.pc thread).Holds (Function.update state.items slot { state.items slot with isTaken := value }) :=
  (promising.holds thread).stable rfl rfl (Nat.le_refl _) (fun _ tested => (promising.holds thread).tested tested)
    fun _ _ => rfl

theorem Promising.sound_update {slot : Nat} (promising : Promising width initial state)
    (sound : slot < state.numItems.toNat → item.Sound width.modulus) :
    ∀ other < state.numItems.toNat, (Function.update state.items slot item other).Sound width.modulus := by
  intro other inside
  rcases eq_or_ne other slot with rfl | apart
  · rw [Function.update_self]
    exact sound inside
  · rw [Function.update_of_ne apart]
    exact promising.sound other inside

variable [DecidableEq τ] {thread : τ} {next : Pc}

theorem Promising.goto (promising : Promising width initial state)
    (inv : Inv width initial (state.goto thread next)) (inSearch : next.inSearch = true)
    (holds : next.Holds state.items) (unreturned : ∀ settings slot, next ≠ .returning settings slot) :
    Promising width initial (state.goto thread next) where
  inv := inv
  inSearch other := by
    simp only [State.goto]
    rcases eq_or_ne other thread with rfl | apart
    · rwa [Function.update_self]
    · rw [Function.update_of_ne apart]
      exact promising.inSearch other
  sound := promising.sound
  holds other := by
    simp only [State.goto]
    rcases eq_or_ne other thread with rfl | apart
    · rwa [Function.update_self]
    · rw [Function.update_of_ne apart]
      exact promising.holds other
  owns other settings slot here := by
    simp only [State.goto] at here ⊢
    rcases eq_or_ne other thread with rfl | apart
    · rw [Function.update_self] at here
      exact absurd here (unreturned settings slot)
    · rw [Function.update_of_ne apart] at here
      exact promising.owns other settings slot here

theorem Pc.next_inSearch {final slot : Nat} : (Pc.next settings final slot).inSearch = true := by
  unfold Pc.next
  split <;> rfl

theorem Pc.next_holds {final slot : Nat} {items : Nat → LocatorItem} : (Pc.next settings final slot).Holds items := by
  unfold Pc.next
  split <;> trivial

theorem Pc.next_ne_returning {final slot : Nat} (wanted : BufferSearchSettings) (place : Nat) :
    Pc.next settings final slot ≠ .returning wanted place := by
  unfold Pc.next
  split <;> intro same <;> cases same

/-- The swap: what was tested is still there, and the thread now owns it. -/
theorem Promising.tryLock {final slot : Nat} (promising : Promising width initial state)
    (here : state.pc thread = .tryLock settings final slot) (taken : state.run width thread = some after) :
    Promising width initial after := by
  have inv := promising.inv.run taken
  have holds := promising.holds thread
  rw [here] at holds
  have sound : ∀ other < state.numItems.toNat,
      (Function.update state.items slot { state.items slot with isTaken := 1 } other).Sound width.modulus :=
    promising.sound_update fun inside => ⟨(promising.sound slot inside).position_le, (promising.sound slot inside).end_lt⟩
  have marked : Promising width initial (state.setItem slot { state.items slot with isTaken := 1 }) :=
    ⟨promising.inv.setItem fun _ => by simp, promising.inSearch, sound, promising.holds_lock _ _, promising.owns⟩
  simp only [State.run, here, LocatorItem.tryLock, beq_iff_eq] at taken
  by_cases free : (state.items slot).isTaken = 0
  · rw [if_pos free] at taken
    cases taken
    -- The lock word was free: the thread owns the item that it has tested.
    refine ⟨inv, ?_, sound, ?_, ?_⟩
    · intro other
      simp only [State.goto]
      rcases eq_or_ne other thread with rfl | apart
      · rw [Function.update_self]
        rfl
      · rw [Function.update_of_ne apart]
        exact promising.inSearch other
    · intro other
      simp only [State.goto]
      rcases eq_or_ne other thread with rfl | apart
      · rw [Function.update_self]
        -- The swap has changed nothing that the test relied on.
        have kept := promising.holds_lock slot 1 other
        rw [here] at kept
        exact kept
      · rw [Function.update_of_ne apart]
        exact promising.holds_lock _ _ other
    · intro other wanted place returning
      simp only [State.goto] at returning
      rcases eq_or_ne other thread with rfl | apart
      · rw [Function.update_self] at returning
        cases returning
        exact List.mem_cons_self
      · rw [Function.update_of_ne apart] at returning
        exact List.mem_cons_of_mem _ (promising.owns other wanted place returning)
  · rw [if_neg free] at taken
    cases taken
    exact marked.goto inv Pc.next_inSearch Pc.next_holds Pc.next_ne_returning

theorem Promising.run (promising : Promising width initial state) (taken : state.run width thread = some after) :
    Promising width initial after := by
  have inv := promising.inv.run taken
  have inSearch := promising.inSearch thread
  have knows := promising.inv.counting.knows thread
  have holds := promising.holds thread
  cases here : state.pc thread with
  | tryLock settings final slot => exact promising.tryLock here taken
  | idle => simp [State.run, here] at taken
  | readCount settings =>
      simp only [State.run, here] at taken
      split at taken <;> cases taken <;> exact promising.goto inv rfl trivial (by rintro _ _ ⟨⟩)
  | canUse settings final slot load =>
      rw [here] at knows holds
      have verdict := CanUse.Holds.run holds (promising.sound slot (Nat.lt_of_lt_of_le knows.1 knows.2))
      simp only [State.run, here] at taken
      split at taken
      · rename_i more loaded
        rw [loaded] at verdict
        cases taken
        exact promising.goto inv rfl verdict (by rintro _ _ ⟨⟩)
      · cases taken
        exact promising.goto inv Pc.next_inSearch Pc.next_holds Pc.next_ne_returning
      · rename_i loaded
        rw [loaded] at verdict
        cases taken
        exact promising.goto inv rfl verdict (by rintro _ _ ⟨⟩)
  | returning settings slot =>
      simp only [State.run, here] at taken
      cases taken
      exact promising.goto inv rfl trivial (by rintro _ _ ⟨⟩)
  | isFull | lock | isFullLocked | allocate | getItem | store | loadCount | storeCount | unlock =>
      rw [here] at inSearch
      cases inSearch

/-- An append by the owner of an item, where it leaves room. -/
theorem Promising.append {slot count : Nat} (promising : Promising width initial state)
    (room : LeavesRoom state (thread, .append slot count))
    (taken : state.step width (thread, .append slot count) = some after) : Promising width initial after := by
  have inv := promising.inv.step taken
  simp only [State.step] at taken
  split at taken
  · rename_i owner
    cases taken
    have moved := LocatorItem.advance_position room.1
    refine ⟨inv, promising.inSearch, ?_, ?_, promising.owns⟩
    · exact promising.sound_update fun inside => (promising.sound slot inside).advance room.1
    · intro other
      refine (promising.holds other).stable rfl rfl ?_ ?_ ?_
      · rw [moved]
        exact Nat.le_add_right _ _
      · intro settings tested
        rw [moved]
        exact room.2 other settings tested
      · -- A thread that is returning with the item would be its owner, but its owner is idle.
        intro settings returning
        have shared := List.inj_on_of_nodup_map promising.inv.living.nodup
          (promising.owns other settings slot returning) owner.2 rfl
        cases shared
        rw [owner.1] at returning
        cases returning
  · cases taken

theorem Promising.step {label : τ × Action} (promising : Promising width initial state)
    (searches : Searches state label) (room : LeavesRoom state label)
    (taken : state.step width label = some after) : Promising width initial after := by
  have inv := promising.inv.step taken
  obtain ⟨thread, action⟩ := label
  have inSearch := promising.inSearch thread
  cases action with
  | run => exact promising.run taken
  | append slot count => exact promising.append room taken
  | tryAllocate settings => exact absurd rfl (searches settings)
  | getFirst settings =>
      simp only [State.step] at taken
      split at taken <;> cases taken
      exact promising.goto inv rfl trivial (by rintro _ _ ⟨⟩)
  | reply allocated =>
      simp only [State.step] at taken
      split at taken
      · rename_i here
        rw [here] at inSearch
        cases inSearch
      · cases taken
  | drop slot =>
      simp only [State.step] at taken
      split at taken
      · rename_i owner
        cases taken
        refine ⟨inv, promising.inSearch, ?_, promising.holds_lock _ _, ?_⟩
        · exact promising.sound_update fun inside =>
            ⟨(promising.sound slot inside).position_le, (promising.sound slot inside).end_lt⟩
        · intro other settings place returning
          refine (List.mem_erase_of_ne ?_).mpr (promising.owns other settings place returning)
          rintro same
          cases same
          change state.pc thread = _ at returning
          rw [owner.1] at returning
          cases returning
      · cases taken

/-- In every interleaving whose appends leave room for the requests that have already
tested the space, an item is usable for its request at the moment it is returned. -/
theorem returned_canUse {start last : State τ} {labels : List (τ × Action)} (initialised : start.Initial width)
    (sound : ∀ slot < start.numItems.toNat, (start.items slot).Sound width.modulus)
    (run : Transition.Run (State.step width) (fun state label => Searches state label ∧ LeavesRoom state label)
      start labels last) {thread : τ} {slot : Nat} (returning : last.pc thread = .returning settings slot) :
    (last.items slot).canUse width.modulus settings.size settings.minAddress settings.maxAddress = true ∧
      settings.size ≤ (last.items slot).bytesLeft := by
  have begins : Promising width start.numItems.toNat start := by
    refine ⟨initialised.inv, ?_, sound, ?_, ?_⟩
    · intro other
      rw [initialised.idle]
      rfl
    · intro other
      rw [initialised.idle]
      trivial
    · intro other wanted place here
      rw [initialised.idle] at here
      cases here
  have promising := run.invariant (Promising width start.numItems.toNat)
    (fun _ _ _ promising allowed taken => promising.step allowed.1 allowed.2 taken) begins
  have knows := promising.inv.counting.knows thread
  have offers := promising.holds thread
  rw [returning] at knows offers
  have whole := promising.sound slot knows
  refine ⟨offers.canUse whole, ?_⟩
  have room := offers.room
  have left := whole.bytesLeft_toNat
  rw [UInt32.le_iff_toNat_le]
  omega

/-- Two threads that search for 60 bytes, and one item that has 100. -/
def oneItem : State Bool where
  isLocked := 0
  numItems := 1
  items _ := ⟨0x20000, 100, 0, 0⟩
  pc _ := .idle
  live := []
  registrations := []
  stores slot := if slot = 0 then Field.all else []
  assertionFailed := false

def sixty : BufferSearchSettings := ⟨0, 0x7FFFFFFFFFFF, 60⟩

theorem oneItem_initial : oneItem.Initial .bits64 where
  isLocked := rfl
  bound := by decide
  idle _ := rfl
  live := rfl
  registrations := rfl
  below slot inside := by
    obtain rfl : slot = 0 := Nat.lt_one_iff.mp inside
    rfl
  above slot outside := if_neg (Nat.pos_iff_ne_zero.mp outside)
  assertionFailed := rfl

/-- A search up to the point where the item has been found usable. -/
def searchUntilLock (settings : BufferSearchSettings) (thread : Bool) : List (Bool × Action) :=
  (thread, .getFirst settings) :: List.replicate 8 (thread, .run)

/-- The first thread tests the item for 40 bytes; the second locks it, appends 60 and
drops it; the first locks it and returns it with the 40 bytes left. -/
theorem returned_canUse_shared : ∃ last : State Bool, last.pc false = .returning { sixty with size := 40 } 0 ∧
    (last.items 0).position = 60 ∧
    (last.items 0).canUse PointerWidth.bits64.modulus 40 sixty.minAddress sixty.maxAddress = true ∧
    40 ≤ (last.items 0).bytesLeft := by
  have forwards : ∃ middle, Transition.execute (State.step .bits64) oneItem
      (searchUntilLock { sixty with size := 40 } false ++ searchUntilLock sixty true ++ [(true, .run), (true, .run)]) =
        some middle ∧
      middle.items 0 = ⟨0x20000, 100, 0, 1⟩ ∧ (middle.pc true).tested = none ∧
      (middle.pc false).tested = some (0, { sixty with size := 40 }) ∧
      ∃ after last, middle.step .bits64 (true, .append 0 60) = some after ∧
        Transition.execute (State.step .bits64) after [(true, .drop 0), (false, .run)] = some last ∧
        last.pc false = .returning { sixty with size := 40 } 0 ∧ (last.items 0).position = 60 :=
    ⟨_, rfl, rfl, rfl, rfl, _, _, rfl, rfl, rfl, rfl⟩
  obtain ⟨middle, searched, item, idle, waits, after, last, appended, finished, returning, position⟩ := forwards
  have sound : ∀ slot < oneItem.numItems.toNat, (oneItem.items slot).Sound PointerWidth.bits64.modulus :=
    fun slot _ => ⟨(by decide : (0 : UInt32) ≤ 100), (by decide : 0x20000 + 100 < 2 ^ 64)⟩
  have room : LeavesRoom middle (true, .append 0 60) := by
    simp only [LeavesRoom, item]
    refine ⟨by decide, fun other settings tested => ?_⟩
    cases other with
    | false =>
        rw [waits] at tested
        cases tested
        decide
    | true =>
        rw [idle] at tested
        cases tested
  have before : Transition.Run _ (fun state label => Searches state label ∧ LeavesRoom state label) _ _ _ :=
    Transition.execute_run (by
      intro state label member
      simp only [searchUntilLock, List.cons_append, List.mem_cons, List.mem_append, List.mem_replicate,
        List.not_mem_nil, or_false] at member
      rcases member with rfl | (⟨_, rfl⟩ | rfl | ⟨_, rfl⟩) | rfl | rfl <;> exact ⟨(by rintro _ ⟨⟩), trivial⟩) searched
  have behind : Transition.Run _ (fun state label => Searches state label ∧ LeavesRoom state label) _ _ _ :=
    Transition.execute_run (by
      intro state label member
      simp only [List.mem_cons, List.not_mem_nil, or_false] at member
      rcases member with rfl | rfl <;> exact ⟨(by rintro _ ⟨⟩), trivial⟩) finished
  have run := before.append (.cons ⟨(by rintro _ ⟨⟩), room⟩ appended behind)
  obtain ⟨usable, enough⟩ := returned_canUse oneItem_initial sound run returning
  exact ⟨last, returning, position, usable, enough⟩

/-- The first thread tests the item; the second locks it, appends the 60 bytes it asked
for and drops it; the first locks it and returns it with 40 bytes left. -/
theorem returned_unusable : ∃ last : State Bool,
    Transition.Run (State.step .bits64) Searches oneItem
      (searchUntilLock sixty false ++ searchUntilLock sixty true ++
        [(true, .run), (true, .run), (true, .append 0 60), (true, .drop 0), (false, .run)]) last ∧
    oneItem.Initial .bits64 ∧ last.pc false = .returning sixty 0 ∧
    (last.items 0).canUse PointerWidth.bits64.modulus sixty.size sixty.minAddress sixty.maxAddress = false ∧
    (last.items 0).bytesLeft < sixty.size := by
  have schedule : ∃ last, Transition.execute (State.step .bits64) oneItem
      (searchUntilLock sixty false ++ searchUntilLock sixty true ++
        [(true, .run), (true, .run), (true, .append 0 60), (true, .drop 0), (false, .run)]) = some last ∧
      last.pc false = .returning sixty 0 ∧ last.items 0 = ⟨0x20000, 100, 60, 1⟩ := ⟨_, rfl, rfl, rfl⟩
  obtain ⟨last, result, returning, item⟩ := schedule
  refine ⟨last, Transition.execute_run ?_ result, oneItem_initial, returning, ?_, ?_⟩
  · intro state label member settings same
    revert member
    rw [← label.eta, same]
    simp [searchUntilLock]
  · rw [item]
    decide
  · rw [item]
    decide

end SharedLocator

end ReloadedBuffers
