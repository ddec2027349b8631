import Mathlib.Algebra.BigOperators.Group.Finset.Basic
import Mathlib.Algebra.Order.BigOperators.Group.Finset
import ReloadedBuffers.Concurrency.Appending

/-! How calls on a shared locator end. A rank on where a thread is goes down with each of
its own accesses, whatever the others do, unless the access is a failed attempt to take
the header lock; and then another thread has the lock and can go on.
-/

set_option autoImplicit false

namespace ReloadedBuffers

namespace SharedLocator

/-- The accesses left until the item has been locked or passed by. -/
def CanUse.left : CanUse → Nat
  | .isAllocated => 8
  | .size => 7
  | .position _ => 6
  | .startBase => 5
  | .startPosition _ => 4
  | .endBase _ => 3
  | .endSize _ _ => 2

/-- The most accesses that a thread has left in its call, failed attempts at the header
lock apart. -/
def Pc.rank (width : PointerWidth) : Pc → Nat
  | .idle => 0
  | .readCount _ => 8 * width.maxItemCount + 2
  | .canUse _ final slot load => 8 * (final - slot - 1) + load.left + 1
  | .tryLock _ final slot => 8 * (final - slot - 1) + 2
  | .returning _ _ => 1
  | .isFull _ => 12
  | .lock _ => 11
  | .isFullLocked _ => 10
  | .allocate _ => 9
  | .getItem _ => 8
  | .store _ _ _ rest => 4 + rest.length
  | .loadCount _ => 3
  | .storeCount _ _ => 2
  | .unlock => 1

/-- Inside `get_first_available_item_locked`, or between calls. -/
def Pc.searching : Pc → Bool
  | .idle | .readCount _ | .canUse _ _ _ _ | .tryLock _ _ _ | .returning _ _ => true
  | _ => false

def Pc.atLock : Pc → Bool
  | .lock _ => true
  | _ => false

/-- The next attempt of the thread at the header lock fails. -/
def State.Spins {τ : Type} (state : State τ) (thread : τ) : Prop :=
  (state.pc thread).atLock = true ∧ state.isLocked ≠ 0

section Rank

variable {τ : Type} {width : PointerWidth} {initial : Nat} {state after : State τ} {thread other : τ}
  {action : Action} {settings : BufferSearchSettings} {final slot : Nat} {load : CanUse}

theorem CanUse.left_run {item : LocatorItem} {next : CanUse}
    (loads : load.run width.modulus settings item = .load next) : next.left + 1 = load.left := by
  cases load <;> simp only [CanUse.run] at loads
  case isAllocated =>
    split at loads <;> cases loads
    rfl
  case position =>
    split at loads <;> cases loads
    rfl
  case endSize =>
    split at loads <;> cases loads
  all_goals
    cases loads
    rfl

theorem CanUse.two_le_left : 2 ≤ load.left := by
  cases load <;> simp [CanUse.left]

theorem Pc.rank_next :
    (Pc.next settings final slot).rank width ≤ 8 * (final - slot - 1) + 1 := by
  unfold Pc.next
  split
  · simp only [Pc.rank, CanUse.left]
    omega
  · exact Nat.zero_le _

@[simp] theorem Pc.rank_eq_zero {pc : Pc} : pc.rank width = 0 ↔ pc = .idle := by
  cases pc <;> simp [Pc.rank]

variable [DecidableEq τ]

@[simp] theorem State.goto_pc_self {pc : Pc} : (state.goto thread pc).pc thread = pc := Function.update_self _ _ _

/-- Each access takes a thread closer to the end of its call, or finds the header lock taken. -/
theorem Inv.rank_run (inv : Inv width initial state) (taken : state.run width thread = some after) :
    (after.pc thread).rank width < (state.pc thread).rank width ∨ state.Spins thread := by
  cases here : state.pc thread with
  | idle => simp [State.run, here] at taken
  | allocate => simp [State.run, here] at taken
  | readCount settings =>
      have bound := inv.counting.bound
      simp only [State.run, here] at taken
      cases taken
      rw [State.goto_pc_self]
      left
      split
      · simp only [Pc.rank, CanUse.left]
        omega
      · exact Nat.succ_pos _
  | canUse settings final slot load =>
      have next : (Pc.next settings final slot).rank width ≤ _ := Pc.rank_next
      have two := load.two_le_left
      simp only [State.run, here] at taken
      split at taken <;> cases taken <;> rw [State.goto_pc_self] <;> left
      · rename_i more loads
        have fewer := CanUse.left_run loads
        simp only [Pc.rank]
        omega
      · simp only [Pc.rank] at next ⊢
        omega
      · simp only [Pc.rank]
        omega
  | tryLock settings final slot =>
      have next : (Pc.next settings final slot).rank width ≤ _ := Pc.rank_next
      simp only [State.run, here, LocatorItem.tryLock, beq_iff_eq] at taken
      left
      by_cases free : (state.items slot).isTaken = 0
      · rw [if_pos free] at taken
        cases taken
        simp only [State.goto_pc_self, Pc.rank]
        omega
      · rw [if_neg free] at taken
        cases taken
        rw [State.goto_pc_self]
        simp only [Pc.rank] at next ⊢
        omega
  | lock settings =>
      simp only [State.run, here] at taken
      split at taken
      · cases taken
        left
        rw [State.goto_pc_self]
        exact Nat.lt_succ_self _
      · rename_i locked
        exact .inr ⟨by rw [here]; rfl, locked⟩
  | store item slot field rest =>
      simp only [State.run, here] at taken
      left
      split at taken <;> cases taken <;> simp [Pc.rank]
  | isFull settings | isFullLocked settings =>
      simp only [State.run, here] at taken
      cases taken
      rw [State.goto_pc_self]
      left
      split <;> simp [Pc.rank]
  | returning | getItem | loadCount | storeCount | unlock =>
      simp only [State.run, here] at taken
      cases taken
      left
      simp [Pc.rank]

/-- What moves a thread to the end of the calls that are under way. -/
def Proceeds (state : State τ) : τ × Action → Prop
  | (thread, .run) => ¬ state.Spins thread
  | (_, .reply _) => True
  | _ => False

theorem Inv.rank_step {label : τ × Action} (inv : Inv width initial state) (proceeds : Proceeds state label)
    (taken : state.step width label = some after) :
    (after.pc label.1).rank width < (state.pc label.1).rank width := by
  obtain ⟨thread, action⟩ := label
  cases action with
  | run => exact (inv.rank_run taken).resolve_right proceeds
  | reply allocated =>
      simp only [State.step] at taken
      split at taken
      · rename_i here
        simp only [here]
        split at taken <;> cases taken <;> simp [Pc.rank]
      · cases taken
  | getFirst | tryAllocate | append | drop => exact proceeds.elim

/-- A thread in a search stays in it until it is idle. -/
theorem State.run_search (taken : state.run width thread = some after)
    (searching : (state.pc thread).searching = true) : (after.pc thread).searching = true := by
  cases here : state.pc thread with
  | idle => simp [State.run, here] at taken
  | readCount settings =>
      simp only [State.run, here] at taken
      cases taken
      rw [State.goto_pc_self]
      split <;> rfl
  | canUse settings final slot load =>
      simp only [State.run, here, Pc.next] at taken
      split at taken <;> cases taken <;> rw [State.goto_pc_self]
      · rfl
      · split <;> rfl
      · rfl
  | tryLock settings final slot =>
      simp only [State.run, here, LocatorItem.tryLock, beq_iff_eq, Pc.next] at taken
      by_cases free : (state.items slot).isTaken = 0
      · rw [if_pos free] at taken
        cases taken
        simp [Pc.searching]
      · rw [if_neg free] at taken
        cases taken
        rw [State.goto_pc_self]
        split <;> rfl
  | returning =>
      simp only [State.run, here] at taken
      cases taken
      rw [State.goto_pc_self]
      rfl
  | isFull | lock | isFullLocked | allocate | getItem | store | loadCount | storeCount | unlock =>
      rw [here] at searching
      cases searching

omit [DecidableEq τ] in
theorem Inv.rank_le (inv : Inv width initial state) (searching : (state.pc thread).searching = true) :
    (state.pc thread).rank width ≤ 8 * width.maxItemCount + 2 := by
  have knows := inv.counting.knows thread
  have bound := inv.counting.bound
  cases here : state.pc thread with
  | canUse settings final slot load =>
      rw [here] at knows
      have inside : final ≤ state.numItems.toNat := knows.2
      have before : slot < final := knows.1
      cases load <;> simp only [Pc.rank, CanUse.left] <;> omega
  | tryLock settings final slot =>
      rw [here] at knows
      have inside : final ≤ state.numItems.toNat := knows.2
      simp only [Pc.rank]
      omega
  | idle | readCount | returning => simp [Pc.rank]
  | isFull | lock | isFullLocked | allocate | getItem | store | loadCount | storeCount | unlock =>
      rw [here] at searching
      cases searching

/-- Unless it waits for the operating system, a thread in a call can take its next access. -/
theorem State.run_enabled (busy : state.pc thread ≠ .idle) (ready : ∀ settings, state.pc thread ≠ .allocate settings) :
    ∃ next, state.run width thread = some next := by
  cases here : state.pc thread with
  | idle => exact absurd here busy
  | allocate settings => exact absurd here (ready settings)
  | canUse settings final slot load =>
      simp only [State.run, here]
      split <;> exact ⟨_, rfl⟩
  | tryLock settings final slot =>
      simp only [State.run, here, LocatorItem.tryLock, beq_iff_eq]
      by_cases free : (state.items slot).isTaken = 0
      · exact ⟨_, if_pos free⟩
      · exact ⟨_, if_neg free⟩
  | lock settings =>
      simp only [State.run, here]
      split <;> exact ⟨_, rfl⟩
  | store item slot field rest =>
      simp only [State.run, here]
      split <;> exact ⟨_, rfl⟩
  | readCount | returning | isFull | isFullLocked | getItem | loadCount | storeCount | unlock =>
      simp only [State.run, here]
      exact ⟨_, rfl⟩

/-- The search is wait-free: whatever the other threads do in between, it is over after
so many of its own accesses, and its next access is always enabled. -/
theorem search_waitFree {start middle last : State τ} {labels more : List (τ × Action)}
    (initialised : start.Initial width)
    (run : Transition.Run (State.step width) Transition.always start labels middle)
    (searching : (middle.pc thread).searching = true)
    (rest : Transition.Run (State.step width) (fun _ label => label.1 = thread → label.2 = .run) middle more last) :
    more.count (thread, .run) ≤ 8 * width.maxItemCount + 2 ∧
      (last.pc thread = .idle ∨ ∃ next, last.step width (thread, .run) = some next) := by
  have reached := run.invariant (Inv width start.numItems.toNat) (fun _ _ _ inv _ taken => inv.step taken)
    initialised.inv
  have counted : Inv width start.numItems.toNat last ∧ (last.pc thread).searching = true ∧
      more.count (thread, .run) + (last.pc thread).rank width ≤ (middle.pc thread).rank width := by
    induction rest with
    | nil => exact ⟨reached, searching, by simp⟩
    | @snoc before after labels label _ own taken ih =>
        obtain ⟨inv, inSearch, fewer⟩ := ih
        obtain ⟨mover, action⟩ := label
        refine ⟨inv.step taken, ?_⟩
        rcases eq_or_ne thread mover with rfl | apart
        · obtain rfl : action = .run := own rfl
          have less := (inv.rank_run taken).resolve_right (by
            rintro ⟨here, _⟩
            revert here inSearch
            cases before.pc thread <;> simp [Pc.atLock, Pc.searching])
          refine ⟨State.run_search taken inSearch, ?_⟩
          rw [List.count_append, List.count_singleton_self]
          omega
        · have still : after.pc thread = before.pc thread := State.step_pc taken apart
          rw [still, List.count_append, List.count_singleton, if_neg (by simp [apart.symm])]
          exact ⟨inSearch, fewer⟩
  obtain ⟨_, inSearch, fewer⟩ := counted
  refine ⟨?_, ?_⟩
  · have bound := reached.rank_le searching
    omega
  · by_cases idle : last.pc thread = .idle
    · exact .inl idle
    · apply Or.inr
      apply State.run_enabled idle
      intro settings here
      rw [here] at inSearch
      cases inSearch

/-- The header lock is free when no thread has it. -/
def State.Released (state : State τ) : Prop :=
  (∀ thread, (state.pc thread).holdsLock = false) → state.isLocked = 0

theorem State.Released.goto {next : Pc} (released : state.Released)
    (same : next.holdsLock = (state.pc thread).holdsLock) : (state.goto thread next).Released := by
  intro nobody
  apply released
  intro other
  have free := nobody other
  simp only [State.goto] at free
  rcases eq_or_ne other thread with rfl | apart
  · rwa [Function.update_self, same] at free
  · rwa [Function.update_of_ne apart] at free

theorem State.Released.run (released : state.Released) (taken : state.run width thread = some after) :
    after.Released := by
  cases here : state.pc thread with
  | idle => simp [State.run, here] at taken
  | allocate => simp [State.run, here] at taken
  | lock settings =>
      simp only [State.run, here] at taken
      split at taken
      · cases taken
        -- Now a thread has it.
        intro nobody
        have held := nobody thread
        rw [State.goto_pc_self] at held
        cases held
      · cases taken
        exact released
  | unlock =>
      simp only [State.run, here] at taken
      cases taken
      exact fun _ => rfl
  | tryLock settings final slot =>
      simp only [State.run, here, LocatorItem.tryLock, beq_iff_eq, Pc.next] at taken
      have kept : (state.setItem slot { state.items slot with isTaken := 1 }).Released := released
      by_cases free : (state.items slot).isTaken = 0
      · rw [if_pos free] at taken
        cases taken
        exact kept.goto (by simp only [State.setItem, here]; rfl)
      · rw [if_neg free] at taken
        cases taken
        apply kept.goto
        simp only [State.setItem, here]
        split <;> rfl
  | canUse settings final slot load =>
      simp only [State.run, here, Pc.next] at taken
      split at taken <;> cases taken <;> apply released.goto <;> rw [here]
      · rfl
      · split <;> rfl
      · rfl
  | readCount settings | isFull settings | isFullLocked settings =>
      simp only [State.run, here] at taken
      cases taken
      apply released.goto
      rw [here]
      split <;> rfl
  | store item slot field rest =>
      simp only [State.run, here] at taken
      split at taken <;> cases taken <;> exact released.goto (by rw [here]; rfl)
  | returning | getItem | loadCount | storeCount =>
      simp only [State.run, here] at taken
      cases taken
      exact released.goto (by rw [here]; rfl)

theorem State.Released.step {label : τ × Action} (released : state.Released)
    (taken : state.step width label = some after) : after.Released := by
  obtain ⟨thread, action⟩ := label
  cases action with
  | run => exact released.run taken
  | getFirst settings | tryAllocate settings =>
      simp only [State.step] at taken
      split at taken
      · rename_i idle
        cases taken
        exact released.goto (by rw [idle]; rfl)
      · cases taken
  | reply allocated =>
      simp only [State.step] at taken
      split at taken
      · rename_i here
        split at taken <;> cases taken <;> exact released.goto (by rw [here]; rfl)
      · cases taken
  | append slot count | drop slot =>
      simp only [State.step] at taken
      split at taken <;> cases taken
      exact released

/-- Somebody can always go on: the thread that has the header lock, and anybody when no
thread has it. -/
theorem State.Released.proceeds (released : state.Released) (busy : ∃ thread, state.pc thread ≠ .idle) :
    ∃ label next, Proceeds state label ∧ state.step width label = some next := by
  by_cases nobody : ∀ thread, (state.pc thread).holdsLock = false
  · obtain ⟨thread, busy⟩ := busy
    have ready : ∀ settings, state.pc thread ≠ .allocate settings := by
      intro settings here
      have free := nobody thread
      rw [here] at free
      cases free
    obtain ⟨next, taken⟩ : ∃ next, state.run width thread = some next := State.run_enabled busy ready
    refine ⟨(thread, .run), next, ?_, taken⟩
    exact fun spins => spins.2 (released nobody)
  · obtain ⟨holder, held⟩ := not_forall.mp nobody
    have busy : state.pc holder ≠ .idle := by
      intro idle
      rw [idle] at held
      exact held rfl
    by_cases waits : ∃ settings, state.pc holder = .allocate settings
    · -- It waits for the operating system, which can always refuse.
      obtain ⟨settings, here⟩ := waits
      refine ⟨(holder, .reply none), state.goto holder .unlock, trivial, ?_⟩
      simp [State.step, here]
    · obtain ⟨next, taken⟩ : ∃ next, state.run width holder = some next := State.run_enabled busy (not_exists.mp waits)
      refine ⟨(holder, .run), next, ?_, taken⟩
      rintro ⟨here, _⟩
      revert here held
      cases state.pc holder <;> simp [Pc.atLock, Pc.holdsLock]

/-- The accesses that the calls under way have left. -/
def State.potential [Fintype τ] (width : PointerWidth) (state : State τ) : Nat :=
  ∑ thread, (state.pc thread).rank width

theorem Inv.potential_step [Fintype τ] {label : τ × Action} (inv : Inv width initial state)
    (proceeds : Proceeds state label) (taken : state.step width label = some after) :
    after.potential width < state.potential width := by
  have less := inv.rank_step proceeds taken
  apply Finset.sum_lt_sum
  · intro other _
    rcases eq_or_ne other label.1 with rfl | apart
    · exact Nat.le_of_lt less
    · exact Nat.le_of_eq (congrArg (Pc.rank width) (State.step_pc taken apart))
  · exact ⟨label.1, Finset.mem_univ _, less⟩

/-- There is no deadlock and no livelock: from any reachable state, the calls under way
end after a bounded number of steps other than failed attempts at the header lock, in
whatever order these are taken, and until all have ended one of these steps is enabled. -/
theorem calls_finish [Fintype τ] {start middle last : State τ} {labels more : List (τ × Action)}
    (initialised : start.Initial width)
    (run : Transition.Run (State.step width) Transition.always start labels middle)
    (rest : Transition.Run (State.step width) Proceeds middle more last) :
    more.length + last.potential width ≤ middle.potential width ∧
      ((∀ thread, last.pc thread = .idle) ∨
        ∃ label next, Proceeds last label ∧ last.step width label = some next) := by
  have released : start.Released := fun _ => initialised.isLocked
  have reached : Inv width start.numItems.toNat middle ∧ middle.Released :=
    run.invariant (fun state => Inv width start.numItems.toNat state ∧ state.Released)
      (fun _ _ _ holds _ taken => ⟨holds.1.step taken, holds.2.step taken⟩) ⟨initialised.inv, released⟩
  have counted : Inv width start.numItems.toNat last ∧ last.Released ∧
      more.length + last.potential width ≤ middle.potential width := by
    induction rest with
    | nil => exact ⟨reached.1, reached.2, by simp⟩
    | snoc _ proceeds taken ih =>
        obtain ⟨inv, released, fewer⟩ := ih
        have less := inv.potential_step proceeds taken
        refine ⟨inv.step taken, released.step taken, ?_⟩
        rw [List.length_append, List.length_singleton]
        omega
  refine ⟨counted.2.2, ?_⟩
  by_cases idle : ∀ thread, last.pc thread = .idle
  · exact .inl idle
  · exact .inr (counted.2.1.proceeds (not_forall.mp idle))

end Rank

instance {τ : Type} (state : State τ) (label : τ × Action) : Decidable (Proceeds state label) :=
  match label with
  | (thread, .run) => inferInstanceAs (Decidable (¬ ((state.pc thread).atLock = true ∧ state.isLocked ≠ 0)))
  | (_, .reply _) => inferInstanceAs (Decidable True)
  | (_, .getFirst _) | (_, .tryAllocate _) | (_, .append _ _) | (_, .drop _) => inferInstanceAs (Decidable False)

/-- Both threads ask for the last slot. -/
def bothAsk : List (Bool × Action) :=
  [(false, .tryAllocate ⟨0, 0x7FFFFFFFFFFF, 100⟩), (true, .tryAllocate ⟨0, 0x7FFFFFFFFFFF, 100⟩)]

/-- The first gets it, the second finds the locator full when it has the lock. -/
def bothEnd : List (Bool × Action) :=
  [(true, .run)] ++ List.replicate 3 (false, .run) ++ [(false, .reply (some (0x30000, 4096)))] ++
    List.replicate 8 (false, .run) ++ List.replicate 3 (true, .run)

theorem calls_finish_last : ∃ middle last : State Bool, middle.potential .bits64 = 24 ∧ last.numItems = 203 ∧
    bothEnd.length + last.potential .bits64 ≤ middle.potential .bits64 ∧
    ((∀ thread, last.pc thread = .idle) ∨
      ∃ label next, Proceeds last label ∧ last.step .bits64 label = some next) := by
  have schedule : ∃ middle last, Transition.execute (State.step .bits64) oneSlotLeft bothAsk = some middle ∧
      Transition.execute (Transition.restrict (State.step .bits64) Proceeds) middle bothEnd = some last ∧
      middle.potential .bits64 = 24 ∧ last.numItems = 203 := ⟨_, _, rfl, rfl, rfl, rfl⟩
  obtain ⟨middle, last, asked, ended, potential, counted⟩ := schedule
  have run := Transition.execute_run (fun _ _ _ => trivial) asked
  exact ⟨middle, last, potential, counted,
    calls_finish oneSlotLeft_initial run (Transition.execute_restrict ended)⟩

/-- The second thread searches while the first asks for a new item. -/
def searchMeanwhile : List (Bool × Action) :=
  [(true, .run), (false, .tryAllocate ⟨0, 0x7FFFFFFFFFFF, 100⟩), (true, .run), (false, .run), (true, .run)]

theorem search_waitFree_meanwhile : ∃ middle last : State Bool, middle.pc true = .readCount ⟨0, 0x7FFFFFFFFFFF, 100⟩ ∧
    searchMeanwhile.count (true, .run) ≤ 8 * PointerWidth.bits64.maxItemCount + 2 ∧
    (last.pc true = .idle ∨ ∃ next, last.step .bits64 (true, .run) = some next) := by
  have schedule : ∃ middle last,
      Transition.execute (State.step .bits64) oneSlotLeft [(true, .getFirst ⟨0, 0x7FFFFFFFFFFF, 100⟩)] = some middle ∧
      Transition.execute (State.step .bits64) middle searchMeanwhile = some last ∧
      middle.pc true = .readCount ⟨0, 0x7FFFFFFFFFFF, 100⟩ := ⟨_, _, rfl, rfl, rfl⟩
  obtain ⟨middle, last, asked, searched, reading⟩ := schedule
  have run := Transition.execute_run (fun _ _ _ => trivial) asked
  have own : ∀ state : State Bool, ∀ label ∈ searchMeanwhile, label.1 = true → label.2 = .run := fun _ => by decide
  exact ⟨middle, last, reading, search_waitFree oneSlotLeft_initial run (by rw [reading]; rfl)
    (Transition.execute_run own searched)⟩

end SharedLocator

end ReloadedBuffers
