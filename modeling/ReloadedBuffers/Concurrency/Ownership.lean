import ReloadedBuffers.Concurrency.SharedLocator
import ReloadedBuffers.Foundation.SpinLock

/-! Registration and ownership in a shared locator. The header lock makes one thread at
a time the one that fills the slot behind the registered ones; the lock word of an
item makes one thread its owner.
-/

set_option autoImplicit false

namespace ReloadedBuffers

namespace SharedLocator

def Pc.holdsLock : Pc → Bool
  | .isFullLocked _ | .allocate _ | .getItem _ | .store _ _ _ _ | .loadCount _ | .storeCount _ _ | .unlock => true
  | _ => false

/-- The slot that a thread has filled but not counted yet. -/
def Pc.filled : Pc → Option Nat
  | .loadCount slot | .storeCount slot _ => some slot
  | _ => none

/-- What a thread may rely on where it is: about the count when it searches, and about
the slot behind the count when it holds the lock. -/
def Pc.Knows (width : PointerWidth) (count : UInt8) (stores : Nat → List Field) : Pc → Prop
  | .canUse _ final slot _ | .tryLock _ final slot => slot < final ∧ final ≤ count.toNat
  | .returning _ slot => slot < count.toNat
  | .isFullLocked _ | .unlock => stores count.toNat = []
  | .allocate _ => count.toNat < width.maxItemCount ∧ stores count.toNat = []
  | .getItem item => count.toNat < width.maxItemCount ∧ stores count.toNat = [] ∧ item.isTaken = 1
  | .store item slot field rest => count.toNat < width.maxItemCount ∧ slot = count.toNat ∧
    stores count.toNat ++ field :: rest = Field.all ∧ item.isTaken = 1
  | .loadCount slot => count.toNat < width.maxItemCount ∧ slot = count.toNat ∧ stores count.toNat = Field.all
  | .storeCount slot loaded => count.toNat < width.maxItemCount ∧ slot = count.toNat ∧
    stores count.toNat = Field.all ∧ loaded = count
  | _ => True

variable {τ : Type}

/-- The slots below the count are complete, and the one behind them belongs to the
holder of the lock. -/
structure Counting (width : PointerWidth) (initial : Nat) (count : UInt8) (stores : Nat → List Field)
    (registrations : List Nat) (pc : τ → Pc) : Prop where
  bound : count.toNat ≤ width.maxItemCount
  below : ∀ slot < count.toNat, stores slot = Field.all
  above : ∀ slot, count.toNat < slot → stores slot = []
  free : (∀ thread, (pc thread).holdsLock = false) → stores count.toNat = []
  knows : ∀ thread, (pc thread).Knows width count stores
  counted : count.toNat = initial + registrations.length
  ordered : registrations = List.range' initial registrations.length

/-- Live items are locked, held once, and lie in slots that have been filled. -/
structure Living (count : UInt8) (items : Nat → LocatorItem) (live : List (τ × Nat)) (pc : τ → Pc) : Prop where
  nodup : (live.map Prod.snd).Nodup
  taken : ∀ entry ∈ live, (items entry.2).isTaken ≠ 0
  placed : ∀ entry ∈ live, entry.2 < count.toNat ∨ (pc entry.1).filled = some entry.2

variable {isLocked : Int32} {pc : τ → Pc} {thread : τ} {next : Pc} {width : PointerWidth}
  {initial : Nat} {count : UInt8} {stores : Nat → List Field} {registrations : List Nat}
  {items : Nat → LocatorItem} {live : List (τ × Nat)}

/-- A thread without the lock knows nothing about the stores, and what it knows about
the count survives growth. -/
theorem Pc.Knows.mono {pc : Pc} {more : UInt8} {others : Nat → List Field} (knows : pc.Knows width count stores)
    (free : pc.holdsLock = false) (grows : count.toNat ≤ more.toNat) : pc.Knows width more others := by
  cases pc with
  | canUse _ final slot _ => exact ⟨knows.1, knows.2.trans grows⟩
  | tryLock _ final slot => exact ⟨knows.1, knows.2.trans grows⟩
  | returning _ slot => exact Nat.lt_of_lt_of_le knows grows
  | idle => trivial
  | readCount => trivial
  | isFull => trivial
  | lock => trivial
  | isFullLocked => cases free
  | allocate => cases free
  | getItem => cases free
  | store => cases free
  | loadCount => cases free
  | storeCount => cases free
  | unlock => cases free

/-- No field of any slot is ever stored twice. -/
theorem Counting.once (counting : Counting width initial count stores registrations pc) (slot : Nat) :
    stores slot <+: Field.all := by
  rcases Nat.lt_trichotomy slot count.toNat with below | rfl | above
  · exact (counting.below slot below) ▸ List.prefix_rfl
  -- Only the slot behind the count may be half filled, and only by the thread that holds the lock.
  · by_cases nobody : ∀ thread, (pc thread).holdsLock = false
    · rw [counting.free nobody]
      exact List.nil_prefix
    · obtain ⟨holder, holds⟩ := not_forall.mp nobody
      have knows := counting.knows holder
      revert holds knows
      generalize pc holder = where_
      intro holds knows
      cases where_ with
      | store item slot field rest => exact ⟨_, knows.2.2.1⟩
      | loadCount slot => exact knows.2.2 ▸ List.prefix_rfl
      | storeCount slot loaded => exact knows.2.2.1 ▸ List.prefix_rfl
      | isFullLocked => rw [knows]; exact List.nil_prefix
      | unlock => rw [knows]; exact List.nil_prefix
      | allocate => rw [knows.2]; exact List.nil_prefix
      | getItem => rw [knows.2.1]; exact List.nil_prefix
      | idle | readCount | canUse | tryLock | returning | isFull | lock => exact absurd rfl holds
  · rw [counting.above slot above]
    exact List.nil_prefix

theorem Living.rewrite {others : Nat → LocatorItem} (living : Living count items live pc)
    (kept : ∀ entry ∈ live, (items entry.2).isTaken ≠ 0 → (others entry.2).isTaken ≠ 0) :
    Living count others live pc where
  nodup := living.nodup
  taken entry member := kept entry member (living.taken entry member)
  placed := living.placed

theorem Living.grow {more : UInt8} (living : Living count items live pc) (grows : count.toNat ≤ more.toNat) :
    Living more items live pc where
  nodup := living.nodup
  taken := living.taken
  placed entry member := (living.placed entry member).imp_left (Nat.lt_of_lt_of_le · grows)

/-- A thread becomes the owner of a slot that had none. -/
theorem Living.own {slot : Nat} (living : Living count items live pc) (unowned : ∀ entry ∈ live, entry.2 ≠ slot)
    (taken : (items slot).isTaken ≠ 0) (placed : slot < count.toNat ∨ (pc thread).filled = some slot) :
    Living count items ((thread, slot) :: live) pc where
  nodup := by
    refine List.nodup_cons.mpr ⟨fun member => ?_, living.nodup⟩
    obtain ⟨entry, owned, same⟩ := List.mem_map.mp member
    exact unowned entry owned same
  taken entry member := by
    rcases List.mem_cons.mp member with rfl | owned
    · exact taken
    · exact living.taken entry owned
  placed entry member := by
    rcases List.mem_cons.mp member with rfl | owned
    · exact placed
    · exact living.placed entry owned

/-- While a thread fills the slot behind the count, nobody owns that slot. -/
theorem Living.unowned (living : Living count items live pc) (guards : SpinLock.Guards Pc.holdsLock isLocked pc)
    (holds : (pc thread).holdsLock = true) (filling : (pc thread).filled = none) :
    ∀ entry ∈ live, entry.2 ≠ count.toNat := by
  rintro entry member same
  rcases living.placed entry member with below | filled
  · omega
  · have held : (pc entry.1).holdsLock = true := by
      revert filled
      cases pc entry.1 <;> simp [Pc.filled, Pc.holdsLock]
    -- Only the holder of the lock fills a slot, and it has not filled this one.
    rw [guards.exclusive entry.1 thread held holds, filling] at filled
    cases filled

/-- The invariant of a shared locator. -/
structure Inv (width : PointerWidth) (initial : Nat) (state : State τ) : Prop where
  guards : SpinLock.Guards Pc.holdsLock state.isLocked state.pc
  clean : state.assertionFailed = false
  counting : Counting width initial state.numItems state.stores state.registrations state.pc
  living : Living state.numItems state.items state.live state.pc

variable {state : State τ}

theorem Inv.setItem {slot : Nat} {item : LocatorItem} (inv : Inv width initial state)
    (kept : (state.items slot).isTaken ≠ 0 → item.isTaken ≠ 0) : Inv width initial (state.setItem slot item) where
  guards := inv.guards
  clean := inv.clean
  counting := inv.counting
  living := inv.living.rewrite fun entry _ taken => by
    simp only [State.setItem]
    rcases eq_or_ne entry.2 slot with same | apart
    · rw [same, Function.update_self]
      exact kept (same ▸ taken)
    · rwa [Function.update_of_ne apart]

theorem State.Initial.inv (start : State.Initial width state) : Inv width state.numItems.toNat state where
  guards := by
    apply SpinLock.Guards.idle
    intro thread
    rw [start.idle]
    rfl
  clean := start.assertionFailed
  counting := by
    refine ⟨start.bound, start.below, ?_, ?_, ?_, ?_, ?_⟩
    · exact fun slot outside => start.above slot (Nat.le_of_lt outside)
    · exact fun _ => start.above _ (Nat.le_refl _)
    · intro thread
      rw [start.idle]
      trivial
    · rw [start.registrations]
      rfl
    · rw [start.registrations]
      rfl
  living := by
    refine ⟨?_, ?_, ?_⟩ <;> simp [start.live]

/-- Registered slots stay registered, over the same memory. -/
structure Kept (earlier later : State τ) : Prop where
  count : earlier.numItems.toNat ≤ later.numItems.toNat
  buffer : ∀ slot < earlier.numItems.toNat, (later.items slot).baseAddress = (earlier.items slot).baseAddress ∧
    (later.items slot).size = (earlier.items slot).size

theorem Kept.of_eq {later : State τ} (count : later.numItems = state.numItems) (items : later.items = state.items) :
    Kept state later where
  count := by rw [count]
  buffer slot _ := by rw [items]; exact ⟨rfl, rfl⟩

theorem Kept.setItem {later : State τ} {slot : Nat} {item : LocatorItem} (count : later.numItems = state.numItems)
    (items : later.items = Function.update state.items slot item)
    (same : slot < state.numItems.toNat →
      item.baseAddress = (state.items slot).baseAddress ∧ item.size = (state.items slot).size) :
    Kept state later where
  count := by rw [count]
  buffer other inside := by
    rw [items]
    rcases eq_or_ne other slot with rfl | apart
    · rw [Function.update_self]
      exact same inside
    · rw [Function.update_of_ne apart]
      exact ⟨rfl, rfl⟩

theorem Kept.trans {first second third : State τ} (left : Kept first second) (right : Kept second third) :
    Kept first third where
  count := left.count.trans right.count
  buffer slot inside := by
    have one := left.buffer slot inside
    have two := right.buffer slot (Nat.lt_of_lt_of_le inside left.count)
    exact ⟨two.1.trans one.1, two.2.trans one.2⟩

variable [DecidableEq τ]

/-- One thread has moved; the others know what they know where they are. -/
theorem knows_update (knows : next.Knows width count stores)
    (others : ∀ other, other ≠ thread → (pc other).Knows width count stores) (other : τ) :
    (Function.update pc thread next other).Knows width count stores :=
  (Function.forall_update_iff pc fun _ place => place.Knows width count stores).mpr ⟨knows, others⟩ other

/-- A thread moves on, and leaves the slot behind the count clean if nobody has the lock. -/
theorem Counting.move (counting : Counting width initial count stores registrations pc)
    (knows : next.Knows width count stores)
    (free : (∀ other, (Function.update pc thread next other).holdsLock = false) → stores count.toNat = []) :
    Counting width initial count stores registrations (Function.update pc thread next) where
  bound := counting.bound
  below := counting.below
  above := counting.above
  free := free
  knows := knows_update knows fun other _ => counting.knows other
  counted := counting.counted
  ordered := counting.ordered

theorem Counting.goto (counting : Counting width initial count stores registrations pc)
    (same : next.holdsLock = (pc thread).holdsLock) (knows : next.Knows width count stores) :
    Counting width initial count stores registrations (Function.update pc thread next) := by
  refine counting.move knows fun nobody => counting.free fun other => ?_
  rcases eq_or_ne other thread with rfl | apart
  · rw [← same, ← nobody other, Function.update_self]
  · rw [← nobody other, Function.update_of_ne apart]

/-- The holder of the lock stores a field into the slot behind the count. -/
theorem Counting.store {field : Field} (counting : Counting width initial count stores registrations pc)
    (guards : SpinLock.Guards Pc.holdsLock isLocked pc) (holds : (pc thread).holdsLock = true)
    (still : next.holdsLock = true)
    (knows : next.Knows width count (Function.update stores count.toNat (stores count.toNat ++ [field]))) :
    Counting width initial count (Function.update stores count.toNat (stores count.toNat ++ [field])) registrations
      (Function.update pc thread next) where
  bound := counting.bound
  below slot inside := by
    rw [Function.update_of_ne (Nat.ne_of_lt inside)]
    exact counting.below slot inside
  above slot outside := by
    rw [Function.update_of_ne (Nat.ne_of_gt outside)]
    exact counting.above slot outside
  free nobody := by
    have held := nobody thread
    rw [Function.update_self, still] at held
    cases held
  knows := knows_update knows fun other apart =>
    (counting.knows other).mono (guards.other holds apart) (Nat.le_refl _)
  counted := counting.counted
  ordered := counting.ordered

/-- The holder of the lock counts the slot it has filled. -/
theorem Counting.register (counting : Counting width initial count stores registrations pc)
    (guards : SpinLock.Guards Pc.holdsLock isLocked pc) (holds : (pc thread).holdsLock = true)
    (room : count.toNat < width.maxItemCount) (complete : stores count.toNat = Field.all) :
    Counting width initial (count + 1) stores (registrations ++ [count.toNat])
      (Function.update pc thread .unlock) := by
  have most := width.maxItemCount_le
  have counted : (count + 1).toNat = count.toNat + 1 := by
    rw [UInt8.toNat_add]
    exact Nat.mod_eq_of_lt (by simp only [UInt8.reduceToNat]; omega)
  -- The slot behind the new count has not been touched.
  have behind : stores (count + 1).toNat = [] := counting.above _ (by omega)
  refine ⟨by omega, ?_, ?_, fun _ => behind, ?_, ?_, ?_⟩
  · intro slot inside
    rcases Nat.lt_or_ge slot count.toNat with before | here
    · exact counting.below slot before
    · have last : slot = count.toNat := by omega
      rw [last, complete]
  · intro slot outside
    exact counting.above slot (by omega)
  · exact knows_update behind fun other apart => (counting.knows other).mono (guards.other holds apart) (by omega)
  · rw [List.length_append, counted, counting.counted]
    rfl
  · have start := counting.counted
    rw [List.length_append, List.length_singleton, List.range'_concat, ← counting.ordered, start]
    simp

theorem Living.goto (living : Living count items live pc)
    (same : ∀ slot, (pc thread).filled = some slot → next.filled = some slot ∨ slot < count.toNat) :
    Living count items live (Function.update pc thread next) where
  nodup := living.nodup
  taken := living.taken
  placed entry member := by
    rcases living.placed entry member with below | filled
    · exact .inl below
    · rcases eq_or_ne entry.1 thread with here | apart
      · rw [here, Function.update_self]
        exact (same _ (here ▸ filled)).symm
      · rw [Function.update_of_ne apart]
        exact .inr filled

/-- The owner of a slot is the only one that can give it up. -/
theorem Living.drop {slot : Nat} (living : Living count items live pc) (owned : (thread, slot) ∈ live) :
    Living count (Function.update items slot (items slot).unlock) (live.erase (thread, slot)) pc := by
  have distinct : live.Nodup := .of_map _ living.nodup
  have others : ∀ entry ∈ live.erase (thread, slot), entry ∈ live ∧ entry.2 ≠ slot := by
    intro entry member
    obtain ⟨apart, present⟩ := distinct.mem_erase_iff.mp member
    refine ⟨present, fun same => apart ?_⟩
    exact List.inj_on_of_nodup_map living.nodup present owned same
  refine ⟨?_, ?_, ?_⟩
  · exact living.nodup.sublist (List.erase_sublist.map _)
  · intro entry member
    obtain ⟨present, apart⟩ := others entry member
    rw [Function.update_of_ne apart]
    exact living.taken entry present
  · exact fun entry member => living.placed entry (others entry member).1

/-- Most steps only move a thread on. -/
theorem Inv.goto (inv : Inv width initial state) (holds : next.holdsLock = (state.pc thread).holdsLock)
    (filled : (state.pc thread).filled = next.filled)
    (knows : next.Knows width state.numItems state.stores) : Inv width initial (state.goto thread next) where
  guards := inv.guards.goto holds
  clean := inv.clean
  counting := inv.counting.goto holds knows
  living := inv.living.goto fun _ found => .inl (filled ▸ found)

/-- The swap of `try_lock`, by which a searching thread may become an owner. -/
theorem Inv.tryLock {settings : BufferSearchSettings} {final slot : Nat} (inv : Inv width initial state)
    (here : state.pc thread = .tryLock settings final slot) {after : State τ}
    (taken : state.run width thread = some after) : Inv width initial after := by
  have knows := inv.counting.knows thread
  rw [here] at knows
  have marked : Inv width initial (state.setItem slot { state.items slot with isTaken := 1 }) :=
    inv.setItem fun _ => by simp
  simp only [State.run, here, LocatorItem.tryLock, beq_iff_eq] at taken
  by_cases free : (state.items slot).isTaken = 0
  · rw [if_pos free] at taken
    cases taken
    have moved : Inv width initial ((state.setItem slot { state.items slot with isTaken := 1 }).goto thread
        (.returning settings slot)) :=
      marked.goto (by rw [State.setItem, here]; rfl) (by rw [State.setItem, here]; rfl)
        (Nat.lt_of_lt_of_le knows.1 knows.2)
    refine ⟨moved.guards, moved.clean, moved.counting, moved.living.own ?_ ?_ ?_⟩
    -- An owned slot would have been taken, and the swap would have failed.
    · rintro entry member rfl
      exact inv.living.taken entry member free
    · simp [State.goto, State.setItem]
    · exact .inl (Nat.lt_of_lt_of_le knows.1 knows.2)
  · rw [if_neg free] at taken
    cases taken
    refine marked.goto ?_ ?_ ?_
    · simp only [State.setItem, here, Pc.next]
      split <;> rfl
    · simp only [State.setItem, here, Pc.next]
      split <;> rfl
    · simp only [Pc.next]
      split
      · exact ⟨by assumption, knows.2⟩
      · trivial

/-- A store into the slot behind the count; the last one makes the thread its owner. -/
theorem Inv.store {item : LocatorItem} {slot : Nat} {field : Field} {rest : List Field}
    (inv : Inv width initial state) (here : state.pc thread = .store item slot field rest) {after : State τ}
    (taken : state.run width thread = some after) : Inv width initial after := by
  have knows := inv.counting.knows thread
  rw [here] at knows
  obtain ⟨room, rfl, stored, locked⟩ := knows
  have holds : (state.pc thread).holdsLock = true := by rw [here]; rfl
  have unowned := inv.living.unowned inv.guards holds (by rw [here]; rfl)
  have written : Living state.numItems (Function.update state.items state.numItems.toNat
      (field.copy item (state.items state.numItems.toNat))) state.live state.pc :=
    inv.living.rewrite fun entry member taken => by
      rwa [Function.update_of_ne (unowned entry member)]
  simp only [State.run, here, State.setItem] at taken
  split at taken
  · rename_i next rest
    cases taken
    refine ⟨inv.guards.goto (by rw [here]; rfl), inv.clean, inv.counting.store inv.guards holds rfl ?_,
      written.goto (by rw [here]; rintro _ ⟨⟩)⟩
    refine ⟨room, rfl, ?_, locked⟩
    rw [Function.update_self, List.append_assoc]
    exact stored
  · cases taken
    -- The lock word is copied last, and the copied item is locked already.
    have last : field = .isTaken := by
      have ends := congrArg List.getLast? stored
      simpa [Field.all] using ends
    refine ⟨inv.guards.goto (by rw [here]; rfl), inv.clean, inv.counting.store inv.guards holds rfl ?_,
      (written.goto (by rw [here]; rintro _ ⟨⟩)).own unowned ?_ ?_⟩
    · refine ⟨room, rfl, ?_⟩
      rw [Function.update_self]
      exact stored
    · rw [Function.update_self, last]
      simp [Field.copy, locked]
    · exact .inr (by rw [Function.update_self]; rfl)

theorem Inv.lock {settings : BufferSearchSettings} (inv : Inv width initial state)
    (here : state.pc thread = .lock settings) {after : State τ} (taken : state.run width thread = some after) :
    Inv width initial after := by
  simp only [State.run, here] at taken
  split at taken
  · rename_i free
    cases taken
    have guards := inv.guards
    rw [free] at guards
    have empty := inv.counting.free guards.nobody
    refine ⟨guards.acquire (show (1 : Int32) ≠ 0 by decide), inv.clean, inv.counting.move empty fun _ => empty,
      inv.living.goto ?_⟩
    rw [here]
    rintro slot ⟨⟩
  · cases taken
    exact inv

theorem Inv.storeCount {slot : Nat} {loaded : UInt8} (inv : Inv width initial state)
    (here : state.pc thread = .storeCount slot loaded) {after : State τ}
    (taken : state.run width thread = some after) : Inv width initial after := by
  have knows := inv.counting.knows thread
  rw [here] at knows
  obtain ⟨room, rfl, complete, rfl⟩ := knows
  have holds : (state.pc thread).holdsLock = true := by rw [here]; rfl
  have grown := inv.counting.register inv.guards holds room complete
  have next : (state.numItems + 1).toNat = state.numItems.toNat + 1 := by
    have before := inv.counting.counted
    have after := grown.counted
    rw [List.length_append, List.length_singleton] at after
    omega
  simp only [State.run, here] at taken
  cases taken
  refine ⟨inv.guards.goto (by rw [here]; rfl), inv.clean, grown,
    (inv.living.grow (show _ ≤ (state.numItems + 1).toNat by omega)).goto ?_⟩
  rw [here]
  rintro slot ⟨⟩
  exact .inr (by omega)

theorem Inv.unlock (inv : Inv width initial state) (here : state.pc thread = .unlock) {after : State τ}
    (taken : state.run width thread = some after) : Inv width initial after := by
  have empty := inv.counting.knows thread
  rw [here] at empty
  have holds : (state.pc thread).holdsLock = true := by rw [here]; rfl
  have clean : (state.assertionFailed || state.isLocked == 0) = false := by
    simp [inv.clean, inv.guards.locked thread holds]
  simp only [State.run, here] at taken
  cases taken
  refine ⟨inv.guards.release holds rfl, clean, inv.counting.move trivial fun _ => empty,
    inv.living.goto ?_⟩
  rw [here]
  rintro slot ⟨⟩

theorem Inv.run (inv : Inv width initial state) {after : State τ} (taken : state.run width thread = some after) :
    Inv width initial after := by
  have knows := inv.counting.knows thread
  cases here : state.pc thread with
  | idle => simp [State.run, here] at taken
  | allocate settings => simp [State.run, here] at taken
  | tryLock settings final slot => exact inv.tryLock here taken
  | store item slot field rest => exact inv.store here taken
  | lock settings => exact inv.lock here taken
  | storeCount slot loaded => exact inv.storeCount here taken
  | unlock => exact inv.unlock here taken
  | readCount settings =>
      simp only [State.run, here] at taken
      split at taken
      · rename_i some_item
        cases taken
        exact inv.goto (by rw [here]; rfl) (by rw [here]; rfl) ⟨some_item, Nat.le_refl _⟩
      · cases taken
        exact inv.goto (by rw [here]; rfl) (by rw [here]; rfl) trivial
  | canUse settings final slot load =>
      rw [here] at knows
      simp only [State.run, here] at taken
      split at taken
      · cases taken
        exact inv.goto (by rw [here]; rfl) (by rw [here]; rfl) knows
      · cases taken
        simp only [Pc.next]
        split
        · exact inv.goto (by rw [here]; rfl) (by rw [here]; rfl) ⟨by assumption, knows.2⟩
        · exact inv.goto (by rw [here]; rfl) (by rw [here]; rfl) trivial
      · cases taken
        exact inv.goto (by rw [here]; rfl) (by rw [here]; rfl) knows
  | returning settings slot =>
      simp only [State.run, here] at taken
      cases taken
      exact inv.goto (by rw [here]; rfl) (by rw [here]; rfl) trivial
  | isFull settings =>
      simp only [State.run, here] at taken
      split at taken <;> cases taken <;> exact inv.goto (by rw [here]; rfl) (by rw [here]; rfl) trivial
  | isFullLocked settings =>
      rw [here] at knows
      simp only [State.run, here] at taken
      split at taken
      · cases taken
        exact inv.goto (by rw [here]; rfl) (by rw [here]; rfl) knows
      · rename_i room
        cases taken
        exact inv.goto (by rw [here]; rfl) (by rw [here]; rfl) ⟨by omega, knows⟩
  | getItem item =>
      rw [here] at knows
      obtain ⟨room, empty, locked⟩ := knows
      simp only [State.run, here] at taken
      cases taken
      refine inv.goto (by rw [here]; rfl) (by rw [here]; rfl) ⟨room, rfl, ?_, locked⟩
      rw [empty]
      rfl
  | loadCount slot =>
      rw [here] at knows
      obtain ⟨room, same, complete⟩ := knows
      simp only [State.run, here] at taken
      cases taken
      exact inv.goto (by rw [here]; rfl) (by rw [here]; rfl) ⟨room, same, complete, rfl⟩

theorem Inv.step {label : τ × Action} (inv : Inv width initial state) {after : State τ}
    (taken : state.step width label = some after) : Inv width initial after := by
  obtain ⟨thread, action⟩ := label
  have knows := inv.counting.knows thread
  cases action with
  | run => exact inv.run taken
  | getFirst settings =>
      simp only [State.step] at taken
      split at taken
      · rename_i here
        cases taken
        exact inv.goto (by rw [here]; rfl) (by rw [here]; rfl) trivial
      · cases taken
  | tryAllocate settings =>
      simp only [State.step] at taken
      split at taken
      · rename_i here
        cases taken
        exact inv.goto (by rw [here]; rfl) (by rw [here]; rfl) trivial
      · cases taken
  | reply allocated =>
      simp only [State.step] at taken
      split at taken
      · rename_i settings here
        rw [here] at knows
        split at taken
        · cases taken
          exact inv.goto (by rw [here]; rfl) (by rw [here]; rfl) ⟨knows.1, knows.2, rfl⟩
        · cases taken
          exact inv.goto (by rw [here]; rfl) (by rw [here]; rfl) knows.2
      · cases taken
  | append slot count =>
      simp only [State.step] at taken
      split at taken
      · cases taken
        exact inv.setItem id
      · cases taken
  | drop slot =>
      simp only [State.step] at taken
      split at taken
      · rename_i owned
        cases taken
        exact ⟨inv.guards, inv.clean, inv.counting, inv.living.drop owned.2⟩
      · cases taken

/-- No access changes the buffer of a registered slot. -/
theorem Inv.run_kept (inv : Inv width initial state) {after : State τ}
    (taken : state.run width thread = some after) : Kept state after := by
  have knows := inv.counting.knows thread
  cases here : state.pc thread with
  | idle => simp [State.run, here] at taken
  | allocate settings => simp [State.run, here] at taken
  | tryLock settings final slot =>
      simp only [State.run, here, LocatorItem.tryLock, beq_iff_eq] at taken
      by_cases free : (state.items slot).isTaken = 0
      · rw [if_pos free] at taken
        cases taken
        exact .setItem rfl rfl fun _ => ⟨rfl, rfl⟩
      · rw [if_neg free] at taken
        cases taken
        exact .setItem rfl rfl fun _ => ⟨rfl, rfl⟩
  | store item slot field rest =>
      rw [here] at knows
      -- The store goes to the slot behind the count, which is not registered.
      obtain ⟨_, rfl, _⟩ := knows
      simp only [State.run, here] at taken
      split at taken
      · cases taken
        exact .setItem rfl rfl fun inside => absurd inside (Nat.lt_irrefl _)
      · cases taken
        exact .setItem rfl rfl fun inside => absurd inside (Nat.lt_irrefl _)
  | storeCount slot loaded =>
      have grown := (inv.storeCount here taken).counting.counted
      rw [here] at knows
      obtain ⟨_, rfl, _, rfl⟩ := knows
      simp only [State.run, here] at taken
      cases taken
      have counted := inv.counting.counted
      rw [List.length_append] at grown
      exact ⟨by omega, fun _ _ => ⟨rfl, rfl⟩⟩
  | lock settings =>
      simp only [State.run, here] at taken
      split at taken <;> cases taken <;> exact .of_eq rfl rfl
  | canUse settings final slot load =>
      simp only [State.run, here] at taken
      split at taken <;> cases taken <;> exact .of_eq rfl rfl
  | unlock | readCount | returning | isFull | isFullLocked | getItem | loadCount =>
      simp only [State.run, here] at taken
      cases taken
      exact .of_eq rfl rfl

theorem Inv.kept {label : τ × Action} (inv : Inv width initial state) {after : State τ}
    (taken : state.step width label = some after) : Kept state after := by
  obtain ⟨thread, action⟩ := label
  cases action with
  | run => exact inv.run_kept taken
  | getFirst settings =>
      simp only [State.step] at taken
      split at taken <;> cases taken
      exact .of_eq rfl rfl
  | tryAllocate settings =>
      simp only [State.step] at taken
      split at taken <;> cases taken
      exact .of_eq rfl rfl
  | reply allocated =>
      simp only [State.step] at taken
      split at taken
      · split at taken <;> cases taken <;> exact .of_eq rfl rfl
      · cases taken
  | append slot count =>
      simp only [State.step] at taken
      split at taken <;> cases taken
      exact .setItem rfl rfl fun _ => ⟨rfl, rfl⟩
  | drop slot =>
      simp only [State.step] at taken
      split at taken <;> cases taken
      exact .setItem rfl rfl fun _ => ⟨rfl, rfl⟩

/-- A locator with one slot left, and two threads that ask for it. -/
def oneSlotLeft : State Bool where
  isLocked := 0
  numItems := 202
  items _ := ⟨0x20000, 4096, 4096, 1⟩
  pc _ := .idle
  live := []
  registrations := []
  stores slot := if slot < 202 then Field.all else []
  assertionFailed := false

theorem oneSlotLeft_initial : oneSlotLeft.Initial .bits64 where
  isLocked := rfl
  bound := by decide
  idle _ := rfl
  live := rfl
  registrations := rfl
  below _ inside := if_pos inside
  above _ outside := if_neg (Nat.not_lt.mpr outside)
  assertionFailed := rfl

end SharedLocator

end ReloadedBuffers
