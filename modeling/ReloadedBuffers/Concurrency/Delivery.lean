import ReloadedBuffers.Concurrency.Appending
import ReloadedBuffers.Foundation.Words

/-! What becomes of appended bytes in a shared locator. Registered buffers lie apart,
a buffer has one owner, and its position only moves past bytes that have been copied;
so appends never overlap, and no interleaving loses a byte or an update of a position.
-/

set_option autoImplicit false

namespace ReloadedBuffers

namespace SharedLocator

/-- The addresses of an item's buffer. -/
def buffer (item : LocatorItem) : Set Nat := Words.extent item.baseAddress item.size.toNat

def Written.extent (record : Written) : Set Nat := Words.extent record.address record.data.length

/-- Memory that an item can be registered over: addresses, and in no registered buffer. -/
structure Placeable (width : PointerWidth) (count : UInt8) (items : Nat → LocatorItem) (item : LocatorItem) :
    Prop where
  sound : item.Sound width.modulus
  unused : item.position = 0
  apart : ∀ slot < count.toNat, Disjoint (buffer item) (buffer (items slot))

/-- What the callers and the operating system owe: fresh memory, and appends that fit. -/
def Sensible {τ : Type} (width : PointerWidth) (state : State τ) : τ × Action → Prop
  | (_, .reply (some (baseAddress, size))) =>
    Placeable width state.numItems state.items (LocatorItem.new baseAddress size)
  | (_, .append slot count) => (state.items slot).position.toNat + count ≤ (state.items slot).size.toNat
  | _ => True

/-- The item that a thread is about to register. -/
def Pc.Pending (width : PointerWidth) (count : UInt8) (items : Nat → LocatorItem) : Pc → Prop
  | .getItem item => Placeable width count items item
  | .store item slot field rest => Placeable width count items item ∧
    (field :: rest).foldl (fun target next => next.copy item target) (items slot) = item
  | .loadCount slot | .storeCount slot _ => Placeable width count items (items slot)
  | _ => True

structure Spaced {τ : Type} (width : PointerWidth) (count : UInt8) (items : Nat → LocatorItem) (pc : τ → Pc) :
    Prop where
  sound : ∀ slot < count.toNat, (items slot).Sound width.modulus
  separate : ∀ slot < count.toNat, ∀ other < count.toNat, slot ≠ other →
    Disjoint (buffer (items slot)) (buffer (items other))
  pending : ∀ thread, (pc thread).Pending width count items

section Spaced

variable {τ : Type} {width : PointerWidth} {initial : Nat} {count : UInt8} {items : Nat → LocatorItem}
  {pc : τ → Pc} {thread : τ} {next : Pc} {state after : State τ}

/-- Only the holder of the lock has an item to register. -/
theorem Pc.Pending.of_free {pc : Pc} (free : pc.holdsLock = false) : pc.Pending width count items := by
  cases pc with
  | getItem => cases free
  | store => cases free
  | loadCount => cases free
  | storeCount => cases free
  | _ => trivial

theorem Placeable.rewrite {item : LocatorItem} {others : Nat → LocatorItem}
    (placeable : Placeable width count items item)
    (same : ∀ slot < count.toNat, buffer (others slot) = buffer (items slot)) :
    Placeable width count others item where
  sound := placeable.sound
  unused := placeable.unused
  apart slot inside := by
    rw [same slot inside]
    exact placeable.apart slot inside

/-- A registered item changes within its buffer. -/
theorem Spaced.rewrite {slot : Nat} {stores : Nat → List Field} (item : LocatorItem)
    (spaced : Spaced width count items pc) (knows : ∀ thread, (pc thread).Knows width count stores)
    (registered : slot < count.toNat) (sound : item.Sound width.modulus)
    (same : buffer item = buffer (items slot)) : Spaced width count (Function.update items slot item) pc := by
  have buffers : ∀ other, buffer (Function.update items slot item other) = buffer (items other) := by
    intro other
    rcases eq_or_ne other slot with rfl | apart
    · rw [Function.update_self, same]
    · rw [Function.update_of_ne apart]
  refine ⟨?_, ?_, ?_⟩
  · intro other inside
    rcases eq_or_ne other slot with rfl | apart
    · rwa [Function.update_self]
    · rw [Function.update_of_ne apart]
      exact spaced.sound other inside
  · intro one inside other within different
    rw [buffers, buffers]
    exact spaced.separate one inside other within different
  · intro thread
    have pending := spaced.pending thread
    have knows := knows thread
    cases here : pc thread with
    | getItem made =>
        rw [here] at pending
        exact Placeable.rewrite pending fun other _ => buffers other
    | store made place field rest =>
        rw [here] at pending knows
        -- The slot that is being filled is not a registered one.
        have elsewhere : place ≠ slot := by
          rw [knows.2.1]
          exact Nat.ne_of_gt registered
        simp only [Pc.Pending, Function.update_of_ne elsewhere]
        exact ⟨pending.1.rewrite fun other _ => buffers other, pending.2⟩
    | loadCount place =>
        rw [here] at pending knows
        have elsewhere : place ≠ slot := by
          rw [knows.2.1]
          exact Nat.ne_of_gt registered
        simp only [Pc.Pending, Function.update_of_ne elsewhere]
        exact Placeable.rewrite pending fun other _ => buffers other
    | storeCount place loaded =>
        rw [here] at pending knows
        have elsewhere : place ≠ slot := by
          rw [knows.2.1]
          exact Nat.ne_of_gt registered
        simp only [Pc.Pending, Function.update_of_ne elsewhere]
        exact Placeable.rewrite pending fun other _ => buffers other
    | _ => trivial

variable [DecidableEq τ]

theorem Spaced.goto (spaced : Spaced width count items pc) (pending : next.Pending width count items) :
    Spaced width count items (Function.update pc thread next) where
  sound := spaced.sound
  separate := spaced.separate
  pending := (Function.forall_update_iff pc fun _ place => place.Pending width count items).mpr
    ⟨pending, fun other _ => spaced.pending other⟩

/-- The holder of the lock writes behind the registered items. -/
theorem Spaced.behind {others : Nat → LocatorItem} {isLocked : Int32} (spaced : Spaced width count items pc)
    (guards : SpinLock.Guards Pc.holdsLock isLocked pc) (holds : (pc thread).holdsLock = true)
    (same : ∀ slot < count.toNat, others slot = items slot) (pending : next.Pending width count others) :
    Spaced width count others (Function.update pc thread next) where
  sound slot inside := by
    rw [same slot inside]
    exact spaced.sound slot inside
  separate one inside other within different := by
    rw [same one inside, same other within]
    exact spaced.separate one inside other within different
  pending := (Function.forall_update_iff pc fun _ place => place.Pending width count others).mpr
    ⟨pending, fun _ apart => .of_free (guards.other holds apart)⟩

/-- The holder of the lock counts the item it has stored. -/
theorem Spaced.register {more : UInt8} {isLocked : Int32} (spaced : Spaced width count items pc)
    (guards : SpinLock.Guards Pc.holdsLock isLocked pc) (holds : (pc thread).holdsLock = true)
    (placeable : Placeable width count items (items count.toNat)) (counted : more.toNat = count.toNat + 1)
    (pending : next.Pending width more items) : Spaced width more items (Function.update pc thread next) where
  sound slot inside := by
    rcases Nat.lt_or_ge slot count.toNat with before | here
    · exact spaced.sound slot before
    · have last : slot = count.toNat := by omega
      rw [last]
      exact placeable.sound
  separate one inside other within different := by
    rcases Nat.lt_or_ge one count.toNat with before | here
    · rcases Nat.lt_or_ge other count.toNat with earlier | there
      · exact spaced.separate one before other earlier different
      · have last : other = count.toNat := by omega
        rw [last]
        exact (placeable.apart one before).symm
    · have last : one = count.toNat := by omega
      rw [last]
      exact placeable.apart other (by omega)
  pending := (Function.forall_update_iff pc fun _ place => place.Pending width more items).mpr
    ⟨pending, fun _ apart => .of_free (guards.other holds apart)⟩

/-- The items keep their distance over any access of any thread. -/
theorem Spaced.run (spaced : Spaced width state.numItems state.items state.pc) (inv : Inv width initial state)
    (taken : state.run width thread = some after) : Spaced width after.numItems after.items after.pc := by
  have knows := inv.counting.knows thread
  have pending := spaced.pending thread
  cases here : state.pc thread with
  | idle => simp [State.run, here] at taken
  | allocate settings => simp [State.run, here] at taken
  | tryLock settings final slot =>
      rw [here] at knows
      have registered := Nat.lt_of_lt_of_le knows.1 knows.2
      have sound := spaced.sound slot registered
      have marked := spaced.rewrite { state.items slot with isTaken := 1 } inv.counting.knows registered
        ⟨sound.position_le, sound.end_lt⟩ rfl
      simp only [State.run, here, LocatorItem.tryLock, beq_iff_eq] at taken
      by_cases free : (state.items slot).isTaken = 0
      · rw [if_pos free] at taken
        cases taken
        exact marked.goto trivial
      · rw [if_neg free] at taken
        cases taken
        apply marked.goto
        simp only [Pc.next]
        split <;> trivial
  | store item slot field rest =>
      rw [here] at knows pending
      obtain ⟨_, rfl, _⟩ := knows
      have holds : (state.pc thread).holdsLock = true := by rw [here]; rfl
      have same : ∀ slot < state.numItems.toNat,
          Function.update state.items state.numItems.toNat (field.copy item (state.items state.numItems.toNat)) slot =
            state.items slot := fun slot inside => Function.update_of_ne (Nat.ne_of_lt inside) _ _
      have placeable := pending.1.rewrite fun slot inside => congrArg buffer (same slot inside)
      simp only [State.run, here, State.setItem] at taken
      split at taken
      · cases taken
        refine spaced.behind inv.guards holds same ⟨placeable, ?_⟩
        simp only [State.goto, Function.update_self]
        exact pending.2
      · cases taken
        apply spaced.behind inv.guards holds same
        -- Every field has been copied: what is stored is the new item.
        have stored : field.copy item (state.items state.numItems.toNat) = item := pending.2
        rw [stored] at placeable
        simpa only [Pc.Pending, Function.update_self, stored] using placeable
  | storeCount slot loaded =>
      have grown := (inv.storeCount here taken).counting.counted
      rw [here] at knows pending
      obtain ⟨_, rfl, _, rfl⟩ := knows
      have holds : (state.pc thread).holdsLock = true := by rw [here]; rfl
      have counted := inv.counting.counted
      simp only [State.run, here] at taken
      cases taken
      simp only [List.length_append, List.length_singleton] at grown
      have next : (state.numItems + 1).toNat = state.numItems.toNat + 1 := by omega
      exact spaced.register inv.guards holds pending next trivial
  | lock settings =>
      simp only [State.run, here] at taken
      split at taken <;> cases taken
      · exact spaced.goto trivial
      · exact spaced
  | canUse settings final slot load =>
      simp only [State.run, here, Pc.next] at taken
      split at taken <;> cases taken <;> apply spaced.goto
      · trivial
      · split <;> trivial
      · trivial
  | getItem item =>
      rw [here] at knows pending
      simp only [State.run, here] at taken
      cases taken
      exact spaced.goto ⟨pending, rfl⟩
  | loadCount slot =>
      rw [here] at pending
      simp only [State.run, here] at taken
      cases taken
      exact spaced.goto pending
  | readCount settings | isFull settings | isFullLocked settings =>
      simp only [State.run, here] at taken
      split at taken <;> cases taken <;> exact spaced.goto trivial
  | returning | unlock =>
      simp only [State.run, here] at taken
      cases taken
      exact spaced.goto trivial

theorem Spaced.step {label : τ × Action} (spaced : Spaced width state.numItems state.items state.pc)
    (inv : Inv width initial state) (sensible : Sensible width state label)
    (taken : state.step width label = some after) : Spaced width after.numItems after.items after.pc := by
  obtain ⟨thread, action⟩ := label
  cases action with
  | run => exact spaced.run inv taken
  | getFirst settings | tryAllocate settings =>
      simp only [State.step] at taken
      split at taken <;> cases taken
      exact spaced.goto trivial
  | reply allocated =>
      simp only [State.step] at taken
      split at taken
      · split at taken <;> cases taken
        · exact spaced.goto ⟨⟨sensible.sound.position_le, sensible.sound.end_lt⟩, rfl, sensible.apart⟩
        · exact spaced.goto trivial
      · cases taken
  | append slot count =>
      simp only [State.step] at taken
      split at taken
      · rename_i owner
        cases taken
        have registered := inv.owned_registered owner.1 owner.2
        exact spaced.rewrite _ inv.counting.knows registered ((spaced.sound slot registered).advance sensible) rfl
      · cases taken
  | drop slot =>
      simp only [State.step] at taken
      split at taken
      · rename_i owner
        cases taken
        have registered := inv.owned_registered owner.1 owner.2
        have sound := spaced.sound slot registered
        exact spaced.rewrite _ inv.counting.knows registered ⟨sound.position_le, sound.end_lt⟩ rfl
      · cases taken

end Spaced

/-- The bytes lie in memory, one after another from the address on. -/
def Stored (memory : Nat → UInt8) (address : Nat) (data : List UInt8) : Prop :=
  ∀ index < data.length, data[index]? = some (memory (address + index))

theorem Stored.nil {memory : Nat → UInt8} {address : Nat} : Stored memory address [] := nofun

theorem Stored.outside {memory : Nat → UInt8} {address place : Nat} {data : List UInt8} (byte : UInt8)
    (stored : Stored memory address data) (outside : place ∉ Words.extent address data.length) :
    Stored (Function.update memory place byte) address data := by
  intro index inside
  have apart : address + index ≠ place := by
    rintro rfl
    exact outside (Words.mem_extent.mpr (by omega))
  rw [Function.update_of_ne apart]
  exact stored index inside

/-- One more byte of the data is copied. -/
theorem Stored.copy {memory : Nat → UInt8} {address copied : Nat} {data : List UInt8} {byte : UInt8}
    (stored : Stored memory address (data.take copied)) (found : data[copied]? = some byte) :
    Stored (Function.update memory (address + copied) byte) address (data.take (copied + 1)) := by
  obtain ⟨inside, _⟩ := List.getElem?_eq_some_iff.mp found
  have behind : address + copied ∉ Words.extent address (data.take copied).length := by
    rw [Words.mem_extent, List.length_take]
    omega
  have before := stored.outside byte behind
  intro index within
  rw [List.length_take] at within
  rcases Nat.lt_or_ge index copied with earlier | last
  · have same := before index (by rw [List.length_take]; omega)
    rw [List.getElem?_take_of_lt earlier] at same
    rw [List.getElem?_take_of_lt (by omega)]
    exact same
  · have here : index = copied := by omega
    rw [here, List.getElem?_take_of_lt (Nat.lt_succ_self _), Function.update_self]
    exact found

/-- What a call of `append_bytes` has copied. -/
def Access.copied (data : List UInt8) : Access → List UInt8
  | .loadBase | .loadPosition _ => []
  | .copy _ copied => data.take copied
  | .loadAgain _ | .storePosition _ _ => data

/-- An append that has not returned fits, and its bytes so far lie behind the position. -/
structure Appending.Placed (item : LocatorItem) (memory : Nat → UInt8) (appending : Appending) : Prop where
  room : item.position.toNat + appending.data.length ≤ item.size.toNat
  stored : Stored memory (item.baseAddress + item.position.toNat) (appending.access.copied appending.data)

/-- The bytes of an append that has returned lie in its buffer, in front of the position. -/
structure Written.Present {τ : Type} (locator : State τ) (memory : Nat → UInt8) (record : Written) : Prop where
  registered : record.slot < locator.numItems.toNat
  low : (locator.items record.slot).baseAddress ≤ record.address
  high : record.address + record.data.length ≤
    (locator.items record.slot).baseAddress + (locator.items record.slot).position.toNat
  stored : Stored memory record.address record.data

/-- The number of bytes appended to a slot. -/
def total (written : List Written) (slot : Nat) : Nat :=
  ((written.filter fun record => record.slot = slot).map fun record => record.data.length).sum

/-- Where the appends to a slot begin. -/
def State.origin {τ : Type} (start : State τ) (slot : Nat) : Nat :=
  if slot < start.numItems.toNat then (start.items slot).position.toNat else 0

/-- What a client sees: every append that has returned is in memory and by itself, no
update of a position is lost, and nothing else is written. -/
structure Delivered {τ : Type} (start session : Session τ) : Prop where
  present : ∀ record ∈ session.written, record.Present session.locator session.memory
  apart : session.written.Pairwise fun first second => Disjoint first.extent second.extent
  positions : ∀ slot < session.locator.numItems.toNat,
    (session.locator.items slot).position.toNat = start.locator.origin slot + total session.written slot
  untouched : ∀ address, (∀ slot < session.locator.numItems.toNat,
    address ∉ Words.extent ((session.locator.items slot).baseAddress + start.locator.origin slot)
      ((session.locator.items slot).size.toNat - start.locator.origin slot)) →
    session.memory address = start.memory address

/-- The invariant of sessions. -/
structure Delivering {τ : Type} (width : PointerWidth) (start session : Session τ) : Prop where
  inv : session.Inv width start.locator.numItems.toNat
  spaced : Spaced width session.locator.numItems session.locator.items session.locator.pc
  placed : ∀ thread appending, session.appending thread = some appending →
    appending.Placed (session.locator.items appending.slot) session.memory
  delivered : Delivered start session

/-- Fresh memory from the operating system, and appends that fit. -/
def Session.Allowed {τ : Type} (width : PointerWidth) (session : Session τ) : τ × Event → Prop
  | (thread, .call action) => Sensible width session.locator (thread, action)
  | (_, .appendBytes slot data) =>
    (session.locator.items slot).position.toNat + data.length ≤ (session.locator.items slot).size.toNat
  | (_, .access) => True

section Delivering

variable {τ : Type} {width : PointerWidth} {start session after : Session τ} {thread : τ}

theorem total_concat (written : List Written) (record : Written) (slot : Nat) :
    total (written ++ [record]) slot = total written slot + if record.slot = slot then record.data.length else 0 := by
  by_cases same : record.slot = slot <;> simp [total, same]

/-- Nothing has been appended to a slot that is not registered. -/
theorem Delivered.total_fresh (delivered : Delivered start session) {slot : Nat}
    (fresh : session.locator.numItems.toNat ≤ slot) : total session.written slot = 0 := by
  have none : session.written.filter (fun record => record.slot = slot) = [] := by
    apply List.filter_eq_nil_iff.mpr
    intro record member
    have registered := (delivered.present record member).registered
    simp only [decide_eq_true_eq]
    omega
  simp [total, none]

/-- A byte is copied behind the position of a registered item, inside its buffer. -/
structure Behind (locator : State τ) (slot place : Nat) : Prop where
  registered : slot < locator.numItems.toNat
  low : (locator.items slot).baseAddress + (locator.items slot).position.toNat ≤ place
  high : place < (locator.items slot).baseAddress + (locator.items slot).size.toNat

theorem Behind.mem {slot place : Nat} (behind : Behind session.locator slot place) :
    place ∈ buffer (session.locator.items slot) := by
  have low := behind.low
  exact Words.mem_extent.mpr ⟨by omega, behind.high⟩

/-- The place lies in no other buffer. -/
theorem Behind.elsewhere {slot other place : Nat} (behind : Behind session.locator slot place)
    (spaced : Spaced width session.locator.numItems session.locator.items session.locator.pc)
    (inside : other < session.locator.numItems.toNat) (different : slot ≠ other) :
    place ∉ buffer (session.locator.items other) :=
  Set.disjoint_left.mp (spaced.separate slot behind.registered other inside different) behind.mem

/-- What has been delivered is not where a byte is copied to. -/
theorem Written.Present.copy {record : Written} {slot place : Nat} {byte : UInt8}
    (present : record.Present session.locator session.memory)
    (spaced : Spaced width session.locator.numItems session.locator.items session.locator.pc)
    (behind : Behind session.locator slot place) :
    record.Present session.locator (Function.update session.memory place byte) where
  registered := present.registered
  low := present.low
  high := present.high
  stored := by
    apply present.stored.outside
    intro inside
    rw [Words.mem_extent] at inside
    have low := present.low
    have high := present.high
    have within := (spaced.sound record.slot present.registered).position_le_toNat
    rcases eq_or_ne slot record.slot with rfl | different
    · have after := behind.low
      omega
    · apply behind.elsewhere spaced present.registered different
      exact Words.mem_extent.mpr (by omega)

theorem Delivered.copy {slot place : Nat} (byte : UInt8) (delivered : Delivered start session)
    (spaced : Spaced width session.locator.numItems session.locator.items session.locator.pc)
    (behind : Behind session.locator slot place) :
    Delivered start { session with memory := Function.update session.memory place byte } where
  present record member := (delivered.present record member).copy spaced behind
  apart := delivered.apart
  positions := delivered.positions
  untouched address outside := by
    have apart : address ≠ place := by
      rintro rfl
      -- The position never lies in front of where the appends to the slot began.
      have positions := delivered.positions slot behind.registered
      have low := behind.low
      have high := behind.high
      apply outside slot behind.registered
      simp only [Words.mem_extent]
      omega
    exact (Function.update_of_ne apart _ _).trans (delivered.untouched address outside)

/-- A copy by one thread does not disturb the appends of the others. -/
theorem Appending.Placed.copy {appending : Appending} {slot place : Nat} {byte : UInt8}
    (placed : appending.Placed (session.locator.items appending.slot) session.memory)
    (spaced : Spaced width session.locator.numItems session.locator.items session.locator.pc)
    (behind : Behind session.locator slot place) (registered : appending.slot < session.locator.numItems.toNat)
    (different : slot ≠ appending.slot) :
    appending.Placed (session.locator.items appending.slot) (Function.update session.memory place byte) where
  room := placed.room
  stored := by
    apply placed.stored.outside
    intro inside
    apply behind.elsewhere spaced registered different
    have room := placed.room
    have length : (appending.access.copied appending.data).length ≤ appending.data.length := by
      cases appending.access <;> simp [Access.copied]
    simp only [buffer, Words.mem_extent] at inside ⊢
    omega

theorem Appending.Placed.lockWord {item : LocatorItem} {appending : Appending} {memory : Nat → UInt8} {word : Int32}
    (placed : appending.Placed item memory) : appending.Placed { item with isTaken := word } memory :=
  ⟨placed.room, placed.stored⟩

/-- Two threads are never in an append to the same slot. -/
theorem Session.Inv.different {initial : Nat} {other : τ} {one two : Appending} (inv : session.Inv width initial)
    (here : session.appending thread = some one) (there : session.appending other = some two)
    (apart : other ≠ thread) : one.slot ≠ two.slot := by
  intro same
  have first := (inv.owned thread one here).owner
  have second := (inv.owned other two there).owner
  rw [← same] at second
  exact apart (congrArg Prod.fst (List.inj_on_of_nodup_map inv.locator.living.nodup second first rfl))

theorem State.setItem_items (state : State τ) (slot other : Nat) (item : LocatorItem) :
    (state.setItem slot item).items other = if other = slot then item else state.items other :=
  Function.update_apply _ _ _ _

/-- The position of an item moves on; what has been delivered stays in front of it. -/
theorem Written.Present.advance {record : Written} {slot count : Nat} {locator : State τ} {memory : Nat → UInt8}
    (present : record.Present locator memory)
    (room : (locator.items slot).position.toNat + count ≤ (locator.items slot).size.toNat) :
    record.Present (locator.setItem slot ((locator.items slot).advance count)) memory := by
  have moved := LocatorItem.advance_position room
  have low := present.low
  have high := present.high
  rcases eq_or_ne record.slot slot with same | different
  · rw [same] at low high
    refine ⟨present.registered, ?_, ?_, present.stored⟩
    · rw [State.setItem_items, if_pos same]
      exact low
    · rw [State.setItem_items, if_pos same, moved]
      exact high.trans (Nat.add_le_add_left (Nat.le_add_right _ _) _)
  · refine ⟨present.registered, ?_, ?_, present.stored⟩
    · rwa [State.setItem_items, if_neg different]
    · rwa [State.setItem_items, if_neg different]

/-- Bytes behind the position become an append that has returned. -/
theorem Delivered.append {slot : Nat} {data : List UInt8} (delivered : Delivered start session)
    (spaced : Spaced width session.locator.numItems session.locator.items session.locator.pc)
    (registered : slot < session.locator.numItems.toNat)
    (room : (session.locator.items slot).position.toNat + data.length ≤ (session.locator.items slot).size.toNat)
    (stored : Stored session.memory
      ((session.locator.items slot).baseAddress + (session.locator.items slot).position.toNat) data) :
    Delivered start { session with
      locator := session.locator.setItem slot ((session.locator.items slot).advance data.length)
      written := session.written ++
        [⟨slot, (session.locator.items slot).baseAddress + (session.locator.items slot).position.toNat, data⟩] } where
  present record member := by
    rcases List.mem_append.mp member with before | last
    · exact (delivered.present record before).advance room
    · obtain rfl := List.mem_singleton.mp last
      refine ⟨registered, ?_, ?_, stored⟩
      · simp only [State.setItem_items, if_true]
        exact Nat.le_add_right _ _
      · simp only [State.setItem_items, if_true, LocatorItem.advance_position room]
        exact Nat.le_of_eq (Nat.add_assoc _ _ _)
  apart := by
    refine List.pairwise_append.mpr ⟨delivered.apart, List.pairwise_singleton _ _, ?_⟩
    intro record member last equal
    obtain rfl := List.mem_singleton.mp equal
    have present := delivered.present record member
    have high := present.high
    -- Appends to this slot end in front of the position; those to others lie in other buffers.
    rcases eq_or_ne record.slot slot with same | different
    · rw [same] at high
      exact Words.extent_disjoint_of_le high
    · have whole := spaced.separate _ present.registered _ registered different
      have within := (spaced.sound record.slot present.registered).position_le_toNat
      apply whole.mono
      · exact Words.extent_subset present.low (by omega)
      · exact Words.extent_subset (Nat.le_add_right _ _) (by simp only; omega)
  positions other inside := by
    have positions := delivered.positions other inside
    simp only [State.setItem_items, total_concat]
    rcases eq_or_ne other slot with rfl | different
    · rw [if_pos rfl, if_pos rfl, LocatorItem.advance_position room, positions, Nat.add_assoc]
    · rw [if_neg different, if_neg different.symm]
      exact positions
  untouched address beyond := by
    apply delivered.untouched
    intro other inside
    have elsewhere := beyond other inside
    simp only [State.setItem_items] at elsewhere
    rcases eq_or_ne other slot with rfl | different
    · rwa [if_pos rfl] at elsewhere
    · rwa [if_neg different] at elsewhere

variable [DecidableEq τ]

/-- A thread in `append_bytes` moves on. -/
theorem Delivering.goto {appending : Appending} (delivering : Delivering width start session)
    (owned : appending.Owned width session.locator thread)
    (placed : appending.Placed (session.locator.items appending.slot) session.memory) :
    Delivering width start (session.goto thread (some appending)) where
  inv := delivering.inv.goto owned
  spaced := delivering.spaced
  placed other found here := by
    simp only [Session.goto] at here
    rcases eq_or_ne other thread with rfl | apart
    · rw [Function.update_self] at here
      cases here
      exact placed
    · rw [Function.update_of_ne apart] at here
      exact delivering.placed other found here
  delivered := ⟨delivering.delivered.present, delivering.delivered.apart, delivering.delivered.positions,
    delivering.delivered.untouched⟩

/-- A step of the locator that is not an append. -/
theorem Delivering.call {action : Action} {next : State τ} (delivering : Delivering width start session)
    (outside : session.appending thread = none) (unappended : action.isAppend = false)
    (sensible : Sensible width session.locator (thread, action))
    (taken : session.locator.step width (thread, action) = some next) :
    Delivering width start { session with locator := next } := by
  have inv := delivering.inv
  have kept := inv.locator.kept taken
  have same : ∀ slot < session.locator.numItems.toNat,
      ∃ word, next.items slot = { session.locator.items slot with isTaken := word } := fun slot registered =>
    inv.locator.kept_item registered (by rintro count rfl; cases unappended) taken
  refine ⟨inv.call outside taken, delivering.spaced.step inv.locator sensible taken, ?_, ?_, ?_, ?_, ?_⟩
  · intro other appending found
    have owned := inv.owned other appending found
    obtain ⟨word, item⟩ := same appending.slot (inv.locator.owned_registered owned.idle owned.owner)
    rw [item]
    exact (delivering.placed other appending found).lockWord
  · intro record member
    have present := delivering.delivered.present record member
    obtain ⟨word, item⟩ := same record.slot present.registered
    refine ⟨Nat.lt_of_lt_of_le present.registered kept.count, ?_, ?_, present.stored⟩
    · rw [item]
      exact present.low
    · rw [item]
      exact present.high
  · exact delivering.delivered.apart
  · intro slot inside
    rcases Nat.lt_or_ge slot session.locator.numItems.toNat with registered | fresh
    · obtain ⟨word, item⟩ := same slot registered
      rw [item]
      exact delivering.delivered.positions slot registered
    · -- The item has just been counted, and nothing has been appended to it.
      rcases State.step_numItems taken with unchanged | ⟨place, count, here, counted, items⟩
      · simp only [unchanged] at inside
        omega
      · have knows := inv.locator.counting.knows thread
        have pending := delivering.spaced.pending thread
        rw [here] at knows pending
        obtain ⟨_, rfl, _, rfl⟩ := knows
        have most : (session.locator.numItems + 1).toNat ≤ session.locator.numItems.toNat + 1 := by
          rw [UInt8.toNat_add]
          exact Nat.mod_le _ _
        have last : slot = session.locator.numItems.toNat := by
          simp only [counted] at inside
          omega
        have unused : (session.locator.items session.locator.numItems.toNat).position = 0 := pending.unused
        have later := inv.locator.counting.counted
        simp only [items, last, unused, delivering.delivered.total_fresh (Nat.le_refl _), State.origin]
        rw [if_neg (by omega)]
        rfl
  · intro address beyond
    apply delivering.delivered.untouched
    intro slot registered
    obtain ⟨word, item⟩ := same slot registered
    have elsewhere := beyond slot (Nat.lt_of_lt_of_le registered kept.count)
    simpa only [item] using elsewhere

/-- The next byte of an append is copied. -/
theorem Delivering.copy {slot copied : Nat} {data : List UInt8} {byte : UInt8}
    (delivering : Delivering width start session)
    (here : session.appending thread =
      some ⟨slot, data, .copy ((session.locator.items slot).cursor width.modulus) copied⟩)
    (found : data[copied]? = some byte) :
    Delivering width start { session.goto thread
        (some ⟨slot, data, .copy ((session.locator.items slot).cursor width.modulus) (copied + 1)⟩) with
      memory := Function.update session.memory ((session.locator.items slot).cursor width.modulus + copied) byte } := by
  have owned := delivering.inv.owned thread _ here
  have placed := delivering.placed thread _ here
  have registered := delivering.inv.locator.owned_registered owned.idle owned.owner
  have cursor := (delivering.spaced.sound slot registered).cursor_eq
  obtain ⟨inside, _⟩ := List.getElem?_eq_some_iff.mp found
  have room := placed.room
  have behind : Behind session.locator slot ((session.locator.items slot).cursor width.modulus + copied) := by
    refine ⟨registered, ?_, ?_⟩ <;> rw [cursor]
    · omega
    · simp only at room
      omega
  have delivered := delivering.delivered.copy byte delivering.spaced behind
  refine ⟨delivering.inv.goto ⟨owned.idle, owned.owner, rfl⟩, delivering.spaced, ?_,
    ⟨delivered.present, delivered.apart, delivered.positions, delivered.untouched⟩⟩
  intro other appending there
  simp only [Session.goto] at there
  rcases eq_or_ne other thread with rfl | apart
  · rw [Function.update_self] at there
    cases there
    have stored : Stored session.memory
        ((session.locator.items slot).baseAddress + (session.locator.items slot).position.toNat) (data.take copied) :=
      placed.stored
    have more : Stored
        (Function.update session.memory ((session.locator.items slot).cursor width.modulus + copied) byte)
        ((session.locator.items slot).baseAddress + (session.locator.items slot).position.toNat)
        (data.take (copied + 1)) := by
      rw [← cursor] at stored ⊢
      exact stored.copy found
    exact ⟨room, more⟩
  · rw [Function.update_of_ne apart] at there
    have others := delivering.inv.owned other appending there
    exact (delivering.placed other appending there).copy delivering.spaced behind
      (delivering.inv.locator.owned_registered others.idle others.owner)
      (delivering.inv.different here there apart)

/-- The last access of an append: the position moves past the bytes that have been copied. -/
theorem Delivering.finish {slot : Nat} {data : List UInt8} (delivering : Delivering width start session)
    (here : session.appending thread = some ⟨slot, data, .storePosition
      ((session.locator.items slot).cursor width.modulus) (session.locator.items slot).position⟩)
    (taken : session.access width thread = some after) : Delivering width start after := by
  have inv := delivering.inv
  have owned := inv.owned thread _ here
  have placed := delivering.placed thread _ here
  have registered := inv.locator.owned_registered owned.idle owned.owner
  have sound := delivering.spaced.sound slot registered
  have room : (session.locator.items slot).position.toNat + data.length ≤ (session.locator.items slot).size.toNat :=
    placed.room
  have spaced := delivering.spaced.rewrite ((session.locator.items slot).advance data.length)
    inv.locator.counting.knows registered (sound.advance room) rfl
  have delivered := delivering.delivered.append delivering.spaced registered room placed.stored
  have preserved := (inv.access taken).1
  have cursor := sound.cursor_eq
  simp only [Session.access, here, cursor] at taken
  cases taken
  refine ⟨preserved, spaced, ?_, ⟨delivered.present, delivered.apart, delivered.positions, delivered.untouched⟩⟩
  intro other appending there
  simp only [Session.goto] at there
  rcases eq_or_ne other thread with rfl | apart
  · rw [Function.update_self] at there
    cases there
  · rw [Function.update_of_ne apart] at there
    have different := inv.different here there apart
    rw [State.setItem_items, if_neg different.symm]
    exact delivering.placed other appending there

theorem Delivering.access (delivering : Delivering width start session)
    (taken : session.access width thread = some after) : Delivering width start after := by
  cases found : session.appending thread with
  | none => simp [Session.access, found] at taken
  | some appending =>
      have owned := delivering.inv.owned thread appending found
      have placed := delivering.placed thread appending found
      obtain ⟨slot, data, access⟩ := appending
      cases access with
      | loadBase =>
          simp only [Session.access, found] at taken
          cases taken
          exact delivering.goto ⟨owned.idle, owned.owner, rfl⟩ ⟨placed.room, placed.stored⟩
      | loadPosition base =>
          simp only [Session.access, found] at taken
          cases taken
          have loaded : base = (session.locator.items slot).baseAddress := owned.current
          refine delivering.goto ⟨owned.idle, owned.owner, by rw [loaded]; rfl⟩ ⟨placed.room, ?_⟩
          exact Stored.nil
      | copy address copied =>
          obtain rfl : address = (session.locator.items slot).cursor width.modulus := owned.current
          simp only [Session.access, found] at taken
          split at taken <;> cases taken
          · rename_i byte here
            exact delivering.copy found here
          · rename_i complete
            have whole : data.take copied = data := List.take_of_length_le (List.getElem?_eq_none_iff.mp complete)
            have stored := placed.stored
            simp only [Access.copied, whole] at stored
            exact delivering.goto ⟨owned.idle, owned.owner, rfl⟩ ⟨placed.room, stored⟩
      | loadAgain address =>
          simp only [Session.access, found] at taken
          cases taken
          exact delivering.goto ⟨owned.idle, owned.owner, owned.current, rfl⟩ ⟨placed.room, placed.stored⟩
      | storePosition address position =>
          obtain ⟨rfl, rfl⟩ : address = (session.locator.items slot).cursor width.modulus ∧
            position = (session.locator.items slot).position := owned.current
          exact delivering.finish found taken

theorem Delivering.step {label : τ × Event} (delivering : Delivering width start session)
    (allowed : session.Allowed width label) (taken : session.step width label = some after) :
    Delivering width start after := by
  obtain ⟨thread, event⟩ := label
  cases event with
  | call action =>
      simp only [Session.step] at taken
      split at taken
      · rename_i outside
        obtain ⟨next, stepped, rfl⟩ := Option.map_eq_some_iff.mp taken
        exact delivering.call outside.1 outside.2 allowed stepped
      · cases taken
  | appendBytes slot data =>
      simp only [Session.step] at taken
      split at taken
      · rename_i outside
        cases taken
        exact delivering.goto ⟨outside.2.1, List.contains_iff_mem.mp outside.2.2, trivial⟩ ⟨allowed, Stored.nil⟩
      · cases taken
  | access => exact delivering.access taken

/-- In every interleaving of searches, registrations, drops and appends by any number of
threads, on memory that the operating system gives out once, the bytes of every append
that has returned stay in memory where it said, apart from all others, and the positions
count them exactly. -/
theorem appends_delivered {start last : Session τ} {labels : List (τ × Event)} (initialised : start.Initial width)
    (spaced : Spaced width start.locator.numItems start.locator.items start.locator.pc)
    (run : Transition.Run (Session.step width) (Session.Allowed width) start labels last) : Delivered start last := by
  have begins : Delivering width start start := by
    refine ⟨initialised.inv, spaced, ?_, ?_, ?_, ?_, fun _ _ => rfl⟩
    · intro thread appending found
      rw [initialised.appending] at found
      cases found
    · simp [initialised.written]
    · simp [initialised.written]
    · intro slot inside
      simp [State.origin, inside, total, initialised.written]
  exact (run.invariant (Delivering width start)
    (fun _ _ _ delivering allowed taken => delivering.step allowed taken) begins).delivered

end Delivering

instance (width : PointerWidth) (count : UInt8) (items : Nat → LocatorItem) (item : LocatorItem) :
    Decidable (Placeable width count items item) :=
  decidable_of_iff ((item.position ≤ item.size ∧ item.baseAddress + item.size.toNat < width.modulus) ∧
      item.position = 0 ∧ ∀ slot < count.toNat, Disjoint (Words.extent item.baseAddress item.size.toNat)
        (Words.extent (items slot).baseAddress (items slot).size.toNat))
    ⟨fun placed => ⟨⟨placed.1.1, placed.1.2⟩, placed.2.1, placed.2.2⟩,
      fun placed => ⟨⟨placed.sound.position_le, placed.sound.end_lt⟩, placed.unused, placed.apart⟩⟩

instance {τ : Type} (width : PointerWidth) (state : State τ) (label : τ × Action) :
    Decidable (Sensible width state label) :=
  match label with
  | (_, .reply (some (_, _))) => inferInstanceAs (Decidable (Placeable _ _ _ _))
  | (_, .append _ _) => inferInstanceAs (Decidable (_ ≤ _))
  | (_, .reply none) | (_, .run) | (_, .getFirst _) | (_, .tryAllocate _) | (_, .drop _) =>
    inferInstanceAs (Decidable True)

instance {τ : Type} (width : PointerWidth) (session : Session τ) (label : τ × Event) :
    Decidable (session.Allowed width label) :=
  match label with
  | (thread, .call action) => inferInstanceAs (Decidable (Sensible width session.locator (thread, action)))
  | (_, .appendBytes _ _) => inferInstanceAs (Decidable (_ ≤ _))
  | (_, .access) => inferInstanceAs (Decidable True)

theorem appends_delivered_twice : ∃ last : Session Bool,
    last.written = [⟨1, 0x30000, [3]⟩, ⟨0, 0x20000, [1, 2]⟩] ∧ Delivered noItems last := by
  have schedule : ∃ last, Transition.execute (Transition.restrict (Session.step .bits64) (Session.Allowed .bits64))
      noItems sideBySide = some last ∧ last.written = [⟨1, 0x30000, [3]⟩, ⟨0, 0x20000, [1, 2]⟩] := ⟨_, rfl, rfl⟩
  obtain ⟨last, result, written⟩ := schedule
  have spaced : Spaced .bits64 noItems.locator.numItems noItems.locator.items noItems.locator.pc :=
    ⟨fun _ inside => absurd inside (Nat.not_lt_zero _), fun _ inside => absurd inside (Nat.not_lt_zero _),
      fun _ => trivial⟩
  exact ⟨last, written, appends_delivered noItems_initial spaced (Transition.execute_restrict result)⟩

end SharedLocator

end ReloadedBuffers
