import Mathlib.Data.Option.Basic
import ReloadedBuffers.Foundation.StructLayout
import ReloadedBuffers.Structs.LocatorHeader

/-! Pointers to items in locators, and what the slots below the item counts hold.
Operations are described by what they do to these registered items and to the
links between locators.
-/

set_option autoImplicit false

namespace ReloadedBuffers

/-- An individual item in the buffer locator that can be dropped (disposed): a
pointer to a slot of the locator at an address. -/
structure SafeLocatorItem where
  locator : Nat
  slot : Nat
  deriving DecidableEq, Repr

namespace Locators

/-- The item behind a pointer when its slot is below the item count. -/
def registered (locators : Locators) (pointer : SafeLocatorItem) : Option LocatorItem :=
  (locators pointer.locator).bind fun header =>
    if pointer.slot < header.numItems.toNat then some (header.items pointer.slot) else none

def store (locators : Locators) (address : Nat) (header : LocatorHeader) : Locators :=
  Function.update locators address (some header)

/-- Read an item through a pointer. -/
def item (locators : Locators) (pointer : SafeLocatorItem) : Option LocatorItem :=
  (locators pointer.locator).map (·.items pointer.slot)

/-- Write an item through a pointer. -/
def setItem (locators : Locators) (pointer : SafeLocatorItem) (item : LocatorItem) : Option Locators :=
  (locators pointer.locator).map fun header =>
    locators.store pointer.locator (header.setItem pointer.slot item)

variable {locators : Locators} {address : Nat} {header changed : LocatorHeader} {pointer : SafeLocatorItem}
  {item : LocatorItem}

@[simp] theorem store_self : locators.store address header address = some header := Function.update_self _ _ _

@[simp] theorem store_of_ne {other : Nat} (apart : other ≠ address) :
    locators.store address header other = locators other := Function.update_of_ne apart _ _

@[simp] theorem store_store : (locators.store address header).store address changed = locators.store address changed :=
  Function.update_idem _ _ _

theorem store_eq_self (found : locators address = some header) : locators.store address header = locators := by
  funext other
  rcases eq_or_ne other address with rfl | apart
  · rw [store_self, found]
  · exact store_of_ne apart

theorem registered_eq_some : locators.registered pointer = some item ↔
    ∃ header, locators pointer.locator = some header ∧ pointer.slot < header.numItems.toNat ∧
      header.items pointer.slot = item := by
  simp [registered, Option.bind_eq_some_iff]

theorem item_of_registered (found : locators.registered pointer = some item) : locators.item pointer = some item := by
  obtain ⟨header, reached, _, here⟩ := registered_eq_some.mp found
  simp [Locators.item, reached, here]

theorem registered_store_self (slot : Nat) : (locators.store address header).registered ⟨address, slot⟩ =
    if slot < header.numItems.toNat then some (header.items slot) else none := by
  simp only [registered, store_self, Option.bind_some]

theorem registered_store_of_ne (apart : pointer.locator ≠ address) :
    (locators.store address header).registered pointer = locators.registered pointer := by
  simp [registered, apart]

theorem next_store (found : locators address = some header)
    (same : changed.nextLocatorPtr = header.nextLocatorPtr) :
    (locators.store address changed).next = locators.next := by
  funext other
  rcases eq_or_ne other address with rfl | apart
  · simp [next, found, LocatorHeader.hasNextLocator, same]
  · simp [next, apart]

theorem next_isSome : (locators.next address).isSome = (locators address).isSome := by
  simp [next]

theorem registered_setItem (found : locators address = some header) {slot : Nat}
    (inside : slot < header.numItems.toNat) :
    (locators.store address (header.setItem slot item)).registered =
      Function.update locators.registered ⟨address, slot⟩ (some item) := by
  funext pointer
  obtain ⟨locator, place⟩ := pointer
  rcases eq_or_ne locator address with rfl | apart
  · rcases eq_or_ne place slot with rfl | elsewhere
    · simp [registered, LocatorHeader.setItem, inside]
    · simp [registered, LocatorHeader.setItem, elsewhere, found]
  · rw [registered_store_of_ne apart, Function.update_of_ne (by simp [apart])]

/-- A write through a pointer to a registered item changes that item alone. -/
theorem setItem_registered {earlier : LocatorItem} (item : LocatorItem) (found : locators.registered pointer = some earlier) :
    ∃ written, locators.setItem pointer item = some written ∧ written.next = locators.next ∧
      written.registered = Function.update locators.registered pointer (some item) := by
  obtain ⟨header, reached, inside, _⟩ := registered_eq_some.mp found
  refine ⟨locators.store pointer.locator (header.setItem pointer.slot item), ?_, ?_, ?_⟩
  · simp [setItem, reached]
  · exact next_store reached rfl
  · exact registered_setItem reached inside

/-- Writing the slot at the item count and counting it registers that slot alone. -/
theorem registered_push (found : locators address = some header) (room : header.numItems.toNat < 255) :
    (locators.store address
        { header.setItem header.numItems.toNat item with numItems := header.numItems + 1 }).registered =
      Function.update locators.registered ⟨address, header.numItems.toNat⟩ (some item) := by
  have counted : (header.numItems + 1).toNat = header.numItems.toNat + 1 := by
    rw [UInt8.toNat_add]
    exact Nat.mod_eq_of_lt (by simp only [UInt8.reduceToNat]; omega)
  funext pointer
  obtain ⟨locator, place⟩ := pointer
  rcases eq_or_ne locator address with rfl | apart
  · rcases eq_or_ne place header.numItems.toNat with rfl | elsewhere
    · simp [registered, LocatorHeader.setItem, counted]
    · have same : place < header.numItems.toNat + 1 ↔ place < header.numItems.toNat := by omega
      simp [registered, LocatorHeader.setItem, counted, elsewhere, found, same]
  · rw [registered_store_of_ne apart, Function.update_of_ne (by simp [apart])]

end Locators

namespace LocatorItem

/-- A failed `try_lock` leaves one in a lock word that was not zero. -/
def Marked (before after : LocatorItem) : Prop :=
  after = before ∨ before.isTaken ≠ 0 ∧ after = { before with isTaken := 1 }

theorem Marked.refl (item : LocatorItem) : Marked item item := .inl rfl

theorem Marked.trans {first second third : LocatorItem} (left : Marked first second) (right : Marked second third) :
    Marked first third := by
  rcases left with rfl | ⟨taken, rfl⟩
  · exact right
  · rcases right with rfl | ⟨_, rfl⟩
    · exact .inr ⟨taken, rfl⟩
    · exact .inr ⟨taken, rfl⟩

theorem Marked.fields {before after : LocatorItem} (marked : Marked before after) :
    after.baseAddress = before.baseAddress ∧ after.size = before.size ∧ after.position = before.position ∧
      (after.isTaken = 0 ↔ before.isTaken = 0) := by
  rcases marked with rfl | ⟨taken, rfl⟩
  · exact ⟨rfl, rfl, rfl, Iff.rfl⟩
  · exact ⟨rfl, rfl, rfl, by simp [taken]⟩

end LocatorItem

namespace Locators

variable {before after : Locators} {pointer : SafeLocatorItem} {item : LocatorItem}

/-- What a registered item has become. -/
theorem marked_forward
    (marked : ∀ pointer, Option.Rel LocatorItem.Marked (before.registered pointer) (after.registered pointer))
    (found : before.registered pointer = some item) :
    ∃ later, after.registered pointer = some later ∧ LocatorItem.Marked item later := by
  have here := marked pointer
  cases registered : after.registered pointer with
  | none => simp [found, registered] at here
  | some later => exact ⟨later, rfl, by simpa [found, registered] using here⟩

/-- What a registered item has been. -/
theorem marked_backward
    (marked : ∀ pointer, Option.Rel LocatorItem.Marked (before.registered pointer) (after.registered pointer))
    (found : after.registered pointer = some item) :
    ∃ earlier, before.registered pointer = some earlier ∧ LocatorItem.Marked earlier item := by
  have here := marked pointer
  cases registered : before.registered pointer with
  | none =>
      rw [found, registered] at here
      cases here
  | some earlier => exact ⟨earlier, rfl, by simpa [found, registered] using here⟩

end Locators

namespace SafeLocatorItem

/-- The three ways to append through a pointer; a value to be copied is given by reference,
with the address at which it lies. -/
inductive Append where
  | bytes
  | copy (reference : Nat)
  | code
  deriving DecidableEq, Repr

/-- `append_copy` hands its reference on as it is, and so the item copies the bytes of the
address and not those of the value. -/
def Append.run (target : Target) : Append → LocatorItem → List UInt8 → Nat × LocatorItem × List Effect
  | .bytes, item, data => item.appendBytes target data
  | .copy reference, item, _ => item.appendCopy target (StructLayout.littleEndian target.width.bytes reference)
  | .code, item, data => item.appendCode target data

/-- Bytes by which the position advances. -/
def Append.written (target : Target) : Append → List UInt8 → Nat
  | .bytes, data => data.length
  | .copy _, _ => target.width.bytes
  | .code, data => data.length

def append (target : Target) (kind : Append) (pointer : SafeLocatorItem) (data : List UInt8)
    (locators : Locators) : Option (Nat × Locators) := do
  let item ← locators.item pointer
  let (address, item, _) := kind.run target item data
  let locators ← locators.setItem pointer item
  return (address, locators)

def drop (pointer : SafeLocatorItem) (locators : Locators) : Option Locators := do
  let item ← locators.item pointer
  locators.setItem pointer item.unlock

variable {locators last : Locators} {pointer : SafeLocatorItem} {item : LocatorItem}

/-- All three append at the cursor and advance it. -/
theorem Append.run_eq (target : Target) (kind : Append) (item : LocatorItem) (data : List UInt8) :
    (kind.run target item data).1 = item.cursor target.usize ∧
      (kind.run target item data).2.1 = item.advance (kind.written target data) := by
  cases kind with
  | bytes => exact ⟨rfl, rfl⟩
  | copy reference =>
      refine ⟨rfl, ?_⟩
      rw [run, LocatorItem.appendCopy, StructLayout.length_littleEndian, written]
  | code => exact ⟨rfl, rfl⟩

theorem append_cases {target : Target} {kind : Append} {data : List UInt8} {address : Nat}
    (found : locators.registered pointer = some item)
    (run : pointer.append target kind data locators = some (address, last)) :
    address = item.cursor target.usize ∧ last.next = locators.next ∧
      last.registered = Function.update locators.registered pointer (some (item.advance (kind.written target data))) := by
  obtain ⟨cursor, advanced⟩ := kind.run_eq target item data
  obtain ⟨written, stored, next, registered⟩ :=
    Locators.setItem_registered (kind.run target item data).2.1 found
  rw [append, Locators.item_of_registered found] at run
  simp only [Option.bind_eq_bind, Option.bind_some, stored, Option.pure_def, Option.some.injEq,
    Prod.mk.injEq] at run
  obtain ⟨rfl, rfl⟩ := run
  rw [advanced] at registered
  exact ⟨cursor, next, registered⟩

theorem drop_cases (found : locators.registered pointer = some item) (run : pointer.drop locators = some last) :
    last.next = locators.next ∧
      last.registered = Function.update locators.registered pointer (some item.unlock) := by
  obtain ⟨written, stored, next, registered⟩ := Locators.setItem_registered item.unlock found
  rw [drop, Locators.item_of_registered found] at run
  cases stored.symm.trans run
  exact ⟨next, registered⟩

end SafeLocatorItem

/-- The state of the calling process: the locators it can reach and the system. -/
structure World (σ : Type) where
  locators : Locators
  os : σ

variable {σ : Type}

namespace World

/-- Nothing has changed but memory newly held and lock words that were taken. -/
structure Quiet (held : σ → Set Nat) (before after : World σ) : Prop where
  held_le : held before.os ⊆ held after.os
  next : after.locators.next = before.locators.next
  marked : ∀ pointer, Option.Rel LocatorItem.Marked (before.locators.registered pointer)
    (after.locators.registered pointer)

/-- Lock words that were taken have been taken again, without a call to the system. -/
structure Scanned (before after : World σ) : Prop where
  os : after.os = before.os
  next : after.locators.next = before.locators.next
  marked : ∀ pointer, Option.Rel LocatorItem.Marked (before.locators.registered pointer)
    (after.locators.registered pointer)

variable {held : σ → Set Nat} {before after : World σ}

theorem Scanned.refl (world : World σ) : Scanned world world where
  os := rfl
  next := rfl
  marked pointer := by
    cases world.locators.registered pointer with
    | none => exact .none
    | some item => exact .some (.refl item)

theorem Scanned.quiet (scanned : Scanned before after) : Quiet held before after where
  held_le := scanned.os ▸ subset_rfl
  next := scanned.next
  marked := scanned.marked

theorem Quiet.refl (held : σ → Set Nat) (world : World σ) : Quiet held world world := (Scanned.refl world).quiet

/-- Memory has been asked for, and the locators have not been touched. -/
theorem Quiet.of_locators (same : after.locators = before.locators) (more : held before.os ⊆ held after.os) :
    Quiet held before after where
  held_le := more
  next := congrArg Locators.next same
  marked := by
    rw [same]
    exact (Quiet.refl held before).marked

theorem Quiet.registered (quiet : Quiet held before after) {pointer : SafeLocatorItem} {item : LocatorItem}
    (found : after.locators.registered pointer = some item) :
    ∃ earlier, before.locators.registered pointer = some earlier ∧ LocatorItem.Marked earlier item :=
  Locators.marked_backward quiet.marked found

theorem Quiet.later (quiet : Quiet held before after) {pointer : SafeLocatorItem} {item : LocatorItem}
    (found : before.locators.registered pointer = some item) :
    ∃ later, after.locators.registered pointer = some later ∧ LocatorItem.Marked item later :=
  Locators.marked_forward quiet.marked found

end World

end ReloadedBuffers
