import ReloadedBuffers.Structs.Initialization

/-! `initialize` as the sequence of its stores. Another thread can see the memory between
any two of them.
-/

set_option autoImplicit false

namespace ReloadedBuffers

/-- What a read of a header finds at each address. -/
abbrev Memory := Nat → LocatorHeader

inductive Store where
  | thisAddress (place value : Nat)
  | nextLocatorPtr (place value : Nat)
  | isLocked (place : Nat)
  | flags (place : Nat)
  | numItems (place : Nat) (count : UInt8)
  | baseAddress (place slot value : Nat)
  | size (place slot : Nat) (value : UInt32)
  | position (place slot : Nat)
  | isTaken (place slot : Nat)
  deriving DecidableEq, Repr

namespace Store

def header (memory : Memory) (place : Nat) (change : LocatorHeader → LocatorHeader) : Memory :=
  Function.update memory place (change (memory place))

def item (memory : Memory) (place slot : Nat) (change : LocatorItem → LocatorItem) : Memory :=
  header memory place fun found => found.setItem slot (change (found.items slot))

def apply (memory : Memory) : Store → Memory
  | .thisAddress place value => header memory place fun found => { found with thisAddress := value }
  | .nextLocatorPtr place value => header memory place fun found => { found with nextLocatorPtr := value }
  | .isLocked place => header memory place fun found => { found with isLocked := 0 }
  | .flags place => header memory place fun found => { found with flags := 0 }
  | .numItems place count => header memory place fun found => { found with numItems := count }
  | .baseAddress place slot value => item memory place slot fun found => { found with baseAddress := value }
  | .size place slot value => item memory place slot fun found => { found with size := value }
  | .position place slot => item memory place slot fun found => { found with position := 0 }
  | .isTaken place slot => item memory place slot fun found => { found with isTaken := 0 }

def applyAll (memory : Memory) (stores : List Store) : Memory := stores.foldl apply memory

theorem applyAll_append (memory : Memory) (first second : List Store) :
    applyAll memory (first ++ second) = applyAll (applyAll memory first) second := List.foldl_append

/-- What a store leaves at a place depends only on what was there. -/
theorem apply_local {memory other : Memory} {place : Nat} (store : Store) (same : memory place = other place) :
    apply memory store place = apply other store place := by
  cases store with
  | thisAddress | nextLocatorPtr | isLocked | flags | numItems | baseAddress | size | position | isTaken =>
      simp only [apply, item, header, Function.update_apply]
      split
      · rename_i here
        rw [← here, same]
      · exact same

/-- The stores of `set_default_values`. -/
def setDefaultValues (address : Nat) : List Store :=
  [.thisAddress address address, .nextLocatorPtr address 0, .isLocked address, .flags address, .numItems address 0]

/-- The stores of `*current_item = LocatorItem::new(..)`. -/
def newItem (address slot baseAddress : Nat) (size : UInt32) : List Store :=
  [.baseAddress address slot baseAddress, .size address slot size, .position address slot, .isTaken address slot]

def carve (address bufferAddress : Nat) : Nat → UInt32 → Nat → UInt8 → List Store
  | 0, _, _, count => [.numItems address count]
  | fuel + 1, remaining, slot, count =>
    if remaining > 0 then
      let thisLength := min lengthOfPreallocatedChunks remaining
      newItem address slot bufferAddress thisLength ++
        carve address bufferAddress fuel (remaining - thisLength) (slot + 1) (count + 1)
    else [.numItems address count]

def headers (usize : Nat) : Nat → Nat → UInt32 → List Store
  | 0, _, _ => []
  | fuel + 1, current, remaining =>
    if remaining ≥ UInt32.ofNat locatorLength then
      let next := Words.add usize current locatorLength
      setDefaultValues next ++ .nextLocatorPtr current next ::
        headers usize fuel next (remaining - UInt32.ofNat locatorLength)
    else []

def initializeHeader (target : Target) (address length : Nat) : List Store :=
  let remaining := UInt32.ofNat (Words.sub target.usize length locatorLength)
  setDefaultValues address ++
    if target.appleSilicon then headers target.usize remaining.toNat address remaining
    else carve address (Words.add target.usize address locatorLength) remaining.toNat remaining 0 0

theorem applyAll_setDefaultValues (memory : Memory) (address : Nat) :
    applyAll memory (setDefaultValues address) =
      Function.update memory address ((memory address).setDefaultValues address) := by
  simp [applyAll, setDefaultValues, apply, header, LocatorHeader.setDefaultValues]

theorem applyAll_newItem (memory : Memory) (address slot baseAddress : Nat) (size : UInt32) :
    applyAll memory (newItem address slot baseAddress size) =
      Function.update memory address ((memory address).setItem slot (LocatorItem.new baseAddress size)) := by
  simp [applyAll, newItem, apply, item, header, LocatorHeader.setItem, LocatorItem.new]

theorem applyAll_carve (memory : Memory) (address bufferAddress fuel : Nat) (remaining : UInt32) (slot : Nat)
    (count : UInt8) :
    applyAll memory (carve address bufferAddress fuel remaining slot count) =
      Function.update memory address { memory address with
        items := (LocatorHeader.carve bufferAddress fuel remaining slot count (memory address).items).2
        numItems := (LocatorHeader.carve bufferAddress fuel remaining slot count (memory address).items).1 } := by
  induction fuel generalizing memory remaining slot count with
  | zero => rfl
  | succ fuel ih =>
      unfold carve LocatorHeader.carve
      split
      · rw [applyAll_append, applyAll_newItem, ih, Function.update_idem]
        simp only [Function.update_self, LocatorHeader.setItem]
      · rfl

/-- The further headers are the same whether they are made from the memory as it was or
as it has become: their items are never touched. -/
theorem applyAll_headers {usize : Nat} {raw memory : Memory} (same : ∀ place, (memory place).items = (raw place).items)
    (fuel current : Nat) (remaining : UInt32) :
    LocatorHeader.initializeRemainingSpaceAsHeaders usize raw fuel current remaining (fun place => some (memory place)) =
      fun place => some (applyAll memory (headers usize fuel current remaining) place) := by
  induction fuel generalizing memory current remaining with
  | zero => rfl
  | succ fuel ih =>
      unfold headers LocatorHeader.initializeRemainingSpaceAsHeaders
      split
      · rw [applyAll_append, applyAll_setDefaultValues]
        generalize Words.add usize current locatorLength = next
        have fresh : (raw next).setDefaultValues next = (memory next).setDefaultValues next := by
          unfold LocatorHeader.setDefaultValues
          rw [same]
        -- The stores of one header, seen as one change of the memory.
        have linked : Function.update
            (Function.update (fun place => some (memory place)) next (some ((raw next).setDefaultValues next))) current
            ((Function.update (fun place => some (memory place)) next (some ((raw next).setDefaultValues next))
              current).map fun header => { header with nextLocatorPtr := next }) =
            fun place => some (apply (Function.update memory next ((memory next).setDefaultValues next))
              (.nextLocatorPtr current next) place) := by
          funext place
          simp only [apply, header, fresh, Function.update_apply]
          split <;> split <;> simp_all
        dsimp only
        rw [linked, ih]
        · rfl
        · intro place
          simp only [apply, header, Function.update_apply]
          split <;> split <;> simp_all [LocatorHeader.setDefaultValues]
      · rfl

/-- All the stores together are `initialize`. -/
theorem applyAll_initializeHeader (target : Target) (memory : Memory) (address length : Nat) :
    LocatorHeader.initializeHeader target memory address length (fun place => some (memory place)) =
      fun place => some (applyAll memory (initializeHeader target address length) place) := by
  unfold initializeHeader LocatorHeader.initializeHeader
  rw [applyAll_append, applyAll_setDefaultValues]
  have start : Function.update (fun place => some (memory place)) address
      (some ((memory address).setDefaultValues address)) =
      fun place => some (Function.update memory address ((memory address).setDefaultValues address) place) := by
    funext place
    simp only [Function.update_apply]
    split <;> rfl
  split
  · simp only [start]
    apply applyAll_headers
    intro place
    rw [Function.update_apply]
    split
    · rename_i here
      rw [here]
      rfl
    · rfl
  · rw [applyAll_carve]
    funext place
    simp only [Function.update_apply, LocatorHeader.initializeRemainingSpaceAsBuffers]
    split <;> rfl

/-- A header is told no address but its own. -/
def own : Store → Bool
  | .thisAddress place value => place == value
  | _ => true

theorem setDefaultValues_own (address : Nat) : ∀ store ∈ setDefaultValues address, store.own = true := by
  simp [setDefaultValues, own]

theorem newItem_own (address slot baseAddress : Nat) (size : UInt32) :
    ∀ store ∈ newItem address slot baseAddress size, store.own = true := by
  simp [newItem, own]

theorem carve_own (address bufferAddress fuel : Nat) (remaining : UInt32) (slot : Nat) (count : UInt8) :
    ∀ store ∈ carve address bufferAddress fuel remaining slot count, store.own = true := by
  induction fuel generalizing remaining slot count with
  | zero => simp [carve, own]
  | succ fuel ih =>
      unfold carve
      split
      · intro store member
        rcases List.mem_append.mp member with inside | later
        · exact newItem_own _ _ _ _ store inside
        · exact ih _ _ _ store later
      · simp [own]

theorem headers_own (usize fuel current : Nat) (remaining : UInt32) :
    ∀ store ∈ headers usize fuel current remaining, store.own = true := by
  induction fuel generalizing current remaining with
  | zero => simp [headers]
  | succ fuel ih =>
      unfold headers
      split
      · intro store member
        rcases List.mem_append.mp member with inside | later
        · exact setDefaultValues_own _ store inside
        · rcases List.mem_cons.mp later with rfl | rest
          · rfl
          · exact ih _ _ store rest
      · simp

variable {memory : Memory} {place : Nat}

/-- Further stores leave a header its address, and its lock free. -/
theorem apply_settled {store : Store} (own : store.own = true)
    (settled : (memory place).thisAddress = place ∧ (memory place).isLocked = 0) :
    (apply memory store place).thisAddress = place ∧ (apply memory store place).isLocked = 0 := by
  have kept : ∀ other change, (∀ found : LocatorHeader, (change found).isLocked = found.isLocked ∨
        (change found).isLocked = 0) →
      (∀ found : LocatorHeader, (change found).thisAddress = found.thisAddress ∨ (change found).thisAddress = other) →
      (header memory other change place).thisAddress = place ∧ (header memory other change place).isLocked = 0 := by
    intro other change lock address
    unfold header
    rcases eq_or_ne place other with rfl | apart
    · rw [Function.update_self]
      constructor
      · exact (address _).elim (·.trans settled.1) id
      · exact (lock _).elim (·.trans settled.2) id
    · rw [Function.update_of_ne apart]
      exact settled
  cases store with
  | thisAddress other value =>
      cases eq_of_beq own
      exact kept _ _ (fun _ => .inl rfl) (fun _ => .inr rfl)
  | isLocked => exact kept _ _ (fun _ => .inr rfl) (fun _ => .inl rfl)
  | nextLocatorPtr | flags | numItems | baseAddress | size | position | isTaken =>
      exact kept _ _ (fun _ => .inl rfl) (fun _ => .inl rfl)

theorem applyAll_settled {stores : List Store} (own : ∀ store ∈ stores, store.own = true)
    (settled : (memory place).thisAddress = place ∧ (memory place).isLocked = 0) :
    (applyAll memory stores place).thisAddress = place ∧ (applyAll memory stores place).isLocked = 0 := by
  induction stores generalizing memory with
  | nil => exact settled
  | cons store rest ih =>
      apply ih (fun later member => own later (List.mem_cons_of_mem _ member))
      exact apply_settled (own store List.mem_cons_self) settled

end Store

/-- A header as `initialize` leaves it. -/
structure LocatorHeader.Initialised (target : Target) (address length : Nat) (header : LocatorHeader) : Prop where
  thisAddress : header.thisAddress = address
  isLocked : header.isLocked = 0
  written : ∃ raw : Memory, initializeHeader target raw address length (fun place => some (raw place)) address =
    some header

theorem Store.initialised (target : Target) (memory : Memory) (address length : Nat) :
    (applyAll memory (initializeHeader target address length) address).Initialised target address length := by
  have own : ∀ store ∈ (if target.appleSilicon then
        headers target.usize (UInt32.ofNat (Words.sub target.usize length locatorLength)).toNat address
          (UInt32.ofNat (Words.sub target.usize length locatorLength))
      else carve address (Words.add target.usize address locatorLength)
        (UInt32.ofNat (Words.sub target.usize length locatorLength)).toNat
        (UInt32.ofNat (Words.sub target.usize length locatorLength)) 0 0), store.own = true := by
    split
    · exact headers_own _ _ _ _
    · exact carve_own _ _ _ _ _ _
  have settled : (applyAll memory (initializeHeader target address length) address).thisAddress = address ∧
      (applyAll memory (initializeHeader target address length) address).isLocked = 0 := by
    unfold initializeHeader
    rw [applyAll_append]
    apply applyAll_settled own
    rw [applyAll_setDefaultValues, Function.update_self]
    exact ⟨rfl, rfl⟩
  exact ⟨settled.1, settled.2, memory, congrFun (applyAll_initializeHeader target memory address length) address⟩

end ReloadedBuffers
