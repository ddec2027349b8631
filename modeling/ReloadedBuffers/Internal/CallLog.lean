import ReloadedBuffers.Internal.Allocate

/-! Any system, with a log of the calls made to it. The log changes no answer, so what
an operation asked for can be stated of every system at once.
-/

set_option autoImplicit false

namespace ReloadedBuffers

/-- A call to the operating system or to the global allocator, with its answer. -/
inductive SystemCall where
  | memoryMap (regions : List MemoryMapEntry)
  | mmap (address length answer : Nat)
  | munmap (address length : Nat)
  | openProcess (opened : Bool)
  | isWow64Process (answer : Option Bool)
  | virtualQuery (address : Nat) (answer : Option MemoryBasicInformation)
  | virtualAlloc (address length answer : Nat)
  | virtualFree (address length : Nat)
  | machVmRegion (address : Nat) (reply : RegionReply)
  | machVmAllocate (address length : Nat) (answer : Option Nat)
  | machVmProtect (address length : Nat) (permitted : Bool)
  | machVmDeallocate (address length : Nat)
  | alloc (size align answer : Nat)
  deriving DecidableEq, Repr

/-- The latest call comes first. -/
structure Logged (σ : Type) where
  system : σ
  calls : List SystemCall

namespace Logged

variable {σ α : Type}

def call (ask : σ → α × σ) (entry : α → SystemCall) (world : Logged σ) : α × Logged σ :=
  ((ask world.system).1, ⟨(ask world.system).2, entry (ask world.system).1 :: world.calls⟩)

/-- A call that may have no answer, and is then no call that anyone sees. -/
def ask (question : σ → Option (α × σ)) (entry : α → SystemCall) (world : Logged σ) : Option (α × Logged σ) :=
  (question world.system).map fun (answer, system) => (answer, ⟨system, entry answer :: world.calls⟩)

def tell (act : σ → σ) (entry : SystemCall) (world : Logged σ) : Logged σ :=
  ⟨act world.system, entry :: world.calls⟩

theorem calls_call (ask : σ → α × σ) (entry : α → SystemCall) (world : Logged σ) :
    world.calls <:+ (call ask entry world).2.calls := List.suffix_cons _ _

theorem ask_eq_some {question : σ → Option (α × σ)} {entry : α → SystemCall} {world next : Logged σ} {answer : α} :
    ask question entry world = some (answer, next) ↔
      ∃ system, question world.system = some (answer, system) ∧ next = ⟨system, entry answer :: world.calls⟩ := by
  rw [ask, Option.map_eq_some_iff]
  constructor
  · rintro ⟨⟨reply, system⟩, asked, same⟩
    cases same
    exact ⟨system, asked, rfl⟩
  · rintro ⟨system, asked, rfl⟩
    exact ⟨_, asked, rfl⟩

theorem calls_tell (act : σ → σ) (entry : SystemCall) (world : Logged σ) :
    world.calls <:+ (tell act entry world).calls := List.suffix_cons _ _

end Logged

variable {σ : Type}

def LinuxCalls.logged (calls : LinuxCalls σ) : LinuxCalls (Logged σ) where
  memoryMap processId := Logged.ask (calls.memoryMap processId) .memoryMap
  mmap address length := Logged.call (calls.mmap address length) (.mmap address length)
  munmap address length := Logged.tell (calls.munmap address length) (.munmap address length)

def WindowsCalls.logged (calls : WindowsCalls σ) : WindowsCalls (Logged σ) where
  openProcess processId := Logged.call (calls.openProcess processId) .openProcess
  isWow64Process processId := Logged.call (calls.isWow64Process processId) .isWow64Process
  virtualQuery address := Logged.call (calls.virtualQuery address) (.virtualQuery address)
  virtualAlloc address length := Logged.call (calls.virtualAlloc address length) (.virtualAlloc address length)
  virtualFree address length := Logged.tell (calls.virtualFree address length) (.virtualFree address length)

def MachCalls.logged (calls : MachCalls σ) : MachCalls (Logged σ) where
  machVmRegion address := Logged.call (calls.machVmRegion address) (.machVmRegion address)
  machVmAllocate address length :=
    Logged.call (calls.machVmAllocate address length) (.machVmAllocate address length)
  machVmProtect address length := Logged.call (calls.machVmProtect address length) (.machVmProtect address length)
  machVmDeallocate address length :=
    Logged.tell (calls.machVmDeallocate address length) (.machVmDeallocate address length)

def Os.logged (os : Os σ) : Os (Logged σ) where
  linux := os.linux.logged
  windows := os.windows.logged
  macos := os.macos.logged
  alloc size align := Logged.call (os.alloc size align) (.alloc size align)
  raw world := os.raw world.system

/-- The candidate loop made calls only, or its last call answered a candidate with the
candidate itself. -/
def Tried {σ : Type} (ask : Nat → σ → Nat × σ) (asked : Nat → Nat → SystemCall) (candidates : List Nat)
    (past : List SystemCall) : Option Nat → List SystemCall → Prop
  | none, log => past <:+ log
  | some address, log => address ∈ candidates ∧ address ≠ 0 ∧ ∃ recent system,
      log = asked address address :: (recent ++ past) ∧ (ask address system).1 = address

theorem Tried.weaken {ask : Nat → σ → Nat × σ} {asked : Nat → Nat → SystemCall} {rest : List Nat}
    {past between log : List SystemCall} {result : Option Nat} (candidate : Nat) (later : past <:+ between)
    (tried : Tried ask asked rest between result log) : Tried ask asked (candidate :: rest) past result log := by
  cases result with
  | none => exact later.trans tried
  | some address =>
      obtain ⟨member, nonzero, recent, system, same, answer⟩ := tried
      obtain ⟨more, split⟩ := later
      refine ⟨List.mem_cons_of_mem _ member, nonzero, recent ++ more, system, ?_, answer⟩
      rw [same, List.append_assoc, split]

theorem tryCandidates_logged (ask : Nat → σ → Nat × σ) (give : Nat → σ → σ) (asked : Nat → Nat → SystemCall)
    (given : Nat → SystemCall) {candidates : List Nat} {world last : Logged σ} {result : Option Nat}
    (run : tryCandidates (fun address => Logged.call (ask address) (asked address))
      (fun address => Logged.tell (give address) (given address)) candidates world = (result, last)) :
    Tried ask asked candidates world.calls result last.calls := by
  induction candidates generalizing world with
  | nil =>
      cases run
      exact List.suffix_rfl
  | cons candidate rest ih =>
      simp only [tryCandidates] at run
      split at run
      · exact (ih run).weaken candidate (Logged.calls_call _ _ _)
      · rename_i nonzero
        split at run
        · exact (ih run).weaken candidate ((Logged.calls_call _ _ _).trans (Logged.calls_tell _ _ _))
        · rename_i same
          cases run
          have answer : (ask candidate world.system).1 = candidate := not_not.mp same
          simp only [Logged.call, answer] at nonzero ⊢
          exact ⟨List.mem_cons_self, nonzero, [], world.system, rfl, answer⟩

/-- The latest calls of the log mapped `length` bytes at `start`. On macOS the mapping is
also protected before it is kept. -/
def MappedLast (start length : Nat) : List SystemCall → Prop
  | .virtualAlloc _ size answer :: _ => answer ≠ 0 ∧ answer = start ∧ size = length
  | .machVmProtect address size permitted :: .machVmAllocate _ asked answer :: _ =>
    permitted = true ∧ address = start ∧ answer = some start ∧ size = length ∧ asked = length
  | _ => False

/-- Nothing was obtained, or an item of the size in the settings that was mapped last. -/
def ItemMapped (settings : BufferAllocatorSettings) : Option LocatorItem → List SystemCall → Prop
  | none, _ => True
  | some item, log => item.size = settings.size ∧ MappedLast item.baseAddress item.size.toNat log

theorem ItemMapped.walkRule (σ : Type) (settings : BufferAllocatorSettings) :
    WalkRule fun (_ : Logged σ) result last => ItemMapped settings result last.calls where
  idle _ := trivial
  again _ _ _ _ _ later := later

/-- A candidate that was answered with itself has been mapped, if the answer shows that. -/
theorem Tried.itemMapped {settings : BufferAllocatorSettings} {ask : Nat → σ → Nat × σ}
    {asked : Nat → Nat → SystemCall} {candidates : List Nat} {past log : List SystemCall} {result : Option Nat}
    (tried : Tried ask asked candidates past result log)
    (maps : ∀ address, address ≠ 0 → ∀ recent, MappedLast address settings.size.toNat (asked address address :: recent)) :
    ItemMapped settings (result.map (LocatorItem.new · settings.size)) log := by
  cases result with
  | none => trivial
  | some address =>
      obtain ⟨_, nonzero, recent, _, rfl, _⟩ := tried
      exact ⟨rfl, maps address nonzero _⟩

end ReloadedBuffers
