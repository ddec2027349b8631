import ReloadedBuffers.Foundation.Transition
import ReloadedBuffers.Structs.InitializeStores

/-! Finding the first locator over the life of a machine: processes start, look for their
locator through a file named after their id, and end. The files stay.
-/

set_option autoImplicit false

namespace ReloadedBuffers

namespace LocatorHeaderFinder

/-- A running process; `generation` tells it from earlier ones with its id. -/
structure Process where
  generation : Nat
  locatorHeaderAddress : Nat
  /-- Its working directory is the one that holds the files. -/
  inBaseDir : Bool
  deriving DecidableEq, Repr

/-- The processes by id, and the file for each id. `initialized` and `found` record where
processes have initialised a locator, and what calls of `find` have returned. -/
structure Machine where
  processes : UInt32 → Option Process
  files : UInt32 → Option LocatorHeader
  started : Nat
  initialized : List (Nat × Nat)
  found : List (Nat × Nat)

/-- How far a call gets before its process ends: to the creation of the file, or through
`cleanup` and some of the stores of `initialize`. -/
inductive Progress where
  | created
  | stored (count : Nat)
  deriving DecidableEq, Repr

inductive Event where
  | start (processId : UInt32) (inBaseDir : Bool)
  /-- A call of `find`; a file that it creates is mapped at `data`. -/
  | find (processId : UInt32) (data : Nat)
  /-- The process ends, normally or not. -/
  | exit (processId : UInt32)
  /-- The process ends in a call of `find` that has created the file. -/
  | crash (processId : UInt32) (data : Nat) (progress : Progress)
  deriving DecidableEq, Repr

/-- The header in a file that has been created and not written. -/
def blank : LocatorHeader := ⟨0, 0, 0, 0, 0, fun _ => ⟨0, 0, 0, 0⟩⟩

/-- The header after some stores through a mapping at `data`. -/
def written (data : Nat) (stores : List Store) : LocatorHeader := Store.applyAll (fun _ => blank) stores data

namespace Machine

def isProcessRunning (machine : Machine) (processId : UInt32) : Bool := (machine.processes processId).isSome

def setFile (machine : Machine) (processId : UInt32) (header : LocatorHeader) : Machine :=
  { machine with files := Function.update machine.files processId (some header) }

/-- `cleanup` unlinks bare file names, which the working directory of the caller
resolves. Ids that are no `i32` are not recognised. -/
def cleanup (machine : Machine) (caller : Process) : Machine :=
  if caller.inBaseDir then
    { machine with files := fun processId =>
        if processId.toNat < 2 ^ 31 ∧ ¬ machine.isProcessRunning processId then none else machine.files processId }
  else machine

/-- `find`, with the address that it returns. -/
def find (target : Target) (processId : UInt32) (data : Nat) (machine : Machine) : Option (Nat × Machine) := do
  let process ← machine.processes processId
  if process.locatorHeaderAddress ≠ 0 then
    return (process.locatorHeaderAddress, machine)
  let cache (address : Nat) (machine : Machine) : Machine :=
    { machine with processes :=
        Function.update machine.processes processId (some { process with locatorHeaderAddress := address }) }
  match machine.files processId with
  | some header =>
    -- The file already existed: whoever created it has left the address there.
    return (header.thisAddress, cache header.thisAddress machine)
  | none =>
    guard (data ≠ 0)
    let machine := cache data ((machine.setFile processId blank).cleanup process)
    let machine := machine.setFile processId (written data (Store.initializeHeader target data target.granularity))
    return (data, { machine with initialized := (process.generation, data) :: machine.initialized })

def step (target : Target) (machine : Machine) : Event → Option Machine
  | .start processId inBaseDir =>
    if machine.isProcessRunning processId then none
    else some { machine with
      processes := Function.update machine.processes processId (some ⟨machine.started, 0, inBaseDir⟩)
      started := machine.started + 1 }
  | .find processId data => do
    let process ← machine.processes processId
    let (address, machine) ← machine.find target processId data
    return { machine with found := (process.generation, address) :: machine.found }
  | .exit processId => do
    let _ ← machine.processes processId
    return { machine with processes := Function.update machine.processes processId none }
  | .crash processId data progress => do
    let process ← machine.processes processId
    guard (process.locatorHeaderAddress = 0 ∧ machine.files processId = none)
    let machine :=
      match progress with
      | .created => machine.setFile processId blank
      | .stored count => ((machine.setFile processId blank).cleanup process).setFile processId
          (written data ((Store.initializeHeader target data target.granularity).take count))
    return { machine with processes := Function.update machine.processes processId none }

end Machine

/-- A machine on which no process has run yet; files may be left from before. -/
structure Initial (machine : Machine) : Prop where
  processes : ∀ processId, machine.processes processId = none
  found : machine.found = []

/-- Every call has returned the address of a locator that its own process has initialised. -/
def Own (machine : Machine) : Prop := ∀ entry ∈ machine.found, entry ∈ machine.initialized

/-- A process that has not found its locator yet finds no file with its id. -/
def NoLeftover (machine : Machine) : Event → Prop
  | .find processId _ => ∀ process ∈ machine.processes processId,
      process.locatorHeaderAddress = 0 → (machine.files processId).isNone = true
  | .start _ _ | .exit _ | .crash _ _ _ => True

instance (machine : Machine) (event : Event) : Decidable (NoLeftover machine event) :=
  match event with
  | .find processId _ => inferInstanceAs (Decidable (∀ process ∈ machine.processes processId,
      process.locatorHeaderAddress = 0 → (machine.files processId).isNone = true))
  | .start _ _ | .exit _ | .crash _ _ _ => inferInstanceAs (Decidable True)

/-- What the caches of the running processes hold is their own. -/
structure Inv (machine : Machine) : Prop where
  cached : ∀ processId process, machine.processes processId = some process → process.locatorHeaderAddress ≠ 0 →
    (process.generation, process.locatorHeaderAddress) ∈ machine.initialized
  own : Own machine

variable {target : Target} {machine next : Machine} {processId : UInt32} {data address : Nat}

theorem Initial.inv (start : Initial machine) : Inv machine where
  cached processId process running := by
    rw [start.processes] at running
    cases running
  own entry member := by
    rw [start.found] at member
    cases member

@[simp] theorem Machine.cleanup_processes (caller : Process) : (machine.cleanup caller).processes = machine.processes := by
  unfold cleanup
  split <;> rfl

@[simp] theorem Machine.cleanup_initialized (caller : Process) :
    (machine.cleanup caller).initialized = machine.initialized := by
  unfold cleanup
  split <;> rfl

@[simp] theorem Machine.cleanup_found (caller : Process) : (machine.cleanup caller).found = machine.found := by
  unfold cleanup
  split <;> rfl

/-- The three ways in which a call returns: from the cache, from the file, or after
creating the file. -/
theorem Machine.find_cases {process : Process} (running : machine.processes processId = some process)
    (found : machine.find target processId data = some (address, next)) :
    next.found = machine.found ∧
      (process.locatorHeaderAddress ≠ 0 ∧ address = process.locatorHeaderAddress ∧ next = machine ∨
        process.locatorHeaderAddress = 0 ∧
          next.processes = Function.update machine.processes processId
            (some { process with locatorHeaderAddress := address }) ∧
          ((∃ header, machine.files processId = some header ∧ address = header.thisAddress ∧
              next.initialized = machine.initialized) ∨
            machine.files processId = none ∧
              next.initialized = (process.generation, address) :: machine.initialized)) := by
  unfold find at found
  simp only [running, Option.bind_eq_bind, Option.bind_some] at found
  by_cases cached : process.locatorHeaderAddress = 0
  · rw [if_neg (not_not.mpr cached)] at found
    cases file : machine.files processId with
    | some header =>
        simp only [file] at found
        cases found
        exact ⟨rfl, .inr ⟨cached, rfl, .inl ⟨header, rfl, rfl, rfl⟩⟩⟩
    | none =>
        simp only [file] at found
        obtain ⟨_, _, created⟩ := Option.bind_eq_some_iff.mp found
        cases created
        simp only [setFile, cleanup_processes, cleanup_initialized, cleanup_found, true_and]
        exact .inr ⟨cached, .inr trivial⟩
  · rw [if_pos cached] at found
    cases found
    exact ⟨rfl, .inl ⟨cached, rfl, rfl⟩⟩

theorem Inv.find (inv : Inv machine) {process : Process} (running : machine.processes processId = some process)
    (fresh : process.locatorHeaderAddress = 0 → machine.files processId = none)
    (found : machine.find target processId data = some (address, next)) :
    Inv { next with found := (process.generation, address) :: next.found } := by
  obtain ⟨before, ⟨cached, rfl, rfl⟩ | ⟨uncached, processes, file⟩⟩ := Machine.find_cases running found
  · constructor
    · exact inv.cached
    · intro entry member
      rcases List.mem_cons.mp member with rfl | earlier
      · exact inv.cached processId process running cached
      · exact inv.own entry earlier
  · obtain ⟨header, exists_, _⟩ | ⟨_, initialized⟩ := file
    · -- A file that was there cannot be the process's own, which would have cached its address.
      rw [fresh uncached] at exists_
      cases exists_
    · constructor
      · intro other known here nonzero
        change next.processes other = some known at here
        change (known.generation, known.locatorHeaderAddress) ∈ next.initialized
        rw [initialized]
        rw [processes] at here
        rcases eq_or_ne other processId with rfl | apart
        · rw [Function.update_self] at here
          cases here
          exact List.mem_cons_self
        · rw [Function.update_of_ne apart] at here
          exact List.mem_cons_of_mem _ (inv.cached other known here nonzero)
      · intro entry member
        change entry ∈ next.initialized
        rw [initialized]
        rcases List.mem_cons.mp member with rfl | earlier
        · exact List.mem_cons_self
        · rw [before] at earlier
          exact List.mem_cons_of_mem _ (inv.own entry earlier)

/-- A process whose cache is empty, or none at all, takes the place of another. -/
theorem Inv.replace {after : Machine} {process : Option Process} (inv : Inv machine)
    (processes : after.processes = Function.update machine.processes processId process)
    (empty : ∀ started, process = some started → started.locatorHeaderAddress = 0)
    (initialized : after.initialized = machine.initialized) (found : after.found = machine.found) : Inv after where
  cached other known here nonzero := by
    rw [initialized]
    rw [processes] at here
    rcases eq_or_ne other processId with rfl | apart
    · rw [Function.update_self] at here
      exact absurd (empty known here) nonzero
    · rw [Function.update_of_ne apart] at here
      exact inv.cached other known here nonzero
  own := by
    unfold Own
    rw [initialized, found]
    exact inv.own

theorem Inv.step {event : Event} (inv : Inv machine) (fresh : NoLeftover machine event)
    (taken : machine.step target event = some next) : Inv next := by
  cases event with
  | start processId inBaseDir =>
      simp only [Machine.step] at taken
      split at taken
      · cases taken
      · cases taken
        exact inv.replace rfl (fun started same => by cases same; rfl) rfl rfl
  | find processId data =>
      obtain ⟨process, running, rest⟩ := Option.bind_eq_some_iff.mp taken
      obtain ⟨⟨address, after⟩, found, last⟩ := Option.bind_eq_some_iff.mp rest
      cases last
      exact inv.find running (fun empty => Option.isNone_iff_eq_none.mp (fresh process running empty)) found
  | exit processId =>
      obtain ⟨process, running, last⟩ := Option.bind_eq_some_iff.mp taken
      cases last
      exact inv.replace rfl (fun started same => nomatch same) rfl rfl
  | crash processId data progress =>
      obtain ⟨process, running, rest⟩ := Option.bind_eq_some_iff.mp taken
      obtain ⟨_, _, last⟩ := Option.bind_eq_some_iff.mp rest
      cases last
      cases progress with
      | created => exact inv.replace rfl (fun started same => nomatch same) rfl rfl
      | stored count =>
          have stopped : ∀ started, (none : Option Process) = some started → started.locatorHeaderAddress = 0 := nofun
          have empty : Function.update ((machine.setFile processId blank).cleanup process).processes processId none =
              Function.update machine.processes processId none := by
            simp only [Machine.setFile, Machine.cleanup_processes]
          exact inv.replace empty stopped (Machine.cleanup_initialized process) (Machine.cleanup_found process)

/-- Every process finds its own locator, in any history in which none finds a file that
was left under its id. -/
theorem run_own {start last : Machine} {events : List Event} (initial : Initial start)
    (run : Transition.Run (Machine.step target) NoLeftover start events last) : Own last := by
  have preserved : ∀ machine event next, Inv machine → NoLeftover machine event →
      Machine.step target machine event = some next → Inv next := fun _ _ _ inv fresh taken => inv.step fresh taken
  exact (run.invariant Inv preserved initial.inv).own

/-- No processes and no files. -/
def bootedMachine : Machine := ⟨fun _ => none, fun _ => none, 0, [], []⟩

theorem bootedMachine_initial : Initial bootedMachine := ⟨fun _ => rfl, rfl⟩

/-- Two processes with their own ids, the first of which looks twice. -/
theorem run_own_two : ∃ last : Machine, last.found = [(1, 0x20000), (0, 0x10000), (0, 0x10000)] ∧ Own last := by
  have history : ∃ last, Transition.execute (Transition.restrict (Machine.step smallTarget) NoLeftover) bootedMachine
      [.start 7 false, .find 7 0x10000, .find 7 0x20000, .exit 7, .start 8 true, .find 8 0x20000] = some last ∧
      last.found = [(1, 0x20000), (0, 0x10000), (0, 0x10000)] := ⟨_, rfl, rfl⟩
  obtain ⟨last, result, found⟩ := history
  exact ⟨last, found, run_own bootedMachine_initial (Transition.execute_restrict result)⟩

/-- The second process has the id of the first, and returns what the first has left. -/
theorem run_stale : ∃ last : Machine, ∃ events,
    Transition.Run (Machine.step smallTarget) Transition.always bootedMachine events last ∧
    last.found = [(1, 0x10000), (0, 0x10000)] ∧ last.initialized = [(0, 0x10000)] ∧ ¬ Own last := by
  have history : ∃ last, Transition.execute (Machine.step smallTarget) bootedMachine
      [.start 7 false, .find 7 0x10000, .exit 7, .start 7 false, .find 7 0x20000] = some last ∧
      last.found = [(1, 0x10000), (0, 0x10000)] ∧ last.initialized = [(0, 0x10000)] := ⟨_, rfl, rfl, rfl⟩
  obtain ⟨last, result, found, initialized⟩ := history
  refine ⟨last, _, Transition.execute_run (fun _ _ _ => trivial) result, found, initialized, ?_⟩
  intro own
  have member := own (1, 0x10000) (by rw [found]; simp)
  rw [initialized] at member
  simp at member

end LocatorHeaderFinder

end ReloadedBuffers
