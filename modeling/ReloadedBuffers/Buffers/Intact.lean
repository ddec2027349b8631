import ReloadedBuffers.Buffers.Packing
import ReloadedBuffers.Buffers.Visits

/-! What a search leaves behind when it fails. Every exit releases the lock that it took,
and all that may have changed is that the chain has one more block at its end.
-/

set_option autoImplicit false

namespace ReloadedBuffers

/-- The same items in as many slots. -/
structure LocatorHeader.SameItems (header later : LocatorHeader) : Prop where
  numItems : later.numItems = header.numItems
  items : ∀ slot < header.numItems.toNat, later.items slot = header.items slot

namespace LocatorHeader

variable {header later last : LocatorHeader}

theorem Marked.sameItems (marked : Marked header later) (tidy : header.Tidy) : SameItems header later := by
  have same := fun slot inside => @Marked.items_eq header later marked tidy slot inside
  obtain ⟨items, rfl, _⟩ := marked
  exact ⟨rfl, same⟩

theorem SameItems.refl (header : LocatorHeader) : SameItems header header := ⟨rfl, fun _ _ => rfl⟩

theorem SameItems.trans (left : SameItems header later) (right : SameItems later last) : SameItems header last := by
  refine ⟨right.numItems.trans left.numItems, fun slot inside => ?_⟩
  have counted : slot < later.numItems.toNat := by rwa [left.numItems]
  exact (right.items slot counted).trans (left.items slot inside)

end LocatorHeader

variable {σ : Type} {target : Target} {os : Os σ} {held : σ → Set Nat} {first locator : Nat} {nodes : List Nat}
  {before after : World σ}

/-- Every locator is still there, with the items it had. -/
def World.KeepsItems (before after : World σ) : Prop :=
  ∀ node header, before.locators node = some header → ∃ later, after.locators node = some later ∧ header.SameItems later

theorem World.KeepsItems.trans {middle : World σ} (left : World.KeepsItems before middle)
    (right : World.KeepsItems middle after) : World.KeepsItems before after := by
  intro node header found
  obtain ⟨between, there, same⟩ := left node header found
  obtain ⟨later, here, again⟩ := right node between there
  exact ⟨later, here, same.trans again⟩

/-- Between operations no lock word changes when it is taken again. -/
theorem World.Rescanned.keepsItems (rescanned : World.Rescanned before after)
    (formed : before.WellFormed held first nodes) : World.KeepsItems before after := by
  intro node header found
  obtain ⟨later, here, marked⟩ := rescanned node header found
  exact ⟨later, here, marked.sameItems (formed.tidy node header found)⟩

theorem World.Grown.keepsItems {header : LocatorHeader} {address : Nat} {more : List Nat}
    (grown : before.Grown target os held locator header address more after)
    (formed : before.WellFormed held first nodes) : World.KeepsItems before after := by
  intro node known found
  rcases eq_or_ne node locator with rfl | apart
  · cases grown.found.symm.trans found
    exact ⟨_, grown.here formed, rfl, fun _ _ => rfl⟩
  · have away : node ∉ more := grown.outside formed (by rw [found]; rfl)
    exact ⟨known, (grown.frame away apart).trans found, .refl known⟩

/-- The chain of one block, each of whose headers and items are as `initialize` leaves them. -/
structure World.Created (target : Target) (address : Nat) (more : List Nat) (world : World σ) : Prop where
  chain : world.locators.Chain address more
  headers : ∃ raw earlier, ∀ node ∈ more, ∃ header later,
    LocatorHeader.initializeHeader target raw address target.granularity earlier node = some header ∧
    world.locators node = some later ∧ { later with items := header.items } = header ∧ header.SameItems later

/-- What a search that failed leaves: the items that were there, and the chain, but for
one new block behind its last locator. -/
structure World.Intact (target : Target) (first : Nat) (before after : World σ) : Prop where
  items : World.KeepsItems before after
  chain : ∃ nodes more, before.locators.Chain first nodes ∧ after.locators.Chain first (nodes ++ more) ∧
    (more = [] ∨ ∃ address, after.Created target address more)

/-- No header of the chain is locked. -/
def World.Released (first : Nat) (world : World σ) : Prop :=
  ∃ nodes, world.locators.Chain first nodes ∧
    ∀ node ∈ nodes, ∀ header, world.locators node = some header → header.isLocked = 0

theorem World.WellFormed.released (formed : before.WellFormed held first nodes) : before.Released first :=
  ⟨nodes, formed.chain, fun node _ header found => (formed.tidy node header found).unlocked⟩

namespace Buffers

theorem Searched.intact {error : BufferSearchError} {more : List Nat} (formed : before.WellFormed held first nodes)
    (searched : Searched target os held first nodes before (.error error) more after) :
    World.Intact target first before after := by
  have kept := searched.kept.1
  cases searched with
  | within _ _ same =>
      exact ⟨(same error rfl).keepsItems formed, nodes, [], formed.chain, kept.chain, .inl rfl⟩
  | @beyond middle created _ last address header _ between _ same member grown _ links later =>
      have new := grown.wellFormed between member
      have rescanned := later error rfl
      -- Up to the last locator the chain is kept; behind it lies what `initialize` has written.
      refine ⟨(same.keepsItems formed).trans ((grown.keepsItems between).trans (rescanned.keepsItems new)), nodes, more,
        formed.chain, kept.chain, .inr ⟨address, ?_, os.raw created.os,
          middle.locators.store last { header with isLocked := 1, nextLocatorPtr := address }, fun node inside => ?_⟩⟩
      · have chain := grown.laid.chain
        unfold Locators.Chain at chain ⊢
        rwa [links]
      · obtain ⟨blank, here, _⟩ := grown.laid.blank node inside
        obtain ⟨found, there, marked⟩ := rescanned node blank here
        refine ⟨blank, found, (grown.initialised node inside).symm.trans here, there, ?_,
          marked.sameItems (new.tidy node blank here)⟩
        obtain ⟨items, rfl, _⟩ := marked
        rfl

variable {fuel depth : Nat} {result : Except BufferSearchError SafeLocatorItem}

/-- Both searches. -/
inductive Request where
  | plain (settings : BufferSearchSettings)
  | aligned (settings : BufferSearchSettings) (alignment : UInt32)

def Request.run (target : Target) (os : Os σ) (fuel depth first : Nat) :
    Request → World σ → Option (Except BufferSearchError SafeLocatorItem × World σ)
  | .plain settings => getBuffer target os fuel depth settings first
  | .aligned settings alignment => getBufferAligned target os fuel depth settings alignment first

theorem Request.leaves_intact (request : Request) (reserves : os.Reserves target held) (booted : target.Booted)
    (room : target.LeavesRoom) (formed : before.WellFormed held first nodes)
    (run : request.run target os fuel depth first before = some (result, after)) :
    after.Released first ∧ ∀ error, result = .error error → World.Intact target first before after := by
  cases request with
  | plain settings =>
      obtain ⟨more, searched⟩ := getBufferRecursive_searched reserves booted room formed formed.chain.head_mem run
      refine ⟨searched.kept.1.released, ?_⟩
      rintro error rfl
      exact searched.intact formed
  | aligned settings alignment =>
      obtain ⟨found, middle, search, touched, failed⟩ := getBufferAligned_touched run
      obtain ⟨more, searched⟩ := getBufferRecursive_searched reserves booted room formed formed.chain.head_mem search
      refine ⟨(touched.kept searched.kept.1).1.released, fun error wrong => ?_⟩
      -- An aligned search fails only where the plain one does, and then aligns nothing.
      obtain ⟨rfl, rfl⟩ := failed error wrong
      exact searched.intact formed

namespace Session

/-- After every run, a search that returns leaves all header locks free, and one that
fails leaves every item as it was and the chain as it was or with one block more. -/
theorem run_intact {system : σ} {session : Session σ} {operations : List Operation} (request : Request)
    (reserves : os.Reserves target held) (booted : target.Booted)
    (granular : target.granularity ≤ 65536 ∨ ∃ exponent, target.granularity = 2 ^ exponent)
    (word : first + target.granularity < target.usize) (inUse : Words.extent first target.granularity ⊆ held system)
    (run : Transition.Run (step target os fuel depth first) Transition.always (initial target os first system) operations
      session) {more deep : Nat} {last : World σ}
    (searched : request.run target os more deep first session.world = some (result, last)) :
    last.Released first ∧ ∀ error, result = .error error → World.Intact target first session.world last := by
  have room : target.LeavesRoom := granular.elim Target.leavesRoom_of_le Target.leavesRoom_of_power
  obtain ⟨nodes, formed⟩ := run_kept reserves booted room word inUse run
  exact request.leaves_intact reserves booted room formed searched

/-- No memory for a new item lies below the locator itself. -/
theorem run_intact_refused : ∃ session : Session (Logged Nat), ∃ error last,
    (Request.aligned ⟨0, 0x1000, 17000⟩ 16).run smallTarget (Os.upwards smallTarget.usize emptyHeader).logged 0 2 0x10000
      session.world = some (.error error, last) ∧
    last.Released 0x10000 ∧ World.Intact smallTarget 0x10000 session.world last := by
  have steps : ∃ session : Session (Logged Nat), ∃ error last,
      (initial smallTarget (Os.upwards smallTarget.usize emptyHeader).logged 0x10000 ⟨0x11000, []⟩).step smallTarget
        (Os.upwards smallTarget.usize emptyHeader).logged 0 2 0x10000 (.getBuffer 0 ⟨0x20000, 0x40000, 5000⟩) =
        some session ∧
      (Request.aligned ⟨0, 0x1000, 17000⟩ 16).run smallTarget (Os.upwards smallTarget.usize emptyHeader).logged 0 2
        0x10000 session.world = some (.error error, last) := ⟨_, _, _, rfl, rfl⟩
  obtain ⟨session, error, last, searched, refused⟩ := steps
  obtain ⟨released, intact⟩ := run_intact (.aligned ⟨0, 0x1000, 17000⟩ 16) upwards_reserves smallTarget_booted
    (.inr ⟨12, rfl⟩) (by decide) (fun byte inside => inside.2) (.single trivial searched) refused
  exact ⟨session, error, last, refused, released, intact error rfl⟩

end Session

end Buffers

end ReloadedBuffers
