import Mathlib.Logic.Relation
import ReloadedBuffers.Foundation.Words

/-! Arenas: keyed blocks of memory that are handed out from the front. Blocks never
overlap, a block only ever advances, and so the ranges handed out never overlap
either.
-/

set_option autoImplicit false

namespace Arena

/-- A block of memory with the number of bytes already handed out. -/
structure Block where
  base : Nat
  size : Nat
  used : Nat
  deriving DecidableEq, Repr

def Block.extent (block : Block) : Set Nat := Words.extent block.base block.size

def Block.advance (block : Block) (count : Nat) : Block := { block with used := block.used + count }

/-- A range that has been handed out, with the key of the block it came from. -/
structure Record (Key : Type) where
  key : Key
  address : Nat
  length : Nat
  deriving DecidableEq, Repr

variable {Key : Type}

def Record.extent (record : Record Key) : Set Nat := Words.extent record.address record.length

structure State (Key : Type) where
  blocks : Key → Option Block
  records : List (Record Key)

/-- What holds of an arena at all times. -/
structure Valid (state : State Key) : Prop where
  used_le : ∀ key block, state.blocks key = some block → block.used ≤ block.size
  separate : ∀ key other first second, state.blocks key = some first → state.blocks other = some second →
    key ≠ other → Disjoint first.extent second.extent
  recorded : ∀ record ∈ state.records, ∃ block, state.blocks record.key = some block ∧
    block.base ≤ record.address ∧ record.address + record.length ≤ block.base + block.used
  apart : state.records.Pairwise fun first second => Disjoint first.extent second.extent

/-- What never changes, and which way the rest goes. -/
structure Extends (earlier later : State Key) : Prop where
  blocks : ∀ key block, earlier.blocks key = some block → ∃ grown, later.blocks key = some grown ∧
    grown.base = block.base ∧ grown.size = block.size ∧ block.used ≤ grown.used
  records : earlier.records <:+ later.records

variable {state earlier middle later : State Key} {key : Key} {block : Block} {count : Nat}

/-- A range at the cursor lies behind every range of its block and outside every other block. -/
theorem Valid.cursor_apart (valid : Valid state) (found : state.blocks key = some block)
    (room : block.used + count ≤ block.size) {record : Record Key} (member : record ∈ state.records) :
    Disjoint (Words.extent (block.base + block.used) count) record.extent := by
  obtain ⟨known, here, low, high⟩ := valid.recorded record member
  -- Ranges of this block end below the cursor; those of another lie in memory that is apart.
  rcases eq_or_ne record.key key with same | apart
  · cases found.symm.trans (same ▸ here)
    exact (Words.extent_disjoint_of_le high).symm
  · have whole := valid.separate _ _ _ _ found here apart.symm
    have used := valid.used_le _ _ here
    refine whole.mono ?_ ?_
    · exact Words.extent_subset (Nat.le_add_right _ _) (by omega)
    · exact Words.extent_subset low (by omega)

theorem Extends.refl (state : State Key) : Extends state state :=
  ⟨fun _ block found => ⟨block, found, rfl, rfl, Nat.le_refl _⟩, List.suffix_refl _⟩

theorem Extends.trans (first : Extends earlier middle) (second : Extends middle later) :
    Extends earlier later where
  blocks key block found := by
    obtain ⟨grown, here, base, size, used⟩ := first.blocks key block found
    obtain ⟨last, there, base', size', used'⟩ := second.blocks key grown here
    exact ⟨last, there, base'.trans base, size'.trans size, used.trans used'⟩
  records := first.records.trans second.records

variable [DecidableEq Key]

def State.put (state : State Key) (key : Key) (block : Block) : State Key :=
  { state with blocks := Function.update state.blocks key (some block) }

@[simp] theorem State.put_self {state : State Key} {key : Key} {block : Block} :
    (state.put key block).blocks key = some block := Function.update_self _ _ _

@[simp] theorem State.put_of_ne {state : State Key} {key other : Key} {block : Block} (apart : other ≠ key) :
    (state.put key block).blocks other = state.blocks other := Function.update_of_ne apart _ _

/-- A new block is registered, bytes are skipped, or a range is handed out. -/
inductive Step : State Key → State Key → Prop where
  | register {state : State Key} {key : Key} {block : Block} : state.blocks key = none →
      block.used ≤ block.size →
      (∀ other found, state.blocks other = some found → Disjoint block.extent found.extent) →
      Step state (state.put key block)
  | skip {state : State Key} {key : Key} {block : Block} {count : Nat} : state.blocks key = some block →
      block.used + count ≤ block.size →
      Step state (state.put key (block.advance count))
  | append {state : State Key} {key : Key} {block : Block} {count : Nat} : state.blocks key = some block →
      block.used + count ≤ block.size →
      Step state
        { state.put key (block.advance count) with
          records := ⟨key, block.base + block.used, count⟩ :: state.records }

abbrev Steps : State Key → State Key → Prop := Relation.ReflTransGen Step

theorem Valid.register (valid : Valid state) (fresh : state.blocks key = none) (inside : block.used ≤ block.size)
    (separate : ∀ other found, state.blocks other = some found → Disjoint block.extent found.extent) :
    Valid (state.put key block) where
  used_le other found here := by
    rcases eq_or_ne other key with rfl | apart
    · rw [State.put_self] at here
      cases here
      exact inside
    · rw [State.put_of_ne apart] at here
      exact valid.used_le other found here
  separate one other first second left right different := by
    rcases eq_or_ne one key with rfl | apart
    · rw [State.put_self] at left
      rw [State.put_of_ne different.symm] at right
      cases left
      exact separate other second right
    · rw [State.put_of_ne apart] at left
      rcases eq_or_ne other key with rfl | elsewhere
      · rw [State.put_self] at right
        cases right
        exact (separate one first left).symm
      · rw [State.put_of_ne elsewhere] at right
        exact valid.separate one other first second left right different
  recorded record member := by
    obtain ⟨found, here, bounds⟩ := valid.recorded record member
    -- Nothing was recorded under a key without a block.
    have apart : record.key ≠ key := by
      rintro same
      rw [same, fresh] at here
      cases here
    exact ⟨found, by rw [State.put_of_ne apart, here], bounds⟩
  apart := valid.apart

theorem Valid.advance (valid : Valid state) (found : state.blocks key = some block)
    (room : block.used + count ≤ block.size) :
    Valid (state.put key (block.advance count)) where
  used_le other later here := by
    rcases eq_or_ne other key with rfl | apart
    · rw [State.put_self] at here
      cases here
      exact room
    · rw [State.put_of_ne apart] at here
      exact valid.used_le other later here
  separate one other first second left right different := by
    rcases eq_or_ne one key with rfl | apart
    · rw [State.put_self] at left
      rw [State.put_of_ne different.symm] at right
      cases left
      exact valid.separate one other block second found right different
    · rw [State.put_of_ne apart] at left
      rcases eq_or_ne other key with rfl | elsewhere
      · rw [State.put_self] at right
        cases right
        exact valid.separate one other first block left found different
      · rw [State.put_of_ne elsewhere] at right
        exact valid.separate one other first second left right different
  recorded record member := by
    obtain ⟨known, here, low, high⟩ := valid.recorded record member
    rcases eq_or_ne record.key key with same | apart
    · cases found.symm.trans (same ▸ here)
      refine ⟨block.advance count, by rw [same, State.put_self], low, ?_⟩
      simp only [Block.advance]
      omega
    · exact ⟨known, by rw [State.put_of_ne apart, here], low, high⟩
  apart := valid.apart

theorem Step.valid (step : Step earlier later) (valid : Valid earlier) : Valid later := by
  cases step with
  | register fresh inside separate => exact valid.register fresh inside separate
  | skip found room => exact valid.advance found room
  | @append key block count found room =>
      have advanced := valid.advance found room
      refine ⟨advanced.used_le, advanced.separate, ?_, ?_⟩
      · intro record member
        rcases List.mem_cons.mp member with rfl | old
        · refine ⟨block.advance count, State.put_self, Nat.le_add_right _ _, ?_⟩
          simp only [Block.advance]
          omega
        · exact advanced.recorded record old
      -- Apart from the ranges before the step, which the block had not handed out.
      · exact List.pairwise_cons.mpr ⟨fun record member => valid.cursor_apart found room member, valid.apart⟩

theorem Step.extends (step : Step earlier later) : Extends earlier later := by
  have advanced : ∀ key block count, earlier.blocks key = some block → ∀ other known,
      earlier.blocks other = some known →
      ∃ grown, (earlier.put key (block.advance count)).blocks other = some grown ∧
        grown.base = known.base ∧ grown.size = known.size ∧ known.used ≤ grown.used := by
    intro key block count found other known here
    rcases eq_or_ne other key with rfl | apart
    · cases found.symm.trans here
      exact ⟨_, State.put_self, rfl, rfl, Nat.le_add_right _ _⟩
    · exact ⟨known, by rw [State.put_of_ne apart, here], rfl, rfl, Nat.le_refl _⟩
  cases step with
  | @register key block fresh inside separate =>
      refine ⟨fun other known here => ⟨known, ?_, rfl, rfl, Nat.le_refl _⟩, List.suffix_refl _⟩
      have apart : other ≠ key := by
        rintro rfl
        rw [fresh] at here
        cases here
      rw [State.put_of_ne apart, here]
  | skip found room => exact ⟨advanced _ _ _ found, List.suffix_refl _⟩
  | append found room => exact ⟨advanced _ _ _ found, List.suffix_cons _ _⟩

theorem Steps.valid (steps : Steps earlier later) (valid : Valid earlier) : Valid later := by
  induction steps with
  | refl => exact valid
  | tail _ step ih => exact step.valid ih

theorem Steps.extends (steps : Steps earlier later) : Extends earlier later := by
  induction steps with
  | refl => exact .refl _
  | tail _ step ih => exact ih.trans step.extends

/-- A range that is handed out with the bytes behind it, which stay unused. -/
theorem Steps.reserve {reserved : Nat} (found : state.blocks key = some block) (inside : count ≤ reserved)
    (room : block.used + reserved ≤ block.size) :
    Steps state { state.put key (block.advance reserved) with
      records := ⟨key, block.base + block.used, count⟩ :: state.records } := by
  have handed : Step state _ := .append found (by omega : block.used + count ≤ block.size)
  have behind : (block.advance count).used + (reserved - count) ≤ (block.advance count).size := by
    simp only [Block.advance]
    omega
  have skipped := @Step.skip _ _ { state.put key (block.advance count) with
    records := ⟨key, block.base + block.used, count⟩ :: state.records } key _ _ State.put_self behind
  have whole : (block.advance count).advance (reserved - count) = block.advance reserved := by
    simp only [Block.advance, Block.mk.injEq, true_and]
    omega
  rw [whole] at skipped
  refine (Relation.ReflTransGen.single handed).tail ?_
  simpa only [State.put, Function.update_idem] using skipped

/-- Blocks put under the first keys of a sequence. -/
def State.putRange (state : State Key) (key : Nat → Key) (block : Nat → Block) : Nat → State Key
  | 0 => state
  | count + 1 => (state.putRange key block count).put (key count) (block count)

variable {sequence : Nat → Key} {blocks : Nat → Block}

@[simp] theorem State.putRange_records : (state.putRange sequence blocks count).records = state.records := by
  induction count with
  | zero => rfl
  | succ count ih => exact ih

theorem State.putRange_of_ne (apart : ∀ index < count, key ≠ sequence index) :
    (state.putRange sequence blocks count).blocks key = state.blocks key := by
  induction count with
  | zero => rfl
  | succ count ih =>
      rw [State.putRange, State.put_of_ne (apart count (Nat.lt_succ_self _))]
      exact ih fun index inside => apart index (Nat.lt_succ_of_lt inside)

theorem State.putRange_self (injective : Function.Injective sequence) {index : Nat} (inside : index < count) :
    (state.putRange sequence blocks count).blocks (sequence index) = some (blocks index) := by
  induction count with
  | zero => exact absurd inside (Nat.not_lt_zero _)
  | succ count ih =>
      rw [State.putRange]
      rcases Nat.lt_succ_iff_lt_or_eq.mp inside with before | rfl
      · rw [State.put_of_ne fun same => Nat.ne_of_lt before (injective same)]
        exact ih before
      · exact State.put_self

/-- An arena with such blocks is known by what lies under the keys and beside them. -/
theorem State.eq_putRange {later : State Key} (injective : Function.Injective sequence)
    (there : ∀ index < count, later.blocks (sequence index) = some (blocks index))
    (elsewhere : ∀ key, (∀ index < count, key ≠ sequence index) → later.blocks key = state.blocks key)
    (records : later.records = state.records) : later = state.putRange sequence blocks count := by
  have blocks : later.blocks = (state.putRange sequence blocks count).blocks := by
    funext key
    by_cases new : ∃ index < count, key = sequence index
    · obtain ⟨index, below, rfl⟩ := new
      rw [there index below, State.putRange_self injective below]
    · have apart : ∀ index < count, key ≠ sequence index := fun index below same => new ⟨index, below, same⟩
      rw [elsewhere key apart, State.putRange_of_ne apart]
  cases later
  cases records
  cases blocks
  exact congrArg (State.mk _) State.putRange_records.symm

/-- New blocks that are apart from the old ones and from each other are registered one by one. -/
theorem Steps.registerRange (injective : Function.Injective sequence)
    (fresh : ∀ index < count, state.blocks (sequence index) = none)
    (inside : ∀ index < count, (blocks index).used ≤ (blocks index).size)
    (separate : ∀ index < count, ∀ other found, state.blocks other = some found →
      Disjoint (blocks index).extent found.extent)
    (apart : ∀ earlier later, earlier < later → later < count →
      Disjoint (blocks later).extent (blocks earlier).extent) :
    Steps state (state.putRange sequence blocks count) := by
  induction count with
  | zero => exact .refl
  | succ count ih =>
      have before := ih (fun index below => fresh index (Nat.lt_succ_of_lt below))
        (fun index below => inside index (Nat.lt_succ_of_lt below))
        (fun index below => separate index (Nat.lt_succ_of_lt below))
        (fun earlier later order below => apart earlier later order (Nat.lt_succ_of_lt below))
      have here : ∀ index < count, sequence count ≠ sequence index := fun index below same =>
        Nat.ne_of_lt below (injective same).symm
      refine before.tail (.register ?_ (inside count (Nat.lt_succ_self _)) ?_)
      · rw [State.putRange_of_ne here]
        exact fresh count (Nat.lt_succ_self _)
      · intro other found registered
        -- Either one of the new blocks or one that was there.
        by_cases new : ∃ index < count, other = sequence index
        · obtain ⟨index, below, rfl⟩ := new
          rw [State.putRange_self injective below] at registered
          cases registered
          exact apart index count below (Nat.lt_succ_self _)
        · rw [State.putRange_of_ne fun index below same => new ⟨index, below, same⟩] at registered
          exact separate count (Nat.lt_succ_self _) other found registered

end Arena
