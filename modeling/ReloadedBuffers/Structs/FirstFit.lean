import Mathlib.Order.Lattice.Nat
import ReloadedBuffers.Structs.LocatorHeader

/-! The scan for an available item, compared with first fit. The scan asks that a whole
buffer ends in the window, first fit only that the bytes asked for do.
-/

set_option autoImplicit false

namespace ReloadedBuffers

/-- The code can use the item, and its lock is free. -/
def LocatorItem.Takeable (usize : Nat) (size : UInt32) (minAddress maxAddress : Nat) (item : LocatorItem) : Prop :=
  item.canUse usize size minAddress maxAddress = true ∧ item.isTaken = 0

namespace LocatorHeader

variable (usize : Nat) (size : UInt32) (minAddress maxAddress : Nat)

/-- The items once the usable ones from `start` up to `stop` have been locked. -/
def sweep (start stop : Nat) (items : Nat → LocatorItem) : Nat → LocatorItem := fun place =>
  if start ≤ place ∧ place < stop ∧ (items place).canUse usize size minAddress maxAddress = true then
    { items place with isTaken := 1 }
  else items place

variable {usize size minAddress maxAddress} {start stop slot : Nat} {items : Nat → LocatorItem}

theorem sweep_of_outside {place : Nat} (outside : place < start ∨ stop ≤ place) :
    sweep usize size minAddress maxAddress start stop items place = items place := by
  apply if_neg
  rintro ⟨above, below, _⟩
  omega

@[simp] theorem sweep_empty : sweep usize size minAddress maxAddress start start items = items := by
  funext place
  exact sweep_of_outside (by omega)

/-- One more usable item. -/
theorem sweep_succ (above : start ≤ slot) (usable : (items slot).canUse usize size minAddress maxAddress = true) :
    sweep usize size minAddress maxAddress start (slot + 1) items =
      Function.update (sweep usize size minAddress maxAddress start slot items) slot
        { items slot with isTaken := 1 } := by
  funext place
  rcases eq_or_ne place slot with rfl | apart
  · simp [sweep, usable, above]
  · have below : place < slot + 1 ↔ place < slot := by omega
    simp only [Function.update_of_ne apart, sweep, below]

theorem sweep_single (usable : (items slot).canUse usize size minAddress maxAddress = true) :
    sweep usize size minAddress maxAddress slot (slot + 1) items =
      Function.update items slot { items slot with isTaken := 1 } := by
  rw [sweep_succ (Nat.le_refl _) usable, sweep_empty]

theorem sweep_unusable (unusable : (items slot).canUse usize size minAddress maxAddress = false) :
    sweep usize size minAddress maxAddress slot (slot + 1) items = items := by
  funext place
  rcases eq_or_ne place slot with rfl | apart
  · simp [sweep, unusable]
  · exact sweep_of_outside (by omega)

/-- A sweep may be made in two parts. -/
theorem sweep_step (before : slot < stop) :
    sweep usize size minAddress maxAddress (slot + 1) stop
        (sweep usize size minAddress maxAddress slot (slot + 1) items) =
      sweep usize size minAddress maxAddress slot stop items := by
  funext place
  rcases eq_or_ne place slot with rfl | apart
  · rw [sweep_of_outside (by omega)]
    simp [sweep, before]
  · have same : sweep usize size minAddress maxAddress slot (slot + 1) items place = items place :=
      sweep_of_outside (by omega)
    have above : slot + 1 ≤ place ↔ slot ≤ place := by omega
    simp only [sweep] at same ⊢
    simp only [same, above]

/-- The lock word of a swept item was one already if the sweep has changed nothing. -/
theorem isTaken_of_sweep (unchanged : sweep usize size minAddress maxAddress start stop items slot = items slot)
    (above : start ≤ slot) (below : slot < stop)
    (usable : (items slot).canUse usize size minAddress maxAddress = true) : (items slot).isTaken = 1 := by
  rw [sweep, if_pos ⟨above, below, usable⟩] at unchanged
  exact (congrArg LocatorItem.isTaken unchanged).symm

theorem sweep_eq_self {place : Nat} (locked : start ≤ place → place < stop →
      (items place).canUse usize size minAddress maxAddress = true → (items place).isTaken = 1) :
    sweep usize size minAddress maxAddress start stop items place = items place := by
  unfold sweep
  split
  · rename_i swept
    have word := locked swept.1 swept.2.1 swept.2.2
    cases item : items place
    rw [item] at word
    cases word
    rfl
  · rfl

section

variable {header : LocatorHeader} {count : Nat}

/-- The scan takes a takeable item. -/
theorem scanItems_take (takeable : (header.items slot).Takeable usize size minAddress maxAddress) :
    scanItems usize size minAddress maxAddress (count + 1) slot header =
      (some slot, { header with items := sweep usize size minAddress maxAddress slot (slot + 1) header.items }) := by
  obtain ⟨usable, free⟩ := takeable
  rw [sweep_single usable]
  simp [scanItems, LocatorItem.tryLock, usable, free, setItem]

/-- The scan passes any other item, and leaves its lock word at one if it could use it. -/
theorem scanItems_pass (passed : ¬ (header.items slot).Takeable usize size minAddress maxAddress) :
    scanItems usize size minAddress maxAddress (count + 1) slot header =
      scanItems usize size minAddress maxAddress count (slot + 1)
        { header with items := sweep usize size minAddress maxAddress slot (slot + 1) header.items } := by
  cases usable : (header.items slot).canUse usize size minAddress maxAddress with
  | true =>
      have taken : (header.items slot).isTaken ≠ 0 := fun free => passed ⟨usable, free⟩
      have busy : ((header.items slot).isTaken == 0) = false := beq_false_of_ne taken
      rw [sweep_single usable]
      simp [scanItems, LocatorItem.tryLock, usable, busy, setItem]
  | false =>
      rw [sweep_unusable usable]
      simp [scanItems, usable]

/-- All that a scan does: it stops at the first takeable item, and has swept those up to it. -/
theorem scanItems_exact (usize : Nat) (size : UInt32) (minAddress maxAddress count slot : Nat) (header : LocatorHeader) :
    (∀ place, slot ≤ place → place < slot + count → ¬ (header.items place).Takeable usize size minAddress maxAddress) ∧
      scanItems usize size minAddress maxAddress count slot header =
        (none, { header with items := sweep usize size minAddress maxAddress slot (slot + count) header.items }) ∨
    ∃ found, slot ≤ found ∧ found < slot + count ∧ (header.items found).Takeable usize size minAddress maxAddress ∧
      (∀ place, slot ≤ place → place < found → ¬ (header.items place).Takeable usize size minAddress maxAddress) ∧
      scanItems usize size minAddress maxAddress count slot header =
        (some found, { header with items := sweep usize size minAddress maxAddress slot (found + 1) header.items }) := by
  induction count generalizing slot header with
  | zero =>
      left
      constructor
      · intro place above below
        omega
      · rw [Nat.add_zero, sweep_empty]
        rfl
  | succ count ih =>
      by_cases takeable : (header.items slot).Takeable usize size minAddress maxAddress
      · exact .inr ⟨slot, Nat.le_refl _, by omega, takeable, fun place above below => by omega, scanItems_take takeable⟩
      · -- Behind the slot the items are those that the scan began with.
        have behind : ∀ place, slot + 1 ≤ place →
            sweep usize size minAddress maxAddress slot (slot + 1) header.items place = header.items place :=
          fun place above => sweep_of_outside (.inr above)
        have passed : ∀ stop, (∀ place, slot + 1 ≤ place → place < stop →
              ¬ (sweep usize size minAddress maxAddress slot (slot + 1) header.items place).Takeable usize size minAddress
                maxAddress) →
            ∀ place, slot ≤ place → place < stop → ¬ (header.items place).Takeable usize size minAddress maxAddress := by
          intro stop later place above below
          rcases Nat.eq_or_lt_of_le above with rfl | further
          · exact takeable
          · rw [← behind place further]
            exact later place further below
        rw [scanItems_pass takeable]
        rcases ih (slot + 1) { header with items := sweep usize size minAddress maxAddress slot (slot + 1) header.items }
          with ⟨none, rest⟩ | ⟨found, above, below, taken, first, rest⟩
        · left
          rw [show slot + 1 + count = slot + (count + 1) by omega] at none rest
          refine ⟨passed _ none, rest.trans ?_⟩
          dsimp only
          rw [sweep_step (by omega)]
        · right
          refine ⟨found, by omega, by omega, ?_, passed _ first, rest.trans ?_⟩
          · rw [← behind found above]
            exact taken
          · dsimp only
            rw [sweep_step (by omega)]

end

end LocatorHeader

/-- The item is free, and the next `size` bytes lie inside its buffer and inside the window. -/
structure LocatorItem.Qualifies (size : UInt32) (minAddress maxAddress : Nat) (item : LocatorItem) : Prop where
  free : item.isTaken = 0
  allocated : item.baseAddress ≠ 0
  room : item.position.toNat + size.toNat ≤ item.size.toNat
  minAddress_le : minAddress ≤ item.baseAddress + item.position.toNat
  le_maxAddress : item.baseAddress + item.position.toNat + size.toNat ≤ maxAddress

/-- What the code takes is what qualifies and has its whole buffer below the upper end. -/
theorem LocatorItem.Sound.takeable_iff {usize : Nat} {item : LocatorItem} (sound : item.Sound usize) {size : UInt32}
    {minAddress maxAddress : Nat} : item.Takeable usize size minAddress maxAddress ↔
      item.Qualifies size minAddress maxAddress ∧ item.baseAddress + item.size.toNat ≤ maxAddress := by
  unfold LocatorItem.Takeable
  rw [sound.canUse_iff]
  constructor
  · rintro ⟨⟨allocated, room, low, high⟩, free⟩
    exact ⟨⟨free, allocated, room, low, by omega⟩, high⟩
  · rintro ⟨qualifies, high⟩
    exact ⟨⟨qualifies.allocated, qualifies.room, qualifies.minAddress_le, high⟩, qualifies.free⟩

namespace LocatorHeader

/-- The slots of the items that qualify. -/
def qualifying (size : UInt32) (minAddress maxAddress : Nat) (header : LocatorHeader) : Set Nat :=
  { slot | slot < header.numItems.toNat ∧ (header.items slot).Qualifies size minAddress maxAddress }

/-- The first item that qualifies is locked and nothing else changed, or none qualifies
and nothing changed. -/
def FirstFit (size : UInt32) (minAddress maxAddress : Nat) (header : LocatorHeader) : Option Nat × LocatorHeader → Prop
  | (some slot, after) => IsLeast (header.qualifying size minAddress maxAddress) slot ∧
      after = header.setItem slot { header.items slot with isTaken := 1 }
  | (none, after) => header.qualifying size minAddress maxAddress = ∅ ∧ after = header

/-- The first item that qualifies, if there is one, has its whole buffer below the upper
end; and the lock words of the usable items in front of it, all taken, are one. -/
structure Fitting (usize : Nat) (size : UInt32) (minAddress maxAddress : Nat) (header : LocatorHeader) : Prop where
  ends : ∀ slot, IsLeast (header.qualifying size minAddress maxAddress) slot →
    (header.items slot).baseAddress + (header.items slot).size.toNat ≤ maxAddress
  locked : ∀ slot < header.numItems.toNat, (∀ first ∈ header.qualifying size minAddress maxAddress, slot < first) →
    (header.items slot).canUse usize size minAddress maxAddress = true → (header.items slot).isTaken = 1

variable {usize : Nat} {size : UInt32} {minAddress maxAddress : Nat} {header : LocatorHeader}

/-- Where every usable item that was passed had been locked, the sweep changes the last one alone. -/
theorem sweep_eq_setItem {found : Nat} (usable : (header.items found).canUse usize size minAddress maxAddress = true)
    (locked : ∀ place < found, (header.items place).canUse usize size minAddress maxAddress = true →
      (header.items place).isTaken = 1) :
    ({ header with items := sweep usize size minAddress maxAddress 0 (found + 1) header.items } : LocatorHeader) =
      header.setItem found { header.items found with isTaken := 1 } := by
  have before : sweep usize size minAddress maxAddress 0 found header.items = header.items := by
    funext place
    exact sweep_eq_self fun _ below used => locked place below used
  rw [sweep_succ (Nat.zero_le _) usable, before]
  rfl

/-- A free item that qualifies first, and ends in the window, is one the code can take. -/
theorem Fitting.takeable {slot : Nat} (fitting : Fitting usize size minAddress maxAddress header)
    (sound : ∀ slot < header.numItems.toNat, (header.items slot).Sound usize)
    (least : IsLeast (header.qualifying size minAddress maxAddress) slot) :
    (header.items slot).Takeable usize size minAddress maxAddress :=
  (sound slot least.1.1).takeable_iff.mpr ⟨least.1.2, fitting.ends slot least⟩

theorem exists_least {slot : Nat} (member : slot ∈ header.qualifying size minAddress maxAddress) :
    ∃ first ≤ slot, IsLeast (header.qualifying size minAddress maxAddress) first :=
  ⟨sInf (header.qualifying size minAddress maxAddress), Nat.sInf_le member, Nat.sInf_mem ⟨slot, member⟩,
    fun _ other => Nat.sInf_le other⟩

theorem Fitting.firstFit (fitting : Fitting usize size minAddress maxAddress header)
    (sound : ∀ slot < header.numItems.toNat, (header.items slot).Sound usize) :
    FirstFit size minAddress maxAddress header
      (header.getFirstAvailableItemLocked usize size minAddress maxAddress) := by
  unfold getFirstAvailableItemLocked
  rcases scanItems_exact usize size minAddress maxAddress header.numItems.toNat 0 header with
    ⟨none, scan⟩ | ⟨found, _, below, takeable, first, scan⟩
  · rw [scan]
    have nobody : header.qualifying size minAddress maxAddress = ∅ := by
      by_contra inhabited
      obtain ⟨slot, member⟩ := Set.nonempty_iff_ne_empty.mpr inhabited
      obtain ⟨first, _, least⟩ := exists_least member
      exact none first (Nat.zero_le _) (by simpa using least.1.1) (fitting.takeable sound least)
    refine ⟨nobody, ?_⟩
    have same : sweep usize size minAddress maxAddress 0 (0 + header.numItems.toNat) header.items = header.items := by
      funext place
      refine sweep_eq_self fun _ inside usable => fitting.locked place (by omega) ?_ usable
      intro first member
      rw [nobody] at member
      cases member
    rw [same]
  · rw [scan]
    rw [Nat.zero_add] at below
    obtain ⟨qualifies, _⟩ := (sound found below).takeable_iff.mp takeable
    have least : IsLeast (header.qualifying size minAddress maxAddress) found := by
      refine ⟨⟨below, qualifies⟩, fun other member => ?_⟩
      -- The first that qualifies can be taken, so the scan did not go past it.
      obtain ⟨earliest, early, least⟩ := exists_least member
      by_contra later
      exact first earliest (Nat.zero_le _) (by omega) (fitting.takeable sound least)
    refine ⟨least, sweep_eq_setItem takeable.1 fun place before usable => ?_⟩
    exact fitting.locked place (by omega) (fun other member => Nat.lt_of_lt_of_le before (least.2 member)) usable

theorem FirstFit.fitting (sound : ∀ slot < header.numItems.toNat, (header.items slot).Sound usize)
    (fits : FirstFit size minAddress maxAddress header
      (header.getFirstAvailableItemLocked usize size minAddress maxAddress)) :
    Fitting usize size minAddress maxAddress header := by
  unfold getFirstAvailableItemLocked at fits
  rcases scanItems_exact usize size minAddress maxAddress header.numItems.toNat 0 header with
    ⟨_, scan⟩ | ⟨found, _, below, takeable, _, scan⟩
  · rw [scan] at fits
    obtain ⟨nobody, same⟩ := fits
    constructor
    · intro slot least
      rw [nobody] at least
      exact absurd least.1 (Set.notMem_empty slot)
    · intro slot inside _ usable
      exact isTaken_of_sweep (congrFun (congrArg items same) slot) (Nat.zero_le _) (by omega) usable
  · rw [scan] at fits
    obtain ⟨least, same⟩ := fits
    rw [Nat.zero_add] at below
    constructor
    · intro slot other
      cases other.unique least
      exact ((sound found below).takeable_iff.mp takeable).2
    · intro slot _ before usable
      have earlier := before found least.1
      have kept := congrFun (congrArg items same) slot
      have apart : (header.setItem found { header.items found with isTaken := 1 }).items slot = header.items slot :=
        Function.update_of_ne (Nat.ne_of_lt earlier) _ _
      exact isTaken_of_sweep (kept.trans apart) (Nat.zero_le _) (by omega) usable

/-- The scan is a first fit exactly when the first item that qualifies ends in the window
too, and no lock word in front of it is other than zero or one. -/
theorem getFirstAvailableItemLocked_firstFit_iff
    (sound : ∀ slot < header.numItems.toNat, (header.items slot).Sound usize) :
    FirstFit size minAddress maxAddress header
        (header.getFirstAvailableItemLocked usize size minAddress maxAddress) ↔
      Fitting usize size minAddress maxAddress header :=
  ⟨FirstFit.fitting sound, fun fitting => fitting.firstFit sound⟩

/-- Two buffers of one page, the first of them taken. -/
def twoItemHeader : LocatorHeader :=
  ⟨0x1000, 0, 0, 0, 2, fun slot => if slot = 0 then ⟨0x10000, 0x1000, 0, 1⟩ else ⟨0x20000, 0x1000, 0x800, 0⟩⟩

theorem twoItemHeader_sound : ∀ slot < twoItemHeader.numItems.toNat, (twoItemHeader.items slot).Sound (2 ^ 64) := by
  intro slot _
  rcases eq_or_ne slot 0 with rfl | apart
  · exact ⟨by decide, by decide⟩
  · simp only [twoItemHeader, apart, if_false]
    exact ⟨by decide, by decide⟩

theorem twoItemHeader_qualifying {minAddress maxAddress : Nat} (low : minAddress ≤ 0x20800)
    (high : 0x20900 ≤ maxAddress) : IsLeast (twoItemHeader.qualifying 0x100 minAddress maxAddress) 1 := by
  constructor
  · exact ⟨by decide, rfl, by decide, by decide, low, high⟩
  · rintro slot ⟨_, qualifies⟩
    rcases Nat.eq_zero_or_pos slot with rfl | later
    · exact absurd qualifies.free (by decide)
    · exact later

/-- The window ends at the end of the second buffer. -/
theorem getFirstAvailableItemLocked_firstFit_second :
    FirstFit 0x100 0x10000 0x21000 twoItemHeader
      (twoItemHeader.getFirstAvailableItemLocked (2 ^ 64) 0x100 0x10000 0x21000) := by
  apply (getFirstAvailableItemLocked_firstFit_iff twoItemHeader_sound).mpr
  have least : IsLeast (twoItemHeader.qualifying 0x100 0x10000 0x21000) 1 :=
    twoItemHeader_qualifying (by decide) (by decide)
  constructor
  · intro slot other
    cases other.unique least
    decide
  · intro slot _ before _
    obtain rfl : slot = 0 := by
      have earlier := before 1 least.1
      omega
    rfl

/-- The window ends inside the second buffer, behind the bytes that are asked for. -/
theorem getFirstAvailableItemLocked_overlooks :
    (twoItemHeader.getFirstAvailableItemLocked (2 ^ 64) 0x100 0x10000 0x20C00).1 = none ∧
      (twoItemHeader.items 1).Qualifies 0x100 0x10000 0x20C00 ∧
      ¬ FirstFit 0x100 0x10000 0x20C00 twoItemHeader
        (twoItemHeader.getFirstAvailableItemLocked (2 ^ 64) 0x100 0x10000 0x20C00) := by
  have least : IsLeast (twoItemHeader.qualifying 0x100 0x10000 0x20C00) 1 :=
    twoItemHeader_qualifying (by decide) (by decide)
  refine ⟨rfl, least.1.2, fun fits => ?_⟩
  change twoItemHeader.qualifying 0x100 0x10000 0x20C00 = ∅ ∧ _ at fits
  rw [fits.1] at least
  exact absurd least.1 (Set.notMem_empty 1)

end LocatorHeader

end ReloadedBuffers
