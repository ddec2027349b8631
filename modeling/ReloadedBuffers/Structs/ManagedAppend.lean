import Mathlib.Algebra.Order.BigOperators.Group.List
import ReloadedBuffers.Structs.SafeLocatorItem

/-! Runs of appends to one item. The Rust item moves its position with every append. The
C# item has two overloads of `Append`, and the one for values leaves the position alone.
-/

set_option autoImplicit false

namespace ReloadedBuffers

/-- Bytes that a call has written: the address it returned and the size of its data. -/
structure Written where
  address : Nat
  length : Nat
  deriving DecidableEq, Repr

namespace Written

def extent (range : Written) : Set Nat := Words.extent range.address range.length

/-- Every range starts where the one before it ended, from `start` up to `finish`. -/
def Follow : Nat → List Written → Nat → Prop
  | start, [], finish => start = finish
  | start, range :: rest, finish => range.address = start ∧ Follow (start + range.length) rest finish

variable {start finish : Nat} {ranges : List Written}

theorem Follow.finish_eq (follow : Follow start ranges finish) : finish = start + (ranges.map length).sum := by
  induction ranges generalizing start with
  | nil => exact follow.symm
  | cons range rest ih =>
      have later := ih follow.2
      rw [List.map_cons, List.sum_cons, ← Nat.add_assoc]
      exact later

theorem Follow.inside (follow : Follow start ranges finish) {range : Written} (member : range ∈ ranges) :
    start ≤ range.address ∧ range.address + range.length ≤ finish := by
  induction ranges generalizing start with
  | nil => cases member
  | cons head rest ih =>
      obtain ⟨here, follow⟩ := follow
      rcases List.mem_cons.mp member with rfl | later
      · have grown := follow.finish_eq
        omega
      · have bounds := ih follow later
        omega

theorem Follow.consecutive (follow : Follow start ranges finish) :
    ranges.IsChain fun one other => other.address = one.address + one.length := by
  induction ranges generalizing start with
  | nil => exact .nil
  | cons range rest ih =>
      obtain ⟨here, follow⟩ := follow
      cases rest with
      | nil => exact .singleton _
      | cons next rest => exact .cons_cons (here ▸ follow.1) (ih follow)

theorem Follow.apart (follow : Follow start ranges finish) :
    ranges.Pairwise fun one other => Disjoint one.extent other.extent := by
  induction ranges generalizing start with
  | nil => exact .nil
  | cons range rest ih =>
      obtain ⟨here, follow⟩ := follow
      refine .cons (fun later member => ?_) (ih follow)
      apply Words.extent_disjoint_of_le
      exact here ▸ (follow.inside member).1

end Written

namespace LocatorItem

/-- The ranges follow one another in the buffer without a gap or an overlap, and the
position has grown by exactly their lengths. -/
structure Appended (item : LocatorItem) (written : List Written) (last : LocatorItem) : Prop where
  consecutive : written.IsChain fun one other => other.address = one.address + one.length
  apart : written.Pairwise fun one other => Disjoint one.extent other.extent
  inside : ∀ range ∈ written, item.baseAddress ≤ range.address ∧
    range.address + range.length ≤ item.baseAddress + item.size.toNat
  position : last.position.toNat = item.position.toNat + (written.map (·.length)).sum

variable {Call : Type}

/-- Make the calls in order, each with its data, and note what each has written. -/
def appends (append : Call → LocatorItem → List UInt8 → Nat × LocatorItem × List Effect) :
    LocatorItem → List (Call × List UInt8) → List Written × LocatorItem
  | item, [] => ([], item)
  | item, (call, data) :: calls =>
    let (address, moved, _) := append call item data
    let (written, last) := appends append moved calls
    (⟨address, data.length⟩ :: written, last)

/-- The bytes that the calls have between them. -/
def total (calls : List (Call × List UInt8)) : Nat := (calls.map (·.2.length)).sum

@[simp] theorem total_nil : total ([] : List (Call × List UInt8)) = 0 := rfl

@[simp] theorem total_cons (call : Call) (data : List UInt8) (calls : List (Call × List UInt8)) :
    total ((call, data) :: calls) = data.length + total calls := by
  simp [total]

variable {usize : Nat} {item : LocatorItem}
  {append : Call → LocatorItem → List UInt8 → Nat × LocatorItem × List Effect}

theorem appends_length (calls : List (Call × List UInt8)) :
    ((appends append item calls).1.map Written.length).sum = total calls := by
  induction calls generalizing item with
  | nil => rfl
  | cons head calls ih =>
      simp only [appends, List.map_cons, List.sum_cons, ih]
      exact (total_cons _ _ _).symm

/-- Calls that write at the cursor and advance it leave ranges that follow one another. -/
theorem appends_follow {calls : List (Call × List UInt8)} (sound : item.Sound usize)
    (advances : ∀ step ∈ calls, ∀ item : LocatorItem, (append step.1 item step.2).1 = item.cursor usize ∧
      (append step.1 item step.2).2.1 = item.advance step.2.length)
    (room : item.position.toNat + total calls ≤ item.size.toNat) :
    Written.Follow (item.baseAddress + item.position.toNat) (appends append item calls).1
        (item.baseAddress + (appends append item calls).2.position.toNat) ∧
      (appends append item calls).2.position.toNat = item.position.toNat + total calls := by
  induction calls generalizing item with
  | nil => exact ⟨rfl, rfl⟩
  | cons head calls ih =>
      obtain ⟨call, data⟩ := head
      obtain ⟨cursor, moved⟩ := advances (call, data) List.mem_cons_self item
      rw [total_cons] at room
      have fits : item.position.toNat + data.length ≤ item.size.toNat := by omega
      have position := advance_position fits
      obtain ⟨follow, grown⟩ := ih (sound.advance fits)
        (fun step later => advances step (List.mem_cons_of_mem _ later)) (by
          rw [position]
          change _ ≤ item.size.toNat
          omega)
      rw [position] at follow grown
      rw [← Nat.add_assoc] at follow
      simp only [appends, moved]
      refine ⟨⟨cursor.trans sound.cursor_eq, follow⟩, ?_⟩
      rw [grown, total_cons]
      omega

theorem appends_appended {calls : List (Call × List UInt8)} (sound : item.Sound usize)
    (advances : ∀ step ∈ calls, ∀ item : LocatorItem, (append step.1 item step.2).1 = item.cursor usize ∧
      (append step.1 item step.2).2.1 = item.advance step.2.length)
    (room : total calls ≤ item.bytesLeft.toNat) :
    item.Appended (appends append item calls).1 (appends append item calls).2 := by
  have left := sound.bytesLeft_toNat
  have inside := sound.position_le_toNat
  obtain ⟨follow, grown⟩ := appends_follow sound advances (by omega)
  constructor
  · exact follow.consecutive
  · exact follow.apart
  · intro range member
    have bounds := follow.inside member
    omega
  · rw [appends_length, grown]

namespace Managed

/-- The overloads of `Append`, for a span and for a value of an unmanaged type. -/
inductive Append where
  | span
  | value
  deriving DecidableEq, Repr

/-- `Append(Span<byte>)`. -/
def appendSpan (usize : Nat) (item : LocatorItem) (data : List UInt8) : Nat × LocatorItem × List Effect :=
  let address := item.cursor usize
  (address, item.advance data.length, [.copy address data])

/-- `Append<T>(in T)`, the value given by its bytes: the position is not moved. -/
def appendValue (usize : Nat) (item : LocatorItem) (data : List UInt8) : Nat × LocatorItem × List Effect :=
  let address := item.cursor usize
  (address, item, [.copy address data])

def Append.run (usize : Nat) : Append → LocatorItem → List UInt8 → Nat × LocatorItem × List Effect
  | .span => appendSpan usize
  | .value => appendValue usize

/-- The value of an unmanaged type has a byte at least. -/
def Sized (calls : List (Append × List UInt8)) : Prop :=
  ∀ call ∈ calls, call.1 = .value → call.2 ≠ []

/-- The position moves by the spans alone. -/
theorem appends_position {calls : List (Append × List UInt8)}
    (room : item.position.toNat + total calls ≤ item.size.toNat) :
    (appends (Append.run usize) item calls).2.position.toNat =
      item.position.toNat + total (calls.filter (·.1 = .span)) := by
  induction calls generalizing item with
  | nil => rfl
  | cons head calls ih =>
      obtain ⟨call, data⟩ := head
      rw [total_cons] at room
      cases call with
      | span =>
          have fits : item.position.toNat + data.length ≤ item.size.toNat := by omega
          have position := advance_position fits
          have later := @ih (item.advance data.length) (by
            rw [position]
            change _ ≤ item.size.toNat
            omega)
          rw [position] at later
          rw [List.filter_cons_of_pos (by rfl), total_cons, ← Nat.add_assoc]
          exact later
      | value =>
          rw [List.filter_cons_of_neg (by simp)]
          exact ih (by omega)

/-- A value has bytes that the spans do not account for. -/
theorem total_spans_lt {calls : List (Append × List UInt8)} (sized : Sized calls) {call : Append × List UInt8}
    (member : call ∈ calls) (value : call.1 = .value) : total (calls.filter (·.1 = .span)) < total calls := by
  have split : total (calls.filter (·.1 = .span)) + total (calls.filter (·.1 ≠ .span)) = total calls := by
    exact List.sum_map_filter_add_sum_map_filter_not (fun call => call.1 = .span) (fun call => call.2.length) calls
  have other : call ∈ calls.filter (·.1 ≠ .span) := by simp [member, value]
  have part : call.2.length ≤ total (calls.filter (·.1 ≠ .span)) :=
    List.le_sum_of_mem (List.mem_map_of_mem other)
  have bytes := List.length_pos_iff.mpr (sized call member value)
  omega

/-- Appends through the C# item are as they should be exactly when none is of a value. -/
theorem appends_appended_iff (sound : item.Sound usize) {calls : List (Append × List UInt8)} (sized : Sized calls)
    (room : total calls ≤ item.bytesLeft.toNat) :
    item.Appended (appends (Append.run usize) item calls).1 (appends (Append.run usize) item calls).2 ↔
      ∀ call ∈ calls, call.1 = .span := by
  constructor
  · intro appended call member
    cases kind : call.1 with
    | span => rfl
    | value =>
        have left := sound.bytesLeft_toNat
        have inside := sound.position_le_toNat
        -- The position accounts for the spans alone, and a value has bytes beside them.
        have short := total_spans_lt sized member kind
        have grown := appended.position
        rw [appends_length, appends_position (by omega)] at grown
        omega
  · intro spans
    apply appends_appended sound _ room
    rintro ⟨call, data⟩ member item
    obtain rfl : call = .span := spans _ member
    exact ⟨rfl, rfl⟩

/-- Two spans into sixteen bytes. -/
theorem appends_appended_two_spans :
    (new 0x10000 16).Appended [⟨0x10000, 3⟩, ⟨0x10003, 2⟩] ⟨0x10000, 16, 5, 0⟩ := by
  have sound : (new 0x10000 16).Sound (2 ^ 64) := ⟨by decide, by decide⟩
  have room : total [(Append.span, [1, 2, 3]), (Append.span, [4, 5])] ≤ (new 0x10000 16).bytesLeft.toNat := by decide
  exact (appends_appended_iff sound (by simp [Sized]) room).mpr (by simp)

/-- The second of two values is written over the first. -/
theorem appends_overlap : total [(Append.value, [1]), (Append.value, [2])] ≤ (new 0x10000 16).bytesLeft.toNat ∧
    appends (Append.run (2 ^ 64)) (new 0x10000 16) [(.value, [1]), (.value, [2])] =
      ([⟨0x10000, 1⟩, ⟨0x10000, 1⟩], new 0x10000 16) ∧
    ¬ (new 0x10000 16).Appended [⟨0x10000, 1⟩, ⟨0x10000, 1⟩] (new 0x10000 16) := by
  refine ⟨by decide, by decide, fun appended => ?_⟩
  have grown := appended.position
  exact absurd grown (by decide)

end Managed

end LocatorItem

end ReloadedBuffers
