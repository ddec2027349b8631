import Mathlib.Tactic.Ring

/-! Records as bytes. A layout places fields one after another, each at the next
multiple of its alignment; records are stored and loaded field by field, little
endian.
-/

set_option autoImplicit false

namespace StructLayout

/-- Bytes by their distance from the start of the record. -/
abbrev Bytes := Nat → UInt8

def read (bytes : Bytes) : Nat → Nat → Nat
  | _, 0 => 0
  | offset, size + 1 => (bytes offset).toNat + 256 * read bytes (offset + 1) size

def write (bytes : Bytes) : Nat → Nat → Nat → Bytes
  | _, 0, _ => bytes
  | offset, size + 1, value =>
    Function.update (write bytes (offset + 1) size (value / 256)) offset (UInt8.ofNat (value % 256))

/-- A number by itself. -/
def littleEndian (size value : Nat) : List UInt8 := (List.range size).map (write (fun _ => 0) 0 size value)

@[simp] theorem length_littleEndian (size value : Nat) : (littleEndian size value).length = size := by
  rw [littleEndian, List.length_map, List.length_range]

theorem read_congr {bytes others : Bytes} {offset size : Nat}
    (same : ∀ index, offset ≤ index → index < offset + size → bytes index = others index) :
    read bytes offset size = read others offset size := by
  induction size generalizing offset with
  | zero => rfl
  | succ size ih =>
      unfold read
      rw [same offset (by omega) (by omega), ih]
      intro index low high
      exact same index (by omega) (by omega)

theorem write_outside (bytes : Bytes) {offset size value index : Nat}
    (outside : index < offset ∨ offset + size ≤ index) : write bytes offset size value index = bytes index := by
  induction size generalizing offset value with
  | zero => rfl
  | succ size ih =>
      unfold write
      rw [Function.update_of_ne (by omega), ih (by omega)]

theorem read_write (bytes : Bytes) {offset size value : Nat} (fits : value < 256 ^ size) :
    read (write bytes offset size value) offset size = value := by
  induction size generalizing offset value with
  | zero =>
      rw [Nat.pow_zero, Nat.lt_one_iff] at fits
      rw [fits]
      rfl
  | succ size ih =>
      have rest : value / 256 < 256 ^ size := by
        rw [Nat.pow_succ] at fits
        exact Nat.div_lt_of_lt_mul (by omega)
      have behind : read (write bytes offset (size + 1) value) (offset + 1) size = value / 256 := by
        -- The first byte lies in front of the rest.
        rw [← ih rest]
        apply read_congr
        intro index low _
        exact Function.update_of_ne (by omega) _ _
      have first : (write bytes offset (size + 1) value offset).toNat = value % 256 := by
        unfold write
        rw [Function.update_self, UInt8.toNat_ofNat']
        omega
      unfold read
      rw [behind, first]
      omega

structure Member (κ : Type) where
  key : κ
  size : Nat
  align : Nat

structure Slot (κ : Type) where
  key : κ
  offset : Nat
  size : Nat
  deriving DecidableEq

/-- The next multiple of the alignment. -/
def aligned (offset align : Nat) : Nat := offset + (align - offset % align) % align

theorem le_aligned (offset align : Nat) : offset ≤ aligned offset align := Nat.le_add_right _ _

variable {κ : Type}

/-- A packed record limits the alignment of its fields. -/
def Member.alignment (pack : Option Nat) (field : Member κ) : Nat :=
  match pack with
  | some limit => min field.align limit
  | none => field.align

def place (pack : Option Nat) : Nat → List (Member κ) → List (Slot κ)
  | _, [] => []
  | offset, field :: rest =>
    let start := aligned offset (field.alignment pack)
    ⟨field.key, start, field.size⟩ :: place pack (start + field.size) rest

/-- Where the last field ends. -/
def finish (pack : Option Nat) (offset : Nat) (fields : List (Member κ)) : Nat :=
  fields.foldl (fun offset field => aligned offset (field.alignment pack) + field.size) offset

def sizeOf (pack : Option Nat) (fields : List (Member κ)) : Nat :=
  aligned (finish pack 0 fields) (fields.foldl (fun most field => max most (field.alignment pack)) 1)

/-- Slots follow each other. -/
def Apart (layout : List (Slot κ)) : Prop :=
  layout.Pairwise fun left right => left.offset + left.size ≤ right.offset

theorem le_place {pack : Option Nat} {offset : Nat} {fields : List (Member κ)} {slot : Slot κ}
    (member : slot ∈ place pack offset fields) : offset ≤ slot.offset := by
  induction fields generalizing offset with
  | nil => cases member
  | cons field rest ih =>
      have start := le_aligned offset (field.alignment pack)
      rcases List.mem_cons.mp member with rfl | later
      · exact start
      · have after := ih later
        omega

theorem place_apart (pack : Option Nat) (offset : Nat) (fields : List (Member κ)) : Apart (place pack offset fields) := by
  induction fields generalizing offset with
  | nil => exact List.Pairwise.nil
  | cons field rest ih => exact List.Pairwise.cons (fun _ member => le_place member) (ih _)

/-- The record as bytes; bytes between the slots keep what they were. -/
def store (value : κ → Nat) (bytes : Bytes) : List (Slot κ) → Bytes
  | [] => bytes
  | slot :: rest => write (store value bytes rest) slot.offset slot.size (value slot.key)

theorem read_store {value : κ → Nat} {bytes : Bytes} {layout : List (Slot κ)} {slot : Slot κ} (apart : Apart layout)
    (member : slot ∈ layout) (fits : value slot.key < 256 ^ slot.size) :
    read (store value bytes layout) slot.offset slot.size = value slot.key := by
  induction layout with
  | nil => cases member
  | cons head rest ih =>
      obtain ⟨before, apart⟩ := List.pairwise_cons.mp apart
      rcases List.mem_cons.mp member with rfl | later
      · exact read_write _ fits
      · rw [← ih apart later]
        apply read_congr
        intro index low high
        have behind := before slot later
        exact write_outside _ (.inr (by omega))

variable [DecidableEq κ]

/-- Offset and size of the first field with a key. -/
def locate (layout : List (Slot κ)) (key : κ) : Option (Nat × Nat) :=
  (layout.find? fun slot => slot.key = key).map fun slot => (slot.offset, slot.size)

theorem mem_of_locate {layout : List (Slot κ)} {key : κ} {offset size : Nat}
    (found : locate layout key = some (offset, size)) : ⟨key, offset, size⟩ ∈ layout := by
  unfold locate at found
  obtain ⟨slot, first, same⟩ := Option.map_eq_some_iff.mp found
  have key_eq := List.find?_some first
  cases same
  cases of_decide_eq_true key_eq
  exact List.mem_of_find?_eq_some first

def load (bytes : Bytes) (layout : List (Slot κ)) (key : κ) : Option Nat :=
  (locate layout key).map fun place => read bytes place.1 place.2

/-- What one layout stores under a key, another layout loads under the key that it has
in the same place. -/
theorem load_store {value : κ → Nat} {bytes : Bytes} {writer reader : List (Slot κ)} {source key : κ}
    {offset size : Nat} (apart : Apart writer) (written : locate writer source = some (offset, size))
    (found : locate reader key = some (offset, size)) (fits : value source < 256 ^ size) :
    load (store value bytes writer) reader key = some (value source) := by
  unfold load
  rw [found, Option.map_some]
  exact congrArg some (read_store apart (mem_of_locate written) fits)

end StructLayout
