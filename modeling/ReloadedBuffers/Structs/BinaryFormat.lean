import ReloadedBuffers.Foundation.StructLayout
import ReloadedBuffers.Structs.LocatorHeader

/-! The bytes of a locator: the layouts that Rust and C# give to the same structures, and
the order that the specification gives to version 0.
-/

set_option autoImplicit false

namespace ReloadedBuffers

open StructLayout

/-- The implementations, `repr(C)` and `Sequential, Pack = 1`, and the specification. -/
inductive Format where
  | rust
  | csharp
  | specification
  deriving DecidableEq, Repr

def Format.pack : Format → Option Nat
  | .rust => none
  | .csharp | .specification => some 1

inductive ItemField where
  | baseAddress
  | size
  | position
  | isTaken
  deriving DecidableEq, Repr

inductive HeaderField where
  | thisAddress
  | nextLocatorPtr
  | isLocked
  | flags
  | numItems
  | padding (index : Fin 2)
  deriving DecidableEq, Repr

def ItemField.bytes (width : PointerWidth) : ItemField → Nat
  | .baseAddress => width.bytes
  | .size | .position | .isTaken => 4

def HeaderField.bytes (width : PointerWidth) : HeaderField → Nat
  | .thisAddress | .nextLocatorPtr => width.bytes
  | .isLocked => 4
  | .flags | .numItems | .padding _ => 1

/-- The padding carries no value. -/
def HeaderField.logical : HeaderField → Bool
  | .padding _ => false
  | _ => true

namespace Format

def itemFields (width : PointerWidth) : Format → List (Member ItemField)
  | .rust => [
      -- `Unaligned` is packed.
      ⟨.baseAddress, width.bytes, 1⟩,
      ⟨.size, 4, 4⟩,
      ⟨.position, 4, 4⟩,
      ⟨.isTaken, 4, 4⟩]
  | .csharp | .specification => [
      ⟨.baseAddress, width.bytes, width.bytes⟩,
      ⟨.isTaken, 4, 4⟩,
      ⟨.size, 4, 4⟩,
      ⟨.position, 4, 4⟩]

def headerFields (width : PointerWidth) : Format → List (Member HeaderField)
  | .rust => [
      ⟨.thisAddress, width.bytes, 1⟩,
      ⟨.nextLocatorPtr, width.bytes, 1⟩,
      ⟨.isLocked, 4, 4⟩,
      ⟨.flags, 1, 1⟩,
      ⟨.numItems, 1, 1⟩,
      ⟨.padding 0, 1, 1⟩,
      ⟨.padding 1, 1, 1⟩]
  | .csharp => [
      ⟨.thisAddress, width.bytes, width.bytes⟩,
      ⟨.nextLocatorPtr, width.bytes, width.bytes⟩,
      ⟨.isLocked, 4, 4⟩,
      ⟨.flags, 1, 1⟩,
      ⟨.padding 0, 1, 1⟩,
      ⟨.padding 1, 1, 1⟩,
      ⟨.numItems, 1, 1⟩]
  | .specification => [
      ⟨.thisAddress, width.bytes, width.bytes⟩,
      ⟨.nextLocatorPtr, width.bytes, width.bytes⟩,
      ⟨.isLocked, 4, 4⟩,
      ⟨.flags, 1, 1⟩,
      ⟨.numItems, 1, 1⟩,
      ⟨.padding 0, 1, 1⟩,
      ⟨.padding 1, 1, 1⟩]

def itemLayout (format : Format) (width : PointerWidth) : List (Slot ItemField) :=
  place format.pack 0 (format.itemFields width)

def headerLayout (format : Format) (width : PointerWidth) : List (Slot HeaderField) :=
  place format.pack 0 (format.headerFields width)

/-- The total sizes agree, so every format has room for the same number of items. -/
theorem sizeOf_item (format : Format) (width : PointerWidth) :
    sizeOf format.pack (format.itemFields width) = width.sizeOfItem := by
  cases format <;> cases width <;> rfl

theorem sizeOf_header (format : Format) (width : PointerWidth) :
    sizeOf format.pack (format.headerFields width) = width.sizeOfHeader := by
  cases format <;> cases width <;> rfl

end Format

def LocatorItem.value (item : LocatorItem) : ItemField → Nat
  | .baseAddress => item.baseAddress
  | .size => item.size.toNat
  | .position => item.position.toNat
  | .isTaken => item.isTaken.toUInt32.toNat

def LocatorHeader.value (header : LocatorHeader) (padding : Fin 2 → UInt8) : HeaderField → Nat
  | .thisAddress => header.thisAddress
  | .nextLocatorPtr => header.nextLocatorPtr
  | .isLocked => header.isLocked.toUInt32.toNat
  | .flags => header.flags.toNat
  | .numItems => header.numItems.toNat
  | .padding index => (padding index).toNat

namespace Format

/-- The field whose bytes a reader takes for a field of an item. -/
def itemSource : Format → Format → ItemField → ItemField
  | .rust, .csharp, .isTaken | .rust, .specification, .isTaken => .size
  | .rust, .csharp, .size | .rust, .specification, .size => .position
  | .rust, .csharp, .position | .rust, .specification, .position => .isTaken
  | .csharp, .rust, .size | .specification, .rust, .size => .isTaken
  | .csharp, .rust, .position | .specification, .rust, .position => .size
  | .csharp, .rust, .isTaken | .specification, .rust, .isTaken => .position
  | _, _, field => field

def headerSource : Format → Format → HeaderField → HeaderField
  | .rust, .csharp, .numItems | .specification, .csharp, .numItems => .padding 1
  | .csharp, .rust, .numItems | .csharp, .specification, .numItems => .padding 0
  | _, _, field => field

variable (writer reader : Format) (width : PointerWidth)

theorem locate_itemSource (field : ItemField) :
    locate (writer.itemLayout width) (writer.itemSource reader field) = locate (reader.itemLayout width) field := by
  cases writer <;> cases reader <;> cases width <;> cases field <;> rfl

theorem locate_item (field : ItemField) :
    ∃ offset, locate (reader.itemLayout width) field = some (offset, field.bytes width) := by
  cases reader <;> cases width <;> cases field <;> exact ⟨_, rfl⟩

theorem locate_headerSource (field : HeaderField) (logical : field.logical = true) :
    locate (writer.headerLayout width) (writer.headerSource reader field) =
      locate (reader.headerLayout width) field := by
  cases field with
  | padding index => cases logical
  | thisAddress | nextLocatorPtr | isLocked | flags | numItems =>
      cases writer <;> cases reader <;> cases width <;> rfl

theorem locate_header (field : HeaderField) (logical : field.logical = true) :
    ∃ offset, locate (reader.headerLayout width) field = some (offset, field.bytes width) := by
  cases field with
  | padding index => cases logical
  | thisAddress | nextLocatorPtr | isLocked | flags | numItems => cases reader <;> cases width <;> exact ⟨_, rfl⟩

theorem itemSource_bytes (field : ItemField) : (writer.itemSource reader field).bytes width = field.bytes width := by
  cases writer <;> cases reader <;> cases field <;> rfl

theorem headerSource_bytes (field : HeaderField) :
    (writer.headerSource reader field).bytes width = field.bytes width := by
  cases writer <;> cases reader <;> cases field <;> rfl

end Format

variable {width : PointerWidth}

theorem LocatorItem.value_fits {item : LocatorItem} (base : item.baseAddress < width.modulus) (field : ItemField) :
    item.value field < 256 ^ field.bytes width := by
  cases field with
  | baseAddress => cases width <;> exact base
  | size => exact item.size.toNat_lt
  | position => exact item.position.toNat_lt
  | isTaken => exact item.isTaken.toUInt32.toNat_lt

theorem LocatorHeader.value_fits {header : LocatorHeader} (padding : Fin 2 → UInt8)
    (this : header.thisAddress < width.modulus) (next : header.nextLocatorPtr < width.modulus)
    (field : HeaderField) : header.value padding field < 256 ^ field.bytes width := by
  cases field with
  | thisAddress => cases width <;> exact this
  | nextLocatorPtr => cases width <;> exact next
  | isLocked => exact header.isLocked.toUInt32.toNat_lt
  | flags => exact header.flags.toNat_lt
  | numItems => exact header.numItems.toNat_lt
  | padding index => exact (padding index).toNat_lt

namespace Format

/-- Whatever one format writes for an item, the other reads as the same item. -/
def ItemAgrees (width : PointerWidth) (item : LocatorItem) (memory : Bytes) : Prop :=
  ∀ writer reader : Format, ∀ field,
    load (store item.value memory (writer.itemLayout width)) (reader.itemLayout width) field = some (item.value field)

def HeaderAgrees (width : PointerWidth) (header : LocatorHeader) (padding : Fin 2 → UInt8) (memory : Bytes) : Prop :=
  ∀ writer reader : Format, ∀ field : HeaderField, field.logical = true →
    load (store (header.value padding) memory (writer.headerLayout width)) (reader.headerLayout width) field =
      some (header.value padding field)

/-- What a reader loads is the field that the writer has in the same place. -/
theorem load_item {item : LocatorItem} (base : item.baseAddress < width.modulus) (memory : Bytes)
    (writer reader : Format) (field : ItemField) :
    load (store item.value memory (writer.itemLayout width)) (reader.itemLayout width) field =
      some (item.value (writer.itemSource reader field)) := by
  obtain ⟨offset, found⟩ := locate_item reader width field
  have fits := item.value_fits base (writer.itemSource reader field)
  rw [itemSource_bytes] at fits
  exact load_store (place_apart _ _ _) ((locate_itemSource writer reader width field).trans found) found fits

theorem load_header {header : LocatorHeader} (padding : Fin 2 → UInt8) (this : header.thisAddress < width.modulus)
    (next : header.nextLocatorPtr < width.modulus) (memory : Bytes) (writer reader : Format) (field : HeaderField)
    (logical : field.logical = true) :
    load (store (header.value padding) memory (writer.headerLayout width)) (reader.headerLayout width) field =
      some (header.value padding (writer.headerSource reader field)) := by
  obtain ⟨offset, found⟩ := locate_header reader width field logical
  have fits := header.value_fits padding this next (writer.headerSource reader field)
  rw [headerSource_bytes] at fits
  exact load_store (place_apart _ _ _) ((locate_headerSource writer reader width field logical).trans found) found fits

/-- Read in the other order, the three words of an item rotate. -/
theorem itemAgrees_iff {item : LocatorItem} (base : item.baseAddress < width.modulus) (memory : Bytes) :
    ItemAgrees width item memory ↔ item.size = item.position ∧ item.position = item.isTaken.toUInt32 := by
  have reads := fun writer reader field => load_item base memory writer reader field
  constructor
  · intro agrees
    have size := (reads .rust .csharp .size).symm.trans (agrees .rust .csharp .size)
    have position := (reads .rust .csharp .position).symm.trans (agrees .rust .csharp .position)
    exact ⟨UInt32.toNat_inj.mp (Option.some.inj size).symm, UInt32.toNat_inj.mp (Option.some.inj position).symm⟩
  · rintro ⟨size, position⟩ writer reader field
    rw [reads]
    cases writer <;> cases reader <;> cases field <;> simp [itemSource, LocatorItem.value, size, position]

/-- The formats take different bytes for the item count; the rest of the header is the same. -/
theorem headerAgrees_iff {header : LocatorHeader} {padding : Fin 2 → UInt8}
    (this : header.thisAddress < width.modulus) (next : header.nextLocatorPtr < width.modulus) (memory : Bytes) :
    HeaderAgrees width header padding memory ↔ ∀ index, padding index = header.numItems := by
  have reads := fun writer reader field logical =>
    load_header padding this next memory writer reader field logical
  constructor
  · intro agrees
    have second := (reads .rust .csharp .numItems rfl).symm.trans (agrees .rust .csharp .numItems rfl)
    have first := (reads .csharp .rust .numItems rfl).symm.trans (agrees .csharp .rust .numItems rfl)
    intro index
    match index with
    | 0 => exact UInt8.toNat_inj.mp (Option.some.inj first)
    | 1 => exact UInt8.toNat_inj.mp (Option.some.inj second)
  · intro same writer reader field logical
    rw [reads _ _ _ logical]
    cases field with
    | padding index => cases logical
    | numItems => cases writer <;> cases reader <;> simp [headerSource, LocatorHeader.value, same]
    | thisAddress | nextLocatorPtr | isLocked | flags => cases writer <;> cases reader <;> rfl

/-- Rust, C# and the specification share a locator exactly when the words of the item
are all the same and the padding of the header repeats the item count. -/
theorem formats_agree_iff {header : LocatorHeader} {padding : Fin 2 → UInt8} {item : LocatorItem}
    (this : header.thisAddress < width.modulus) (next : header.nextLocatorPtr < width.modulus)
    (base : item.baseAddress < width.modulus) (memory : Bytes) :
    (HeaderAgrees width header padding memory ∧ ItemAgrees width item memory) ↔
      (∀ index, padding index = header.numItems) ∧
        item.size = item.position ∧ item.position = item.isTaken.toUInt32 := by
  rw [headerAgrees_iff this next, itemAgrees_iff base]

/-- A header and an item as Rust initialises them. -/
def oneItem : LocatorHeader := ⟨0x10000, 0, 0, 0, 1, fun _ => ⟨0x20000, 4096, 0, 0⟩⟩

/-- One byte, appended and locked: all that the words can say in every format. -/
theorem formats_agree_ones : HeaderAgrees .bits64 { oneItem with numItems := 1 } (fun _ => 1) (fun _ => 0) ∧
    ItemAgrees .bits64 ⟨0x20000, 1, 1, 1⟩ fun _ => 0 :=
  (formats_agree_iff (by decide) (by decide) (by decide) _).mpr ⟨fun _ => rfl, rfl, rfl⟩

/-- One registered item of 4096 free bytes, and neither survives the change of language. -/
theorem formats_disagree : ¬ HeaderAgrees .bits64 oneItem (fun _ => 0) (fun _ => 0) ∧
    ¬ ItemAgrees .bits64 (oneItem.items 0) fun _ => 0 := by
  constructor
  · rw [headerAgrees_iff (by decide) (by decide)]
    decide
  · rw [itemAgrees_iff (by decide)]
    decide

end Format

end ReloadedBuffers
