import Mathlib.Data.Nat.Digits.Defs
import Mathlib.Tactic.IntervalCases
import Mathlib.Tactic.Ring

/-! Numerals in text: digits of either case, read from the most significant on into a
bounded value, and printed by `Nat.toDigits`.
-/

set_option autoImplicit false

namespace Numeral

/-- Letters of either case follow the ten figures. -/
def digitValue (c : Char) : Option Nat :=
  if '0' ≤ c ∧ c ≤ '9' then some (c.toNat - '0'.toNat)
  else if 'a' ≤ c ∧ c ≤ 'z' then some (c.toNat - 'a'.toNat + 10)
  else if 'A' ≤ c ∧ c ≤ 'Z' then some (c.toNat - 'A'.toNat + 10)
  else none

def toDigit (radix : Nat) (c : Char) : Option Nat := (digitValue c).filter (· < radix)

/-- Read digits behind a value that has been read, as long as it stays below the limit. -/
def readDigits (radix limit : Nat) : Nat → List Char → Option Nat
  | value, [] => some value
  | value, c :: rest => do
    let digit ← toDigit radix c
    let value := value * radix + digit
    if value < limit then readDigits radix limit value rest else none

/-- An unsigned number, with a plus sign or without. -/
def parseUnsigned (radix limit : Nat) : List Char → Option Nat
  | [] | ['+'] | ['-'] => none
  | '+' :: digits => readDigits radix limit 0 digits
  | digits => readDigits radix limit 0 digits

/-- A signed number; there is one more below zero than above. -/
def parseSigned (radix limit : Nat) : List Char → Option Int
  | [] | ['+'] | ['-'] => none
  | '-' :: digits => (readDigits radix (limit + 1) 0 digits).map fun value : Nat => -(value : Int)
  | '+' :: digits => (readDigits radix limit 0 digits).map Int.ofNat
  | digits => (readDigits radix limit 0 digits).map Int.ofNat

/-- The characters are digits, and they have the value in positional notation. -/
def Positional (radix : Nat) (text : List Char) (value : Nat) : Prop :=
  ∃ digits : List Nat, text.map (toDigit radix) = digits.map some ∧ value = Nat.ofDigits radix digits.reverse

/-- What a text says as a signed number: a sign or none, and at least one digit. -/
inductive Denotes (radix limit : Nat) : List Char → Int → Prop where
  | plain {text : List Char} {value : Nat} : text ≠ [] → Positional radix text value → value < limit →
      Denotes radix limit text value
  | plus {text : List Char} {value : Nat} : text ≠ [] → Positional radix text value → value < limit →
      Denotes radix limit ('+' :: text) value
  | minus {text : List Char} {value : Nat} : text ≠ [] → Positional radix text value → value ≤ limit →
      Denotes radix limit ('-' :: text) (-value)

variable {radix limit : Nat}

/-- The figures come first among the digits, behind all that separates words. -/
theorem figure_le_of_digit {c : Char} (digit : (toDigit radix c).isSome = true) : '0' ≤ c := by
  obtain ⟨value, found⟩ := Option.isSome_iff_exists.mp digit
  have known := (Option.filter_eq_some_iff.mp found).1
  unfold digitValue at known
  split at known
  · rename_i figure
    exact figure.1
  · split at known
    · rename_i letter
      exact Char.le_trans (by decide) letter.1
    · split at known
      · rename_i letter
        exact Char.le_trans (by decide) letter.1
      · cases known

theorem toDigit_digitChar (hex : radix ≤ 16) {digit : Nat} (small : digit < radix) :
    toDigit radix digit.digitChar = some digit := by
  have value : digitValue digit.digitChar = some digit := by
    have bound : digit < 16 := small.trans_le hex
    interval_cases digit <;> decide
  rw [toDigit, value, Option.filter_some, if_pos (by simpa using small)]

theorem readDigits_append (value : Nat) (first second : List Char) :
    readDigits radix limit value (first ++ second) =
      (readDigits radix limit value first).bind fun middle => readDigits radix limit middle second := by
  induction first generalizing value with
  | nil => rfl
  | cons c rest ih =>
      simp only [List.cons_append, readDigits, Option.bind_eq_bind]
      cases toDigit radix c with
      | none => rfl
      | some digit =>
          simp only [Option.bind_some]
          split
          · exact ih _
          · rfl

theorem readDigits_zeros (radix_pos : 0 < radix) (limit_pos : 0 < limit) (count : Nat) (text : List Char) :
    readDigits radix limit 0 (List.replicate count '0' ++ text) = readDigits radix limit 0 text := by
  induction count with
  | zero => rfl
  | succ count ih =>
      have zero : toDigit radix '0' = some 0 := by
        change (some 0).filter (· < radix) = some 0
        rw [Option.filter_some, if_pos (by simpa using radix_pos)]
      rw [List.replicate_succ, List.cons_append, readDigits, zero]
      simpa [limit_pos] using ih

/-- Reading undoes printing. -/
theorem readDigits_toDigits (two : 1 < radix) (hex : radix ≤ 16) {value : Nat} (below : value < limit) :
    readDigits radix limit 0 (Nat.toDigits radix value) = some value := by
  induction value using Nat.strong_induction_on with
  | _ value ih =>
      have last : toDigit radix (value % radix).digitChar = some (value % radix) :=
        toDigit_digitChar hex (Nat.mod_lt _ (by omega))
      have parts : value / radix * radix + value % radix = value := Nat.div_add_mod' _ _
      rcases Nat.lt_or_ge value radix with small | large
      · rw [Nat.toDigits_of_lt_base small, readDigits, toDigit_digitChar hex small]
        simp [readDigits, below]
      · have fewer : value / radix < value := Nat.div_lt_self (by omega) two
        rw [Nat.toDigits_of_base_le two large, readDigits_append, ih _ fewer (fewer.trans below)]
        simp [readDigits, last, parts, below]

/-- The characters that are printed are digits. -/
theorem toDigit_of_mem_toDigits (two : 1 < radix) (hex : radix ≤ 16) {value : Nat} {c : Char}
    (member : c ∈ Nat.toDigits radix value) : (toDigit radix c).isSome = true := by
  induction value using Nat.strong_induction_on with
  | _ value ih =>
      rcases Nat.lt_or_ge value radix with small | large
      · rw [Nat.toDigits_of_lt_base small, List.mem_singleton] at member
        rw [member, toDigit_digitChar hex small]
        rfl
      · rw [Nat.toDigits_of_base_le two large, List.mem_append, List.mem_singleton] at member
        rcases member with before | rfl
        · exact ih _ (Nat.div_lt_self (by omega) two) before
        · rw [toDigit_digitChar hex (Nat.mod_lt _ (by omega))]
          rfl

theorem digits_head {c : Char} {rest : List Char} (digits : ∀ other ∈ c :: rest, (toDigit radix other).isSome = true) :
    toDigit radix c ≠ none :=
  Option.isSome_iff_ne_none.mp (digits c List.mem_cons_self)

/-- Digits alone are read as they are: a sign is no digit. -/
theorem parseUnsigned_of_digits {text : List Char} (some_digit : text ≠ [])
    (digits : ∀ c ∈ text, (toDigit radix c).isSome = true) :
    parseUnsigned radix limit text = readDigits radix limit 0 text := by
  unfold parseUnsigned
  split
  · exact absurd rfl some_digit
  · exact absurd rfl (digits_head digits)
  · exact absurd rfl (digits_head digits)
  · exact absurd rfl (digits_head digits)
  · rfl

theorem positional_nil {value : Nat} : Positional radix [] value ↔ value = 0 := by
  constructor
  · rintro ⟨digits, same, rfl⟩
    rw [List.map_nil, eq_comm, List.map_eq_nil_iff] at same
    rw [same]
    rfl
  · rintro rfl
    exact ⟨[], rfl, rfl⟩

/-- The first digit counts for all the places behind it. -/
theorem positional_cons {c : Char} {text : List Char} {value : Nat} : Positional radix (c :: text) value ↔
    ∃ digit rest, toDigit radix c = some digit ∧ Positional radix text rest ∧
      value = digit * radix ^ text.length + rest := by
  have places : ∀ digits : List Nat, text.map (toDigit radix) = digits.map some → digits.length = text.length := by
    intro digits same
    simpa using (congrArg List.length same).symm
  have leading : ∀ (digit : Nat) (digits : List Nat), Nat.ofDigits radix (digit :: digits).reverse =
      digit * radix ^ digits.length + Nat.ofDigits radix digits.reverse := by
    intro digit digits
    rw [List.reverse_cons, Nat.ofDigits_append, Nat.ofDigits_singleton, List.length_reverse, Nat.add_comm, Nat.mul_comm]
  constructor
  · rintro ⟨digits, same, rfl⟩
    cases digits with
    | nil => cases same
    | cons digit digits =>
        obtain ⟨first, later⟩ := List.cons.inj same
        exact ⟨digit, _, first, ⟨digits, later, rfl⟩, by rw [leading, places digits later]⟩
  · rintro ⟨digit, _, first, ⟨digits, later, rfl⟩, rfl⟩
    exact ⟨digit :: digits, by rw [List.map_cons, first, later, List.map_cons], by rw [leading, places digits later]⟩

/-- Reading goes through when all characters are digits and the value stays below the limit. -/
theorem readDigits_eq_some_iff (radix_pos : 0 < radix) {start value : Nat} (below : start < limit) {text : List Char} :
    readDigits radix limit start text = some value ↔
      ∃ rest, Positional radix text rest ∧ value = start * radix ^ text.length + rest ∧ value < limit := by
  induction text generalizing start with
  | nil =>
      simp only [readDigits, Option.some.injEq, positional_nil, List.length_nil, pow_zero, Nat.mul_one]
      constructor
      · rintro rfl
        exact ⟨0, rfl, rfl, below⟩
      · rintro ⟨rest, rfl, rfl, _⟩
        rfl
  | cons c text ih =>
      have shift : ∀ digit rest, start * radix ^ (c :: text).length + (digit * radix ^ text.length + rest) =
          (start * radix + digit) * radix ^ text.length + rest := by
        intro digit rest
        rw [List.length_cons, pow_succ]
        ring
      simp only [readDigits, Option.bind_eq_bind, positional_cons]
      cases found : toDigit radix c with
      | none => simp
      | some digit =>
          simp only [Option.bind_some]
          split
          · rename_i next
            rw [ih next]
            constructor
            · rintro ⟨rest, later, rfl, small⟩
              exact ⟨_, ⟨digit, rest, rfl, later, rfl⟩, (shift digit rest).symm, small⟩
            · rintro ⟨_, ⟨_, rest, ⟨⟩, later, rfl⟩, rfl, small⟩
              exact ⟨rest, later, shift digit rest, small⟩
          · rename_i full
            constructor
            · exact fun none => by cases none
            · rintro ⟨_, ⟨_, rest, ⟨⟩, _, rfl⟩, rfl, small⟩
              rw [shift] at small
              have grown : start * radix + digit ≤ (start * radix + digit) * radix ^ text.length :=
                Nat.le_mul_of_pos_right _ (Nat.pow_pos radix_pos)
              omega

theorem readDigits_zero_iff (radix_pos : 0 < radix) (limit_pos : 0 < limit) {text : List Char} {value : Nat} :
    readDigits radix limit 0 text = some value ↔ Positional radix text value ∧ value < limit := by
  rw [readDigits_eq_some_iff radix_pos limit_pos]
  constructor
  · rintro ⟨rest, positional, rfl, small⟩
    rw [Nat.zero_mul, Nat.zero_add] at small ⊢
    exact ⟨positional, small⟩
  · rintro ⟨positional, small⟩
    exact ⟨value, positional, by rw [Nat.zero_mul, Nat.zero_add], small⟩

theorem Positional.digit {text : List Char} {value : Nat} (positional : Positional radix text value) {c : Char}
    (member : c ∈ text) : (toDigit radix c).isSome = true := by
  obtain ⟨digits, same, _⟩ := positional
  have image : toDigit radix c ∈ digits.map some := same ▸ List.mem_map_of_mem member
  obtain ⟨digit, _, found⟩ := List.mem_map.mp image
  rw [← found]
  rfl

/-- The sign, when there is one, comes off the front. -/
theorem parseSigned_plus {text : List Char} (some_digit : text ≠ []) :
    parseSigned radix limit ('+' :: text) = (readDigits radix limit 0 text).map Int.ofNat := by
  cases text with
  | nil => exact absurd rfl some_digit
  | cons c rest => rfl

theorem parseSigned_minus {text : List Char} (some_digit : text ≠ []) :
    parseSigned radix limit ('-' :: text) = (readDigits radix (limit + 1) 0 text).map fun value : Nat => -(value : Int) := by
  cases text with
  | nil => exact absurd rfl some_digit
  | cons c rest => rfl

theorem parseSigned_of_digits {text : List Char} (some_digit : text ≠ [])
    (digits : ∀ c ∈ text, (toDigit radix c).isSome = true) :
    parseSigned radix limit text = (readDigits radix limit 0 text).map Int.ofNat := by
  unfold parseSigned
  split
  · exact absurd rfl some_digit
  · exact absurd rfl (digits_head digits)
  · exact absurd rfl (digits_head digits)
  · exact absurd rfl (digits_head digits)
  · exact absurd rfl (digits_head digits)
  · rfl

/-- The parser accepts exactly what denotes a number. -/
theorem parseSigned_eq_some_iff (radix_pos : 0 < radix) (limit_pos : 0 < limit) {text : List Char} {value : Int} :
    parseSigned radix limit text = some value ↔ Denotes radix limit text value := by
  constructor
  · intro parsed
    unfold parseSigned at parsed
    split at parsed
    · cases parsed
    · cases parsed
    · cases parsed
    · rename_i digits more
      obtain ⟨magnitude, read, rfl⟩ := Option.map_eq_some_iff.mp parsed
      obtain ⟨positional, small⟩ := (readDigits_zero_iff radix_pos (Nat.succ_pos _)).mp read
      exact .minus more positional (Nat.le_of_lt_succ small)
    · rename_i digits more
      obtain ⟨magnitude, read, rfl⟩ := Option.map_eq_some_iff.mp parsed
      obtain ⟨positional, small⟩ := (readDigits_zero_iff radix_pos limit_pos).mp read
      exact .plus more positional small
    · rename_i some_digit _ _ _ _
      obtain ⟨magnitude, read, rfl⟩ := Option.map_eq_some_iff.mp parsed
      obtain ⟨positional, small⟩ := (readDigits_zero_iff radix_pos limit_pos).mp read
      exact .plain some_digit positional small
  · intro denotes
    cases denotes with
    | plain some_digit positional small =>
        rw [parseSigned_of_digits some_digit fun _ member => positional.digit member,
          (readDigits_zero_iff radix_pos limit_pos).mpr ⟨positional, small⟩]
        rfl
    | plus some_digit positional small =>
        rw [parseSigned_plus some_digit, (readDigits_zero_iff radix_pos limit_pos).mpr ⟨positional, small⟩]
        rfl
    | minus some_digit positional small =>
        rw [parseSigned_minus some_digit,
          (readDigits_zero_iff radix_pos (Nat.succ_pos _)).mpr ⟨positional, Nat.lt_succ_of_le small⟩]
        rfl

/-- What is printed says the number. -/
theorem denotes_toDigits (two : 1 < radix) (hex : radix ≤ 16) {value : Nat} (below : value < limit) :
    Denotes radix limit (Nat.toDigits radix value) value :=
  .plain Nat.toDigits_ne_nil
    ((readDigits_zero_iff (by omega) (by omega)).mp (readDigits_toDigits two hex below)).1 below

end Numeral
