import Mathlib.Data.List.Basic
import Mathlib.Data.List.TakeWhile
import ReloadedBuffers.Foundation.Numeral
import ReloadedBuffers.Internal.BufferAllocatorLinux

/-! The text of `/proc/{id}/maps`: how the kernel prints a mapping, and the two parsers
that read its addresses back.
-/

set_option autoImplicit false

namespace ReloadedBuffers

namespace LinuxMapParser

/-- `char::is_ascii_whitespace`. -/
def isAsciiWhitespace (c : Char) : Bool := c == ' ' || c == '\t' || c == '\n' || c == '\x0c' || c == '\r'

def splitAsciiWhitespace (line : List Char) : List (List Char) :=
  (line.splitOnP isAsciiWhitespace).filter (· ≠ [])

def parseMemoryMapEntry (usize : Nat) (line : List Char) : Option MemoryMapEntry :=
  match splitAsciiWhitespace line with
  | [] => none
  | addressRange :: _ =>
    match addressRange.splitOn '-' with
    | [first, second] => do
      let startAddress ← Numeral.parseUnsigned 16 usize first
      let endAddress ← Numeral.parseUnsigned 16 usize second
      return ⟨startAddress, endAddress⟩
    | _ => none

def parseMemoryMapFromLines (usize : Nat) (lines : List (List Char)) : List MemoryMapEntry :=
  lines.filterMap (parseMemoryMapEntry usize)

/-- What `parse_memory_map_from_process_id` makes of the text it has read. -/
def parseMemoryMap (usize : Nat) (allLines : List Char) : List MemoryMapEntry :=
  parseMemoryMapFromLines usize (allLines.splitOn '\n')

namespace Managed

/-- White space around a number, as .NET skips it. -/
def isWhite (c : Char) : Bool := c == ' ' || ('\t' ≤ c && c ≤ '\r')

/-- Which of the two bodies of `ParseHexAddress` is compiled. -/
inductive Framework where
  | net6
  | older
  deriving DecidableEq, Repr

/-- The .NET parse of a hexadecimal number below a limit, which may be followed by null
characters; it throws where there is no result. -/
def parseHexNumber (limit : Nat) (text : List Char) : Option Nat :=
  let text := text.dropWhile isWhite
  let digits := text.takeWhile fun c => (Numeral.toDigit 16 c).isSome
  let rest := text.dropWhile fun c => (Numeral.toDigit 16 c).isSome
  if digits = [] then none
  else if (rest.dropWhile isWhite).all (· == '\x00') then Numeral.readDigits 16 limit 0 digits
  else none

/-- Older frameworks parse a `ulong`, which the cast cuts off. -/
def parseHexAddress (framework : Framework) (usize : Nat) (text : List Char) : Option Nat :=
  match framework with
  | .net6 => parseHexNumber usize text
  | .older => (parseHexNumber (2 ^ 64) text).map (· % usize)

/-- The C# parser, which cuts at the first dash and at the first space behind it. -/
def parseMemoryMapEntry (framework : Framework) (usize : Nat) (line : List Char) : Option MemoryMapEntry := do
  let dashIndex ← line.idxOf? '-'
  let spaceIndex ← (line.drop dashIndex).idxOf? ' '
  let startAddressSpan := line.take dashIndex
  let endAddressSpan := (line.drop (dashIndex + 1)).take (spaceIndex - 1)
  let startAddress ← parseHexAddress framework usize startAddressSpan
  let endAddress ← parseHexAddress framework usize endAddressSpan
  return ⟨startAddress, endAddress⟩

end Managed

/-- A mapping as the kernel prints it. -/
structure Mapping where
  startPadding : Nat
  startAddress : Nat
  endPadding : Nat
  endAddress : Nat
  fields : List Char
  path : Option (List Char)
  deriving DecidableEq, Repr

namespace Mapping

def printAddress (padding address : Nat) : List Char := List.replicate padding '0' ++ Nat.toDigits 16 address

/-- What follows the addresses. -/
def trailer (mapping : Mapping) : List Char :=
  mapping.fields ++ (mapping.path.elim [] fun path => ' ' :: path)

def line (mapping : Mapping) : List Char :=
  printAddress mapping.startPadding mapping.startAddress ++
    '-' :: (printAddress mapping.endPadding mapping.endAddress ++ ' ' :: mapping.trailer)

def entry (mapping : Mapping) : MemoryMapEntry := ⟨mapping.startAddress, mapping.endAddress⟩

/-- The addresses are words, and the line is one line. -/
structure Printable (usize : Nat) (mapping : Mapping) : Prop where
  startAddress_lt : mapping.startAddress < usize
  endAddress_lt : mapping.endAddress < usize
  fields : '\n' ∉ mapping.fields
  path : ∀ path ∈ mapping.path, '\n' ∉ path

/-- The whole text: every line ends with a newline. -/
def print (mappings : List Mapping) : List Char := mappings.flatMap fun mapping => mapping.line ++ ['\n']

end Mapping

variable {usize : Nat}

open LinuxMapParser.Mapping

/-- Every character of a printed address is a digit. -/
theorem toDigit_of_mem_printAddress {padding address : Nat} {c : Char} (member : c ∈ printAddress padding address) :
    (Numeral.toDigit 16 c).isSome = true := by
  rcases List.mem_append.mp member with zero | digit
  · rw [List.eq_of_mem_replicate zero]
    rfl
  · exact Numeral.toDigit_of_mem_toDigits (by decide) (by decide) digit

theorem not_mem_printAddress {padding address : Nat} {c : Char} (other : (Numeral.toDigit 16 c).isSome = false) :
    c ∉ printAddress padding address := by
  intro member
  rw [toDigit_of_mem_printAddress member] at other
  cases other

theorem printAddress_ne_nil (padding address : Nat) : printAddress padding address ≠ [] :=
  List.append_ne_nil_of_right_ne_nil _ Nat.toDigits_ne_nil

theorem readDigits_printAddress {padding address : Nat} (word : address < usize) :
    Numeral.readDigits 16 usize 0 (printAddress padding address) = some address := by
  rw [printAddress, Numeral.readDigits_zeros (by decide) (by omega)]
  exact Numeral.readDigits_toDigits (by decide) (by decide) word

theorem parseUnsigned_printAddress {padding address : Nat} (word : address < usize) :
    Numeral.parseUnsigned 16 usize (printAddress padding address) = some address := by
  rw [Numeral.parseUnsigned_of_digits (printAddress_ne_nil _ _) fun _ member => toDigit_of_mem_printAddress member]
  exact readDigits_printAddress word

theorem digit_not_white {c : Char} (digit : (Numeral.toDigit 16 c).isSome = true) : isAsciiWhitespace c = false := by
  by_contra white
  have figure := Numeral.figure_le_of_digit digit
  simp only [isAsciiWhitespace, Bool.not_eq_false, Bool.or_eq_true, beq_iff_eq] at white
  rcases white with (((rfl | rfl) | rfl) | rfl) | rfl <;> exact absurd figure (by decide)

/-- The first word of a line is what precedes its first space. -/
theorem splitAsciiWhitespace_append {word rest : List Char} (some_char : word ≠ [])
    (unbroken : ∀ c ∈ word, isAsciiWhitespace c = false) :
    splitAsciiWhitespace (word ++ ' ' :: rest) = word :: splitAsciiWhitespace rest := by
  rw [splitAsciiWhitespace, List.splitOnP_append_cons_of_forall_mem unbroken ' ' rfl,
    List.filter_cons_of_pos (by simpa using some_char)]
  rfl

theorem splitOn_append_cons {c : Char} {first second : List Char} (absent : c ∉ first) :
    (first ++ c :: second).splitOn c = first :: second.splitOn c := by
  have others : ∀ other ∈ first, (fun x => x == c) other = false :=
    fun other member => beq_eq_false_iff_ne.mpr fun same => absent (same ▸ member)
  rw [List.splitOn_eq_splitOnP, List.splitOnP_append_cons_of_forall_mem others c (beq_self_eq_true c),
    List.splitOn_eq_splitOnP]

theorem splitOn_of_not_mem {c : Char} {text : List Char} (absent : c ∉ text) : text.splitOn c = [text] := by
  rw [List.splitOn_eq_splitOnP]
  exact List.splitOnP_eq_singleton fun other member => beq_eq_false_iff_ne.mpr fun same => absent (same ▸ member)

theorem parseMemoryMapEntry_line {mapping : Mapping} (printable : mapping.Printable usize) :
    parseMemoryMapEntry usize mapping.line = some mapping.entry := by
  have range : mapping.line = (printAddress mapping.startPadding mapping.startAddress ++
      '-' :: printAddress mapping.endPadding mapping.endAddress) ++ ' ' :: mapping.trailer := by
    rw [line, List.append_assoc, List.cons_append]
  -- The range is the first word: no digit and no dash is white.
  have unbroken : ∀ c ∈ printAddress mapping.startPadding mapping.startAddress ++
      '-' :: printAddress mapping.endPadding mapping.endAddress, isAsciiWhitespace c = false := by
    intro c member
    rcases List.mem_append.mp member with start | later
    · exact digit_not_white (toDigit_of_mem_printAddress start)
    · rcases List.mem_cons.mp later with rfl | finish
      · rfl
      · exact digit_not_white (toDigit_of_mem_printAddress finish)
  rw [parseMemoryMapEntry, range, splitAsciiWhitespace_append (by simp) unbroken]
  simp only [splitOn_append_cons (not_mem_printAddress (c := '-') rfl),
    splitOn_of_not_mem (not_mem_printAddress (c := '-') rfl), parseUnsigned_printAddress printable.startAddress_lt,
    parseUnsigned_printAddress printable.endAddress_lt]
  rfl

/-- A line is one line, and the text is cut back into its lines. -/
theorem newline_not_mem_line {mapping : Mapping} (printable : mapping.Printable usize) : '\n' ∉ mapping.line := by
  have addresses : ∀ padding address, '\n' ∉ printAddress padding address :=
    fun _ _ => not_mem_printAddress rfl
  have path : '\n' ∉ mapping.path.elim [] fun path => ' ' :: path := by
    cases given : mapping.path with
    | none => exact List.not_mem_nil
    | some path =>
        have one := printable.path path given
        simpa using one
  simp [line, trailer, addresses, path, printable.fields]

theorem splitOn_print {mappings : List Mapping} (printable : ∀ mapping ∈ mappings, mapping.Printable usize) :
    (Mapping.print mappings).splitOn '\n' = mappings.map Mapping.line ++ [[]] := by
  induction mappings with
  | nil => rfl
  | cons mapping mappings ih =>
      have one := newline_not_mem_line (printable mapping List.mem_cons_self)
      have text : Mapping.print (mapping :: mappings) = mapping.line ++ '\n' :: Mapping.print mappings := by
        simp [Mapping.print]
      rw [text, splitOn_append_cons one, ih fun other later => printable other (List.mem_cons_of_mem _ later)]
      rfl

theorem idxOf?_append_cons {c : Char} {first second : List Char} (absent : c ∉ first) :
    (first ++ c :: second).idxOf? c = some first.length := by
  induction first with
  | nil => simp [List.idxOf?_cons]
  | cons head first ih =>
      rw [List.mem_cons, not_or] at absent
      simp [List.idxOf?_cons, Ne.symm absent.1, ih absent.2]

theorem Managed.digit_not_white {c : Char} (digit : (Numeral.toDigit 16 c).isSome = true) : isWhite c = false := by
  by_contra white
  have figure := Numeral.figure_le_of_digit digit
  simp only [isWhite, Bool.not_eq_false, Bool.or_eq_true, beq_iff_eq, Bool.and_eq_true, decide_eq_true_eq] at white
  rcases white with rfl | ⟨_, small⟩
  · exact absurd figure (by decide)
  · exact absurd (Char.le_trans figure small) (by decide)

theorem Managed.parseHexNumber_printAddress {limit padding address : Nat} (below : address < limit) :
    parseHexNumber limit (printAddress padding address) = some address := by
  have digits : ∀ c ∈ printAddress padding address, (Numeral.toDigit 16 c).isSome = true :=
    fun _ member => toDigit_of_mem_printAddress member
  have trimmed : (printAddress padding address).dropWhile isWhite = printAddress padding address := by
    cases text : printAddress padding address with
    | nil => rfl
    | cons c rest =>
        rw [text] at digits
        rw [List.dropWhile_cons_of_neg]
        simpa using Managed.digit_not_white (digits c List.mem_cons_self)
  have taken : (printAddress padding address).takeWhile (fun c => (Numeral.toDigit 16 c).isSome) =
      printAddress padding address := List.takeWhile_eq_self_iff.mpr digits
  have dropped : (printAddress padding address).dropWhile (fun c => (Numeral.toDigit 16 c).isSome) = [] :=
    List.dropWhile_eq_nil_iff.mpr digits
  simp only [parseHexNumber, trimmed, taken, dropped, if_neg (printAddress_ne_nil padding address)]
  exact readDigits_printAddress below

theorem Managed.parseHexAddress_printAddress {framework : Framework} (words : usize ≤ 2 ^ 64) {padding address : Nat}
    (word : address < usize) : parseHexAddress framework usize (printAddress padding address) = some address := by
  cases framework with
  | net6 => exact parseHexNumber_printAddress word
  | older =>
      rw [parseHexAddress, parseHexNumber_printAddress (word.trans_le words), Option.map_some, Nat.mod_eq_of_lt word]

theorem Managed.parseMemoryMapEntry_line {framework : Framework} (words : usize ≤ 2 ^ 64) {mapping : Mapping}
    (printable : mapping.Printable usize) :
    Managed.parseMemoryMapEntry framework usize mapping.line = some mapping.entry := by
  -- The first dash and the first space behind it enclose the end address.
  have dash : mapping.line.idxOf? '-' = some (printAddress mapping.startPadding mapping.startAddress).length :=
    idxOf?_append_cons (not_mem_printAddress rfl)
  have behind : mapping.line.drop (printAddress mapping.startPadding mapping.startAddress).length =
      ('-' :: printAddress mapping.endPadding mapping.endAddress) ++ ' ' :: mapping.trailer := by
    rw [line, List.drop_left]
    rfl
  have space : (('-' :: printAddress mapping.endPadding mapping.endAddress) ++ ' ' :: mapping.trailer).idxOf? ' ' =
      some ((printAddress mapping.endPadding mapping.endAddress).length + 1) := by
    apply idxOf?_append_cons
    rw [List.mem_cons, not_or]
    exact ⟨by decide, not_mem_printAddress rfl⟩
  have start : mapping.line.take (printAddress mapping.startPadding mapping.startAddress).length =
      printAddress mapping.startPadding mapping.startAddress := List.take_left
  have finish : (mapping.line.drop ((printAddress mapping.startPadding mapping.startAddress).length + 1)).take
      (printAddress mapping.endPadding mapping.endAddress).length =
      printAddress mapping.endPadding mapping.endAddress := by
    rw [← List.drop_drop, behind]
    exact List.take_left
  simp only [Managed.parseMemoryMapEntry, dash, behind, space, Option.bind_eq_bind, Option.bind_some,
    Nat.add_sub_cancel, start, finish, parseHexAddress_printAddress words printable.startAddress_lt,
    parseHexAddress_printAddress words printable.endAddress_lt]
  rfl

/-- Parsing undoes the kernel's printing, and both parsers read a line alike. -/
theorem parseMemoryMap_print {target : Target} {mappings : List Mapping}
    (printable : ∀ mapping ∈ mappings, mapping.Printable target.usize) :
    parseMemoryMap target.usize (Mapping.print mappings) = mappings.map Mapping.entry ∧
      ∀ mapping ∈ mappings, ∀ framework,
        Managed.parseMemoryMapEntry framework target.usize mapping.line = some mapping.entry := by
  have words : target.usize ≤ 2 ^ 64 := target.usize_le
  refine ⟨?_, fun mapping member _ => Managed.parseMemoryMapEntry_line words (printable mapping member)⟩
  -- Behind the last newline there is one more line, which is empty and skipped.
  have last : parseMemoryMapEntry target.usize [] = none := rfl
  rw [parseMemoryMap, splitOn_print printable, parseMemoryMapFromLines, List.filterMap_append, List.filterMap_map]
  have lines : mappings.filterMap (parseMemoryMapEntry target.usize ∘ Mapping.line) = mappings.map Mapping.entry := by
    apply List.filterMap_eq_map_iff_forall_eq_some.mpr
    exact fun mapping member => parseMemoryMapEntry_line (printable mapping member)
  rw [lines]
  simp [last]

/-- A mapping of a file with a dash and a space in its name, and one without a path. -/
theorem parseMemoryMap_print_two : parseMemoryMap smallTarget.usize (Mapping.print
    [⟨0, 0x7f9c89991000, 0, 0x7f9c89993000, "r--p 00000000 08:01 3932177".toList, some "  /path/to-a file".toList⟩,
      ⟨2, 0xe03000, 1, 0xe24000, "rw-p 00000000 00:00 0".toList, none⟩]) =
    [⟨0x7f9c89991000, 0x7f9c89993000⟩, ⟨0xe03000, 0xe24000⟩] := by
  apply (parseMemoryMap_print _).1
  rintro mapping member
  rcases List.mem_cons.mp member with rfl | member
  · exact ⟨by decide, by decide, by decide, by simp⟩
  · rcases List.mem_singleton.mp member with rfl
    exact ⟨by decide, by decide, by decide, by simp⟩

end LinuxMapParser

end ReloadedBuffers
