import Mathlib.Data.List.Basic
import Mathlib.Logic.Relation

/-! Reading the maps file into a string. What the next `read` may deliver is computed
before the string is given room for it.
-/

set_option autoImplicit false

namespace ReloadedBuffers

namespace LinuxMapParser

/-- The calls of `read_to_string`. A failed `open` gives no descriptor, and a failed
`read` no bytes. -/
structure FileCalls (σ : Type) where
  openReadOnly : String → σ → Option Int32 × σ
  read : Int32 → Nat → σ → Option (List UInt8) × σ
  close : Int32 → σ → σ

def bufferSize : Nat := 131072

/-- The string, its capacity and the system at the top of the loop. -/
structure Reading (σ : Type) where
  content : List UInt8
  capacity : Nat
  world : σ

variable {σ : Type}

/-- How many bytes the next `read` asks for. -/
def Reading.remainingCapacity (reading : Reading σ) : Nat := reading.capacity - reading.content.length

inductive Progress (σ : Type) where
  | error (world : σ)
  | endOfFile (world : σ)
  | more (reading : Reading σ)

/-- The body of the loop. `reserve` gives the capacity of a string of a length and a
capacity after room for more bytes has been asked for. -/
def Reading.next (reserve : Nat → Nat → Nat → Nat) (calls : FileCalls σ) (file : Int32) (reading : Reading σ) : Progress σ :=
  let remainingCapacity := reading.remainingCapacity
  -- The request below is for the room there was before this.
  let capacity := reserve reading.content.length reading.capacity bufferSize
  match calls.read file remainingCapacity reading.world with
  | (none, world) => .error world
  | (some bytes, world) =>
    if bytes.length = 0 then .endOfFile world else .more ⟨reading.content ++ bytes, capacity, world⟩

/-- The loop; `none` when the fuel is out. -/
def readLoop (reserve : Nat → Nat → Nat → Nat) (calls : FileCalls σ) (file : Int32) :
    Nat → Reading σ → Option (Except String (List UInt8) × σ)
  | 0, _ => none
  | fuel + 1, reading =>
    match reading.next reserve calls file with
    | .error world => some (.error "Map read error", calls.close file world)
    | .endOfFile world => some (.ok reading.content, calls.close file world)
    | .more reading => readLoop reserve calls file fuel reading

/-- An error is the text of a panic. -/
def readToString (reserve : Nat → Nat → Nat → Nat) (calls : FileCalls σ) (fuel : Nat) (path : String) (world : σ) :
    Option (Except String (List UInt8) × σ) :=
  match calls.openReadOnly path world with
  | (none, world) => some (.error "Can't read map file! Your Linux system is weird.", world)
  | (some file, world) => readLoop reserve calls file fuel ⟨[], bufferSize, world⟩

/-- `String::reserve`: the capacity grows only when there is not room enough already. -/
def Reserves (reserve : Nat → Nat → Nat → Nat) : Prop :=
  ∀ length capacity additional,
    if capacity - length < additional then length + additional ≤ reserve length capacity additional
    else reserve length capacity additional = capacity

/-- The system's side of reading a file of which `rest` is left: nothing is delivered at
the end of it and when nothing is asked for, and something otherwise. -/
structure FileCalls.Delivers (calls : FileCalls σ) (file : Int32) (rest : σ → List UInt8) : Prop where
  nothing : ∀ count world, count = 0 ∨ rest world = [] →
    (calls.read file count world).1 = some [] ∧ rest (calls.read file count world).2 = rest world
  something : ∀ count world, 0 < count → rest world ≠ [] → ∃ bytes,
    (calls.read file count world).1 = some bytes ∧ bytes ≠ [] ∧ bytes.length ≤ count ∧
    rest world = bytes ++ rest (calls.read file count world).2

/-- A request for a whole buffer or more is answered in full, and data is left. -/
def Reading.Filled (calls : FileCalls σ) (file : Int32) (rest : σ → List UInt8) (reading : Reading σ) : Prop :=
  bufferSize ≤ reading.remainingCapacity ∧
    ∃ bytes, (calls.read file reading.remainingCapacity reading.world).1 = some bytes ∧
      bytes.length = reading.remainingCapacity ∧
      rest (calls.read file reading.remainingCapacity reading.world).2 ≠ []

/-- The loop gets from one reading to another. -/
def Reaches (reserve : Nat → Nat → Nat → Nat) (calls : FileCalls σ) (file : Int32) : Reading σ → Reading σ → Prop :=
  Relation.ReflTransGen fun one other => one.next reserve calls file = .more other

section

variable {reserve : Nat → Nat → Nat → Nat} {calls : FileCalls σ} {file : Int32} {rest : σ → List UInt8}
  {reading other : Reading σ}

/-- What a turn of the loop can do. -/
theorem Reading.next_cases (delivers : calls.Delivers file rest) (reading : Reading σ) :
    (reading.remainingCapacity = 0 ∨ rest reading.world = []) ∧
        (∃ world, reading.next reserve calls file = .endOfFile world) ∨
      0 < reading.remainingCapacity ∧ ∃ bytes world,
        calls.read file reading.remainingCapacity reading.world = (some bytes, world) ∧ bytes ≠ [] ∧
        bytes.length ≤ reading.remainingCapacity ∧ rest reading.world = bytes ++ rest world ∧
        reading.next reserve calls file = .more ⟨reading.content ++ bytes,
          reserve reading.content.length reading.capacity bufferSize, world⟩ := by
  rcases read : calls.read file reading.remainingCapacity reading.world with ⟨answer, world⟩
  by_cases finished : reading.remainingCapacity = 0 ∨ rest reading.world = []
  · left
    have nothing := (delivers.nothing _ _ finished).1
    rw [read] at nothing
    cases nothing
    refine ⟨finished, world, ?_⟩
    simp only [next, read]
    rfl
  · right
    rw [not_or] at finished
    obtain ⟨asked, left⟩ := finished
    obtain ⟨bytes, something, some_byte, fits, same⟩ := delivers.something _ _ (Nat.pos_of_ne_zero asked) left
    rw [read] at something same
    cases something
    refine ⟨Nat.pos_of_ne_zero asked, bytes, world, rfl, some_byte, fits, same, ?_⟩
    simp only [next, read]
    exact if_neg (mt List.length_eq_zero_iff.mp some_byte)

/-- What has been read and what is left make up the whole file. -/
theorem Reading.next_whole (delivers : calls.Delivers file rest) (turn : reading.next reserve calls file = .more other) :
    other.content ++ rest other.world = reading.content ++ rest reading.world := by
  rcases reading.next_cases delivers with ⟨_, world, ended⟩ | ⟨_, bytes, world, _, _, _, same, more⟩
  · cases ended.symm.trans turn
  · cases more.symm.trans turn
    rw [same, List.append_assoc]

theorem Reaches.whole (delivers : calls.Delivers file rest) (reaches : Reaches reserve calls file reading other) :
    other.content ++ rest other.world = reading.content ++ rest reading.world := by
  induction reaches with
  | refl => rfl
  | tail _ turn ih => exact (Reading.next_whole delivers turn).trans ih

/-- After a turn there is room for another one, unless a whole buffer was filled. -/
theorem Reading.next_room (reserves : Reserves reserve) (delivers : calls.Delivers file rest)
    (turn : reading.next reserve calls file = .more other) (left : rest other.world ≠ []) :
    0 < other.remainingCapacity ↔ ¬ reading.Filled calls file rest := by
  rcases reading.next_cases delivers with ⟨_, world, ended⟩ | ⟨asked, bytes, world, read, _, fits, _, more⟩
  · cases ended.symm.trans turn
  cases more.symm.trans turn
  have grown := reserves reading.content.length reading.capacity bufferSize
  have length : (reading.content ++ bytes).length = reading.content.length + bytes.length := List.length_append
  simp only [Filled, read, remainingCapacity] at *
  rw [length]
  constructor
  · rintro room ⟨large, answer, same, full, _⟩
    cases same
    -- With room for a whole buffer nothing is reserved, and a full answer uses the room up.
    rw [if_neg (by omega)] at grown
    omega
  · intro unfilled
    by_contra full
    refine unfilled ⟨?_, bytes, rfl, ?_, left⟩
    · by_contra small
      rw [if_pos (by omega)] at grown
      omega
    · split at grown
      · omega
      · omega

/-- Without a filled buffer on its way, the loop reads what is left. -/
theorem readLoop_complete (reserves : Reserves reserve) (delivers : calls.Delivers file rest) {fuel : Nat}
    (enough : (rest reading.world).length < fuel) (room : rest reading.world ≠ [] → 0 < reading.remainingCapacity)
    (unfilled : ∀ other, Reaches reserve calls file reading other → ¬ other.Filled calls file rest) :
    ∃ last, readLoop reserve calls file fuel reading = some (.ok (reading.content ++ rest reading.world), last) := by
  induction fuel generalizing reading with
  | zero => exact absurd enough (Nat.not_lt_zero _)
  | succ fuel ih =>
      rcases reading.next_cases delivers with ⟨finished, world, ended⟩ | ⟨_, bytes, world, _, some_byte, _, same, more⟩
      · have empty : rest reading.world = [] := by
          by_contra left
          exact Nat.ne_of_gt (room left) (finished.resolve_right left)
        refine ⟨calls.close file world, ?_⟩
        rw [readLoop, ended, empty, List.append_nil]
      -- Every turn takes something off what is left, so the fuel lasts.
      · have shorter : (rest world).length < fuel := by
          have bytes_pos := List.length_pos_iff.mpr some_byte
          rw [same, List.length_append] at enough
          omega
        obtain ⟨last, run⟩ := ih shorter
          (fun left => (Reading.next_room reserves delivers more left).mpr (unfilled reading .refl))
          (fun other later => unfilled other (.head more later))
        refine ⟨last, ?_⟩
        rw [readLoop, more]
        rw [Reading.next_whole delivers more] at run
        exact run

/-- When nothing is asked for, the loop ends with what it has. -/
theorem readLoop_of_full (delivers : calls.Delivers file rest) (full : reading.remainingCapacity = 0) {fuel : Nat}
    {text : List UInt8} {last : σ} (run : readLoop reserve calls file fuel reading = some (.ok text, last)) :
    text = reading.content := by
  cases fuel with
  | zero => cases run
  | succ fuel =>
      rcases reading.next_cases delivers with ⟨_, world, ended⟩ | ⟨asked, _⟩
      · rw [readLoop, ended] at run
        cases run
        rfl
      · exact absurd full (Nat.ne_of_gt asked)

/-- The loop may take a turn first. -/
theorem readLoop_of_more (turn : reading.next reserve calls file = .more other) {fuel : Nat}
    {result : Except String (List UInt8) × σ} (run : readLoop reserve calls file fuel reading = some result) :
    ∃ fewer, readLoop reserve calls file fewer other = some result := by
  cases fuel with
  | zero => cases run
  | succ fuel =>
      rw [readLoop, turn] at run
      exact ⟨fuel, run⟩

/-- A filled buffer on its way makes the loop end early. -/
theorem readLoop_truncates (reserves : Reserves reserve) (delivers : calls.Delivers file rest)
    (reaches : Reaches reserve calls file reading other) (filled : other.Filled calls file rest) {fuel : Nat}
    {text : List UInt8} {last : σ} (run : readLoop reserve calls file fuel reading = some (.ok text, last)) :
    text ≠ reading.content ++ rest reading.world := by
  induction reaches using Relation.ReflTransGen.head_induction_on generalizing fuel with
  | refl =>
      have large := filled.1
      rcases other.next_cases delivers with ⟨finished, _⟩ | ⟨_, bytes, world, read, _, _, _, more⟩
      · obtain ⟨bytes, answer, full, _⟩ := filled.2
        rw [(delivers.nothing _ _ finished).1] at answer
        cases answer
        simp only [bufferSize, List.length_nil] at large full
        omega
      · have left : rest world ≠ [] := by
          obtain ⟨_, _, _, left⟩ := filled.2
          rwa [read] at left
        -- After the filled buffer nothing is asked for, and the empty answer is taken for the end.
        have full : Reading.remainingCapacity _ = 0 :=
          Nat.eq_zero_of_not_pos fun room => (Reading.next_room reserves delivers more left).mp room filled
        obtain ⟨fewer, later⟩ := readLoop_of_more more run
        rw [readLoop_of_full delivers full later, ← Reading.next_whole delivers more]
        exact fun same => left (List.self_eq_append_right.mp same)
  | head turn _ ih =>
      obtain ⟨fewer, later⟩ := readLoop_of_more turn run
      rw [← Reading.next_whole delivers turn]
      exact ih later

end

/-- The whole file is read exactly when no request for a whole buffer or more is answered
in full while data is left. -/
theorem readToString_complete_iff {reserve : Nat → Nat → Nat → Nat} {calls : FileCalls σ} {file : Int32}
    {rest : σ → List UInt8} (reserves : Reserves reserve) (delivers : calls.Delivers file rest)
    {path : String} {world start : σ} (opened : calls.openReadOnly path world = (some file, start)) {fuel : Nat}
    (enough : (rest start).length < fuel) :
    (∃ last, readToString reserve calls fuel path world = some (.ok (rest start), last)) ↔
      ∀ reading, Reaches reserve calls file ⟨[], bufferSize, start⟩ reading → ¬ reading.Filled calls file rest := by
  rw [readToString, opened]
  constructor
  · rintro ⟨last, run⟩ reading reaches filled
    exact readLoop_truncates reserves delivers reaches filled run rfl
  · intro unfilled
    exact readLoop_complete reserves delivers enough (fun _ => Nat.zero_lt_succ _) unfilled

/-- A file that delivers all that is asked for; the state is what is left of it. -/
def wholeReads : FileCalls (List UInt8) where
  openReadOnly _ left := (some 3, left)
  read _ count left := (some (left.take count), left.drop count)
  close _ left := left

theorem wholeReads_delivers (file : Int32) : wholeReads.Delivers file id where
  nothing count left finished := by
    rcases finished with rfl | empty
    · exact ⟨rfl, rfl⟩
    · cases (empty : left = [])
      simp [wholeReads]
  something count left asked some_left := by
    refine ⟨left.take count, rfl, ?_, List.length_take_le _ _, (List.take_append_drop _ _).symm⟩
    intro empty
    rcases List.take_eq_nil_iff.mp empty with none | none
    · exact Nat.ne_of_gt asked none
    · exact some_left none

/-- At least twice the capacity, when it has to grow. -/
def reserveDouble (length capacity additional : Nat) : Nat :=
  if capacity - length < additional then max (2 * capacity) (length + additional) else capacity

theorem reserveDouble_reserves : Reserves reserveDouble := by
  intro length capacity additional
  unfold reserveDouble
  split
  · exact Nat.le_max_right _ _
  · rfl

/-- Two bytes are read completely. -/
theorem readToString_complete_two : ∃ last, readToString reserveDouble wholeReads 3 "/proc/1/maps" [48, 10] =
    some (.ok [48, 10], last) := by
  refine (readToString_complete_iff reserveDouble_reserves (wholeReads_delivers 3) rfl (by decide)).mpr ?_
  rintro reading reaches ⟨large, bytes, answer, full, _⟩
  have whole := congrArg List.length (reaches.whole (wholeReads_delivers 3))
  cases answer
  simp only [bufferSize, List.length_take, List.length_append, id, List.length_cons, List.length_nil] at *
  omega

/-- A file of one byte more than the buffer, delivered as it is asked for. -/
theorem readToString_truncates : ¬ ∃ fuel last, readToString reserveDouble wholeReads fuel "/proc/1/maps"
    (List.replicate (bufferSize + 1) 48) = some (.ok (List.replicate (bufferSize + 1) 48), last) := by
  rintro ⟨fuel, last, run⟩
  refine readLoop_truncates reserveDouble_reserves (wholeReads_delivers 3) .refl ?_ run rfl
  refine ⟨Nat.le_refl _, _, rfl, ?_, ?_⟩
  · simp [Reading.remainingCapacity]
  · simp [Reading.remainingCapacity, wholeReads]

end LinuxMapParser

end ReloadedBuffers
