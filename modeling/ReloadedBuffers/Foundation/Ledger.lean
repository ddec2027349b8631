import Mathlib.Logic.ExistsUnique
import Mathlib.Logic.Function.Basic

/-! Who has to give back what. Names own addresses, and whatever is live is owned under
just one name, so that nothing is given back twice and nothing is forgotten.
-/

set_option autoImplicit false

namespace Ledger

variable {Name Address : Type}

theorem update_eq_some [DecidableEq Name] {owned : Name → Option Address} {name other : Name} {value : Option Address}
    {address : Address} : Function.update owned name value other = some address ↔
      other = name ∧ value = some address ∨ other ≠ name ∧ owned other = some address := by
  by_cases same : other = name
  · rw [same, Function.update_self]
    simp
  · rw [Function.update_of_ne same]
    simp [same]

structure Balanced (owned : Name → Option Address) (live : Address → Prop) : Prop where
  alive : ∀ name address, owned name = some address → live address
  distinct : ∀ left right address, owned left = some address → owned right = some address → left = right
  owner : ∀ address, live address → ∃ name, owned name = some address

namespace Balanced

variable {owned : Name → Option Address} {live : Address → Prop} {name : Name} {address : Address}

theorem empty (dead : ∀ address, ¬ live address) : Balanced (fun _ : Name => none) live :=
  ⟨nofun, nofun, fun address alive => absurd alive (dead address)⟩

/-- When everything has been given back, nothing is live. -/
theorem dead (balanced : Balanced owned live) (settled : ∀ name, owned name = none) : ¬ live address := by
  intro alive
  obtain ⟨name, owns⟩ := balanced.owner address alive
  cases (settled name).symm.trans owns

variable [DecidableEq Name]

theorem acquire (balanced : Balanced owned live) (fresh : ¬ live address) (unused : owned name = none) :
    Balanced (Function.update owned name (some address)) fun other => other = address ∨ live other := by
  constructor
  · intro one known owns
    rcases update_eq_some.mp owns with ⟨_, new⟩ | ⟨_, old⟩
    · exact .inl (Option.some.inj new).symm
    · exact .inr (balanced.alive one known old)
  · intro left right known here there
    rcases update_eq_some.mp here with ⟨rfl, new⟩ | ⟨_, first⟩
    · rcases update_eq_some.mp there with ⟨rfl, _⟩ | ⟨_, second⟩
      · rfl
      · cases new
        exact absurd (balanced.alive right address second) fresh
    · rcases update_eq_some.mp there with ⟨rfl, new⟩ | ⟨_, second⟩
      · cases new
        exact absurd (balanced.alive left address first) fresh
      · exact balanced.distinct left right known first second
  · rintro known (rfl | alive)
    · exact ⟨name, Function.update_self _ _ _⟩
    · obtain ⟨one, owns⟩ := balanced.owner known alive
      have apart : one ≠ name := by
        rintro rfl
        cases unused.symm.trans owns
      exact ⟨one, by rw [Function.update_of_ne apart, owns]⟩

theorem release (balanced : Balanced owned live) (owns : owned name = some address) :
    Balanced (Function.update owned name none) fun other => other ≠ address ∧ live other := by
  constructor
  · intro one known here
    obtain ⟨apart, old⟩ := (update_eq_some.mp here).resolve_left (by simp)
    refine ⟨?_, balanced.alive one known old⟩
    rintro rfl
    exact apart (balanced.distinct one name known old owns)
  · intro left right known here there
    obtain ⟨_, first⟩ := (update_eq_some.mp here).resolve_left (by simp)
    obtain ⟨_, second⟩ := (update_eq_some.mp there).resolve_left (by simp)
    exact balanced.distinct left right known first second
  · rintro known ⟨other, alive⟩
    obtain ⟨one, here⟩ := balanced.owner known alive
    have apart : one ≠ name := by
      rintro rfl
      exact other (Option.some.inj (here.symm.trans owns))
    exact ⟨one, by rw [Function.update_of_ne apart, here]⟩

end Balanced

end Ledger
