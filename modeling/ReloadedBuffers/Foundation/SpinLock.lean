import Mathlib.Logic.Function.Basic

/-! Spin locks: a word that is zero when the lock is free, and threads whose program
counters say who holds it. A compare-exchange from zero acquires, a store of zero
by the holder releases, and everything else leaves the holders alone.
-/

set_option autoImplicit false

namespace SpinLock

variable {Thread Pc : Type}

/-- The word excludes: at most one thread is where the lock is held, and only while
the word is not zero. -/
structure Guards (holds : Pc → Bool) (word : Int32) (pc : Thread → Pc) : Prop where
  exclusive : ∀ thread other, holds (pc thread) = true → holds (pc other) = true → thread = other
  locked : ∀ thread, holds (pc thread) = true → word ≠ 0

variable {holds : Pc → Bool} {word : Int32} {pc : Thread → Pc} {thread : Thread} {next : Pc}

theorem Guards.idle (nobody : ∀ thread, holds (pc thread) = false) : Guards holds word pc := by
  constructor
  · intro thread other held
    rw [nobody] at held
    cases held
  · intro thread held
    rw [nobody] at held
    cases held

theorem Guards.nobody (guards : Guards holds 0 pc) (other : Thread) : holds (pc other) = false := by
  by_contra held
  exact guards.locked other (by simpa using held) rfl

/-- While one thread holds the lock, no other does. -/
theorem Guards.other (guards : Guards holds word pc) (held : holds (pc thread) = true) {other : Thread}
    (apart : other ≠ thread) : holds (pc other) = false := by
  by_contra also
  exact apart (guards.exclusive other thread (by simpa using also) held)

variable [DecidableEq Thread]

theorem Guards.goto (guards : Guards holds word pc) (same : holds next = holds (pc thread)) :
    Guards holds word (Function.update pc thread next) := by
  have holders : ∀ other, holds (Function.update pc thread next other) = holds (pc other) := by
    intro other
    rcases eq_or_ne other thread with rfl | apart
    · rw [Function.update_self, same]
    · rw [Function.update_of_ne apart]
  constructor
  · intro one other left right
    rw [holders] at left right
    exact guards.exclusive one other left right
  · intro one held
    rw [holders] at held
    exact guards.locked one held

theorem Guards.acquire {taken : Int32} (guards : Guards holds 0 pc) (set : taken ≠ 0) :
    Guards holds taken (Function.update pc thread next) := by
  -- With the word at zero nobody held the lock before.
  have holder : ∀ other, holds (Function.update pc thread next other) = true → other = thread := by
    intro other held
    by_contra apart
    rw [Function.update_of_ne apart, guards.nobody] at held
    cases held
  constructor
  · intro one other left right
    rw [holder one left, holder other right]
  · exact fun _ _ => set

theorem Guards.release {cleared : Int32} (guards : Guards holds word pc) (held : holds (pc thread) = true)
    (left : holds next = false) : Guards holds cleared (Function.update pc thread next) := by
  apply Guards.idle
  intro other
  rcases eq_or_ne other thread with rfl | apart
  · rw [Function.update_self, left]
  · rw [Function.update_of_ne apart]
    exact guards.other held apart

end SpinLock
