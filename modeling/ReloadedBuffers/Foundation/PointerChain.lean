import Mathlib.Data.List.Nodup

/-! Singly linked chains through a partial map of nodes. The map gives no value
where there is no node, and a node either ends its chain or names its successor.
-/

set_option autoImplicit false

namespace PointerChain

variable {Address : Type}

/-- The finite chain that starts at an address, with its nodes in order. -/
inductive Chain (next : Address → Option (Option Address)) : Address → List Address → Prop where
  | last {node : Address} : next node = some none → Chain next node [node]
  | link {node successor : Address} {rest : List Address} : next node = some (some successor) →
      Chain next successor rest → Chain next node (node :: rest)

variable {next : Address → Option (Option Address)} {first : Address} {nodes : List Address}

theorem Chain.head_mem (chain : Chain next first nodes) : first ∈ nodes := by
  cases chain with
  | last => exact List.mem_singleton_self _
  | link => exact List.mem_cons_self

theorem Chain.defined (chain : Chain next first nodes) {node : Address} (member : node ∈ nodes) :
    (next node).isSome := by
  induction chain with
  | last found =>
      obtain rfl := List.mem_singleton.mp member
      simp [found]
  | link found _ ih =>
      rcases List.mem_cons.mp member with rfl | member
      · simp [found]
      · exact ih member

theorem Chain.next_mem (chain : Chain next first nodes) {node successor : Address} (member : node ∈ nodes)
    (found : next node = some (some successor)) : successor ∈ nodes := by
  induction chain with
  | last ends =>
      obtain rfl := List.mem_singleton.mp member
      simp [ends] at found
  | link linked rest ih =>
      rcases List.mem_cons.mp member with rfl | member
      · rw [linked] at found
        cases found
        exact List.mem_cons_of_mem _ rest.head_mem
      · exact List.mem_cons_of_mem _ (ih member)

theorem Chain.unique {others : List Address} (chain : Chain next first nodes)
    (other : Chain next first others) : nodes = others := by
  induction chain generalizing others with
  | last ends =>
      cases other with
      | last => rfl
      | link linked => simp [ends] at linked
  | link linked _ ih =>
      cases other with
      | last ends => simp [ends] at linked
      | link again rest =>
          rw [linked] at again
          cases again
          rw [ih rest]

/-- The tail of a chain from any of its nodes is a chain, no longer than the whole. -/
theorem Chain.suffix (chain : Chain next first nodes) {node : Address} (member : node ∈ nodes) :
    ∃ rest, Chain next node rest ∧ rest.length ≤ nodes.length := by
  induction chain with
  | last ends =>
      obtain rfl := List.mem_singleton.mp member
      exact ⟨_, .last ends, Nat.le_refl _⟩
  | link linked tail ih =>
      rcases List.mem_cons.mp member with rfl | member
      · exact ⟨_, .link linked tail, Nat.le_refl _⟩
      · obtain ⟨rest, found, bound⟩ := ih member
        exact ⟨rest, found, Nat.le_succ_of_le bound⟩

/-- A chain never returns to a node, since the tails from one node have one length. -/
theorem Chain.nodup (chain : Chain next first nodes) : nodes.Nodup := by
  induction chain with
  | last => exact List.nodup_singleton _
  | @link node _ rest linked tail ih =>
      refine List.nodup_cons.mpr ⟨fun member => ?_, ih⟩
      obtain ⟨again, found, bound⟩ := tail.suffix member
      -- From its second visit on, the chain would be as long as from the first.
      have same := found.unique (.link linked tail)
      rw [same, List.length_cons] at bound
      omega

/-- Link a second chain behind the node that ends the first. -/
theorem Chain.extend {other : Address → Option (Option Address)} {end_ second : Address} {more : List Address}
    (chain : Chain next first nodes) (member : end_ ∈ nodes) (ends : next end_ = some none)
    (agree : ∀ node ∈ nodes, node ≠ end_ → other node = next node)
    (linked : other end_ = some (some second)) (tail : Chain other second more) :
    Chain other first (nodes ++ more) := by
  induction chain with
  | last =>
      obtain rfl := List.mem_singleton.mp member
      exact .link linked tail
  | @link node _ rest goes _ ih =>
      have different : node ≠ end_ := by
        rintro rfl
        simp [goes] at ends
      -- Only the end gets another link, so the nodes before it lead to the same ones.
      have later : end_ ∈ rest := (List.mem_cons.mp member).resolve_left different.symm
      exact .link ((agree _ List.mem_cons_self different).trans goes)
        (ih later fun node inside => agree node (List.mem_cons_of_mem _ inside))

end PointerChain
