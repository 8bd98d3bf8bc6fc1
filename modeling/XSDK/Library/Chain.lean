import XSDK.Library.Walks

/-! Lists threaded through one next field of their elements, from a head pointer on. -/
namespace XSDK.Library

open Function (update update_self update_of_ne)
open List (mem_cons_self nodup_cons)

variable {α : Type} {next next' : α → Option α} {head : Option α} {l xs ys : List α} {a p : α}

/-- A head pointer and a next field lead through these elements, in this order, to an end. -/
def Chain (next : α → Option α) : Option α → List α → Prop
  | head, [] => head = none
  | head, a :: l => head = some a ∧ Chain next (next a) l

theorem Chain.congr (chain : Chain next head l) (same : ∀ a ∈ l, next' a = next a) : Chain next' head l := by
  induction l generalizing head with
  | nil => exact chain
  | cons a l ih =>
    obtain ⟨first, rest⟩ := chain
    refine ⟨first, ?_⟩
    rw [same a mem_cons_self]
    exact ih rest fun b member => same b (List.mem_cons_of_mem a member)

theorem Chain.walk (chain : Chain next (some a) l) : Walk next a l := by
  induction l generalizing a with
  | nil => cases chain
  | cons b l ih =>
    obtain ⟨first, rest⟩ := chain
    cases first
    cases l with
    | nil => exact .last rest
    | cons c l =>
      have go := rest.1
      rw [go] at rest
      exact .next go (ih rest)

theorem Chain.unique (chain : Chain next head l) (chain' : Chain next head xs) : l = xs := by
  cases head with
  | some a => exact chain.walk.unique chain'.walk
  | none =>
    cases l with
    | cons _ _ => cases chain.1
    | nil =>
      cases xs with
      | cons _ _ => cases chain'.1
      | nil => rfl

theorem Chain.nodup (chain : Chain next head l) : l.Nodup := by
  cases l with
  | nil => exact .nil
  | cons a l =>
    have first := chain.1
    rw [first] at chain
    exact chain.walk.nodup

theorem Chain.tail (chain : Chain next head (xs ++ a :: ys)) : Chain next (next a) ys := by
  induction xs generalizing head with
  | nil => exact chain.2
  | cons b xs ih => exact ih chain.2

theorem Chain.single (last : next a = none) : Chain next (some a) [a] := ⟨rfl, last⟩

/-- The element at an index behind a head pointer. -/
def elementAt (next : α → Option α) (head : Option α) : Nat → Option α
  | 0 => head
  | i + 1 => (elementAt next head i).bind next

theorem Chain.next_of_getElem? (chain : Chain next head l) {i : Nat} (here : l[i]? = some a) :
    next a = l[i + 1]? := by
  induction l generalizing head i with
  | nil => exact nomatch here
  | cons b l ih =>
    obtain ⟨first, rest⟩ := chain
    cases i with
    | zero =>
      cases here
      cases l with
      | nil => exact rest
      | cons c l => exact rest.1
    | succ i => exact ih rest here

theorem Chain.elementAt (chain : Chain next head l) (i : Nat) : elementAt next head i = l[i]? := by
  induction i with
  | zero =>
    cases l with
    | nil => exact chain
    | cons b l => exact chain.1
  | succ i ih =>
    rw [Library.elementAt, ih]
    cases here : l[i]? with
    | none =>
      have short := List.getElem?_eq_none_iff.mp here
      exact (List.getElem?_eq_none (by omega)).symm
    | some a => exact chain.next_of_getElem? here

section Edit

variable [DecidableEq α]

theorem Chain.remove (chain : Chain next head (xs ++ p :: a :: ys)) :
    Chain (update next p (next a)) head (xs ++ p :: ys) := by
  have nodup := chain.nodup
  induction xs generalizing head with
  | nil =>
    obtain ⟨first, second, last⟩ := chain
    refine ⟨first, ?_⟩
    rw [update_self]
    apply last.congr
    intro b member
    have other : b ≠ p := fun same => (nodup_cons.mp nodup).1 (same ▸ List.mem_cons_of_mem a member)
    exact update_of_ne other _ _
  | cons c xs ih =>
    obtain ⟨first, later⟩ := chain
    have other : c ≠ p := by
      intro same
      exact (nodup_cons.mp nodup).1 (same ▸ List.mem_append_right xs mem_cons_self)
    refine ⟨first, ?_⟩
    rw [update_of_ne other]
    exact ih later (nodup_cons.mp nodup).2

theorem Chain.snoc (chain : Chain next head (xs ++ [p])) (fresh : a ∉ xs ++ [p]) (last : next a = none) :
    Chain (update next p (some a)) head (xs ++ [p] ++ [a]) := by
  have nodup := chain.nodup
  induction xs generalizing head with
  | nil =>
    have other : a ≠ p := fun same => fresh (same ▸ List.mem_singleton_self a)
    refine ⟨chain.1, ?_⟩
    rw [update_self]
    refine ⟨rfl, ?_⟩
    rw [update_of_ne other]
    exact last
  | cons b xs ih =>
    have other : b ≠ p := by
      intro same
      exact (nodup_cons.mp nodup).1 (same ▸ List.mem_append_right xs mem_cons_self)
    refine ⟨chain.1, ?_⟩
    rw [update_of_ne other]
    exact ih chain.2 (fun mem => fresh (List.mem_cons_of_mem b mem)) (nodup_cons.mp nodup).2

theorem Chain.cut (chain : Chain next head (xs ++ p :: ys)) : Chain (update next p none) head (xs ++ [p]) := by
  have nodup := chain.nodup
  induction xs generalizing head with
  | nil =>
    refine ⟨chain.1, ?_⟩
    rw [update_self]
    exact rfl
  | cons b xs ih =>
    have other : b ≠ p := by
      intro same
      exact (nodup_cons.mp nodup).1 (same ▸ List.mem_append_right xs mem_cons_self)
    refine ⟨chain.1, ?_⟩
    rw [update_of_ne other]
    exact ih chain.2 (nodup_cons.mp nodup).2

end Edit

end XSDK.Library
