import Mathlib.Data.Finset.Card

/-! Walks along a partial function. A walk that ends visits no element twice, so it is no
longer than what it stays inside; one that does not end can always be continued. -/
namespace XSDK.Library

variable {α : Type} {step : α → Option α}

/-- The elements that are visited from one on to the first that leads nowhere. -/
inductive Walk (step : α → Option α) : α → List α → Prop
  | last {a : α} : step a = none → Walk step a [a]
  | next {a b : α} {l : List α} : step a = some b → Walk step b l → Walk step a (a :: l)

namespace Walk

variable {a b : α} {l l' : List α}

variable (walk : Walk step a l)
include walk

theorem head : ∃ rest, l = a :: rest := by
  cases walk with
  | last _ => exact ⟨[], rfl⟩
  | next _ _ => exact ⟨_, rfl⟩

theorem unique (walk' : Walk step a l') : l = l' := by
  induction walk generalizing l' with
  | last stop =>
    cases walk' with
    | last _ => rfl
    | next go _ => rw [stop] at go; cases go
  | next go _ ih =>
    cases walk' with
    | last stop => rw [stop] at go; cases go
    | next go' rest =>
      rw [go] at go'
      cases go'
      rw [ih rest]

theorem of_mem (member : b ∈ l) : ∃ before after, l = before ++ after ∧ Walk step b after := by
  induction walk with
  | last stop =>
    cases List.mem_singleton.mp member
    exact ⟨[], _, rfl, .last stop⟩
  | @next a c l go rest ih =>
    rcases List.mem_cons.mp member with same | later
    · subst same
      exact ⟨[], _, rfl, .next go rest⟩
    · obtain ⟨before, after, split, walk⟩ := ih later
      exact ⟨a :: before, after, by rw [split, List.cons_append], walk⟩

/-- An element that came again would lead back to itself. -/
theorem nodup : l.Nodup := by
  induction walk with
  | last _ => exact List.nodup_singleton _
  | @next a c l go rest ih =>
    refine List.nodup_cons.mpr ⟨fun again => ?_, ih⟩
    obtain ⟨before, after, split, back⟩ := rest.of_mem again
    have whole := back.unique (.next go rest)
    have longer := congrArg List.length split
    rw [whole, List.length_append, List.length_cons] at longer
    omega

theorem length_le [DecidableEq α] {inside : Finset α}
    (bounded : ∀ a b, step a = some b → a ∈ inside) : l.length ≤ inside.card + 1 := by
  have moving : ∀ {a l}, Walk step a l → ∀ b ∈ l.dropLast, b ∈ inside := by
    intro a l walk
    induction walk with
    | last _ => intro b none; cases none
    | @next a c l go rest ih =>
      obtain ⟨tail, split⟩ := rest.head
      subst split
      intro b member
      rw [List.dropLast_cons_cons] at member
      rcases List.mem_cons.mp member with same | later
      · subst same
        exact bounded _ _ go
      · exact ih b later
  have distinct : l.dropLast.Nodup := walk.nodup.sublist (List.dropLast_sublist l)
  have count : l.dropLast.length ≤ inside.card := by
    rw [← List.toFinset_card_of_nodup distinct]
    apply Finset.card_le_card
    intro b member
    exact moving walk b (List.mem_toFinset.mp member)
  rw [List.length_dropLast] at count
  omega

end Walk

/-- The walk comes to an element that leads nowhere. -/
def Ends (step : α → Option α) (a : α) : Prop := ∃ l, Walk step a l

theorem Ends.of_stop {a : α} (stop : step a = none) : Ends step a := ⟨[a], .last stop⟩

theorem not_ends_of_loop {a : α} (loop : step a = some a) : ¬Ends step a := by
  rintro ⟨l, walk⟩
  cases walk with
  | last stop => rw [stop] at loop; cases loop
  | next go rest =>
    rw [loop] at go
    cases go
    have same := rest.unique (.next loop rest)
    exact absurd (congrArg List.length same) (by rw [List.length_cons]; omega)

theorem next_of_not_ends {a : α} (never : ¬Ends step a) : ∃ b, step a = some b ∧ ¬Ends step b := by
  cases go : step a with
  | none => exact absurd (Ends.of_stop go) never
  | some b => exact ⟨b, rfl, fun ⟨l, rest⟩ => never ⟨a :: l, .next go rest⟩⟩

end XSDK.Library
