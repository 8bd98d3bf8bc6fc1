import Mathlib.Data.List.Basic

/-! Runs of a deterministic machine whose inputs may be forbidden in a state. A run
keeps its transitions in the order they were taken, so that observers of a whole run
are functions of that list. -/
namespace XSDK.Library

structure Machine (σ ι ο : Type) where
  allowed : σ → ι → Prop
  step : σ → ι → σ × ο

structure Transition (σ ι ο : Type) where
  pre : σ
  input : ι
  output : ο
  post : σ

/-- A property of every transition of a list and of those before it. -/
def Along {τ : Type} (P : List τ → τ → Prop) (trace : List τ) : Prop :=
  ∀ before s after, trace = before ++ s :: after → P before s

namespace Along

variable {τ : Type} {P : List τ → τ → Prop} {trace : List τ} {s : τ}

theorem nil : Along P [] := fun before _ _ same => absurd same (by simp)

theorem snoc (along : Along P trace) (last : P trace s) : Along P (trace ++ [s]) := by
  intro before x after same
  rcases List.eq_nil_or_concat after with rfl | ⟨rest, y, rfl⟩
  · obtain ⟨rfl, tail⟩ := List.append_inj' same rfl
    cases tail
    exact last
  · have parts : trace ++ [s] = (before ++ x :: rest) ++ [y] := by
      rw [same]
      simp
    obtain ⟨rfl, -⟩ := List.append_inj' parts rfl
    exact along before x rest rfl

end Along

namespace Machine

variable {σ ι ο : Type} (M : Machine σ ι ο)

/-- The transition that an input causes. -/
def take (s : σ) (i : ι) : Transition σ ι ο := ⟨s, i, (M.step s i).2, (M.step s i).1⟩

inductive Run (start : σ) : List (Transition σ ι ο) → σ → Prop
  | nil : Run start [] start
  | snoc {trace : List (Transition σ ι ο)} {s : σ} {i : ι} (run : Run start trace s)
      (allowed : M.allowed s i) : Run start (trace ++ [M.take s i]) (M.step s i).1

variable {M} {start s : σ} {trace : List (Transition σ ι ο)}

namespace Run

section

variable (run : M.Run start trace s)
include run

theorem invariant {P : σ → Prop} (init : P start)
    (step : ∀ s i, P s → M.allowed s i → P (M.step s i).1) : P s := by
  induction run with
  | nil => exact init
  | snoc _ allowed ih => exact step _ _ ih allowed

/-- The same for a property that also speaks about the transitions taken so far. -/
theorem history {P : List (Transition σ ι ο) → σ → Prop} (init : P [] start)
    (step : ∀ trace s i, P trace s → M.allowed s i → P (trace ++ [M.take s i]) (M.step s i).1) :
    P trace s := by
  induction run with
  | nil => exact init
  | snoc _ allowed ih => exact step _ _ _ ih allowed

theorem invariant_of {P : σ → Prop} {Q : Transition σ ι ο → Prop} (meets : ∀ tr ∈ trace, Q tr) (init : P start)
    (step : ∀ s i, P s → M.allowed s i → Q (M.take s i) → P (M.step s i).1) : P s := by
  induction run with
  | nil => exact init
  | snoc _ allowed ih =>
    have earlier := ih fun tr mem => meets tr (List.mem_append_left _ mem)
    have last := meets _ (List.mem_append_right _ List.mem_cons_self)
    exact step _ _ earlier allowed last

/-- The same, with a property that each transition has when it starts where the invariant holds. -/
theorem throughout {P : σ → Prop} {Q R : Transition σ ι ο → Prop} (meets : ∀ tr ∈ trace, Q tr) (init : P start)
    (step : ∀ s i, P s → M.allowed s i → Q (M.take s i) → P (M.step s i).1 ∧ R (M.take s i)) :
    P s ∧ ∀ tr ∈ trace, R tr := by
  induction run with
  | nil => exact ⟨init, fun _ mem => absurd mem List.not_mem_nil⟩
  | snoc _ allowed ih =>
    obtain ⟨holds, earlier⟩ := ih fun tr mem => meets tr (List.mem_append_left _ mem)
    obtain ⟨after, last⟩ := step _ _ holds allowed (meets _ (List.mem_append_right _ List.mem_cons_self))
    refine ⟨after, fun tr mem => ?_⟩
    rcases List.mem_append.mp mem with mem | mem
    · exact earlier tr mem
    · rw [List.mem_singleton.mp mem]
      exact last

theorem reaches :
    ∀ tr ∈ trace, ∃ earlier, M.Run start earlier tr.pre ∧ M.allowed tr.pre tr.input ∧
      tr = M.take tr.pre tr.input := by
  induction run with
  | nil => exact fun tr mem => absurd mem List.not_mem_nil
  | snoc run allowed ih =>
    intro tr mem
    rcases List.mem_append.mp mem with mem | mem
    · exact ih tr mem
    · have last : tr = M.take _ _ := List.mem_singleton.mp mem
      subst last
      exact ⟨_, run, allowed, rfl⟩

end

theorem append {middle : σ} {first rest : List (Transition σ ι ο)} (run : M.Run start first middle)
    (more : M.Run middle rest s) : M.Run start (first ++ rest) s := by
  induction more with
  | nil => rwa [List.append_nil]
  | snoc _ allowed ih =>
    rw [← List.append_assoc]
    exact ih.snoc allowed

end Run

/- Inputs one after the other. -/

variable (M)

def transitions : σ → List ι → List (Transition σ ι ο)
  | _, [] => []
  | s, i :: rest => M.take s i :: transitions (M.step s i).1 rest

def play : σ → List ι → σ
  | s, [] => s
  | s, i :: rest => play (M.step s i).1 rest

/-- Every input is allowed when its turn comes. -/
def Legal : σ → List ι → Prop
  | _, [] => True
  | s, i :: rest => M.allowed s i ∧ Legal (M.step s i).1 rest

instance decidableLegal [∀ s i, Decidable (M.allowed s i)] : ∀ s inputs, Decidable (M.Legal s inputs)
  | _, [] => isTrue trivial
  | s, i :: rest =>
    have : Decidable (M.Legal (M.step s i).1 rest) := decidableLegal _ rest
    inferInstanceAs (Decidable (M.allowed s i ∧ M.Legal (M.step s i).1 rest))

variable {M}

variable {first rest : List ι} {inputs : List ι}

theorem forall_transitions (P : ι → Prop) : (∀ tr ∈ M.transitions s inputs, P tr.input) ↔ ∀ i ∈ inputs, P i := by
  induction inputs generalizing s with
  | nil => simp [transitions]
  | cons i rest ih => simp [transitions, take, ih]

theorem transitions_append :
    M.transitions s (first ++ rest) = M.transitions s first ++ M.transitions (M.play s first) rest := by
  induction first generalizing s with
  | nil => rfl
  | cons i first ih => simp only [List.cons_append, transitions, play, ih]

theorem play_append : M.play s (first ++ rest) = M.play (M.play s first) rest := by
  induction first generalizing s with
  | nil => rfl
  | cons i first ih => exact ih

theorem legal_append : M.Legal s (first ++ rest) ↔ M.Legal s first ∧ M.Legal (M.play s first) rest := by
  induction first generalizing s with
  | nil => simp [Legal, play]
  | cons i first ih => simp only [List.cons_append, Legal, play, ih, and_assoc]

theorem run_of_legal (legal : M.Legal s inputs) : M.Run s (M.transitions s inputs) (M.play s inputs) := by
  induction inputs generalizing s with
  | nil => exact .nil
  | cons i rest ih =>
    obtain ⟨allowed, legal⟩ := legal
    have first : M.Run s [M.take s i] (M.step s i).1 := Run.nil.snoc allowed
    exact first.append (ih legal)

end Machine

end XSDK.Library
