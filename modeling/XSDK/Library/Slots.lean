import Mathlib.Logic.Function.Basic

/-! One representative for each key: a slot holds some member with its key, and is empty
where no member has it. -/
namespace XSDK.Library

open Function (update update_self update_of_ne)

variable {ι κ : Type}

structure Slotted (member : ι → Bool) (key : ι → κ) (slot : κ → Option ι) : Prop where
  sound : ∀ p t, slot p = some t → member t = true ∧ key t = p
  complete : ∀ p, slot p = none → ∀ t, member t = true → key t ≠ p

/-- What a search for a member with a key answers. -/
structure Found (member : ι → Bool) (key : ι → κ) (p : κ) (answer : Option ι) : Prop where
  sound : ∀ t, answer = some t → member t = true ∧ key t = p
  complete : answer = none → ∀ t, member t = true → key t ≠ p

namespace Slotted

variable {member : ι → Bool} {key : ι → κ} {slot : κ → Option ι} (slotted : Slotted member key slot)
include slotted

theorem taken_iff (p : κ) : slot p ≠ none ↔ ∃ t, member t = true ∧ key t = p := by
  constructor
  · intro taken
    obtain ⟨t, holds⟩ := Option.ne_none_iff_exists'.mp taken
    exact ⟨t, slotted.sound p t holds⟩
  · rintro ⟨t, mem, same⟩ free
    exact slotted.complete p free t mem same

theorem free_iff (p : κ) : slot p = none ↔ ∀ t, member t = true → key t ≠ p := by
  refine ⟨slotted.complete p, fun none_has => ?_⟩
  by_contra taken
  obtain ⟨t, mem, same⟩ := (slotted.taken_iff p).mp taken
  exact none_has t mem same

variable [DecidableEq ι] [DecidableEq κ]

variable {answer : Option ι} {t : ι}

theorem insert {p : κ} (fresh : member t = false) :
    Slotted (update member t true) (update key t p)
      (if slot p = none then update slot p (some t) else slot) := by
  have others : ∀ u, member u = true → update member t true u = true ∧ update key t p u = key u := by
    intro u mem
    have ne : u ≠ t := by
      rintro rfl
      rw [fresh] at mem
      cases mem
    rw [update_of_ne ne, update_of_ne ne]
    exact ⟨mem, rfl⟩
  have held : ∀ q u, slot q = some u → update member t true u = true ∧ update key t p u = q := by
    intro q u holds
    obtain ⟨mem, same⟩ := slotted.sound q u holds
    rw [(others u mem).1, (others u mem).2]
    exact ⟨rfl, same⟩
  by_cases free : slot p = none
  · rw [if_pos free]
    constructor
    · intro q u holds
      by_cases at_p : q = p
      · subst at_p
        rw [update_self] at holds
        cases holds
        rw [update_self, update_self]
        exact ⟨rfl, rfl⟩
      · rw [update_of_ne at_p] at holds
        exact held q u holds
    · intro q empty u mem same
      by_cases at_p : q = p
      · subst at_p
        rw [update_self] at empty
        cases empty
      · rw [update_of_ne at_p] at empty
        by_cases new : u = t
        · subst new
          rw [update_self] at same
          exact at_p same.symm
        · rw [update_of_ne new] at mem same
          exact slotted.complete q empty u mem same
  · rw [if_neg free]
    refine ⟨held, fun q empty u mem same => ?_⟩
    by_cases new : u = t
    · subst new
      rw [update_self] at same
      rw [same] at free
      exact free empty
    · rw [update_of_ne new] at mem same
      exact slotted.complete q empty u mem same

theorem erase (again : Found (update member t false) key (key t) answer) :
    Slotted (update member t false) key (update slot (key t) answer) := by
  constructor
  · intro q u holds
    by_cases own : q = key t
    · subst own
      rw [update_self] at holds
      exact again.sound u holds
    · rw [update_of_ne own] at holds
      obtain ⟨mem, same⟩ := slotted.sound q u holds
      have ne : u ≠ t := by
        rintro rfl
        exact own same.symm
      rw [update_of_ne ne]
      exact ⟨mem, same⟩
  · intro q empty u mem same
    by_cases own : q = key t
    · subst own
      rw [update_self] at empty
      exact again.complete empty u mem same
    · rw [update_of_ne own] at empty
      have ne : u ≠ t := by
        rintro rfl
        exact own same.symm
      rw [update_of_ne ne] at mem
      exact slotted.complete q empty u mem same

theorem vacate (again : Found (update member t false) key (key t) answer) :
    Slotted (update member t false) key
      (if slot (key t) = some t then update slot (key t) answer else slot) := by
  by_cases mine : slot (key t) = some t
  · rw [if_pos mine]
    exact slotted.erase again
  · rw [if_neg mine]
    constructor
    · intro q u holds
      obtain ⟨mem, same⟩ := slotted.sound q u holds
      have ne : u ≠ t := by
        rintro rfl
        rw [same] at mine
        exact mine holds
      rw [update_of_ne ne]
      exact ⟨mem, same⟩
    · intro q empty u mem same
      by_cases ne : u = t
      · subst ne
        rw [update_self] at mem
        cases mem
      · rw [update_of_ne ne] at mem
        exact slotted.complete q empty u mem same

/-- A member that changes its key: it leaves the old slot and enters the new one. -/
theorem rekey {p : κ} (mem : member t = true) (again : Found (update member t false) key (key t) answer) :
    Slotted member (update key t p)
      (let left := if slot (key t) = some t then update slot (key t) answer else slot
       if left p = none then update left p (some t) else left) := by
  have back := (slotted.vacate again).insert (p := p) (update_self t false member)
  have same : update (update member t false) t true = member := by
    rw [Function.update_idem, ← mem, Function.update_eq_self]
  rw [same] at back
  exact back

end Slotted

end XSDK.Library
