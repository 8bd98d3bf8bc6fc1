import Mathlib.Data.Finset.Fold
import Mathlib.Data.Finset.Card

/-! Inheritance along a functional graph.
Every node has a base value and at most one parent, and inherits the least value
among its own base and its children. A change at one node is settled by walking
the parent chain until a node does not change. The graph may have cycles; what
keeps the walk short is that a settled assignment disagrees at one node only. -/
namespace XSDK.Library

open Function (update update_self update_of_ne)

variable {α P : Type} [DecidableEq α] [LinearOrder P]

/-- What a node inherits: its base, or a smaller value of one of its children. -/
def lent (S : Finset α) (parent : α → Option α) (base eff : α → P) (a : α) : P :=
  (S.filter fun c => parent c = some a).fold min (base a) eff

/-- Re-evaluate a node and, while something changes, its parent. -/
def settle (S : Finset α) (parent : α → Option α) (base : α → P) :
    Nat → (α → P) → α → (α → P)
  | 0, eff, _ => eff
  | fuel + 1, eff, a =>
    let v := lent S parent base eff a
    let eff' := update eff a v
    if eff a = v then eff'
    else match parent a with
      | none => eff'
      | some b => settle S parent base fuel eff' b

section

variable {S : Finset α} {parent : α → Option α} {base eff : α → P} {a : α} {parent' : α → Option α}

theorem le_lent {x : P} : x ≤ lent S parent base eff a ↔ x ≤ base a ∧ ∀ c ∈ S, parent c = some a → x ≤ eff c := by
  simp [lent, Finset.le_fold_min]

theorem lent_le_base (eff : α → P) (a : α) : lent S parent base eff a ≤ base a :=
  (le_lent.mp le_rfl).1

theorem lent_le_child (base eff : α → P) {a c : α} (hc : c ∈ S) (hp : parent c = some a) :
    lent S parent base eff a ≤ eff c :=
  (le_lent.mp le_rfl).2 c hc hp

theorem lent_attained (eff : α → P) (a : α) :
    lent S parent base eff a = base a ∨ ∃ c ∈ S, parent c = some a ∧ lent S parent base eff a = eff c := by
  have h : lent S parent base eff a ≤ lent S parent base eff a := le_rfl
  rw [lent, Finset.fold_min_le] at h
  rcases h with h | ⟨c, hc, h⟩
  · exact .inl (le_antisymm (lent_le_base eff a) h)
  · rw [Finset.mem_filter] at hc
    exact .inr ⟨c, hc.1, hc.2, le_antisymm (lent_le_child base eff hc.1 hc.2) h⟩

/-- Only the base of a node, its children and their values matter to it. -/
theorem lent_graph {S' : Finset α} {base' eff eff' : α → P}
    (bases : base' a = base a) (children : ∀ c, c ∈ S' ∧ parent' c = some a ↔ c ∈ S ∧ parent c = some a)
    (values : ∀ c ∈ S, parent c = some a → eff' c = eff c) :
    lent S' parent' base' eff' a = lent S parent base eff a := by
  apply eq_of_forall_le_iff
  intro x
  rw [le_lent, le_lent, bases]
  apply and_congr_right
  intro _
  constructor
  · intro all c hc hp
    rw [← values c hc hp]
    obtain ⟨hc', hp'⟩ := (children c).mpr ⟨hc, hp⟩
    exact all c hc' hp'
  · intro all c hc' hp'
    obtain ⟨hc, hp⟩ := (children c).mp ⟨hc', hp'⟩
    rw [values c hc hp]
    exact all c hc hp

theorem lent_congr {eff eff' : α → P} (h : ∀ c ∈ S, parent c = some a → eff' c = eff c) :
    lent S parent base eff' a = lent S parent base eff a :=
  lent_graph rfl (fun _ => Iff.rfl) h

theorem lent_fewer
    (fewer : ∀ c ∈ S, parent' c = some a → parent c = some a) :
    lent S parent base eff a ≤ lent S parent' base eff a := by
  apply le_lent.mpr
  constructor
  · exact lent_le_base eff a
  · intro c hc hp
    exact lent_le_child base eff hc (fewer c hc hp)

theorem lent_update {a b : α} {v : P} (hb : parent a ≠ some b) :
    lent S parent base (update eff a v) b = lent S parent base eff b := by
  apply lent_congr
  intro c _ hp
  refine update_of_ne ?_ _ _
  rintro rfl
  exact hb hp

theorem settle_of_settled (h : eff a = lent S parent base eff a) (fuel : Nat) :
    settle S parent base fuel eff a = eff := by
  cases fuel with
  | zero => rfl
  | succ fuel =>
    simp only [settle, if_pos h]
    rw [← h, Function.update_eq_self]

/-- Every node of S has the value it inherits. -/
def Settled (S : Finset α) (parent : α → Option α) (base eff : α → P) : Prop :=
  ∀ a ∈ S, eff a = lent S parent base eff a

/-- Every node of S but a has the value it inherits. -/
def SettledBut (S : Finset α) (parent : α → Option α) (base eff : α → P) (a : α) : Prop :=
  ∀ u ∈ S, u ≠ a → eff u = lent S parent base eff u

theorem settled_after (but : SettledBut S parent base eff a) :
    ∀ u ∈ S, parent a ≠ some u →
      update eff a (lent S parent base eff a) u = lent S parent base (update eff a (lent S parent base eff a)) u := by
  intro u hu hp
  rw [lent_update hp]
  by_cases h : u = a
  · rw [h, update_self]
  · rw [update_of_ne h, but u hu h]

theorem settledBut_parent {a b : α} (hb : parent a = some b) (but : SettledBut S parent base eff a) :
    SettledBut S parent base (update eff a (lent S parent base eff a)) b := by
  intro u hu hub
  apply settled_after but u hu
  rw [hb]
  exact fun e => hub (Option.some.inj e).symm

theorem settled_root (hp : parent a = none) (but : SettledBut S parent base eff a) :
    Settled S parent base (update eff a (lent S parent base eff a)) := by
  intro u hu
  apply settled_after but u hu
  rw [hp]
  exact nofun

theorem settle_root (hp : parent a = none) {fuel : Nat} (enough : 0 < fuel) :
    settle S parent base fuel eff a = update eff a (lent S parent base eff a) := by
  cases fuel with
  | zero => exact absurd enough (Nat.lt_irrefl 0)
  | succ fuel =>
    simp only [settle, hp]
    split <;> rfl

theorem settled_of_but (h : eff a = lent S parent base eff a)
    (but : SettledBut S parent base eff a) : Settled S parent base eff := by
  intro u hu
  by_cases e : u = a
  · exact e ▸ h
  · exact but u hu e

/- What a change of the graph leaves settled. -/

theorem settled_insert {p : P} (settled : Settled S parent base eff) (fresh : a ∉ S)
    (root : parent a = none) (leaf : ∀ c ∈ S, parent c ≠ some a) :
    Settled (insert a S) parent (update base a p) (update eff a p) := by
  intro u hu
  rcases Finset.mem_insert.mp hu with rfl | hu
  · rw [update_self]
    apply le_antisymm
    · apply le_lent.mpr
      constructor
      · rw [update_self]
      · intro c hc hp
        rcases Finset.mem_insert.mp hc with rfl | hc
        · rw [root] at hp
          cases hp
        · exact absurd hp (leaf c hc)
    · have le : lent (insert u S) parent (update base u p) (update eff u p) u ≤ update base u p u :=
        lent_le_base _ u
      rwa [update_self] at le
  · have ne : u ≠ a := fun e => fresh (e ▸ hu)
    rw [update_of_ne ne, settled u hu]
    symm
    apply lent_graph
    · exact update_of_ne ne _ _
    · intro c
      constructor
      · rintro ⟨hc, hp⟩
        rcases Finset.mem_insert.mp hc with rfl | hc
        · rw [root] at hp
          cases hp
        · exact ⟨hc, hp⟩
      · rintro ⟨hc, hp⟩
        exact ⟨Finset.mem_insert_of_mem hc, hp⟩
    · intro c hc _
      refine update_of_ne ?_ _ _
      rintro rfl
      exact fresh hc

theorem settled_erase (settled : Settled S parent base eff) (root : parent a = none) :
    Settled (S.erase a) parent base eff := by
  intro u hu
  rw [settled u (Finset.mem_of_mem_erase hu)]
  symm
  apply lent_graph rfl
  · intro c
    constructor
    · rintro ⟨hc, hp⟩
      exact ⟨Finset.mem_of_mem_erase hc, hp⟩
    · rintro ⟨hc, hp⟩
      have ne : c ≠ a := by
        rintro rfl
        rw [root] at hp
        cases hp
      exact ⟨Finset.mem_erase.mpr ⟨ne, hc⟩, hp⟩
  · exact fun _ _ _ => rfl

/-- A root gets a parent: only the parent may have to take a smaller value. -/
theorem settledBut_attach {c a : α} (settled : Settled S parent base eff)
    (root : parent c = none) (ha : a ∈ S) : SettledBut S (update parent c (some a)) base eff a ∧
      lent S (update parent c (some a)) base eff a ≤ eff a := by
  constructor
  · intro u hu ne
    rw [settled u hu]
    symm
    apply lent_graph rfl
    · intro d
      apply and_congr_right
      intro _
      rcases eq_or_ne d c with rfl | hd
      · rw [update_self, root]
        constructor
        · exact fun e => absurd (Option.some.inj e).symm ne
        · exact nofun
      · rw [update_of_ne hd]
    · exact fun _ _ _ => rfl
  · rw [settled a ha]
    apply lent_fewer
    intro d _ hp
    have hd : d ≠ c := by
      rintro rfl
      rw [root] at hp
      cases hp
    rwa [update_of_ne hd]

/-- Some children of a node pass to one of them that has no larger value than they have,
and that one becomes a root: only the old parent may have to take a larger value. -/
theorem settledBut_handOver {a w : α} (settled : Settled S parent base eff) (child : parent w = some a) (ne : w ≠ a)
    (moved : ∀ c ∈ S, (c ≠ w ∧ parent' c = parent c) ∨
      (parent c = some a ∧ ((c = w ∧ parent' c = none) ∨ (parent' c = some w ∧ eff w ≤ eff c)))) :
    SettledBut S parent' base eff a := by
  intro u hu other
  rw [settled u hu]
  rcases eq_or_ne u w with rfl | huw
  · apply le_antisymm
    · apply le_lent.mpr
      constructor
      · exact lent_le_base eff u
      · intro c hc hp
        rcases moved c hc with ⟨_, same⟩ | ⟨_, ⟨_, root⟩ | ⟨_, le⟩⟩
        · exact lent_le_child base eff hc (same.symm.trans hp)
        · rw [root] at hp
          cases hp
        · rwa [← settled u hu]
    · apply lent_fewer
      intro c hc hp
      rcases moved c hc with ⟨_, same⟩ | ⟨old, _⟩
      · exact same.trans hp
      · exact absurd (Option.some.inj (hp.symm.trans old)) other
  · symm
    apply lent_graph rfl
    · intro c
      apply and_congr_right
      intro hc
      rcases moved c hc with ⟨_, same⟩ | ⟨old, ⟨_, root⟩ | ⟨new, _⟩⟩
      · rw [same]
      · rw [root, old]
        constructor
        · exact nofun
        · exact fun e => absurd (Option.some.inj e).symm other
      · rw [new, old]
        constructor
        · exact fun e => absurd (Option.some.inj e).symm huw
        · exact fun e => absurd (Option.some.inj e).symm other
    · exact fun _ _ _ => rfl

/-- A child becomes a root: only its old parent may have to take a larger value. -/
theorem settledBut_detach {c a : α} (settled : Settled S parent base eff)
    (child : parent c = some a) (ne : c ≠ a) (ha : a ∈ S) :
    SettledBut S (update parent c none) base eff a ∧ eff a ≤ lent S (update parent c none) base eff a := by
  constructor
  · apply settledBut_handOver settled child ne
    intro d _
    rcases eq_or_ne d c with rfl | hd
    · exact .inr ⟨child, .inl ⟨rfl, update_self ..⟩⟩
    · exact .inl ⟨hd, update_of_ne hd _ _⟩
  · rw [settled a ha]
    apply lent_fewer
    intro d _ hp
    rcases eq_or_ne d c with rfl | hd
    · exact child
    · rwa [update_of_ne hd] at hp

/-- A walk ends at a root, so of two roots it changes one at most. -/
theorem settle_roots {b c : α} (hb : parent b = none) (hc : parent c = none) (ne : b ≠ c) (fuel : Nat)
    (eff : α → P) (a : α) :
    settle S parent base fuel eff a b = eff b ∨ settle S parent base fuel eff a c = eff c := by
  induction fuel generalizing eff a with
  | zero => exact .inl rfl
  | succ fuel ih =>
    rcases eq_or_ne a b with rfl | hab
    · rw [settle_root hb (Nat.succ_pos _), update_of_ne (Ne.symm ne)]
      exact .inr rfl
    · rcases eq_or_ne a c with rfl | hac
      · rw [settle_root hc (Nat.succ_pos _), update_of_ne (Ne.symm hab)]
        exact .inl rfl
      · have same : update eff a (lent S parent base eff a) b = eff b ∧
            update eff a (lent S parent base eff a) c = eff c :=
          ⟨update_of_ne (Ne.symm hab) _ _, update_of_ne (Ne.symm hac) _ _⟩
        simp only [settle]
        split
        · exact .inl same.1
        · cases parent a with
          | none => exact .inl same.1
          | some d =>
            have rest := ih (update eff a (lent S parent base eff a)) d
            rwa [same.1, same.2] at rest

theorem settle_unreached (fuel : Nat) (eff : α → P) (a : α) {u : α}
    (off : ¬Relation.ReflTransGen (fun c b => parent c = some b) a u) :
    settle S parent base fuel eff a u = eff u := by
  induction fuel generalizing eff a with
  | zero => rfl
  | succ fuel ih =>
    have ne : u ≠ a := by
      rintro rfl
      exact off .refl
    have kept : update eff a (lent S parent base eff a) u = eff u := update_of_ne ne _ _
    simp only [settle]
    split
    · exact kept
    · cases hp : parent a with
      | none => exact kept
      | some b => exact (ih _ b fun path => off (.head hp path)).trans kept

theorem settledBut_rebase (settled : Settled S parent base eff) (a : α) (p : P) :
    SettledBut S parent (update base a p) eff a := by
  intro u hu ne
  rw [settled u hu]
  symm
  apply lent_graph
  · exact update_of_ne ne _ _
  · exact fun _ => Iff.rfl
  · exact fun _ _ _ => rfl

theorem lost_value {c a : α} (settled : eff a = lent S parent base eff a)
    (kept : ∀ d ∈ S, d ≠ c → parent d = some a → parent' d = some a)
    (raised : eff a ≠ lent S parent' base eff a) (above : eff a ≤ lent S parent' base eff a) : eff c = eff a := by
  have lt := lt_of_le_of_ne above raised
  have attained : lent S parent base eff a = base a ∨
      ∃ d ∈ S, parent d = some a ∧ lent S parent base eff a = eff d := lent_attained eff a
  rcases attained with own | ⟨d, hd, hp, value⟩
  · rw [settled, own] at lt
    exact absurd (lt.trans_le (lent_le_base eff a)) (lt_irrefl _)
  · rcases eq_or_ne d c with rfl | ne
    · exact value.symm.trans settled.symm
    · rw [settled, value] at lt
      exact absurd (lt.trans_le (lent_le_child base eff hd (kept d hd ne hp))) (lt_irrefl _)

/- The graph a walk may run on: parents stay in S and no node is its own parent. -/
variable (closed : ∀ a ∈ S, ∀ b, parent a = some b → b ∈ S)
  (irrefl : ∀ a ∈ S, parent a ≠ some a)

include closed irrefl in
/-- A walk that lowers values: each node it changes takes the first node's new value,
so the nodes above that value become fewer in every round. -/
theorem settle_lower (fuel : Nat) (eff : α → P) (a : α) (ha : a ∈ S)
    (but : SettledBut S parent base eff a) (below : lent S parent base eff a ≤ eff a)
    (enough : (S.filter fun u => lent S parent base eff a < eff u).card ≤ fuel) :
    Settled S parent base (settle S parent base fuel eff a) ∧
      ∀ u, settle S parent base fuel eff a u = eff u ∨
        settle S parent base fuel eff a u = lent S parent base eff a ∧ lent S parent base eff a < eff u := by
  induction fuel generalizing eff a with
  | zero =>
    have none := Finset.card_eq_zero.mp (Nat.le_zero.mp enough)
    have eq : eff a = lent S parent base eff a := by
      refine le_antisymm (not_lt.mp fun lt => ?_) below
      have mem : a ∈ S.filter fun u => lent S parent base eff a < eff u :=
        Finset.mem_filter.mpr ⟨ha, lt⟩
      rw [none] at mem
      exact absurd mem (Finset.notMem_empty a)
    exact ⟨settled_of_but eq but, fun u => .inl rfl⟩
  | succ fuel ih =>
    by_cases eq : eff a = lent S parent base eff a
    · rw [settle_of_settled eq]
      exact ⟨settled_of_but eq but, fun u => .inl rfl⟩
    · have lt : lent S parent base eff a < eff a := lt_of_le_of_ne below (Ne.symm eq)
      set v := lent S parent base eff a with hv
      have changed : ∀ u, update eff a v u = eff u ∨ update eff a v u = v ∧ v < eff u := by
        intro u
        by_cases hu : u = a
        · exact .inr ⟨by rw [hu, update_self], hu ▸ lt⟩
        · exact .inl (update_of_ne hu _ _)
      simp only [settle, ← hv, if_neg eq]
      cases hp : parent a with
      | none => exact ⟨settled_root hp but, changed⟩
      | some b =>
        dsimp only
        have hb : b ∈ S := closed a ha b hp
        have hba : b ≠ a := fun e => irrefl a ha (hp.trans (congrArg some e))
        have effB : update eff a v b = eff b := update_of_ne hba _ _
        have butB := settledBut_parent hp but
        -- The parent's entitlement is its old value or the new value of the child.
        have lentB : lent S parent base (update eff a v) b = min (eff b) v := by
          apply le_antisymm
          · apply le_min
            · rw [but b hb hba]
              refine le_lent.mpr ⟨lent_le_base _ b, fun c hc hpc => ?_⟩
              have le := lent_le_child base (update eff a v) hc hpc
              by_cases hca : c = a
              · rw [hca, update_self] at le
                exact hca ▸ le.trans lt.le
              · rwa [update_of_ne hca] at le
            · have le := lent_le_child base (update eff a v) ha hp
              rwa [update_self] at le
          · refine le_lent.mpr ⟨?_, fun c hc hpc => ?_⟩
            · rw [but b hb hba]
              exact (min_le_left _ _).trans (lent_le_base eff b)
            · by_cases hca : c = a
              · rw [hca, update_self]
                exact min_le_right _ _
              · rw [update_of_ne hca, but b hb hba]
                exact (min_le_left _ _).trans (lent_le_child base eff hc hpc)
        by_cases stop : eff b ≤ v
        · have same : update eff a v b = lent S parent base (update eff a v) b := by
            rw [lentB, effB, min_eq_left stop]
          rw [settle_of_settled same]
          exact ⟨settled_of_but same butB, changed⟩
        · have lentB' : lent S parent base (update eff a v) b = v := by
            rw [lentB, min_eq_right (not_le.mp stop).le]
          have fewer : (S.filter fun u => v < update eff a v u).card ≤ fuel := by
            have erase : (S.filter fun u => v < update eff a v u) = (S.filter fun u => v < eff u).erase a := by
              ext u
              by_cases hu : u = a
              · simp [hu]
              · simp [hu, update_of_ne]
            rw [erase, Finset.card_erase_of_mem (Finset.mem_filter.mpr ⟨ha, lt⟩)]
            omega
          have rest := ih (update eff a v) b hb butB
            (by rw [lentB', effB]; exact (not_le.mp stop).le) (by rwa [lentB'])
          rw [lentB'] at rest
          refine ⟨rest.1, fun u => ?_⟩
          rcases rest.2 u with h | ⟨h, hlt⟩
          · rw [h]
            exact changed u
          · refine .inr ⟨h, ?_⟩
            rcases changed u with hu | ⟨hu, _⟩
            · rwa [hu] at hlt
            · rw [hu] at hlt
              exact absurd hlt (lt_irrefl v)

include closed irrefl in
/-- A walk that raises values: each node it changes had the first node's old value,
so the nodes at that value become fewer in every round. -/
theorem settle_raise (fuel : Nat) (eff : α → P) (a : α) (ha : a ∈ S)
    (but : SettledBut S parent base eff a) (above : eff a ≤ lent S parent base eff a)
    (enough : (S.filter fun u => eff u = eff a).card ≤ fuel) :
    Settled S parent base (settle S parent base fuel eff a) ∧
      ∀ u, settle S parent base fuel eff a u = eff u ∨ eff u = eff a ∧ eff a < settle S parent base fuel eff a u := by
  induction fuel generalizing eff a with
  | zero =>
    have mem : a ∈ S.filter fun u => eff u = eff a := Finset.mem_filter.mpr ⟨ha, rfl⟩
    rw [Finset.card_eq_zero.mp (Nat.le_zero.mp enough)] at mem
    exact absurd mem (Finset.notMem_empty a)
  | succ fuel ih =>
    by_cases eq : eff a = lent S parent base eff a
    · rw [settle_of_settled eq]
      exact ⟨settled_of_but eq but, fun u => .inl rfl⟩
    · have lt : eff a < lent S parent base eff a := lt_of_le_of_ne above eq
      set v := lent S parent base eff a with hv
      have changed : ∀ u, update eff a v u = eff u ∨ eff u = eff a ∧ eff a < update eff a v u := by
        intro u
        by_cases hu : u = a
        · exact .inr ⟨by rw [hu], by rw [hu, update_self]; exact lt⟩
        · exact .inl (update_of_ne hu _ _)
      simp only [settle, ← hv, if_neg eq]
      cases hp : parent a with
      | none => exact ⟨settled_root hp but, changed⟩
      | some b =>
        dsimp only
        have hb : b ∈ S := closed a ha b hp
        have hba : b ≠ a := fun e => irrefl a ha (hp.trans (congrArg some e))
        have effB : update eff a v b = eff b := update_of_ne hba _ _
        have butB := settledBut_parent hp but
        have lentB : eff b ≤ lent S parent base (update eff a v) b := by
          rw [but b hb hba]
          refine le_lent.mpr ⟨lent_le_base _ b, fun c hc hpc => ?_⟩
          have le := lent_le_child base eff hc hpc
          by_cases hca : c = a
          · rw [hca, update_self]
            exact (hca ▸ le).trans lt.le
          · rwa [update_of_ne hca]
        by_cases stop : eff b = lent S parent base (update eff a v) b
        · have same : update eff a v b = lent S parent base (update eff a v) b := effB.trans stop
          rw [settle_of_settled same]
          exact ⟨settled_of_but same butB, changed⟩
        · -- The parent moves, so only the changed child can have held it down.
          have held : eff b = eff a := by
            have strict := lt_of_le_of_ne lentB stop
            have attained : lent S parent base eff b = base b ∨
                ∃ c ∈ S, parent c = some b ∧ lent S parent base eff b = eff c := lent_attained eff b
            rcases attained with h | ⟨c, hc, hpc, h⟩
            · rw [but b hb hba, h] at strict
              exact absurd (strict.trans_le (lent_le_base _ b)) (lt_irrefl _)
            · by_cases hca : c = a
              · rw [but b hb hba, h, hca]
              · rw [but b hb hba, h] at strict
                have le := lent_le_child base (update eff a v) hc hpc
                rw [update_of_ne hca] at le
                exact absurd (strict.trans_le le) (lt_irrefl _)
          have fewer : (S.filter fun u => update eff a v u = update eff a v b).card ≤ fuel := by
            have erase : (S.filter fun u => update eff a v u = update eff a v b) =
                (S.filter fun u => eff u = eff a).erase a := by
              ext u
              rw [effB, held]
              by_cases hu : u = a
              · simp [hu, lt.ne']
              · simp [hu, update_of_ne]
            have mem : a ∈ S.filter fun u => eff u = eff a := Finset.mem_filter.mpr ⟨ha, rfl⟩
            rw [erase, Finset.card_erase_of_mem mem]
            omega
          have rest := ih (update eff a v) b hb butB (by rw [effB]; exact lentB) fewer
          rw [effB, held] at rest
          refine ⟨rest.1, fun u => ?_⟩
          rcases rest.2 u with h | ⟨h, hlt⟩
          · rw [h]
            exact changed u
          · refine .inr ⟨?_, hlt⟩
            rcases changed u with hu | ⟨hu, _⟩
            · rwa [hu] at h
            · exact hu

include closed irrefl in
/-- A walk from the only node that may be off settles it, whichever way the node has to move. -/
theorem settle_settles (fuel : Nat) (eff : α → P) (a : α) (ha : a ∈ S) (but : SettledBut S parent base eff a)
    (enough : S.card ≤ fuel) : Settled S parent base (settle S parent base fuel eff a) := by
  rcases le_total (lent S parent base eff a) (eff a) with below | above
  · exact (settle_lower closed irrefl fuel eff a ha but below ((Finset.card_filter_le _ _).trans enough)).1
  · exact (settle_raise closed irrefl fuel eff a ha but above ((Finset.card_filter_le _ _).trans enough)).1

end

end XSDK.Library
