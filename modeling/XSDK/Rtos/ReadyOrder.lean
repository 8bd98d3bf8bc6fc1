import XSDK.Rtos.Frame
import XSDK.Rtos.Reprioritize

/-! The order in which a set of tasks stands in the ready list of a priority. What moves
other tasks only does not change it. -/
namespace XSDK.Rtos

open Function (update update_self update_of_ne)
open Library

variable {cfg : Config} {k k' : Kernel} {ring : Finset Nat} {p t : Nat} {line : List Nat}

def Kernel.Lined (k : Kernel) (ring : Finset Nat) (p : Nat) (line : List Nat) : Prop :=
  ∃ lists, k.ready.Holds k.effectivePriority lists ∧ (lists p).filter (· ∈ ring) = line

namespace Kernel.Lined

theorem congr (h : k.Lined ring p line) (ready : k'.ready = k.ready)
    (same : ∀ u, k.ready.map.isSet u = true → k'.effectivePriority u = k.effectivePriority u) :
    k'.Lined ring p line := by
  obtain ⟨lists, held, order⟩ := h
  refine ⟨lists, ?_, order⟩
  rw [ready]
  exact held.congr same

theorem insert (h : k.Lined ring p line) (out : t ∉ ring) (fresh : k.ready.map.isSet t = false)
    (ready : k'.ready = k.ready.insertTail t (k.effectivePriority t))
    (same : k'.effectivePriority = k.effectivePriority) : k'.Lined ring p line := by
  obtain ⟨lists, held, order⟩ := h
  have added := ReadyLists.insertTail_holds held fresh
  rw [← ready, ← same] at added
  refine ⟨_, added, ?_⟩
  rw [same]
  by_cases here : p = k.effectivePriority t
  · subst here
    rw [update_self, List.filter_append, order]
    simp [out]
  · rw [update_of_ne here, order]

theorem erase (h : k.Lined ring p line) (out : t ∉ ring)
    (ready : k'.ready = k.ready.removeAtPriority t (k.effectivePriority t))
    (same : k'.effectivePriority = k.effectivePriority) : k'.Lined ring p line := by
  obtain ⟨lists, held, order⟩ := h
  by_cases inside : k.ready.map.isSet t = true
  · have left := ReadyLists.removeAtPriority_holds held inside
    rw [← ready, ← same] at left
    refine ⟨_, left, ?_⟩
    rw [same]
    by_cases here : p = k.effectivePriority t
    · subst here
      rw [update_self, ← order]
      have nodup := (held.links (k.effectivePriority t)).nodup
      rw [nodup.erase_eq_filter, List.filter_filter]
      refine List.filter_congr fun u _ => ?_
      by_cases hu : u = t
      · simp [hu, out]
      · simp [hu]
    · rw [update_of_ne here, order]
  · have still : k.ready.removeAtPriority t (k.effectivePriority t) = k.ready := by
      simp [ReadyLists.removeAtPriority, inside]
    exact congr ⟨lists, held, order⟩ (ready.trans still) fun u _ => by rw [same]

end Kernel.Lined

/- The functions that touch the ready lists. -/

theorem readyAdd_lined (h : k.Lined ring p line) (out : t ∉ ring) (fresh : k.ready.map.isSet t = false) :
    (readyAdd k t).Lined ring p line :=
  h.insert out fresh rfl rfl

theorem unblock_lined (h : k.Lined ring p line) (found : k.lookup cfg t = some t) (out : t ∉ ring)
    (fresh : k.ready.map.isSet t = false) (status : Return) : (unblock cfg k t status).Lined ring p line := by
  rw [unblock_eq found]
  exact h.insert out fresh rfl rfl

theorem priorityChanged_ready (cfg : Config) (k : Kernel) (t old : Nat) :
    (mutexWaiterPriorityChanged cfg k t old).ready = k.ready ∧
      (mutexWaiterPriorityChanged cfg k t old).effectivePriority = k.effectivePriority := by
  unfold mutexWaiterPriorityChanged
  split
  · exact ⟨rfl, rfl⟩
  · split
    · exact ⟨rfl, rfl⟩
    · unfold mutexWaiterInsert mutexWaiterRemove
      split <;> exact ⟨rfl, rfl⟩

theorem setEffectivePriority_lined (h : k.Lined ring p line)
    (clear : t ∈ ring → k.ready.map.isSet t = false) (q : Nat) :
    (setEffectivePriority cfg k t q).Lined ring p line := by
  unfold setEffectivePriority
  by_cases bound : cfg.maxPriorities ≤ q
  · rw [if_pos bound]
    exact h
  · rw [if_neg bound]
    cases found : k.lookup cfg t with
    | none => exact h
    | some u =>
      obtain ⟨rfl, -, -⟩ := Kernel.lookup_eq_some.mp found
      dsimp only
      by_cases ready : k.ready.map.isSet t = true
      · have out : t ∉ ring := by
          intro mem
          rw [clear mem] at ready
          cases ready
        rw [if_pos ready, if_pos ready]
        have left : (readyRemove k t).Lined ring p line := h.erase out rfl rfl
        have gone : (readyRemove k t).ready.map.isSet t = false := by simp [readyRemove]
        have changed : Kernel.Lined { readyRemove k t with
            effectivePriority := update (readyRemove k t).effectivePriority t q } ring p line := by
          refine left.congr rfl fun u inside => ?_
          refine update_of_ne ?_ _ _
          rintro rfl
          rw [gone] at inside
          cases inside
        obtain ⟨same, eff⟩ := priorityChanged_ready cfg { readyRemove k t with
          effectivePriority := update (readyRemove k t).effectivePriority t q } t (k.effectivePriority t)
        refine readyAdd_lined (changed.congr same fun u _ => by rw [← eff]; rfl) out ?_
        change (mutexWaiterPriorityChanged cfg _ t _).ready.map.isSet t = false
        rw [same]
        exact gone
      · rw [if_neg ready, if_neg ready]
        obtain ⟨same, eff⟩ := priorityChanged_ready cfg { k with
          effectivePriority := update k.effectivePriority t q } t (k.effectivePriority t)
        refine h.congr same fun u inside => ?_
        change (mutexWaiterPriorityChanged cfg _ t _).effectivePriority u = _
        rw [eff]
        refine update_of_ne ?_ _ _
        rintro rfl
        exact ready inside

def Kernel.LendsTo (cfg : Config) (k : Kernel) (t u : Nat) : Prop := k.lender cfg t = some u

theorem recompute_lined (lists : ListsOk cfg k) (reg : k.taskTable t = true)
    (clear : ∀ c ∈ ring, Relation.ReflTransGen (k.LendsTo cfg) t c → k.ready.map.isSet c = false)
    (h : k.Lined ring p line) (depth : Nat) : (recomputeTaskPriority cfg depth k t).Lined ring p line := by
  induction depth generalizing k t with
  | zero => exact h
  | succ depth ih =>
    have inherited := inheritedPriority_eq lists reg
    have small : inheritedPriority cfg k t < cfg.maxPriorities := by
      rw [inherited]
      exact (lent_le_base _ _).trans_lt (lists.base t reg)
    obtain ⟨ok, only, -⟩ := setEffectivePriority_spec lists reg small
    have first : (setEffectivePriority cfg k t (inheritedPriority cfg k t)).Lined ring p line :=
      setEffectivePriority_lined h (fun mem => clear t mem .refl) _
    simp only [recomputeTaskPriority]
    by_cases same : k.effectivePriority t = inheritedPriority cfg k t
    · rw [if_pos same]
      exact first
    · rw [if_neg same, only.waitingOn]
      cases hw : k.waiters.waitingOn t with
      | none => exact first
      | some m =>
        have ownerReg := (lists.owner m (lists.waiter t m hw).2.2.2).1
        have up : k.LendsTo cfg t (k.owners.owner m) := lists.lender_eq_some.mpr ⟨m, hw, rfl⟩
        have reg' : (setEffectivePriority cfg k t (inheritedPriority cfg k t)).taskTable
            (k.owners.owner m) = true := by rwa [only.taskTable]
        rw [only.owners]
        dsimp only
        rw [ok.lookup reg']
        refine ih ok reg' (fun c mem reach => ?_) first
        rw [only.readyBits]
        refine clear c mem (.head up ?_)
        have same : (setEffectivePriority cfg k t (inheritedPriority cfg k t)).LendsTo cfg = k.LendsTo cfg := by
          unfold Kernel.LendsTo
          rw [only.lender]
        rwa [same] at reach

theorem expire_lined (inv : k.Inv cfg) (reg : k.taskTable t = true) (blocked : k.task.state t = .blocked)
    (out : t ∉ ring) (clear : ∀ c ∈ ring, Relation.TransGen (k.LendsTo cfg) t c → k.ready.map.isSet c = false)
    (h : k.Lined ring p line) : (unblock cfg (blockCleanup cfg k t) t .timeout).Lined ring p line := by
  have notReady : k.ready.map.isSet t = false := by
    rw [← Bool.not_eq_true, (inv.task t).ready, blocked]
    exact fun e => nomatch e.2
  rcases blockCleanup_cases inv reg blocked with ⟨m, waiting, hook⟩ | ⟨-, payload, hook⟩
  · rw [hook]
    obtain ⟨lists, left, -, -⟩ := mutexWaiterRemove_spec inv.lists waiting
    obtain ⟨-, fOwners, fTable, -, fReady, fEff, -⟩ := mutexWaiterRemove_frame waiting
    have owned := (inv.lists.waiter t m waiting).2.2.2
    have ownerReg := (inv.lists.owner m owned).1
    have regOwner : (mutexWaiterRemove k m t).taskTable (k.owners.owner m) = true := by rw [fTable]; exact ownerReg
    have removed : (mutexWaiterRemove k m t).Lined ring p line := h.congr fReady fun u _ => by rw [fEff]
    have up : k.LendsTo cfg t (k.owners.owner m) := inv.lists.lender_eq_some.mpr ⟨m, waiting, rfl⟩
    have fewer : ∀ a b, (mutexWaiterRemove k m t).LendsTo cfg a b → k.LendsTo cfg a b := by
      intro a b lends
      obtain ⟨n, hn, own⟩ := lists.lender_eq_some.mp lends
      rw [left] at hn
      by_cases at_t : a = t
      · rw [at_t, update_self] at hn
        cases hn
      · rw [update_of_ne at_t] at hn
        exact inv.lists.lender_eq_some.mpr ⟨n, hn, by rw [← own, fOwners]⟩
    have recomputed : (mutexRecomputeTaskPriority cfg (mutexWaiterRemove k m t) (k.owners.owner m)).Lined ring p
        line := recompute_lined lists regOwner (fun c mem reach => by
      rw [fReady]
      exact clear c mem (Relation.TransGen.head' up (Relation.ReflTransGen.mono fewer _ _ reach))) removed (cfg.maxTasks + 1)
    obtain ⟨lists', only, -⟩ := recompute_spec lists regOwner
    refine unblock_lined recomputed (lists'.lookup ?_) out ?_ .timeout
    · rw [only.taskTable, fTable]
      exact reg
    · rw [only.readyBits, fReady]
      exact notReady
  · rw [hook]
    have found := (inv.setPayload t payload).lists.lookup (t := t) reg
    exact unblock_lined (k := k.setPayload t payload) (h.congr rfl fun _ _ => rfl) found out notReady .timeout

/- Steps that leave the tasks as they are. -/

structure Still (ring : Finset Nat) (k k' : Kernel) : Prop where
  line : ∀ p line, k.Lined ring p line → k'.Lined ring p line
  state : ∀ c ∈ ring, k'.task.state c = k.task.state c
  currentTaskId : k'.scheduler.currentTaskId = k.scheduler.currentTaskId

namespace Still

theorem refl (k : Kernel) : Still ring k k := ⟨fun _ _ => id, fun _ _ => rfl, rfl⟩

theorem trans {k'' : Kernel} (h : Still ring k k') (h' : Still ring k' k'') : Still ring k k'' :=
  ⟨fun p line lined => h'.line p line (h.line p line lined), fun c mem => (h'.state c mem).trans (h.state c mem),
    h'.currentTaskId.trans h.currentTaskId⟩

theorem of_eq (ready : k'.ready = k.ready) (eff : k'.effectivePriority = k.effectivePriority)
    (state : k'.task.state = k.task.state) (current : k'.scheduler.currentTaskId = k.scheduler.currentTaskId) :
    Still ring k k' :=
  ⟨fun _ _ lined => lined.congr ready fun u _ => by rw [eff], fun c _ => by rw [state], current⟩

theorem unblock (found : k.lookup cfg t = some t) (out : t ∉ ring) (fresh : k.ready.map.isSet t = false)
    (status : Return) : Still ring k (Rtos.unblock cfg k t status) := by
  refine ⟨fun p line lined => unblock_lined lined found out fresh status, fun c mem => ?_, ?_⟩
  · rw [unblock_eq found]
    refine update_of_ne ?_ _ _
    rintro rfl
    exact out mem
  · rw [unblock_eq found]

theorem wake (inv : k.Inv cfg) {w : WaitObject} (waits : k.WaitsOn t w) (out : t ∉ ring) (payload : Payload)
    (status : Return) : Still ring k (Rtos.unblock cfg (k.setPayload t payload) t status) := by
  have found := (inv.setPayload t payload).lists.lookup (t := t) waits.1
  have notReady : k.ready.map.isSet t = false := by
    rw [← Bool.not_eq_true, (inv.task t).ready, waits.2.1]
    exact fun e => nomatch e.2
  have written : Still ring k (k.setPayload t payload) := .of_eq rfl rfl rfl rfl
  exact written.trans (.unblock found out notReady status)

theorem recompute (lists : ListsOk cfg k) (reg : k.taskTable t = true)
    (clear : ∀ c ∈ ring, Relation.ReflTransGen (k.LendsTo cfg) t c → k.ready.map.isSet c = false) :
    Still ring k (mutexRecomputeTaskPriority cfg k t) := by
  obtain ⟨-, only, -⟩ := recompute_spec lists reg
  exact ⟨fun p line lined => recompute_lined lists reg clear lined (cfg.maxTasks + 1),
    fun c _ => by rw [only.task], only.currentTaskId⟩

theorem recompute_alone (lists : ListsOk cfg k) (reg : k.taskTable t = true) (alone : k.waiters.waitingOn t = none)
    (clear : t ∈ ring → k.ready.map.isSet t = false) : Still ring k (mutexRecomputeTaskPriority cfg k t) := by
  refine .recompute lists reg fun c mem reach => ?_
  rcases Relation.ReflTransGen.cases_head reach with same | ⟨u, up, -⟩
  · subst same
    exact clear mem
  · obtain ⟨m, waiting, -⟩ := lists.lender_eq_some.mp up
    rw [alone] at waiting
    cases waiting

theorem expire (inv : k.Inv cfg) (reg : k.taskTable t = true) (blocked : k.task.state t = .blocked) (out : t ∉ ring)
    (clear : ∀ c ∈ ring, Relation.TransGen (k.LendsTo cfg) t c → k.ready.map.isSet c = false) :
    Still ring k (Rtos.unblock cfg (blockCleanup cfg k t) t .timeout) := by
  obtain ⟨-, wakes, -⟩ := expire_spec inv reg blocked
  refine ⟨fun p line lined => expire_lined inv reg blocked out clear lined, fun c mem => ?_, wakes.currentTaskId⟩
  have other : c ≠ t := by
    rintro rfl
    exact out mem
  rw [wakes.state, if_pos (wokenBy_of_ne other _)]

end Still

end XSDK.Rtos
