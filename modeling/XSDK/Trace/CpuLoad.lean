import Mathlib.Algebra.BigOperators.Ring.List
import Mathlib.Data.List.TakeWhile
import XSDK.Library.Intervals
import XSDK.Trace.Slices

/-! The rolling load against its definition: the share of a window that a task's running
slices fill. -/
namespace XSDK.Trace

open Library
open List (append_nil map_cons map_map map_nil mem_cons mem_cons_self mem_map sum_cons sum_eq_zero)

variable {t : Tracker} {winStart tsUs windowUs acc : ℚ} {ivs : List (ℚ × ℚ)} {idx : Nat} {running : List Slice}

/- The scan of one task. -/

theorem scanOverlap_eq (sorted : ivs.Pairwise fun x y => x.1 ≤ y.1) :
    scanOverlap winStart tsUs ivs acc = acc + (ivs.map (Intervals.clip winStart tsUs)).sum := by
  induction ivs generalizing acc with
  | nil => rw [scanOverlap, map_nil, List.sum_nil, add_zero]
  | cons iv ivs ih =>
    obtain ⟨start, stop⟩ := iv
    obtain ⟨later, rest⟩ := List.pairwise_cons.mp sorted
    rw [scanOverlap]
    by_cases out : tsUs ≤ start
    · have none_left : ∀ iv ∈ (start, stop) :: ivs, Intervals.clip winStart tsUs iv = 0 := by
        intro iv mem
        rcases mem_cons.mp mem with rfl | after
        · exact Intervals.clip_eq_zero (.inr out)
        · exact Intervals.clip_eq_zero (.inr (le_trans out (later iv after)))
      have nothing : (((start, stop) :: ivs).map (Intervals.clip winStart tsUs)).sum = 0 := by
        apply sum_eq_zero
        intro part mem
        obtain ⟨iv, inside, rfl⟩ := mem_map.mp mem
        exact none_left iv inside
      rw [if_pos out, nothing, add_zero]
    · rw [if_neg out, map_cons, sum_cons, ← add_assoc]
      by_cases some_part : max start winStart < min stop tsUs
      · have part : Intervals.clip winStart tsUs (start, stop) = min stop tsUs - max start winStart :=
          max_eq_right (le_of_lt (sub_pos.mpr some_part))
        simp only [if_pos some_part]
        rw [ih rest, part]
      · have no_part : Intervals.clip winStart tsUs (start, stop) = 0 :=
          max_eq_left (sub_nonpos.mpr (not_lt.mp some_part))
        simp only [if_neg some_part]
        rw [ih rest, no_part, add_zero]

def Skipped (ivs : List (ℚ × ℚ)) (winStart : ℚ) (idx : Nat) : Prop := ∀ iv ∈ ivs.take idx, iv.2 ≤ winStart

theorem skipped_zero (ivs : List (ℚ × ℚ)) (winStart : ℚ) : Skipped ivs winStart 0 := by
  intro iv mem
  rw [List.take_zero] at mem
  cases mem

theorem Skipped.later {winStart' : ℚ} (skipped : Skipped ivs winStart idx) (le : winStart ≤ winStart') :
    Skipped ivs winStart' idx := fun iv mem => le_trans (skipped iv mem) le

theorem Skipped.advance (skipped : Skipped ivs winStart idx) :
    Skipped ivs winStart (advanceIndex ivs winStart idx) := by
  intro iv mem
  rw [advanceIndex, List.take_add, List.mem_append] at mem
  rcases mem with old | new
  · exact skipped iv old
  · have front := List.takeWhile_prefix (l := ivs.drop idx) fun iv => decide (iv.2 ≤ winStart)
    rw [← List.prefix_iff_eq_take.mp front] at new
    exact of_decide_eq_true (List.mem_takeWhile_imp (p := fun iv : ℚ × ℚ => decide (iv.2 ≤ winStart)) new)

/-- Skipped intervals add nothing, so a scan from the index is a scan of all. -/
theorem sum_clip_drop (skipped : Skipped ivs winStart idx) :
    ((ivs.drop idx).map (Intervals.clip winStart tsUs)).sum = (ivs.map (Intervals.clip winStart tsUs)).sum := by
  have front : ((ivs.take idx).map (Intervals.clip winStart tsUs)).sum = 0 := by
    apply sum_eq_zero
    intro part mem
    obtain ⟨iv, inside, rfl⟩ := mem_map.mp mem
    exact Intervals.clip_eq_zero (.inl (skipped iv inside))
  conv => rhs; rw [← List.take_append_drop idx ivs, List.map_append, List.sum_append, front, zero_add]

theorem scanOverlap_advanced (sorted : ivs.Pairwise fun x y => x.1 ≤ y.1) (skipped : Skipped ivs winStart idx) :
    scanOverlap winStart tsUs (ivs.drop (advanceIndex ivs winStart idx)) 0 =
      (ivs.map (Intervals.clip winStart tsUs)).sum := by
  rw [scanOverlap_eq (sorted.sublist (List.drop_sublist _ _)), zero_add, sum_clip_drop skipped.advance]

/- The intervals of a task. -/

def sortedIntervals (running : List Slice) (taskId : Nat) : List (ℚ × ℚ) :=
  ((running.filter fun s => s.tid = taskId).map Slice.interval).mergeSort beforeOrAt

theorem sortedIntervals_sorted (running : List Slice) (taskId : Nat) :
    (sortedIntervals running taskId).Pairwise fun x y => x.1 ≤ y.1 := by
  have trans (x y z : ℚ × ℚ) (xy : beforeOrAt x y = true) (yz : beforeOrAt y z = true) : beforeOrAt x z = true := by
    simp only [beforeOrAt, decide_eq_true_eq] at *
    grind
  have total (x y : ℚ × ℚ) : (beforeOrAt x y || beforeOrAt y x) = true := by
    simp only [beforeOrAt, Bool.or_eq_true, decide_eq_true_eq]
    grind
  apply (List.pairwise_mergeSort trans total _).imp
  intro x y ordered
  rw [beforeOrAt, decide_eq_true_eq] at ordered
  rcases ordered with before | ⟨same, -⟩
  · exact le_of_lt before
  · exact le_of_eq same

theorem sortedSet_nodup (l : List Nat) : (sortedSet l).Nodup :=
  (List.mergeSort_perm _ _).nodup_iff.mpr (List.nodup_dedup l)

theorem mem_sortedSet {l : List Nat} {n : Nat} : n ∈ sortedSet l ↔ n ∈ l := by
  rw [sortedSet, List.mem_mergeSort, List.mem_dedup]

theorem sortedSet_sorted (l : List Nat) : (sortedSet l).Pairwise (· ≤ ·) := by
  have sorted : (sortedSet l).Pairwise fun a b => decide (a ≤ b) = true :=
    List.pairwise_mergeSort (by grind) (by grind) l.dedup
  apply sorted.imp
  intro a b le
  exact of_decide_eq_true le

/-- How much of the window up to a switch time the task's running slices fill. -/
def Tracker.filled (t : Tracker) (windowUs : ℚ) (tsUs taskId : Nat) : ℚ :=
  ((t.runningSlices.filter fun s => s.tid = taskId).map fun s =>
    Intervals.clip ((tsUs : ℚ) - windowUs) tsUs s.interval).sum

theorem sum_sortedIntervals (t : Tracker) (windowUs : ℚ) (ts taskId : Nat) :
    ((sortedIntervals t.runningSlices taskId).map (Intervals.clip ((ts : ℚ) - windowUs) ts)).sum =
      t.filled windowUs ts taskId := by
  have same := (List.mergeSort_perm ((t.runningSlices.filter fun s => s.tid = taskId).map Slice.interval) beforeOrAt).map
    (Intervals.clip ((ts : ℚ) - windowUs) ts)
  rw [sortedIntervals, same.sum_eq, map_map]
  rfl

/- The run of the switch times. -/

/-- Each task's start index is past intervals before the window only. -/
def Indexed (running : List Slice) (winStart : ℚ) (idx : Nat → Nat) : Prop :=
  ∀ taskId, Skipped (sortedIntervals running taskId) winStart (idx taskId)

def Tracker.sample (t : Tracker) (windowUs : ℚ) (ts taskId : Nat) : CpuEvent :=
  .counter (t.taskName taskId) taskId ts (100 / windowUs * t.filled windowUs ts taskId)

theorem loadTask_sample (pos : 0 < windowUs) {ts : Nat} {idx : Nat → Nat} (events : List CpuEvent) (taskId : Nat)
    (indexed : Indexed t.runningSlices ((ts : ℚ) - windowUs) idx) :
    ∃ idx', Indexed t.runningSlices ((ts : ℚ) - windowUs) idx' ∧
      t.loadTask windowUs ts (idx, events) (taskId, sortedIntervals t.runningSlices taskId) =
        (idx', events ++ [t.sample windowUs ts taskId]) := by
  refine ⟨Function.update idx taskId
    (advanceIndex (sortedIntervals t.runningSlices taskId) ((ts : ℚ) - windowUs) (idx taskId)), ?_, ?_⟩
  · intro other
    by_cases same : other = taskId
    · subst same
      rw [Function.update_self]
      exact (indexed other).advance
    · rw [Function.update_of_ne same]
      exact indexed other
  · rw [Tracker.loadTask]
    simp only
    rw [if_pos pos, scanOverlap_advanced (sortedIntervals_sorted _ _) (indexed taskId), sum_sortedIntervals,
      div_mul_comm, Tracker.sample]

theorem loadTasks_sample (pos : 0 < windowUs) {ts : Nat} (tasks : List Nat) {idx : Nat → Nat} (events : List CpuEvent)
    (indexed : Indexed t.runningSlices ((ts : ℚ) - windowUs) idx) :
    ∃ idx', Indexed t.runningSlices ((ts : ℚ) - windowUs) idx' ∧
      (tasks.map fun taskId => (taskId, sortedIntervals t.runningSlices taskId)).foldl (t.loadTask windowUs ts)
        (idx, events) = (idx', events ++ tasks.map (t.sample windowUs ts)) := by
  induction tasks generalizing idx events with
  | nil => exact ⟨idx, indexed, by rw [map_nil, map_nil, append_nil, List.foldl_nil]⟩
  | cons taskId tasks ih =>
    obtain ⟨first, indexed', step⟩ := loadTask_sample pos events taskId indexed
    obtain ⟨last, indexed'', run⟩ := ih (events ++ [t.sample windowUs ts taskId]) indexed'
    refine ⟨last, indexed'', ?_⟩
    rw [map_cons, List.foldl_cons, step, run, map_cons, List.append_assoc, List.singleton_append]

/-- The windows move up from one switch time to the next, so an index never has to go back. -/
theorem loads_sample (pos : 0 < windowUs) (tasks : List Nat) {times : List Nat} (sorted : times.Pairwise (· ≤ ·))
    {idx : Nat → Nat} {events : List CpuEvent}
    (indexed : ∀ ts ∈ times, Indexed t.runningSlices ((ts : ℚ) - windowUs) idx) :
    (times.foldl (fun acc ts => (tasks.map fun taskId => (taskId, sortedIntervals t.runningSlices taskId)).foldl
      (t.loadTask windowUs ts) acc) (idx, events)).2 =
        events ++ times.flatMap fun ts => tasks.map (t.sample windowUs ts) := by
  induction times generalizing idx events with
  | nil => rw [List.flatMap_nil, append_nil, List.foldl_nil]
  | cons ts times ih =>
    obtain ⟨later, rest⟩ := List.pairwise_cons.mp sorted
    obtain ⟨idx', indexed', step⟩ := loadTasks_sample pos tasks events (indexed ts mem_cons_self)
    have windows : ∀ ts' ∈ times, Indexed t.runningSlices ((ts' : ℚ) - windowUs) idx' := by
      intro ts' mem taskId
      apply (indexed' taskId).later
      exact sub_le_sub_right (Nat.cast_le.mpr (later ts' mem)) windowUs
    rw [List.foldl_cons, step, ih rest windows, List.flatMap_cons, List.append_assoc]

theorem cpuLoadCounters_eq (t : Tracker) (pos : 0 < windowUs) (some_run : t.runningSlices ≠ []) :
    t.cpuLoadCounters windowUs =
      (.processName :: (byTask t.runningSlices).map fun task => .threadName task.1 (t.taskName task.1)) ++
        (sortedSet (t.runningSlices.map (·.ts))).flatMap fun ts =>
          (sortedSet (t.runningSlices.map (·.tid))).map (t.sample windowUs ts) := by
  rw [Tracker.cpuLoadCounters]
  simp only
  rw [if_neg some_run]
  apply loads_sample pos _ (sortedSet_sorted _)
  intro ts _ taskId
  exact skipped_zero _ _

/- The load against its definition. -/

/-- The switch time, the task and the load that a counter event shows. -/
def CpuEvent.reading : CpuEvent → Option ((Nat × Nat) × ℚ)
  | .processName => none
  | .threadName _ _ => none
  | .counter _ tid ts cpu => some ((ts, tid), cpu)

def Tracker.readings (t : Tracker) (windowUs : ℚ) : List ((Nat × Nat) × ℚ) :=
  (t.cpuLoadCounters windowUs).filterMap CpuEvent.reading

theorem readings_eq (t : Tracker) (pos : 0 < windowUs) :
    t.readings windowUs =
      (sortedSet (t.runningSlices.map (·.ts))).flatMap fun ts =>
        (sortedSet (t.runningSlices.map (·.tid))).map fun taskId =>
          ((ts, taskId), 100 / windowUs * t.filled windowUs ts taskId) := by
  by_cases some_run : t.runningSlices = []
  · rw [Tracker.readings, Tracker.cpuLoadCounters]
    simp only
    rw [if_pos some_run, some_run, map_nil, map_nil, List.filterMap_nil, sortedSet, List.dedup_nil,
      List.mergeSort_nil, List.flatMap_nil]
  · have names : (CpuEvent.processName ::
        (byTask t.runningSlices).map fun task => .threadName task.1 (t.taskName task.1)).filterMap CpuEvent.reading = [] := by
      rw [List.filterMap_cons_none rfl, List.filterMap_map]
      exact List.filterMap_eq_nil_iff.mpr fun task _ => rfl
    rw [Tracker.readings, cpuLoadCounters_eq t pos some_run, List.filterMap_append, names, List.nil_append,
      List.filterMap_flatMap]
    congr 1
    funext ts
    rw [List.filterMap_map]
    exact congrFun List.filterMap_eq_map _

variable {tasks : List Nat}

theorem sum_by_task {f : Slice → ℚ} (nodup : tasks.Nodup) {slices : List Slice}
    (covered : ∀ s ∈ slices, s.tid ∈ tasks) :
    (tasks.map fun taskId => ((slices.filter fun s => s.tid = taskId).map f).sum).sum = (slices.map f).sum := by
  induction slices with
  | nil =>
    apply sum_eq_zero
    intro part mem
    obtain ⟨taskId, -, rfl⟩ := mem_map.mp mem
    rfl
  | cons s slices ih =>
    have split_head : ∀ taskId, (((s :: slices).filter fun s => s.tid = taskId).map f).sum =
        (if taskId = s.tid then f s else 0) + ((slices.filter fun s => s.tid = taskId).map f).sum := by
      intro taskId
      rw [List.filter_cons]
      by_cases same : s.tid = taskId
      · rw [if_pos (decide_eq_true same), if_pos same.symm, map_cons, sum_cons]
      · rw [if_neg (by simpa using same), if_neg (Ne.symm same), zero_add]
    have once : (tasks.map fun taskId => if taskId = s.tid then f s else 0).sum = f s := by
      rw [List.sum_map_eq_nsmul_single s.tid _ fun other ne _ => if_neg ne, if_pos rfl,
        List.count_eq_one_of_mem nodup (covered s mem_cons_self), one_nsmul]
    simp only [split_head]
    rw [List.sum_map_add, once, ih fun s' mem => covered s' (List.mem_cons_of_mem _ mem), map_cons, sum_cons]

theorem readings_at {times tasks : List Nat} (nodup : times.Nodup) (load : Nat → Nat → ℚ) (ts : Nat) :
    ((times.flatMap fun time => tasks.map fun taskId => ((time, taskId), load time taskId)).filter
      fun r => r.1.1 = ts).map (·.2) = if ts ∈ times then tasks.map (load ts) else [] := by
  induction times with
  | nil => rfl
  | cons time times ih =>
    obtain ⟨new, rest⟩ := List.nodup_cons.mp nodup
    rw [List.flatMap_cons, List.filter_append, List.map_append, ih rest]
    by_cases here : time = ts
    · subst here
      have all : ∀ r ∈ tasks.map fun taskId => ((time, taskId), load time taskId), decide (r.1.1 = time) = true := by
        intro r mem
        obtain ⟨taskId, -, rfl⟩ := mem_map.mp mem
        exact decide_eq_true rfl
      rw [List.filter_eq_self.mpr all, if_neg new, append_nil, if_pos mem_cons_self, map_map]
      rfl
    · have nothing : (tasks.map fun taskId => ((time, taskId), load time taskId)).filter
          (fun r => r.1.1 = ts) = [] := by
        apply List.filter_eq_nil_iff.mpr
        intro r mem
        obtain ⟨taskId, -, rfl⟩ := mem_map.mp mem
        simpa using here
      have same : ts ∈ time :: times ↔ ts ∈ times := by
        rw [mem_cons, or_iff_right (Ne.symm here)]
      rw [nothing, map_nil, List.nil_append]
      simp only [same]

theorem sum_loads_le (pos : 0 < windowUs) (ts : Nat) (nodup : tasks.Nodup)
    (apart : t.runningSlices.Pairwise fun x y => Intervals.Apart x.interval y.interval)
    (covered : ∀ s ∈ t.runningSlices, s.tid ∈ tasks) :
    (tasks.map fun taskId => 100 / windowUs * t.filled windowUs ts taskId).sum ≤ 100 := by
  have proper : ∀ iv ∈ t.runningSlices.map Slice.interval, iv.1 ≤ iv.2 := by
    intro iv mem
    obtain ⟨s, -, rfl⟩ := mem_map.mp mem
    exact le_add_of_nonneg_right (Nat.cast_nonneg s.dur)
  have fits := Intervals.sum_clip_le (sub_le_self (ts : ℚ) (le_of_lt pos)) proper (List.pairwise_map.mpr apart)
  rw [map_map, sub_sub_cancel] at fits
  have total := sum_by_task (f := Intervals.clip ((ts : ℚ) - windowUs) ts ∘ Slice.interval) nodup covered
  have factor : (tasks.map fun taskId => 100 / windowUs * t.filled windowUs ts taskId).sum =
      100 / windowUs * (tasks.map (t.filled windowUs ts)).sum := List.sum_map_mul_left ..
  calc (tasks.map fun taskId => 100 / windowUs * t.filled windowUs ts taskId).sum
      = 100 / windowUs * (t.runningSlices.map (Intervals.clip ((ts : ℚ) - windowUs) ts ∘ Slice.interval)).sum := by
        rw [factor, ← total]
        rfl
    _ ≤ 100 / windowUs * windowUs := by
        apply mul_le_mul_of_nonneg_left fits
        positivity
    _ = 100 := div_mul_cancel₀ 100 (ne_of_gt pos)

/-- Each counter shows the share of its window that its task's running slices fill, each switch
time and task has one counter, and the shares of slices that are apart add up to at most all. -/
theorem cpu_load_exact (taskNames : Nat → Option String) (records : List TraceRecord)
    (sorted : records.Pairwise fun x y => x.timestamp ≤ y.timestamp) (endTsUs : Nat)
    (windowUs : ℚ) (pos : 0 < windowUs)
    (t : Tracker) (run : t = ((Tracker.init taskNames).processAll records).finalize endTsUs) :
    (∀ r ∈ t.readings windowUs, r.2 = 100 / windowUs * t.filled windowUs r.1.1 r.1.2) ∧
      ((t.readings windowUs).map (·.1)).Nodup ∧
      (∀ ts taskId, (ts, taskId) ∈ (t.readings windowUs).map (·.1) ↔
        ts ∈ t.runningSlices.map (·.ts) ∧ taskId ∈ t.runningSlices.map (·.tid)) ∧
      ((∀ x ∈ t.runningSlices, ∀ y ∈ t.runningSlices, x.tid ≠ y.tid → Intervals.Apart x.interval y.interval) →
        ∀ ts, (((t.readings windowUs).filter fun r => r.1.1 = ts).map (·.2)).sum ≤ 100) := by
  have eq := readings_eq t pos
  have pairs : (t.readings windowUs).map (·.1) =
      sortedSet (t.runningSlices.map (·.ts)) ×ˢ sortedSet (t.runningSlices.map (·.tid)) := by
    rw [eq, List.map_flatMap]
    simp only [List.map_map]
    rfl
  refine ⟨?_, ?_, ?_, ?_⟩
  · intro r mem
    rw [eq] at mem
    obtain ⟨ts, -, inside⟩ := List.mem_flatMap.mp mem
    obtain ⟨taskId, -, rfl⟩ := List.mem_map.mp inside
    rfl
  · rw [pairs]
    exact (sortedSet_nodup _).product (sortedSet_nodup _)
  · intro ts taskId
    rw [pairs, List.mem_product, mem_sortedSet, mem_sortedSet]
  · intro disjoint ts
    have apart : t.runningSlices.Pairwise fun x y => Intervals.Apart x.interval y.interval := by
      subst run
      apply (Tracker.runningSlices_apart taskNames sorted endTsUs).imp_of_mem
      intro x y inX inY behind
      by_cases same : x.tid = y.tid
      · left
        change (x.ts : ℚ) + x.dur ≤ y.ts
        exact_mod_cast behind same
      · exact disjoint x inX y inY same
    rw [eq, readings_at (sortedSet_nodup _)]
    split
    · apply sum_loads_le pos ts (sortedSet_nodup _) apart
      intro s mem
      exact mem_sortedSet.mpr (List.mem_map_of_mem mem)
    · rw [List.sum_nil]
      norm_num

/-- Two tasks take turns. -/
theorem cpu_load_exact_turns :
    ∃ t : Tracker, t = ((Tracker.init fun _ => none).processAll
        [⟨0x20, 0, [1], none, none, none, none, false⟩, ⟨0x22, 10, [1, 2], none, none, none, none, false⟩]).finalize 20 ∧
      ∀ r ∈ t.readings 20, r.2 = 100 / 20 * t.filled 20 r.1.1 r.1.2 :=
  ⟨_, rfl, (cpu_load_exact (fun _ => none) [⟨0x20, 0, [1], none, none, none, none, false⟩,
    ⟨0x22, 10, [1, 2], none, none, none, none, false⟩] (by decide) 20 20 (by norm_num) _ rfl).1⟩

end XSDK.Trace
