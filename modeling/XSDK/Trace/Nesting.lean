import XSDK.Trace.Perfetto

/-! When the slices on a task's track nest in the Perfetto export. -/
namespace XSDK.Trace.Perfetto

open Library.Brackets
open List (filter_append filter_eq_nil_iff mem_append mem_cons mem_filter mem_filterMap mem_map mem_pair
  pairwise_filter pairwise_map)

/-! ### The packets of a track in their order -/

section Packets

variable {slices : List Slice} {records : List TraceRecord} {clipped : List Clipped}
    {c d : Clipped} {i j : Nat} {u : Nat}

def startOrder (c : Clipped) : Int := if c.isIsr then 1 else 0
def stopOrder (c : Clipped) : Int := if c.isIsr then -1 else 0

def beginEvent (i : Nat) (c : Clipped) : Event := ⟨c.tsNs, startOrder c, c.uuid, .opening (.slice i c)⟩
def endEvent (i : Nat) (c : Clipped) : Event := ⟨c.endNs, stopOrder c, c.uuid, .closing (.slice i c)⟩

def place : Bracket Source → Nat × Int × Nat
  | .opening (.slice i c) => (c.tsNs, startOrder c, 2 * i)
  | .closing (.slice i c) => (c.endNs, stopOrder c, 2 * i + 1)
  | _ => (0, 0, 0)

def Before (x y : Bracket Source) : Prop :=
  (place x).1 < (place y).1 ∨ (place x).1 = (place y).1 ∧
    ((place x).2.1 < (place y).2.1 ∨ (place x).2.1 = (place y).2.1 ∧ (place x).2.2 < (place y).2.2)

theorem Before.asymm (x y : Bracket Source) (before : Before x y) : ¬Before y x := by
  rw [Before] at before ⊢
  omega

variable (n : Nat)

def seq (e : Event) : Nat :=
  match e.bracket with
  | .opening (.slice i _) => 2 * i
  | .closing (.slice i _) => 2 * i + 1
  | .opening (.record k) => 2 * n + k
  | .closing (.record k) => 2 * n + k

variable {e : Event} {record : TraceRecord} {names : List String} {index : Nat}

theorem mem_sliceEvents :
    e ∈ sliceEvents clipped ↔ ∃ i c, clipped[i]? = some c ∧ (e = beginEvent i c ∨ e = endEvent i c) := by
  simp only [sliceEvents, List.mem_flatMap, Prod.exists, mem_cons, List.not_mem_nil, or_false]
  constructor
  · rintro ⟨c, i, mem, same⟩
    exact ⟨i, c, List.mem_zipIdx_iff_getElem?.mp mem, same⟩
  · rintro ⟨i, c, found, same⟩
    exact ⟨c, i, List.mem_zipIdx_iff_getElem?.mpr found, same⟩

theorem pairwise_zipIdx {α : Type} (l : List α) : l.zipIdx.Pairwise fun x y => x.2 < y.2 := by
  have ordered : (l.zipIdx.map Prod.snd).Pairwise (· < ·) := by
    rw [List.zipIdx_map_snd]
    exact List.pairwise_lt_range'
  exact pairwise_map.mp ordered

theorem standardEvent_bracket
    (made : standardEvent names record index = some e) :
    e.bracket = .opening (.record index) ∨ e.bracket = .closing (.record index) := by
  rw [standardEvent] at made
  split at made
  · cases made
  split at made
  · cases made
    exact .inl rfl
  split at made
  · cases made
    exact .inr rfl
  · cases made

theorem standardEvent_seq
    (made : standardEvent names record index = some e) : seq n e = 2 * n + index := by
  rcases standardEvent_bracket made with bracket | bracket
  · rw [seq, bracket]
  · rw [seq, bracket]

theorem standardEvents_seq (records : List TraceRecord) :
    (standardEvents records).Pairwise fun x y => seq n x < seq n y := by
  rw [standardEvents, List.pairwise_filterMap]
  refine (pairwise_zipIdx records).imp fun {x y} later e made e' made' => ?_
  rw [standardEvent_seq n made, standardEvent_seq n made']
  omega

theorem sliceEvents_seq (clipped : List Clipped) : (sliceEvents clipped).Pairwise fun x y => seq n x < seq n y := by
  rw [sliceEvents, List.pairwise_flatMap]
  refine ⟨fun x _ => ?_, (pairwise_zipIdx clipped).imp fun {x y} later e mem e' mem' => ?_⟩
  · exact List.pairwise_pair.mpr (Nat.lt_succ_self (2 * x.2))
  · have at_ : seq n e ≤ 2 * x.2 + 1 := by
      rcases mem_pair.mp mem with rfl | rfl
      · exact Nat.le_succ _
      · exact Nat.le_refl _
    have at' : 2 * y.2 ≤ seq n e' := by
      rcases mem_pair.mp mem' with rfl | rfl
      · exact Nat.le_refl _
      · exact Nat.le_succ _
    omega

theorem exportEvents_ordered (slices : List Slice) (records : List TraceRecord) :
    (exportEvents slices records).Pairwise fun x y => x.upTo y = true ∧ (y.upTo x = true →
      seq (clipIsrToRunning slices).length x < seq (clipIsrToRunning slices).length y) := by
  refine mergeSort_stable ?_ ?_ (List.pairwise_append.mpr ⟨sliceEvents_seq _ _, standardEvents_seq _ records, ?_⟩)
  · intro x y z first second
    simp only [Event.upTo, decide_eq_true_eq] at first second ⊢
    omega
  · intro x y
    simp only [Event.upTo, Bool.or_eq_true, decide_eq_true_eq]
    omega
  · intro e mem e' mem'
    obtain ⟨i, c, found, same⟩ := mem_sliceEvents.mp mem
    have inside := (List.getElem?_eq_some_iff.mp found).1
    have at_ : seq (clipIsrToRunning slices).length e ≤ 2 * i + 1 := by
      rcases same with rfl | rfl
      · exact Nat.le_succ _
      · exact Nat.le_refl _
    obtain ⟨⟨record, k⟩, -, made⟩ := mem_filterMap.mp mem'
    have behind := standardEvent_seq (clipIsrToRunning slices).length made
    omega

theorem mem_trackPackets {x : Bracket Source} : x ∈ trackPackets slices records u ↔
    ∃ e, (e ∈ sliceEvents (clipIsrToRunning slices) ∨ e ∈ standardEvents records) ∧ e.uuid = u ∧ e.bracket = x := by
  simp only [trackPackets, exportEvents, mem_map, mem_filter, List.mem_mergeSort, mem_append,
    decide_eq_true_eq, and_assoc]

theorem mem_trackPackets_own (foreign : ∀ e ∈ standardEvents records, e.uuid ≠ u) {x : Bracket Source} :
    x ∈ trackPackets slices records u ↔ ∃ i c, (clipIsrToRunning slices)[i]? = some c ∧ c.uuid = u ∧
      (x = .opening (.slice i c) ∨ x = .closing (.slice i c)) := by
  rw [mem_trackPackets]
  constructor
  · rintro ⟨e, mem | mem, same, rfl⟩
    · obtain ⟨i, c, found, rfl | rfl⟩ := mem_sliceEvents.mp mem
      · exact ⟨i, c, found, same, .inl rfl⟩
      · exact ⟨i, c, found, same, .inr rfl⟩
    · exact absurd same (foreign e mem)
  · rintro ⟨i, c, found, same, rfl | rfl⟩
    · exact ⟨beginEvent i c, .inl (mem_sliceEvents.mpr ⟨i, c, found, .inl rfl⟩), same, rfl⟩
    · exact ⟨endEvent i c, .inl (mem_sliceEvents.mpr ⟨i, c, found, .inr rfl⟩), same, rfl⟩

theorem trackPackets_pending (positive : ∀ c ∈ clipIsrToRunning slices, c.tsNs < c.endNs)
    (foreign : ∀ e ∈ standardEvents records, e.uuid ≠ u) : Pending Before [] (trackPackets slices records u) := by
  refine ⟨?_, fun a => ?_, fun a mem => ?_⟩
  · rw [List.reverse_nil, List.map_nil, List.nil_append, trackPackets, pairwise_map, pairwise_filter]
    refine (exportEvents_ordered slices records).imp_of_mem fun {e e'} mem mem' ordered same same' => ?_
    have own {e : Event} (mem : e ∈ exportEvents slices records) (same : e.uuid = u) :
        ∃ i c, e = beginEvent i c ∨ e = endEvent i c := by
      rcases mem_append.mp (List.mem_mergeSort.mp mem) with mem | mem
      · obtain ⟨i, c, -, same⟩ := mem_sliceEvents.mp mem
        exact ⟨i, c, same⟩
      · exact absurd same (foreign e mem)
    obtain ⟨i, c, first⟩ := own mem (of_decide_eq_true same)
    obtain ⟨j, d, second⟩ := own mem' (of_decide_eq_true same')
    obtain ⟨le, tie⟩ := ordered
    simp only [Event.upTo, decide_eq_true_eq] at le tie
    rcases first with rfl | rfl <;> rcases second with rfl | rfl <;>
      simp only [beginEvent, endEvent, seq, Before, place] at le tie ⊢ <;> omega
  · simp only [List.not_mem_nil, false_or]
    rw [mem_trackPackets_own foreign, mem_trackPackets_own foreign]
    constructor
    · rintro ⟨i, c, found, same, opening | closing⟩
      · cases opening
        exact ⟨i, c, found, same, .inr rfl⟩
      · cases closing
    · rintro ⟨i, c, found, same, opening | closing⟩
      · cases opening
      · cases closing
        exact ⟨i, c, found, same, .inl rfl⟩
  · obtain ⟨i, c, found, -, opening | closing⟩ := (mem_trackPackets_own foreign).mp mem
    · cases opening
    · cases closing
      exact .inl (positive c (List.mem_of_getElem? found))

def Apart (c d : Clipped) : Prop :=
  ¬((c.tsNs < d.tsNs ∨ c.tsNs = d.tsNs ∧ startOrder c ≤ startOrder d) ∧
      (d.tsNs < c.endNs ∨ d.tsNs = c.endNs ∧ startOrder d < stopOrder c) ∧
      (c.endNs < d.endNs ∨ c.endNs = d.endNs ∧ stopOrder c ≤ stopOrder d)) ∧
    ¬((d.tsNs < c.tsNs ∨ d.tsNs = c.tsNs ∧ startOrder d < startOrder c) ∧
      (c.tsNs < d.endNs ∨ c.tsNs = d.endNs ∧ startOrder c ≤ stopOrder d) ∧
      (d.endNs < c.endNs ∨ d.endNs = c.endNs ∧ stopOrder d < stopOrder c))

theorem apart_iff (less : i < j) : Apart c d ↔
    ¬Cross Before (.slice i c) (.slice j d) ∧ ¬Cross Before (.slice j d) (.slice i c) := by
  simp only [Apart, Cross, Before, place]
  omega

theorem trackPackets_nests_iff (positive : ∀ c ∈ clipIsrToRunning slices, c.tsNs < c.endNs)
    (foreign : ∀ e ∈ standardEvents records, e.uuid ≠ u) : Nests (trackPackets slices records u) ↔
      ((clipIsrToRunning slices).filter fun c => c.uuid = u).Pairwise Apart := by
  rw [Nests, replay_iff Before.asymm (trackPackets_pending positive foreign), pairwise_filter,
    List.pairwise_iff_getElem]
  constructor
  · intro none i j small small' less same same'
    rw [decide_eq_true_eq] at same same'
    have closes {k : Nat} (inside : k < (clipIsrToRunning slices).length)
        (same : (clipIsrToRunning slices)[k].uuid = u) :
        .closing (.slice k (clipIsrToRunning slices)[k]) ∈ trackPackets slices records u :=
      (mem_trackPackets_own foreign).mpr ⟨k, _, List.getElem?_eq_getElem inside, same, .inr rfl⟩
    exact (apart_iff less).mpr ⟨none _ _ (closes small same) (closes small' same'),
      none _ _ (closes small' same') (closes small same)⟩
  · intro apart a b closes closes'
    obtain ⟨i, c, found, same, opening | closing⟩ := (mem_trackPackets_own foreign).mp closes
    · cases opening
    obtain ⟨j, d, found', same', opening | closing'⟩ := (mem_trackPackets_own foreign).mp closes'
    · cases opening
    cases closing
    cases closing'
    obtain ⟨small, rfl⟩ := List.getElem?_eq_some_iff.mp found
    obtain ⟨small', rfl⟩ := List.getElem?_eq_some_iff.mp found'
    rcases Nat.lt_trichotomy i j with less | rfl | more
    · exact ((apart_iff less).mp (apart i j small small' less (decide_eq_true same) (decide_eq_true same'))).1
    · exact fun cross => Before.asymm _ _ cross.1 cross.1
    · exact ((apart_iff more).mp (apart j i small' small more (decide_eq_true same') (decide_eq_true same))).2

end Packets

/-! ### The slices of one task -/

section Task

variable {slices : List Slice} {records : List TraceRecord} {tid : Nat} {x y s f : Slice} {c d : Clipped}

theorem mem_stateSlices : s ∈ stateSlices slices tid ↔ s ∈ slices ∧ s.tid = tid ∧ s.isState = true := by
  simp only [stateSlices, mem_filter, decide_eq_true_eq]

theorem mem_isrSlices : x ∈ isrSlices slices tid ↔ x ∈ slices ∧ x.tid = tid ∧ x.isState = false := by
  simp only [isrSlices, mem_filter, decide_eq_true_eq, Bool.not_eq_true]

theorem isIsr_of_name (same : c.name = s.name) : c.isIsr = !s.isState := by
  rw [Clipped.isIsr, Slice.isState, same]
  cases s.name <;> rfl

theorem Timeline.ordered (timeline : Timeline slices) (tid : Nat) :
    (stateSlices slices tid).Pairwise fun s f => s.stop ≤ f.ts := by
  rw [stateSlices, pairwise_filter]
  refine timeline.states.imp fun {s f} behind first second => ?_
  obtain ⟨task, state⟩ := of_decide_eq_true first
  obtain ⟨task', state'⟩ := of_decide_eq_true second
  exact behind state state' (task.trans task'.symm)

theorem Timeline.state_positive (timeline : Timeline slices) (mem : s ∈ stateSlices slices tid) : s.ts < s.stop :=
  timeline.positive s (mem_stateSlices.mp mem).1

theorem Timeline.disjoint (timeline : Timeline slices) (mem : s ∈ stateSlices slices tid)
    (mem' : f ∈ stateSlices slices tid) : s = f ∨ s.stop ≤ f.ts ∨ f.stop ≤ s.ts := by
  have ordered := List.pairwise_iff_getElem.mp (timeline.ordered tid)
  obtain ⟨i, small, rfl⟩ := List.mem_iff_getElem.mp mem
  obtain ⟨j, small', rfl⟩ := List.mem_iff_getElem.mp mem'
  rcases Nat.lt_trichotomy i j with less | rfl | more
  · exact .inr (.inl (ordered i j small small' less))
  · exact .inl rfl
  · exact .inr (.inr (ordered j i small' small more))

variable {states : List Slice} {ts : Nat}

theorem found_first {p : Slice → Bool} (ordered : states.Pairwise fun s f => s.stop ≤ f.ts)
    (found : states.find? p = some f) (mem : s ∈ states) (meets : p s = true) : s = f ∨ f.stop ≤ s.ts := by
  obtain ⟨-, front, behind, rfl, none⟩ := List.find?_eq_some_iff_append.mp found
  rcases mem_append.mp mem with before | mem
  · have fails := none s before
    rw [meets] at fails
    cases fails
  · rcases mem_cons.mp mem with same | later
    · exact .inl same
    · have ordered := (List.pairwise_append.mp ordered).2.1
      exact .inr (List.rel_of_pairwise_cons ordered later)

theorem touches_iff {a b n : Nat} : toNs a ≤ toNs n ∧ toNs n ≤ toNs b ↔ a ≤ n ∧ n ≤ b := by
  simp only [toNs]
  omega

theorem containing_some (found : containing states (toNs ts) = some f) :
    f ∈ states ∧ f.isRunning = true ∧ f.ts ≤ ts ∧ ts ≤ f.stop := by
  rw [containing] at found
  have meets := List.find?_some found
  obtain ⟨running, touches⟩ := of_decide_eq_true meets
  exact ⟨List.mem_of_find?_eq_some found, running, touches_iff.mp touches⟩

theorem containing_none :
    containing states (toNs ts) = none ↔ ∀ r ∈ states, r.isRunning = true → ¬(r.ts ≤ ts ∧ ts ≤ r.stop) := by
  rw [containing, List.find?_eq_none]
  refine forall₂_congr fun r _ => ?_
  rw [decide_eq_true_eq, touches_iff, not_and]

theorem clipIsr_outside (found : containing states (toNs x.ts) = none) (positive : x.ts < x.stop) :
    clipIsr states x = some (whole x) := by
  rw [clipIsr, found]
  exact if_neg (by simp only [toNs]; omega)

theorem clipIsr_inside (found : containing states (toNs x.ts) = some f)
    (positive : x.ts < x.stop) : clipIsr states x =
      if f.stop ≤ x.ts then none else some ⟨toNs x.ts, toNs (min x.stop f.stop), x.name, taskUuid x.tid⟩ := by
  have least : min (toNs x.stop) (toNs f.stop) = toNs (min x.stop f.stop) := by
    simp only [toNs]
    omega
  have drops : toNs (min x.stop f.stop) ≤ toNs x.ts ↔ f.stop ≤ x.ts := by
    simp only [toNs]
    omega
  rw [clipIsr, found]
  simp only [least, drops]

/-- What clipping makes of an interrupt that starts outside of any running slice, inside of one, or
where one ends. -/
inductive Clipping (states : List Slice) (x : Slice) : Prop where
  | outside (free : ∀ r ∈ states, r.isRunning = true → ¬(r.ts ≤ x.ts ∧ x.ts ≤ r.stop))
      (clip : clipIsr states x = some (whole x))
  | inside (f : Slice) (mem : f ∈ states) (running : f.isRunning = true) (start : f.ts ≤ x.ts) (stop : x.ts < f.stop)
      (free : ∀ r ∈ states, r.isRunning = true → r.stop ≠ x.ts)
      (clip : clipIsr states x = some ⟨toNs x.ts, toNs (min x.stop f.stop), x.name, taskUuid x.tid⟩)
  | stopped (f : Slice) (mem : f ∈ states) (running : f.isRunning = true) (stop : f.stop = x.ts)
      (clip : clipIsr states x = none)

theorem clipping (timeline : Timeline slices) (mem : x ∈ isrSlices slices tid) :
    Clipping (stateSlices slices tid) x := by
  have positive := timeline.positive x (mem_isrSlices.mp mem).1
  cases found : containing (stateSlices slices tid) (toNs x.ts) with
  | none => exact .outside (containing_none.mp found) (clipIsr_outside found positive)
  | some f =>
    obtain ⟨inside, running, start, stop⟩ := containing_some found
    have clip := clipIsr_inside found positive
    by_cases same : f.stop = x.ts
    · rw [if_pos same.le] at clip
      exact .stopped f inside running same clip
    · rw [if_neg (by omega)] at clip
      refine .inside f inside running start (by omega) (fun r mem' running' ends => same ?_) clip
      -- one that ends there is found first
      have positive' := timeline.state_positive mem'
      rcases found_first (timeline.ordered tid) found mem'
        (decide_eq_true ⟨running', touches_iff.mpr ⟨by omega, ends.ge⟩⟩) with same | behind
      · rw [← same, ends]
      · omega

theorem startedIn_some (found : startedIn states ts = some f) :
    f ∈ states ∧ f.isRunning = true ∧ f.ts ≤ ts ∧ ts < f.stop := by
  rw [startedIn] at found
  have meets := List.find?_some found
  exact ⟨List.mem_of_find?_eq_some found, of_decide_eq_true meets⟩

theorem startedIn_none :
    startedIn states ts = none ↔ ∀ r ∈ states, r.isRunning = true → ¬(r.ts ≤ ts ∧ ts < r.stop) := by
  rw [startedIn, List.find?_eq_none]
  refine forall₂_congr fun r _ => ?_
  rw [decide_eq_true_eq, not_and]

theorem clip_shows (timeline : Timeline slices) (mem : x ∈ isrSlices slices tid) :
    (clipIsr (stateSlices slices tid) x = none ∨
        clipIsr (stateSlices slices tid) x = showIsr (stateSlices slices tid) x) ∧
      (clipIsr (stateSlices slices tid) x = showIsr (stateSlices slices tid) x ↔
        ∀ r ∈ stateSlices slices tid, ∀ r' ∈ stateSlices slices tid, r.isRunning = true → r'.isRunning = true →
          r.stop = x.ts → r'.ts ≠ x.ts) := by
  cases clipping timeline mem with
  | outside free clip =>
    have started : startedIn (stateSlices slices tid) x.ts = none :=
      startedIn_none.mpr fun r inside running touches => free r inside running ⟨touches.1, touches.2.le⟩
    have none : ¬(stateSlices slices tid).any (fun s => s.isRunning ∧ s.stop = x.ts) = true := by
      rw [List.any_eq_true]
      rintro ⟨r, inside, meets⟩
      obtain ⟨running, stop⟩ := of_decide_eq_true meets
      have positive := timeline.state_positive inside
      exact free r inside running ⟨by omega, stop.ge⟩
    have same : clipIsr (stateSlices slices tid) x = showIsr (stateSlices slices tid) x := by
      rw [clip, showIsr, started]
      exact (if_neg none).symm
    refine ⟨.inr same, fun _ r inside r' _ running _ stop => ?_, fun _ => same⟩
    have positive := timeline.state_positive inside
    exact absurd ⟨by omega, stop.ge⟩ (free r inside running)
  | inside f inside running start stop free clip =>
    have started : startedIn (stateSlices slices tid) x.ts = some f := by
      cases found : startedIn (stateSlices slices tid) x.ts with
      | none => exact absurd ⟨start, stop⟩ (startedIn_none.mp found f inside running)
      | some g =>
        obtain ⟨inside', -, start', stop'⟩ := startedIn_some found
        rcases timeline.disjoint inside' inside with same | before | behind
        · rw [same]
        · omega
        · omega
    have same : clipIsr (stateSlices slices tid) x = showIsr (stateSlices slices tid) x := by
      rw [clip, showIsr, started]
    exact ⟨.inr same, fun _ r inside' _ _ running' _ ends => absurd ends (free r inside' running'), fun _ => same⟩
  | stopped f inside running stop clip =>
    refine ⟨.inl clip, ?_⟩
    rw [clip]
    cases found : startedIn (stateSlices slices tid) x.ts with
    | none =>
      have ended : (stateSlices slices tid).any (fun s => s.isRunning ∧ s.stop = x.ts) = true :=
        List.any_eq_true.mpr ⟨f, inside, decide_eq_true ⟨running, stop⟩⟩
      rw [showIsr, found]
      simp only
      rw [if_pos ended]
      refine ⟨fun _ r _ r' inside' _ running' _ starts => ?_, fun _ => rfl⟩
      have positive := timeline.state_positive inside'
      exact startedIn_none.mp found r' inside' running' ⟨by omega, by omega⟩
    | some g =>
      obtain ⟨inside', running', start, stop'⟩ := startedIn_some found
      rw [showIsr, found]
      refine ⟨fun dropped => (nomatch dropped), fun apart => ?_⟩
      refine absurd ?_ (apart f inside g inside' running running' stop)
      rcases timeline.disjoint inside inside' with same | before | behind
      · rw [← same] at stop'
        omega
      · omega
      · have positive := timeline.state_positive inside
        omega

theorem clip_none_iff (timeline : Timeline slices) (mem : x ∈ isrSlices slices tid) :
    clipIsr (stateSlices slices tid) x = none ↔ ∃ r ∈ stateSlices slices tid, r.isRunning = true ∧ r.stop = x.ts := by
  cases clipping timeline mem with
  | outside free clip =>
    rw [clip]
    refine ⟨fun dropped => (nomatch dropped), fun ⟨r, inside, running, stop⟩ => ?_⟩
    have positive := timeline.state_positive inside
    exact absurd ⟨by omega, stop.ge⟩ (free r inside running)
  | inside f inside running start stop free clip =>
    rw [clip]
    refine ⟨fun dropped => (nomatch dropped), fun ⟨r, inside', running', ends⟩ => ?_⟩
    exact absurd ends (free r inside' running')
  | stopped f inside running stop clip => exact ⟨fun _ => ⟨f, inside, running, stop⟩, fun _ => clip⟩

/-! ### The slices on a track -/

theorem clipIsr_some (clip : clipIsr states x = some c) :
    c.tsNs = toNs x.ts ∧ c.tsNs < c.endNs ∧ c.name = x.name ∧ c.uuid = taskUuid x.tid := by
  obtain ⟨isrEnd, made⟩ : ∃ isrEnd, clipIsr states x =
      if isrEnd ≤ toNs x.ts then none else some ⟨toNs x.ts, isrEnd, x.name, taskUuid x.tid⟩ := ⟨_, rfl⟩
  rw [made] at clip
  by_cases empty : isrEnd ≤ toNs x.ts
  · rw [if_pos empty] at clip
    cases clip
  · rw [if_neg empty] at clip
    cases clip
    exact ⟨rfl, Nat.lt_of_not_le empty, rfl, rfl⟩

theorem mem_clipTask (timeline : Timeline slices) (mem : c ∈ clipTask slices tid) :
    c.tsNs < c.endNs ∧ c.uuid = taskUuid tid := by
  rcases mem_append.mp mem with state | isr
  · obtain ⟨s, inside, rfl⟩ := mem_map.mp state
    obtain ⟨inside, task, -⟩ := mem_stateSlices.mp inside
    exact ⟨Nat.mul_lt_mul_of_pos_right (timeline.positive s inside) (by decide), congrArg taskUuid task⟩
  · obtain ⟨x, inside, clip⟩ := mem_filterMap.mp isr
    obtain ⟨-, positive, -, uuid⟩ := clipIsr_some clip
    exact ⟨positive, uuid.trans (congrArg taskUuid (mem_isrSlices.mp inside).2.1)⟩

theorem clipTask_empty (absent : ∀ s ∈ slices, s.tid ≠ tid) : clipTask slices tid = [] := by
  have states : stateSlices slices tid = [] :=
    filter_eq_nil_iff.mpr fun s mem meets => absent s mem (of_decide_eq_true meets).1
  have isrs : isrSlices slices tid = [] :=
    filter_eq_nil_iff.mpr fun s mem meets => absent s mem (of_decide_eq_true meets).1
  rw [clipTask, states, isrs]
  rfl

theorem taskUuid_inj {tid' : Nat} (same : taskUuid tid = taskUuid tid') : tid = tid' := Nat.add_left_cancel same

theorem clipIsrToRunning_track (timeline : Timeline slices) (tid : Nat) :
    ((clipIsrToRunning slices).filter fun c => c.uuid = taskUuid tid) = clipTask slices tid := by
  have nodup := sortedSet_nodup (slices.map (·.tid))
  have all : tid ∈ sortedSet (slices.map (·.tid)) ∨ clipTask slices tid = [] := by
    by_cases mem : tid ∈ slices.map (·.tid)
    · exact .inl (mem_sortedSet.mpr mem)
    · exact .inr (clipTask_empty fun s inside same => mem (mem_map.mpr ⟨s, inside, same⟩))
  rw [clipIsrToRunning]
  generalize sortedSet (slices.map (·.tid)) = tids at nodup all
  have own : ((clipTask slices tid).filter fun c => c.uuid = taskUuid tid) = clipTask slices tid :=
    List.filter_eq_self.mpr fun c mem => decide_eq_true (mem_clipTask timeline mem).2
  have other {tid' : Nat} (ne : tid' ≠ tid) : ((clipTask slices tid').filter fun c => c.uuid = taskUuid tid) = [] :=
    filter_eq_nil_iff.mpr fun c mem same =>
      ne (taskUuid_inj ((mem_clipTask timeline mem).2.symm.trans (of_decide_eq_true same)))
  induction tids with
  | nil =>
    rcases all with mem | none
    · cases mem
    · exact none.symm
  | cons first tids ih =>
    obtain ⟨fresh, nodup⟩ := List.nodup_cons.mp nodup
    rw [List.flatMap_cons, filter_append]
    by_cases same : first = tid
    · subst same
      rw [own, List.filter_flatMap, List.flatMap_eq_nil_iff.mpr fun tid' mem => other fun same => fresh (same ▸ mem),
        List.append_nil]
    · rw [other same, List.nil_append]
      refine ih nodup (all.imp (fun mem => ?_) id)
      exact (mem_cons.mp mem).resolve_left fun is => same is.symm

theorem clipIsrToRunning_positive (timeline : Timeline slices) : ∀ c ∈ clipIsrToRunning slices, c.tsNs < c.endNs := by
  intro c mem
  obtain ⟨tid, -, mem⟩ := List.mem_flatMap.mp mem
  exact (mem_clipTask timeline mem).1

theorem apart_states (state : c.isIsr = false) (state' : d.isIsr = false) (positive : c.tsNs < c.endNs)
    (behind : c.endNs ≤ d.tsNs) : Apart c d := by
  simp only [Apart, startOrder, stopOrder, state, state', Bool.false_eq_true, if_false]
  omega

theorem apart_state_isr (state : c.isIsr = false) (isr : d.isIsr = true) : Apart c d ↔
    ¬(c.tsNs ≤ d.tsNs ∧ d.tsNs < c.endNs ∧ c.endNs < d.endNs) ∧
      ¬(d.tsNs < c.tsNs ∧ c.tsNs < d.endNs ∧ d.endNs ≤ c.endNs) := by
  simp only [Apart, startOrder, stopOrder, state, isr, Bool.false_eq_true, if_false, if_true]
  omega

theorem apart_isrs (isr : c.isIsr = true) (isr' : d.isIsr = true) : Apart c d ↔
    ¬(c.tsNs ≤ d.tsNs ∧ d.tsNs < c.endNs ∧ c.endNs ≤ d.endNs) ∧
      ¬(d.tsNs < c.tsNs ∧ c.tsNs < d.endNs ∧ d.endNs < c.endNs) := by
  simp only [Apart, startOrder, stopOrder, isr, isr', if_true]
  omega

section

variable (timeline : Timeline slices)
include timeline

theorem clip_cut (mem : x ∈ isrSlices slices tid)
    (clip : clipIsr (stateSlices slices tid) x = some c) : c.isIsr = true ∧ c.tsNs = toNs x.ts ∧
      ((∀ r ∈ stateSlices slices tid, r.isRunning = true → ¬(r.ts ≤ x.ts ∧ x.ts ≤ r.stop)) ∧ c.endNs = toNs x.stop ∨
        ∃ f ∈ stateSlices slices tid, f.isRunning = true ∧ f.ts ≤ x.ts ∧ x.ts < f.stop ∧
          c.endNs = toNs (min x.stop f.stop)) := by
  obtain ⟨start, -, name, -⟩ := clipIsr_some clip
  refine ⟨(isIsr_of_name name).trans ?_, start, ?_⟩
  · rw [(mem_isrSlices.mp mem).2.2]
    rfl
  · cases clipping timeline mem with
    | outside free clipped =>
      rw [clipped] at clip
      cases clip
      exact .inl ⟨free, rfl⟩
    | inside f inside running from_ stop _ clipped =>
      rw [clipped] at clip
      cases clip
      exact .inr ⟨f, inside, running, from_, stop, rfl⟩
    | stopped f _ _ _ clipped =>
      rw [clipped] at clip
      cases clip

theorem apart_state_clip (mem : x ∈ isrSlices slices tid)
    (clip : clipIsr (stateSlices slices tid) x = some d) (mem' : s ∈ stateSlices slices tid) : Apart (whole s) d ↔
      ((∀ r ∈ stateSlices slices tid, r.isRunning = true → ¬(r.ts ≤ x.ts ∧ x.ts ≤ r.stop)) →
        ¬(s.ts ≤ x.ts ∧ x.ts < s.stop ∧ s.stop < x.stop) ∧ ¬(x.ts < s.ts ∧ s.ts < x.stop ∧ x.stop ≤ s.stop)) := by
  have state : (whole s).isIsr = false := by
    rw [isIsr_of_name (s := s) rfl, (mem_stateSlices.mp mem').2.2]
    rfl
  obtain ⟨isr, start, cut⟩ := clip_cut timeline mem clip
  rw [apart_state_isr state isr, start]
  rcases cut with ⟨free, stop⟩ | ⟨f, inside, running, start, later, stop⟩
  · rw [stop]
    simp only [whole, toNs]
    constructor
    · intro apart _
      omega
    · intro edges
      have edges := edges free
      omega
  · refine ⟨fun _ free => absurd ⟨start, later.le⟩ (free f inside running), fun _ => ?_⟩
    have positive := timeline.positive x (mem_isrSlices.mp mem).1
    have positive' := timeline.state_positive mem'
    rw [stop]
    simp only [whole, toNs]
    rcases timeline.disjoint mem' inside with same | before | behind
    · subst same
      omega
    · omega
    · omega

theorem apart_clips (mem : x ∈ isrSlices slices tid) (mem' : y ∈ isrSlices slices tid)
    (left : x.stop ≤ y.stop) (laminar : x.stop ≤ y.ts ∨ y.ts ≤ x.ts)
    (clip : clipIsr (stateSlices slices tid) x = some c) (clip' : clipIsr (stateSlices slices tid) y = some d) :
    Apart c d ↔ x.ts ≠ y.ts := by
  have positive := timeline.positive x (mem_isrSlices.mp mem).1
  obtain ⟨isr, start, cut⟩ := clip_cut timeline mem clip
  obtain ⟨isr', start', cut'⟩ := clip_cut timeline mem' clip'
  rw [apart_isrs isr isr', start, start']
  rcases cut with ⟨free, stop⟩ | ⟨f, inside, running, from_, later, stop⟩ <;>
    rcases cut' with ⟨free', stop'⟩ | ⟨g, inside', running', from', later', stop'⟩ <;>
      rw [stop, stop'] <;> simp only [toNs]
  · omega
  · have misses := free g inside' running'
    omega
  · have misses := free' f inside running
    omega
  · rcases timeline.disjoint inside inside' with same | before | behind
    · subst same
      omega
    · omega
    · omega

theorem clipTask_apart_iff (tid : Nat) : (clipTask slices tid).Pairwise Apart ↔
    ((isrSlices slices tid).Pairwise fun x y => x.ts = y.ts →
        ∃ r ∈ stateSlices slices tid, r.isRunning = true ∧ r.stop = x.ts) ∧
      ∀ x ∈ isrSlices slices tid,
        (∀ r ∈ stateSlices slices tid, r.isRunning = true → ¬(r.ts ≤ x.ts ∧ x.ts ≤ r.stop)) →
          ∀ s ∈ stateSlices slices tid,
            ¬(s.ts ≤ x.ts ∧ x.ts < s.stop ∧ s.stop < x.stop) ∧ ¬(x.ts < s.ts ∧ s.ts < x.stop ∧ x.stop ≤ s.stop) := by
  have states : ((stateSlices slices tid).map whole).Pairwise Apart := by
    rw [pairwise_map]
    refine (timeline.ordered tid).imp_of_mem fun {s f} mem mem' behind => ?_
    have state {s : Slice} (mem : s ∈ stateSlices slices tid) : (whole s).isIsr = false := by
      rw [isIsr_of_name (s := s) rfl, (mem_stateSlices.mp mem).2.2]
      rfl
    have positive := timeline.state_positive mem
    exact apart_states (state mem) (state mem') (Nat.mul_lt_mul_of_pos_right positive (by decide))
      (Nat.mul_le_mul_right _ behind)
  have isrs : ((isrSlices slices tid).filterMap (clipIsr (stateSlices slices tid))).Pairwise Apart ↔
      (isrSlices slices tid).Pairwise fun x y => x.ts = y.ts →
        ∃ r ∈ stateSlices slices tid, r.isRunning = true ∧ r.stop = x.ts := by
    have laminar : (isrSlices slices tid).Pairwise fun x y => x.stop ≤ y.stop ∧ (x.stop ≤ y.ts ∨ y.ts ≤ x.ts) := by
      rw [isrSlices, pairwise_filter]
      refine timeline.isrs.imp fun {x y} laminar first second => laminar ?_ ?_
      · exact Bool.eq_false_of_not_eq_true (of_decide_eq_true first).2
      · exact Bool.eq_false_of_not_eq_true (of_decide_eq_true second).2
    rw [List.pairwise_filterMap]
    constructor
    · intro apart
      refine (apart.and laminar).imp_of_mem fun {x y} mem mem' both same => ?_
      by_cases dropped : clipIsr (stateSlices slices tid) x = none
      · exact (clip_none_iff timeline mem).mp dropped
      · have kept : clipIsr (stateSlices slices tid) y ≠ none := by
          rw [Ne, clip_none_iff timeline mem', ← same, ← clip_none_iff timeline mem]
          exact dropped
        obtain ⟨c, clip⟩ := Option.ne_none_iff_exists'.mp dropped
        obtain ⟨d, clip'⟩ := Option.ne_none_iff_exists'.mp kept
        exact absurd same ((apart_clips timeline mem mem' both.2.1 both.2.2 clip clip').mp (both.1 c clip d clip'))
    · intro starts
      refine (starts.and laminar).imp_of_mem fun {x y} mem mem' both c clip d clip' => ?_
      refine (apart_clips timeline mem mem' both.2.1 both.2.2 clip clip').mpr fun same => ?_
      rw [(clip_none_iff timeline mem).mpr (both.1 same)] at clip
      cases clip
  rw [clipTask, List.pairwise_append, isrs]
  refine ⟨fun ⟨_, starts, cross⟩ => ⟨starts, fun x mem free s mem' => ?_⟩,
    fun ⟨starts, edges⟩ => ⟨states, starts, fun c shown d mem => ?_⟩⟩
  · have kept : clipIsr (stateSlices slices tid) x ≠ none := by
      rw [Ne, clip_none_iff timeline mem]
      rintro ⟨r, inside, running, stop⟩
      have positive := timeline.state_positive inside
      exact free r inside running ⟨by omega, stop.ge⟩
    obtain ⟨d, clip⟩ := Option.ne_none_iff_exists'.mp kept
    have apart := cross _ (List.mem_map_of_mem mem') d (mem_filterMap.mpr ⟨x, mem, clip⟩)
    exact (apart_state_clip timeline mem clip mem').mp apart free
  · obtain ⟨s, mem', rfl⟩ := mem_map.mp shown
    obtain ⟨x, mem, clip⟩ := mem_filterMap.mp mem
    exact (apart_state_clip timeline mem clip mem').mpr fun free => edges x mem free s mem'

theorem trackPackets_shown
    (foreign : ∀ e ∈ standardEvents records, e.uuid ≠ taskUuid tid) :
    ((trackPackets slices records (taskUuid tid)).filterMap openedSlice).Perm (clipTask slices tid) := by
  have none : (standardEvents records).filter (fun e => e.uuid = taskUuid tid) = [] :=
    filter_eq_nil_iff.mpr fun e mem same => foreign e mem (of_decide_eq_true same)
  have shows (clipped : List Clipped) (n : Nat) :
      (((clipped.zipIdx n).flatMap fun p => [beginEvent p.2 p.1, endEvent p.2 p.1]).filter
      fun e => e.uuid = taskUuid tid).filterMap (fun e => openedSlice e.bracket) =
        clipped.filter fun c => c.uuid = taskUuid tid := by
    induction clipped generalizing n with
    | nil => rfl
    | cons c clipped ih =>
      rw [List.zipIdx_cons, List.flatMap_cons, filter_append, List.filterMap_append, ih]
      by_cases same : c.uuid = taskUuid tid
      · simp [beginEvent, endEvent, same, openedSlice]
      · simp [beginEvent, endEvent, same]
  rw [trackPackets, List.filterMap_map, ← clipIsrToRunning_track timeline tid, ← shows _ 0]
  refine List.Perm.filterMap _ ?_
  refine ((List.mergeSort_perm _ _).filter _).trans ?_
  rw [filter_append, none, List.append_nil]
  rfl

end

theorem filterMap_kept {α β : Type} {f g : α → Option β} {l : List α} (keeps : ∀ x ∈ l, f x = none ∨ f x = g x) :
    (l.filterMap f).length ≤ (l.filterMap g).length ∧
      ((l.filterMap f).length = (l.filterMap g).length → ∀ x ∈ l, f x = g x) := by
  induction l with
  | nil => exact ⟨Nat.le_refl _, nofun⟩
  | cons a l ih =>
    obtain ⟨le, all⟩ := ih fun x mem => keeps x (List.mem_cons_of_mem _ mem)
    rw [List.filterMap_cons, List.filterMap_cons]
    rcases keeps a List.mem_cons_self with none | same
    · cases made : g a with
      | none =>
        rw [none]
        refine ⟨le, fun same x mem => ?_⟩
        rcases mem_cons.mp mem with rfl | mem
        · rw [none, made]
        · exact all same x mem
      | some b =>
        rw [none]
        exact ⟨Nat.le_succ_of_le le, fun same => absurd same (Nat.ne_of_lt (Nat.lt_succ_of_le le))⟩
    · rw [same]
      cases made : g a with
      | none =>
        refine ⟨le, fun eq x mem => ?_⟩
        rcases mem_cons.mp mem with rfl | mem
        · exact same
        · exact all eq x mem
      | some b =>
        refine ⟨Nat.succ_le_succ le, fun eq x mem => ?_⟩
        rcases mem_cons.mp mem with rfl | mem
        · exact same
        · exact all (Nat.succ.inj eq) x mem

theorem clipTask_perm_iff (timeline : Timeline slices) (tid : Nat) :
    (clipTask slices tid).Perm (showTask slices tid) ↔
    ∀ x ∈ isrSlices slices tid, ∀ r ∈ stateSlices slices tid, ∀ r' ∈ stateSlices slices tid,
      r.isRunning = true → r'.isRunning = true → r.stop = x.ts → r'.ts ≠ x.ts := by
  have keeps : ∀ x ∈ isrSlices slices tid, _ := fun x mem => (clip_shows timeline mem).1
  rw [clipTask, showTask, List.perm_append_left_iff]
  constructor
  · intro perm x mem
    exact (clip_shows timeline mem).2.mp ((filterMap_kept keeps).2 perm.length_eq x mem)
  · intro joints
    rw [List.filterMap_congr fun x mem => (clip_shows timeline mem).2.mpr (joints x mem)]

theorem task_nests_iff (timeline : Timeline slices) (foreign : ∀ e ∈ standardEvents records, e.uuid ≠ taskUuid tid) :
    Nests (trackPackets slices records (taskUuid tid)) ↔ (clipTask slices tid).Pairwise Apart := by
  rw [trackPackets_nests_iff (clipIsrToRunning_positive timeline) foreign, clipIsrToRunning_track timeline]

/-- A task's track shows its slices exactly if they are separable. -/
theorem export_nests_iff (taskNames : Nat → Option String) (records : List TraceRecord)
    (sorted : records.Pairwise fun x y => x.timestamp ≤ y.timestamp) (tid : Nat) :
    TrackNests (taskSlices taskNames records) records tid ↔ Separable (taskSlices taskNames records) records tid := by
  have timeline := taskSlices_timeline taskNames sorted
  generalize taskSlices taskNames records = slices at timeline
  constructor
  · rintro ⟨own, nests, shown⟩
    have foreign : ∀ e ∈ standardEvents records, e.uuid ≠ taskUuid tid := by
      intro e mem same
      obtain ⟨i, c, slice⟩ := own e.bracket (mem_trackPackets.mpr ⟨e, .inr mem, same, rfl⟩)
      obtain ⟨⟨record, k⟩, -, made⟩ := List.mem_filterMap.mp mem
      have record := standardEvent_bracket made
      rcases record with bracket | bracket <;> rw [bracket] at slice <;> rcases slice with
        slice | slice <;> cases slice
    obtain ⟨starts, edges⟩ := (clipTask_apart_iff timeline tid).mp ((task_nests_iff timeline foreign).mp nests)
    have perm := (trackPackets_shown timeline foreign).symm.trans shown
    exact ⟨starts, edges, (clipTask_perm_iff timeline tid).mp perm, foreign⟩
  · rintro ⟨starts, edges, joints, foreign⟩
    refine ⟨fun x mem => ?_, ?_, ?_⟩
    · obtain ⟨i, c, -, -, slice⟩ := (mem_trackPackets_own foreign).mp mem
      exact ⟨i, c, slice⟩
    · exact (task_nests_iff timeline foreign).mpr ((clipTask_apart_iff timeline tid).mpr ⟨starts, edges⟩)
    · exact (trackPackets_shown timeline foreign).trans ((clipTask_perm_iff timeline tid).mpr joints)

/-- An interrupt within another, then a switch under a third one. -/
def apartTicks : List TraceRecord :=
  [⟨0x20, 0, [1], none, none, none, none, false⟩, ⟨0x36, 10, [5], none, none, none, none, false⟩,
    ⟨0x36, 11, [6], none, none, none, none, false⟩, ⟨0x37, 12, [], none, none, none, none, false⟩,
    ⟨0x37, 14, [], none, none, none, none, false⟩, ⟨0x36, 18, [5], none, none, none, none, false⟩,
    ⟨0x22, 20, [1, 2], none, none, none, none, false⟩, ⟨0x37, 21, [], none, none, none, none, false⟩]

theorem export_nests_apartTicks :
    TrackNests (taskSlices (fun _ => none) apartTicks) apartTicks 1 :=
  (export_nests_iff (fun _ => none) apartTicks (by decide) 1).mpr
    ⟨by decide, by decide, by decide, by decide⟩

def sameTick : List TraceRecord :=
  [⟨0x20, 0, [1], none, none, none, none, false⟩, ⟨0x36, 10, [5], none, none, none, none, false⟩,
    ⟨0x36, 10, [6], none, none, none, none, false⟩, ⟨0x37, 12, [], none, none, none, none, false⟩,
    ⟨0x37, 14, [], none, none, none, none, false⟩, ⟨0x22, 20, [1, 2], none, none, none, none, false⟩]

/-- An interrupt of a task that was switched away and back in the same microsecond. -/
def backAtOnce : List TraceRecord :=
  [⟨0x20, 0, [1], none, none, none, none, false⟩, ⟨0x22, 10, [1, 2], none, none, none, none, false⟩,
    ⟨0x22, 10, [2, 1], none, none, none, none, false⟩, ⟨0x36, 10, [5], none, none, none, none, false⟩,
    ⟨0x37, 12, [], none, none, none, none, false⟩, ⟨0x22, 20, [1, 2], none, none, none, none, false⟩]

/-- The outer interrupt ends with the inner one's end, and an interrupt is lost. -/
theorem export_misnests :
    (sameTick.Pairwise fun x y => x.timestamp ≤ y.timestamp) ∧
      ¬Nests (trackPackets (taskSlices (fun _ => none) sameTick) sameTick (taskUuid 1)) ∧
      (backAtOnce.Pairwise fun x y => x.timestamp ≤ y.timestamp) ∧
      ¬((trackPackets (taskSlices (fun _ => none) backAtOnce) backAtOnce (taskUuid 1)).filterMap openedSlice).Perm
        (showTask (taskSlices (fun _ => none) backAtOnce) 1) := by
  refine ⟨by decide, fun nests => ?_, by decide, fun shown => ?_⟩
  · have sorted : sameTick.Pairwise fun x y => x.timestamp ≤ y.timestamp := by decide
    have timeline := taskSlices_timeline (fun _ => none) sorted
    have starts := ((clipTask_apart_iff timeline 1).mp ((task_nests_iff timeline (by decide)).mp nests)).1
    exact absurd starts (by decide)
  · have sorted : backAtOnce.Pairwise fun x y => x.timestamp ≤ y.timestamp := by decide
    have timeline := taskSlices_timeline (fun _ => none) sorted
    have perm := (trackPackets_shown timeline (by decide)).symm.trans shown
    exact absurd perm.length_eq (by decide)

end Task

end XSDK.Trace.Perfetto
