import XSDK.Rtos.Frame
import XSDK.Rtos.Sync

/-! What the calls on semaphores, queues, events and notifications can do, one lemma
for each call. The claims about an object use these cases only. -/
namespace XSDK.Rtos

open Function (update)

variable {cfg : Config} {k : Kernel} {t : Nat}

/- Semaphores. -/

theorem semGiveCore_cases (h : k.Inv cfg) (sem : Sem) (s : Nat) :
    (∃ u, k.FirstWaiter u (.sem s) ∧ semGiveCore cfg k sem s = (unblock cfg k u .ok, sem, .ok)) ∨
    ((∀ u, ¬k.WaitsOn u (.sem s)) ∧
      (sem.count < sem.maxCount ∧
          semGiveCore cfg k sem s = (k, { sem with count := sem.count + 1 }, .ok) ∨
        sem.maxCount ≤ sem.count ∧ semGiveCore cfg k sem s = (k, sem, .resourceFull))) := by
  unfold semGiveCore
  cases empty : (k.waitMap (.sem s)).isEmpty cfg.bitmapWidth with
  | false =>
    obtain ⟨u, found, first⟩ := h.first_waiter empty
    refine .inl ⟨u, first, ?_⟩
    rw [if_pos rfl]
    unfold unblockFromWaitMap
    rw [found]
  | true =>
    refine .inr ⟨h.no_waiter.mp empty, ?_⟩
    rw [if_neg nofun]
    by_cases room : sem.count < sem.maxCount
    · exact .inl ⟨room, if_pos room⟩
    · exact .inr ⟨not_lt.mp room, if_neg room⟩

variable {inIsr : Bool}

theorem semTake_cases (h : k.Inv cfg) (called : CalledBy cfg k inIsr t) (sem : Sem) (s : Nat) (ticks : Word) :
    (∃ ret, ret ≠ .ok ∧ semTake cfg k sem inIsr s ticks = (k, sem, .ret ret)) ∨
    (0 < sem.count ∧ semTake cfg k sem inIsr s ticks = (k, { sem with count := sem.count - 1 }, .ret .ok)) ∨
    (sem.count = 0 ∧ ticks ≠ noWait ∧ Caller cfg k inIsr t ∧ ∃ k', semTake cfg k sem inIsr s ticks = (k', sem, .blocked) ∧
      Enters cfg k k' t (some (.sem s)) Payload.zero ticks) := by
  unfold semTake
  rcases called.cases with refused | ⟨accepted, runs⟩
  · rw [if_pos refused]
    exact .inl ⟨.invalidState, fun e => (nomatch e), rfl⟩
  · rw [if_neg accepted]
    by_cases available : 0 < sem.count
    · rw [if_pos available]
      exact .inr (.inl ⟨available, rfl⟩)
    · rw [if_neg available]
      by_cases poll : ticks = noWait
      · rw [if_pos poll]
        exact .inl ⟨.wouldBlock, fun e => (nomatch e), rfl⟩
      · rw [if_neg poll, runs.currentTask]
        obtain ⟨k', eq, enters⟩ := blockOn_enters h runs.toRuns (.sem s) nofun ticks Payload.zero
        refine .inr (.inr ⟨by omega, poll, runs, k', ?_, enters⟩)
        dsimp only
        rw [show (none : Option Cleanup) = cleanupOf (some (.sem s)) from rfl, eq]

/- Queues. -/

theorem queueTrySendLocked_cases (h : k.Inv cfg) (memory : Memory) (queue : Queue) (q : Nat) (item : Word) :
    (∃ u, k.FirstWaiter u (.queueRecv q) ∧ queueTrySendLocked cfg k memory queue q item =
      (unblock cfg (k.setPayload u Payload.zero) u .ok,
        update memory (k.task.blockPayload u).first
          (memcpy (memory (k.task.blockPayload u).first) 0 (memory item) 0 queue.itemSize), queue, .ok)) ∨
    ((∀ u, ¬k.WaitsOn u (.queueRecv q)) ∧
      (queue.used < queue.itemCount ∧
          queueTrySendLocked cfg k memory queue q item = (k, memory, queueEnqueue queue (memory item), .ok) ∨
        queue.itemCount ≤ queue.used ∧
          queueTrySendLocked cfg k memory queue q item = (k, memory, queue, .resourceFull))) := by
  unfold queueTrySendLocked
  cases empty : (k.waitMap (.queueRecv q)).isEmpty cfg.bitmapWidth with
  | false =>
    obtain ⟨u, found, first⟩ := h.first_waiter empty
    refine .inl ⟨u, first, ?_⟩
    rw [if_pos rfl]
    unfold queueCompleteWaitingReceive
    rw [found]
  | true =>
    refine .inr ⟨h.no_waiter.mp empty, ?_⟩
    rw [if_neg nofun]
    by_cases room : queue.used < queue.itemCount
    · exact .inl ⟨room, if_pos room⟩
    · exact .inr ⟨not_lt.mp room, if_neg room⟩

theorem queueSend_cases (h : k.Inv cfg) (called : CalledBy cfg k inIsr t) (memory : Memory)
    (queue : Queue) (q : Nat) (item ticks : Word) :
    (∃ ret, ret ≠ .ok ∧ queueSend cfg k memory queue inIsr q item ticks = (k, memory, queue, .ret ret)) ∨
    (∃ k' memory' queue', queueTrySendLocked cfg k memory queue q item = (k', memory', queue', .ok) ∧
      queueSend cfg k memory queue inIsr q item ticks = (k', memory', queue', .ret .ok)) ∨
    ((∀ u, ¬k.WaitsOn u (.queueRecv q)) ∧ queue.itemCount ≤ queue.used ∧ item ≠ 0#32 ∧ ticks ≠ noWait ∧
      Caller cfg k inIsr t ∧ ∃ k', queueSend cfg k memory queue inIsr q item ticks = (k', memory, queue, .blocked) ∧
        Enters cfg k k' t (some (.queueSend q)) ⟨item, 0#32⟩ ticks) := by
  unfold queueSend
  by_cases null : item = 0#32
  · rw [if_pos null]
    exact .inl ⟨.nullPointer, fun e => (nomatch e), rfl⟩
  · rw [if_neg null]
    rcases called.cases with refused | ⟨accepted, runs⟩
    · rw [if_pos refused]
      exact .inl ⟨.invalidState, fun e => (nomatch e), rfl⟩
    · rw [if_neg accepted]
      rcases queueTrySendLocked_cases h memory queue q item with
        ⟨u, _, eq⟩ | ⟨none, ⟨room, eq⟩ | ⟨full, eq⟩⟩
      · rw [eq]
        exact .inr (.inl ⟨_, _, _, rfl, rfl⟩)
      · rw [eq]
        exact .inr (.inl ⟨_, _, _, rfl, rfl⟩)
      · rw [eq]
        dsimp only
        rw [if_neg nofun]
        by_cases poll : ticks = noWait
        · rw [if_pos poll]
          exact .inl ⟨.wouldBlock, fun e => (nomatch e), rfl⟩
        · rw [if_neg poll, runs.currentTask]
          obtain ⟨k', eqB, enters⟩ := blockOn_enters h runs.toRuns (.queueSend q) nofun ticks
            ⟨item, 0#32⟩
          refine .inr (.inr ⟨none, full, null, poll, runs, k', ?_, enters⟩)
          dsimp only
          rw [show some Cleanup.payload = cleanupOf (some (.queueSend q)) from rfl, eqB]

theorem queueSendCore_cases (cfg : Config) (k : Kernel) (memory : Memory) (queue : Queue) (q : Nat) (item : Word) :
    queueSendCore cfg k memory queue q item = (k, memory, queue, .nullPointer) ∨
      queueSendCore cfg k memory queue q item = queueTrySendLocked cfg k memory queue q item := by
  unfold queueSendCore
  by_cases null : item = 0#32
  · rw [if_pos null]
    exact .inl rfl
  · rw [if_neg null]
    exact .inr rfl

theorem queueReceive_cases (h : k.Inv cfg) (called : CalledBy cfg k inIsr t) (memory : Memory)
    (queue : Queue) (q : Nat) (item ticks : Word) :
    (∃ ret, ret ≠ .ok ∧ queueReceive cfg k memory queue inIsr q item ticks = (k, memory, queue, .ret ret)) ∨
    (∃ memory' queue', 0 < queue.used ∧ item ≠ 0#32 ∧ queue' = (queueDequeue queue (memory item)).1 ∧
      memory' = update memory item (queueDequeue queue (memory item)).2 ∧
      ((∀ u, ¬k.WaitsOn u (.queueSend q)) ∧
          queueReceive cfg k memory queue inIsr q item ticks = (k, memory', queue', .ret .ok) ∨
        ∃ u, k.FirstWaiter u (.queueSend q) ∧ queueReceive cfg k memory queue inIsr q item ticks =
          (unblock cfg (k.setPayload u Payload.zero) u .ok, memory',
            queueEnqueue queue' (memory' (k.task.blockPayload u).first), .ret .ok))) ∨
    (queue.used = 0 ∧ item ≠ 0#32 ∧ ticks ≠ noWait ∧ Caller cfg k inIsr t ∧
      ∃ k', queueReceive cfg k memory queue inIsr q item ticks = (k', memory, queue, .blocked) ∧
        Enters cfg k k' t (some (.queueRecv q)) ⟨item, 0#32⟩ ticks) := by
  unfold queueReceive
  by_cases null : item = 0#32
  · rw [if_pos null]
    exact .inl ⟨.nullPointer, fun e => (nomatch e), rfl⟩
  · rw [if_neg null]
    rcases called.cases with refused | ⟨accepted, runs⟩
    · rw [if_pos refused]
      exact .inl ⟨.invalidState, fun e => (nomatch e), rfl⟩
    · rw [if_neg accepted]
      by_cases available : 0 < queue.used
      · rw [if_pos available]
        refine .inr (.inl ⟨_, _, available, null, rfl, rfl, ?_⟩)
        dsimp only
        cases empty : (k.waitMap (.queueSend q)).isEmpty cfg.bitmapWidth with
        | true =>
          rw [if_neg nofun]
          exact .inl ⟨h.no_waiter.mp empty, rfl⟩
        | false =>
          obtain ⟨u, found, first⟩ := h.first_waiter empty
          rw [if_pos rfl]
          unfold queueCompleteWaitingSend
          rw [found]
          exact .inr ⟨u, first, rfl⟩
      · rw [if_neg available]
        by_cases poll : ticks = noWait
        · rw [if_pos poll]
          exact .inl ⟨.wouldBlock, fun e => (nomatch e), rfl⟩
        · rw [if_neg poll, runs.currentTask]
          obtain ⟨k', eq, enters⟩ := blockOn_enters h runs.toRuns (.queueRecv q) nofun ticks
            ⟨item, 0#32⟩
          refine .inr (.inr ⟨by omega, null, poll, runs, k', ?_, enters⟩)
          dsimp only
          rw [show some Cleanup.payload = cleanupOf (some (.queueRecv q)) from rfl, eq]

/- Events. -/

theorem eventWait_cases (h : k.Inv cfg) (called : CalledBy cfg k inIsr t) (flags : Word)
    (e : Nat) (mask options ticks : Word) :
    (∃ ret, ret ≠ .ok ∧ eventWait cfg k flags inIsr e mask options ticks = (k, flags, .ret ret)) ∨
    (isConditionMet flags mask options = true ∧ Caller cfg k inIsr t ∧
      eventWait cfg k flags inIsr e mask options ticks =
        (k, if options &&& eventClearOnExit ≠ 0#32 then flags &&& ~~~(flags &&& mask) else flags,
          .returned .ok (flags &&& mask))) ∨
    (isConditionMet flags mask options = false ∧ (mask ≠ 0#32 ∧ eventWaitOptionsAreValid options = true) ∧
      ticks ≠ noWait ∧ Caller cfg k inIsr t ∧
      ∃ k', eventWait cfg k flags inIsr e mask options ticks = (k', flags, .blocked) ∧
        Enters cfg k k' t (some (.event e)) ⟨mask, options⟩ ticks) := by
  unfold eventWait
  by_cases invalid : mask = 0#32 ∨ eventWaitOptionsAreValid options = false
  · rw [if_pos invalid]
    exact .inl ⟨.invalidArgument, fun e => (nomatch e), rfl⟩
  · rw [if_neg invalid]
    rcases called.cases with refused | ⟨accepted, runs⟩
    · rw [if_pos refused]
      exact .inl ⟨.invalidState, fun e => (nomatch e), rfl⟩
    · rw [if_neg accepted]
      by_cases met : isConditionMet flags mask options = true
      · rw [if_pos met]
        exact .inr (.inl ⟨met, runs, rfl⟩)
      · rw [if_neg met]
        by_cases poll : ticks = noWait
        · rw [if_pos poll]
          exact .inl ⟨.wouldBlock, fun e => (nomatch e), rfl⟩
        · rw [if_neg poll, runs.currentTask]
          obtain ⟨k', eq, enters⟩ := blockOn_enters h runs.toRuns (.event e) nofun ticks
            ⟨mask, options⟩
          refine .inr (.inr ⟨by simpa using met, by simpa using invalid, poll, runs, k', ?_, enters⟩)
          dsimp only
          rw [show some Cleanup.payload = cleanupOf (some (.event e)) from rfl, eq]

def eventMet (k : Kernel) (snapshot : Word) (u : Nat) : Bool :=
  isConditionMet snapshot (k.task.blockPayload u).first (k.task.blockPayload u).second

def eventClears (k : Kernel) (snapshot : Word) (u : Nat) : Word :=
  if (k.task.blockPayload u).second &&& eventClearOnExit ≠ 0#32 then snapshot &&& (k.task.blockPayload u).first
  else 0#32

structure Multicast (cfg : Config) (k k' : Kernel) (snapshot : Word) (l : List Nat) (start clear : Word) :
    Prop where
  frees : Frees cfg k k' fun u => if u ∈ l ∧ eventMet k snapshot u = true then some .ok else none
  matched : ∀ u ∈ l, eventMet k snapshot u = true →
    k'.task.blockPayload u = ⟨snapshot &&& (k.task.blockPayload u).first, (k.task.blockPayload u).second⟩
  clear : ∀ i, clear.getLsbD i = true ↔ start.getLsbD i = true ∨
    ∃ u ∈ l, eventMet k snapshot u = true ∧ (eventClears k snapshot u).getLsbD i = true

theorem eventVisit_spec (h : k.Inv cfg) {e : Nat} (waits : k.WaitsOn t (.event e)) (snapshot start : Word) :
    Multicast cfg k (eventVisit cfg snapshot (k, start) t).1 snapshot [t] start
      (eventVisit cfg snapshot (k, start) t).2 := by
  unfold eventVisit
  dsimp only
  rw [h.lists.lookup waits.1]
  dsimp only
  cases met : eventMet k snapshot t with
  | false =>
    unfold eventMet at met
    rw [if_pos met]
    have idle : ∀ u, u ∈ [t] → eventMet k snapshot u = false := by
      intro u hu
      rw [List.mem_singleton.mp hu]
      exact met
    refine ⟨⟨h, (Wakes.refl k).congr fun u => ?_, .refl k⟩, ?_, fun i => ?_⟩
    · rw [if_neg]
      rintro ⟨hu, holds⟩
      rw [idle u hu] at holds
      cases holds
    · intro u hu holds
      rw [idle u hu] at holds
      cases holds
    · constructor
      · exact .inl
      · rintro (bit | ⟨u, hu, holds, _⟩)
        · exact bit
        · rw [idle u hu] at holds
          cases holds
  | true =>
    have holds := met
    unfold eventMet at met
    rw [if_neg (by rw [met]; exact nofun)]
    have frees := Frees.wake h waits nofun
      ⟨snapshot &&& (k.task.blockPayload t).first, (k.task.blockPayload t).second⟩ .ok
    refine ⟨⟨frees.inv, frees.wakes.congr fun u => ?_, frees.calm⟩, ?_, fun i => ?_⟩
    · by_cases hu : u = t
      · subst hu
        simp [holds]
      · simp [hu, wokenBy_of_ne hu]
    · intro u hu _
      rw [List.mem_singleton.mp hu]
      exact Frees.wake_payload h waits.1 _ _
    · have only : (∃ u ∈ [t], eventMet k snapshot u = true ∧ (eventClears k snapshot u).getLsbD i = true) ↔
          (eventClears k snapshot t).getLsbD i = true := by
        simp [holds]
      rw [only]
      unfold eventClears
      dsimp only
      split
      · rw [BitVec.getLsbD_or, Bool.or_eq_true]
      · simp

theorem Multicast.append {k' k'' : Kernel} {snapshot start middle clear : Word} {l m : List Nat}
    (apart : ∀ u ∈ m, u ∉ l) (h : Multicast cfg k k' snapshot l start middle)
    (h' : Multicast cfg k' k'' snapshot m middle clear) : Multicast cfg k k'' snapshot (l ++ m) start clear := by
  have kept : ∀ u ∈ m, k'.task.blockPayload u = k.task.blockPayload u := by
    intro u hu
    exact h.frees.wakes.blockPayload u (by simp [apart u hu])
  have met : ∀ u ∈ m, eventMet k' snapshot u = eventMet k snapshot u := by
    intro u hu
    unfold eventMet
    rw [kept u hu]
  have clears : ∀ u ∈ m, eventClears k' snapshot u = eventClears k snapshot u := by
    intro u hu
    unfold eventClears
    rw [kept u hu]
  have path := h.frees.trans h'.frees
  refine ⟨⟨path.inv, path.wakes.congr fun u => ?_, path.calm⟩, ?_, fun i => ?_⟩
  · by_cases hm : u ∈ m
    · simp [hm, apart u hm, met u hm]
    · by_cases hl : u ∈ l ∧ eventMet k snapshot u = true
      · simp [hl]
      · rw [if_neg hl]
        simp only [List.mem_append, hm, or_false, false_and, if_false, Option.none_or]
        exact if_neg hl
  · intro u hu holds
    rcases List.mem_append.mp hu with hl | hm
    · rw [h'.frees.wakes.blockPayload u, h.matched u hl holds]
      have out : u ∉ m := fun hm => apart u hm hl
      simp [out]
    · rw [h'.matched u hm (by rw [met u hm]; exact holds), kept u hm]
  · rw [h'.clear, h.clear]
    constructor
    · rintro ((bit | ⟨u, hu, holds, bit⟩) | ⟨u, hu, holds, bit⟩)
      · exact .inl bit
      · exact .inr ⟨u, List.mem_append_left _ hu, holds, bit⟩
      · rw [met u hu] at holds
        rw [clears u hu] at bit
        exact .inr ⟨u, List.mem_append_right _ hu, holds, bit⟩
    · rintro (bit | ⟨u, hu, holds, bit⟩)
      · exact .inl (.inl bit)
      · rcases List.mem_append.mp hu with hl | hm
        · exact .inl (.inr ⟨u, hl, holds, bit⟩)
        · rw [← met u hm] at holds
          rw [← clears u hm] at bit
          exact .inr ⟨u, hm, holds, bit⟩

theorem eventVisit_foldl {e : Nat} (snapshot : Word) (l : List Nat) (nodup : l.Nodup) (start : Word)
    (h : k.Inv cfg) (waits : ∀ u ∈ l, k.WaitsOn u (.event e)) :
    Multicast cfg k (l.foldl (eventVisit cfg snapshot) (k, start)).1 snapshot l start
      (l.foldl (eventVisit cfg snapshot) (k, start)).2 := by
  induction l generalizing k start with
  | nil =>
    refine ⟨⟨h, (Wakes.refl k).congr fun u => ?_, .refl k⟩, fun u hu => absurd hu List.not_mem_nil, fun i => ?_⟩
    · simp
    · simp
  | cons t l ih =>
    obtain ⟨fresh, nodup⟩ := List.nodup_cons.mp nodup
    have head := eventVisit_spec h (waits t List.mem_cons_self) snapshot start
    have waits' : ∀ u ∈ l, (eventVisit cfg snapshot (k, start) t).1.WaitsOn u (.event e) := by
      intro u hu
      obtain ⟨reg, blocked, ptr⟩ := waits u (List.mem_cons_of_mem t hu)
      have hut : u ≠ t := fun same => fresh (same ▸ hu)
      have wakes := head.frees.wakes
      have asleep : (if u ∈ [t] ∧ eventMet k snapshot u = true then some Return.ok else none) = none := by
        simp [hut]
      exact ⟨by rw [wakes.taskTable]; exact reg, (wakes.blocked u).mpr ⟨blocked, asleep⟩,
        by rw [wakes.waitMapPtr u asleep]; exact ptr⟩
    have tail := ih nodup (eventVisit cfg snapshot (k, start) t).2 head.frees.inv waits'
    refine Multicast.append (l := [t]) ?_ head tail
    intro u hu mem
    exact fresh (List.mem_singleton.mp mem ▸ hu)

/-- A set wakes exactly the waiters whose condition holds on the snapshot, and clears
what the woken ones ask for. -/
theorem eventSetCore_spec (h : k.Inv cfg) (flags : Word) (e : Nat) (bits : Word) :
    Frees cfg k (eventSetCore cfg k flags e bits).1
      (fun u => if k.taskTable u = true ∧ k.task.state u = .blocked ∧ k.task.waitMapPtr u = some (.event e) ∧
        eventMet k (flags ||| bits) u = true then some .ok else none) ∧
    (∀ u, k.WaitsOn u (.event e) → eventMet k (flags ||| bits) u = true →
      (eventSetCore cfg k flags e bits).1.task.blockPayload u =
        ⟨(flags ||| bits) &&& (k.task.blockPayload u).first, (k.task.blockPayload u).second⟩) ∧
    ∀ i, (eventSetCore cfg k flags e bits).2.getLsbD i = true ↔ (flags ||| bits).getLsbD i = true ∧
      ∀ u, k.WaitsOn u (.event e) → eventMet k (flags ||| bits) u = true →
        (eventClears k (flags ||| bits) u).getLsbD i = false := by
  have mem : ∀ u, u ∈ (k.waitMap (.event e)).scan cfg.bitmapWidth ↔ k.WaitsOn u (.event e) := by
    intro u
    rw [Bitmap.mem_scan, (h.task u).wait]
    exact ⟨fun ⟨_, waits⟩ => waits, fun waits => ⟨(h.lists.lt u waits.1).trans_le cfg.tasks_le_width, waits⟩⟩
  have scan := eventVisit_foldl (flags ||| bits) _ (Bitmap.nodup_scan _ _) 0#32 h fun u hu => (mem u).mp hu
  unfold eventSetCore
  dsimp only
  refine ⟨⟨scan.frees.inv, scan.frees.wakes.congr fun u => ?_, scan.frees.calm⟩, ?_, fun i => ?_⟩
  · simp only [mem u, Kernel.WaitsOn, and_assoc]
  · exact fun u waits holds => scan.matched u ((mem u).mpr waits) holds
  · have clear := scan.clear i
    rw [BitVec.getLsbD_and, BitVec.getLsbD_not, Bool.and_eq_true]
    refine and_congr_right fun bit => ?_
    have inside := BitVec.lt_of_getLsbD bit
    simp only [inside, decide_true, Bool.true_and, Bool.not_eq_true']
    rw [← Bool.not_eq_true, clear]
    simp only [BitVec.getLsbD_zero, Bool.false_eq_true, false_or, not_exists, not_and, Bool.not_eq_true]
    exact ⟨fun all u waits holds => all u ((mem u).mpr waits) holds,
      fun all u hu holds => all u ((mem u).mp hu) holds⟩

/- Notifications. -/

theorem Kernel.Inv.setNotify (h : k.Inv cfg) (u : Nat) (value : Word) (pending : Bool) :
    (k.setNotify u value pending).Inv cfg := by
  obtain ⟨l, tasks⟩ := h
  refine ⟨⟨l.ready, l.waiters, l.owners, l.lt, l.eff, l.base, l.waiter, l.owner⟩, fun u => ?_⟩
  exact (tasks u).congr ⟨rfl, rfl, rfl, rfl, rfl, rfl, fun _ => rfl, rfl, rfl⟩ (tasks u).running

theorem Calm.setNotify (k : Kernel) (u : Nat) (value : Word) (pending : Bool) :
    Calm k (k.setNotify u value pending) :=
  ⟨⟨rfl, rfl, rfl, rfl, rfl⟩, rfl, rfl, id, fun _ => id, fun _ => .inl⟩

/-- A notification is refused, or latched, or it goes to the waiting task with all the
bits latched so far. -/
theorem notifyCore_cases (h : k.Inv cfg) (u : Nat) (value : Word) :
    (k.taskTable u = false ∧ notifyCore cfg k u value = (k, .invalidArgument)) ∨
    (k.taskTable u = true ∧ ¬k.WaitsOn u .notify ∧
      notifyCore cfg k u value = (k.setNotify u (k.task.notifyValue u ||| value) true, .ok)) ∨
    (k.WaitsOn u .notify ∧ notifyCore cfg k u value =
      (unblock cfg ((k.setNotify u
          ((k.task.notifyValue u ||| value) &&& ~~~(k.task.blockPayload u).second) false).setPayload u
        ⟨k.task.notifyValue u ||| value, (k.task.blockPayload u).second⟩) u .ok, .ok)) := by
  unfold notifyCore
  cases reg : k.taskTable u with
  | false =>
    refine .inl ⟨rfl, ?_⟩
    have lost : k.lookup cfg u = none := Kernel.lookup_eq_none.mpr (by simp [reg])
    rw [lost]
  | true =>
    rw [h.lists.lookup reg]
    dsimp only
    have bit : (k.waitMap .notify).isSet u = true ↔ k.WaitsOn u .notify := (h.task u).wait .notify
    by_cases waits : k.WaitsOn u .notify
    · refine .inr (.inr ⟨waits, ?_⟩)
      have both : (k.setNotify u (k.task.notifyValue u ||| value) true).task.state u = .blocked ∧
          ((k.setNotify u (k.task.notifyValue u ||| value) true).waitMap .notify).isSet u = true :=
        ⟨waits.2.1, bit.mpr waits⟩
      rw [if_pos both]
      simp [Kernel.setNotify, Kernel.setPayload]
    · have apart : ¬((k.setNotify u (k.task.notifyValue u ||| value) true).task.state u = .blocked ∧
          ((k.setNotify u (k.task.notifyValue u ||| value) true).waitMap .notify).isSet u = true) :=
        fun both => waits (bit.mp both.2)
      rw [if_neg apart]
      exact .inr (.inl ⟨rfl, waits, rfl⟩)

theorem taskNotifyWait_cases (h : k.Inv cfg) (called : CalledBy cfg k inIsr t)
    (clearOnEntry clearOnExit ticks : Word) :
    (∃ ret, ret ≠ .ok ∧ ret ≠ .wouldBlock ∧
      taskNotifyWait cfg k inIsr clearOnEntry clearOnExit ticks = (k, .ret ret)) ∨
    (Caller cfg k inIsr t ∧ k.task.hasNotifyPending t = true ∧
      taskNotifyWait cfg k inIsr clearOnEntry clearOnExit ticks =
        (k.setNotify t (k.task.notifyValue t &&& ~~~clearOnEntry &&& ~~~clearOnExit) false,
          .returned .ok (k.task.notifyValue t &&& ~~~clearOnEntry))) ∨
    (Caller cfg k inIsr t ∧ k.task.hasNotifyPending t = false ∧ ticks = noWait ∧
      taskNotifyWait cfg k inIsr clearOnEntry clearOnExit ticks =
        (k.setNotify t (k.task.notifyValue t &&& ~~~clearOnEntry) false, .ret .wouldBlock)) ∨
    (Caller cfg k inIsr t ∧ k.task.hasNotifyPending t = false ∧ ticks ≠ noWait ∧ ∃ k',
      taskNotifyWait cfg k inIsr clearOnEntry clearOnExit ticks = (k', .blocked) ∧
        Enters cfg (k.setNotify t (k.task.notifyValue t &&& ~~~clearOnEntry) false) k' t (some .notify) ⟨0#32, clearOnExit⟩ ticks) := by
  unfold taskNotifyWait
  rcases called.cases with refused | ⟨accepted, runs⟩
  · rw [if_pos refused]
    exact .inl ⟨.invalidState, fun e => (nomatch e), fun e => (nomatch e), rfl⟩
  · rw [if_neg accepted, runs.currentTask]
    dsimp only
    by_cases pending : k.task.hasNotifyPending t = true
    · rw [if_pos pending]
      exact .inr (.inl ⟨runs, pending, rfl⟩)
    · rw [if_neg pending]
      have clear : k.task.hasNotifyPending t = false := by simpa using pending
      by_cases poll : ticks = noWait
      · rw [if_pos poll]
        exact .inr (.inr (.inl ⟨runs, clear, poll, rfl⟩))
      · rw [if_neg poll]
        refine .inr (.inr (.inr ⟨runs, clear, poll, ?_⟩))
        have runs₁ : Runs cfg (k.setNotify t (k.task.notifyValue t &&& ~~~clearOnEntry) false) t :=
          ⟨runs.started, runs.current, runs.lt, runs.reg, runs.running⟩
        obtain ⟨k', eq, enters⟩ := blockOn_enters (h.setNotify t _ false) runs₁ .notify
          nofun ticks ⟨0#32, clearOnExit⟩
        exact ⟨k', eq, enters⟩

end XSDK.Rtos
