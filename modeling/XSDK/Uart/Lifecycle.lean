import Mathlib.Data.List.Basic

/-! The UART driver's core over a port that may fail and fire events in any call. -/
namespace XSDK.Uart

open Function (update)

inductive Status
  | ok
  | invalidArg
  | notInitialized
  | notStarted
  | invalidState
  | txBusy
  | rxBusy
  | unsupported
  | port (code : Nat)
  deriving DecidableEq, Repr

inductive UartEvent
  | txComplete
  | txAborted
  | txTimeout
  | rxComplete
  | rxAborted
  | rxTimeout
  | rxOverrun
  | rxFraming
  | rxParity
  deriving DecidableEq, Repr

inductive Direction
  | tx
  | rx
  deriving DecidableEq, Repr

def UartEvent.direction : UartEvent → Direction
  | .txComplete | .txAborted | .txTimeout => .tx
  | _ => .rx

/-- An event of a port, with the error code of its info where it has one. -/
structure Fired where
  event : UartEvent
  errorCode : Option Status

/-- A port: which one it is, and the optional operations that it has. -/
structure Driver where
  id : Nat
  hasSetEventCallback : Bool
  hasAsync : Direction → Bool
  hasAbort : Direction → Bool

/-- The driver's context. The ops of the port are set exactly while the context is started. -/
structure Context where
  driver : Option Driver
  isInitialized : Bool
  isBusy : Direction → Bool
  lastError : Direction → Status

def Context.zero : Context := ⟨none, false, fun _ => false, fun _ => .ok⟩

/-- Every event that the sink knows ends the transfer of its direction. -/
def coreEventSink (c : Context) (f : Fired) : Context :=
  { c with
    isBusy := update c.isBusy f.event.direction false
    lastError := update c.lastError f.event.direction (f.errorCode.getD .ok) }

inductive PortOp
  | setEventCallback
  | init
  | deinit
  | start
  | stop
  | transfer (dir : Direction)
  | transferAsync (dir : Direction)
  | abort (dir : Direction)
  deriving DecidableEq, Repr

/-- What happens at the ports, and the clearing of the context by `xUART_Deinit`. -/
inductive Event
  | called (id : Nat) (op : PortOp)
  | fired (event : UartEvent)
  | returned (id : Nat) (op : PortOp) (ok : Bool)
  | cleared
  deriving DecidableEq, Repr

/-- How a port answers a call: the events it fires before it returns, and its result. -/
structure Answer where
  events : List Fired
  status : Status

structure World where
  context : Context
  log : List Event

def boot : World := ⟨.zero, []⟩

def callPort (w : World) (d : Driver) (op : PortOp) (a : Answer) : World where
  context := a.events.foldl coreEventSink w.context
  log := w.log ++ .called d.id op :: (a.events.map (Event.fired ·.event) ++ [.returned d.id op (a.status = .ok)])

def World.cleared (w : World) : World := ⟨.zero, w.log ++ [.cleared]⟩

def World.setBusy (w : World) (dir : Direction) (busy : Bool) : World :=
  { w with context := { w.context with isBusy := update w.context.isBusy dir busy } }

/-! ### The calls -/

def uartInit (w : World) : Status × World :=
  (.ok, { w with context := { Context.zero with isInitialized := true } })

def uartDeinit (w : World) (a : Answer) : Status × World :=
  if ¬ w.context.isInitialized then (.notInitialized, w)
  else if w.context.isBusy .tx then (.txBusy, w)
  else if w.context.isBusy .rx then (.rxBusy, w)
  else
    match w.context.driver with
    | some d =>
      let w := callPort w d .deinit a
      if a.status ≠ .ok then (a.status, w) else (.ok, w.cleared)
    | none => (.ok, w.cleared)

/-- The answers of a port to the calls of `xUART_Start`. -/
structure StartAnswers where
  setEventCallback : Answer
  init : Answer
  start : Answer
  deinit : Answer

/-- The calls to the port, for a context that is initialised and not started. -/
def startPort (w : World) (d : Driver) (a : StartAnswers) : Status × World :=
  let w := callPort w d .init a.init
  if a.init.status ≠ .ok then (a.init.status, w)
  else
    let w := callPort w d .start a.start
    if a.start.status ≠ .ok then (a.start.status, callPort w d .deinit a.deinit)
    else (.ok, { w with context := { w.context with driver := some d } })

def uartStart (w : World) (opsAreValid : Bool) (d : Driver) (a : StartAnswers) : Status × World :=
  if ¬ w.context.isInitialized then (.notInitialized, w)
  else if w.context.driver.isSome then (.invalidState, w)
  else if ¬ opsAreValid then (.invalidArg, w)
  else if d.hasSetEventCallback then
    let w := callPort w d .setEventCallback a.setEventCallback
    if a.setEventCallback.status ≠ .ok then (a.setEventCallback.status, w) else startPort w d a
  else startPort w d a

def uartStop (w : World) (a : Answer) : Status × World :=
  match w.context.driver with
  | none => (.notStarted, w)
  | some d =>
    if w.context.isBusy .tx then (.txBusy, w)
    else if w.context.isBusy .rx then (.rxBusy, w)
    else
      let w := callPort w d .stop a
      if a.status ≠ .ok then (a.status, w)
      else (.ok, { w with context := { w.context with driver := none } })

def busyStatus : Direction → Status
  | .tx => .txBusy
  | .rx => .rxBusy

variable (dir : Direction)

def transfer (w : World) (length : Nat) (a : Answer) : Status × World :=
  if length = 0 then (.invalidArg, w)
  else
    match w.context.driver with
    | none => (.notStarted, w)
    | some d =>
      if w.context.isBusy dir then (busyStatus dir, w)
      else
        let w := (callPort (w.setBusy dir true) d (.transfer dir) a).setBusy dir false
        (a.status, { w with context := { w.context with lastError := update w.context.lastError dir a.status } })

def transferAsync (w : World) (length : Nat) (a : Answer) : Status × World :=
  if length = 0 then (.invalidArg, w)
  else
    match w.context.driver with
    | none => (.notStarted, w)
    | some d =>
      if w.context.isBusy dir then (busyStatus dir, w)
      else if ¬ d.hasAsync dir then (.unsupported, w)
      else
        let w := callPort (w.setBusy dir true) d (.transferAsync dir) a
        (a.status, if a.status ≠ .ok then w.setBusy dir false else w)

def abort (w : World) (a : Answer) : Status × World :=
  match w.context.driver with
  | none => (.notStarted, w)
  | some d =>
    if ¬ w.context.isBusy dir then (.ok, w)
    else if ¬ d.hasAbort dir then (.unsupported, w)
    else (a.status, callPort w d (.abort dir) a)

def uartTransmit : World → Nat → Answer → Status × World := transfer .tx
def uartReceive : World → Nat → Answer → Status × World := transfer .rx
def uartTransmitAsync : World → Nat → Answer → Status × World := transferAsync .tx
def uartReceiveAsync : World → Nat → Answer → Status × World := transferAsync .rx
def uartAbortTx : World → Answer → Status × World := abort .tx
def uartAbortRx : World → Answer → Status × World := abort .rx

/-- A call with the answers of the port, or an event between calls. -/
inductive Call
  | init
  | deinit (a : Answer)
  | start (opsAreValid : Bool) (d : Driver) (a : StartAnswers)
  | stop (a : Answer)
  | transmit (length : Nat) (a : Answer)
  | receive (length : Nat) (a : Answer)
  | transmitAsync (length : Nat) (a : Answer)
  | receiveAsync (length : Nat) (a : Answer)
  | abortTx (a : Answer)
  | abortRx (a : Answer)
  | event (f : Fired)

def step (w : World) : Call → World
  | .init => (uartInit w).2
  | .deinit a => (uartDeinit w a).2
  | .start opsAreValid d a => (uartStart w opsAreValid d a).2
  | .stop a => (uartStop w a).2
  | .transmit length a => (uartTransmit w length a).2
  | .receive length a => (uartReceive w length a).2
  | .transmitAsync length a => (uartTransmitAsync w length a).2
  | .receiveAsync length a => (uartReceiveAsync w length a).2
  | .abortTx a => (uartAbortTx w a).2
  | .abortRx a => (uartAbortRx w a).2
  | .event f => ⟨coreEventSink w.context f, w.log ++ [.fired f.event]⟩

def run (w : World) (calls : List Call) : World := calls.foldl step w

/-! ### What the ports have seen -/

structure Monitor where
  initialised : Nat → Bool
  started : Nat → Bool
  pending : Direction → Bool

def Monitor.init : Monitor := ⟨fun _ => false, fun _ => false, fun _ => false⟩

variable (m : Monitor)

/-- An asynchronous transfer is pending from its call on, unless the port refuses it, until its terminating event. -/
def observe : Event → Monitor
  | .returned id .init true => { m with initialised := update m.initialised id true }
  | .returned id .deinit true =>
    { m with initialised := update m.initialised id false, started := update m.started id false }
  | .returned id .start true => { m with started := update m.started id true }
  | .returned id .stop true => { m with started := update m.started id false }
  | .called _ (.transferAsync dir) => { m with pending := update m.pending dir true }
  | .returned _ (.transferAsync dir) false => { m with pending := update m.pending dir false }
  | .fired e => { m with pending := update m.pending e.direction false }
  | _ => m

def monitor (log : List Event) : Monitor := log.foldl observe .init

def Allowed : Event → Prop
  | .called id .init => m.initialised id = false
  | .called id .start => m.initialised id = true
  | .called id (.transfer _) => m.started id = true
  | .called id (.transferAsync _) => m.started id = true
  | .called id (.abort _) => m.started id = true
  | .cleared => ∀ id, m.initialised id = false
  | _ => True

def Lawful (m : Monitor) : List Event → Prop
  | [] => True
  | e :: rest => Allowed m e ∧ Lawful (observe m e) rest

structure Balanced (w : World) : Prop where
  lawful : Lawful .init w.log
  busy : ∀ dir, w.context.isBusy dir = (monitor w.log).pending dir

/-! ### The condition -/

def Idle (w : World) : Prop := w.context.isBusy .tx = false ∧ w.context.isBusy .rx = false

def ReachesInit (w : World) (opsAreValid : Bool) (d : Driver) (a : StartAnswers) : Prop :=
  w.context.isInitialized = true ∧ w.context.driver = none ∧ opsAreValid = true ∧
    (d.hasSetEventCallback = true → a.setEventCallback.status = .ok)

/-- The call forgets a port without a successful deinit: Stop, Init on a started context, and Start when
the port fails to start and then to deinit. -/
def Forgets (w : World) (id : Nat) : Call → Prop
  | .init => ∃ d, w.context.driver = some d ∧ d.id = id
  | .stop a => (∃ d, w.context.driver = some d ∧ d.id = id) ∧ Idle w ∧ a.status = .ok
  | .start opsAreValid d a => ReachesInit w opsAreValid d a ∧ d.id = id ∧ a.init.status = .ok ∧
      a.start.status ≠ .ok ∧ a.deinit.status ≠ .ok
  | _ => False

/-- Init finds no transfer pending, Start no port that was forgotten, and Deinit none at all. -/
def Meets (forgotten : Nat → Prop) (w : World) : Call → Prop
  | .init => Idle w
  | .start opsAreValid d a => ReachesInit w opsAreValid d a → ¬ forgotten d.id
  | .deinit _ => w.context.isInitialized = true → Idle w → ∀ id, ¬ forgotten id
  | _ => True

def MeetsAll (forgotten : Nat → Prop) (w : World) : List Call → Prop
  | [] => True
  | call :: rest =>
    Meets forgotten w call ∧ MeetsAll (fun id => forgotten id ∨ Forgets w id call) (step w call) rest

/-! ### One call of a port -/

def Answer.ends (a : Answer) (dir : Direction) : Bool := a.events.any (·.event.direction = dir)

variable (events : List Fired)

theorem sunk (c : Context) :
    (events.foldl coreEventSink c).driver = c.driver ∧
      (events.foldl coreEventSink c).isInitialized = c.isInitialized ∧
      ∀ dir, (events.foldl coreEventSink c).isBusy dir = (c.isBusy dir && !events.any (·.event.direction = dir)) := by
  induction events generalizing c with
  | nil => simp
  | cons f rest ih =>
    obtain ⟨driver, initialized, busy⟩ := ih (coreEventSink c f)
    refine ⟨driver, initialized, fun dir => ?_⟩
    rw [List.foldl_cons, busy, List.any_cons]
    by_cases here : f.event.direction = dir
    · simp [coreEventSink, here]
    · have other : dir ≠ f.event.direction := Ne.symm here
      simp [coreEventSink, here, other]

theorem seen (m : Monitor) :
    (events.map (Event.fired ·.event)).foldl observe m =
      { m with pending := fun dir => m.pending dir && !events.any (·.event.direction = dir) } := by
  induction events generalizing m with
  | nil => simp
  | cons f rest ih =>
    rw [List.map_cons, List.foldl_cons, ih]
    simp only [observe, List.any_cons]
    congr 1
    funext dir
    by_cases here : f.event.direction = dir
    · simp [here]
    · have other : dir ≠ f.event.direction := Ne.symm here
      simp [here, other]

theorem lawful_append (first second : List Event) :
    Lawful m (first ++ second) ↔ Lawful m first ∧ Lawful (first.foldl observe m) second := by
  induction first generalizing m with
  | nil => simp [Lawful]
  | cons e rest ih => rw [List.cons_append, Lawful, ih, Lawful, List.foldl_cons, and_assoc]

theorem lawful_fired : Lawful m (events.map (Event.fired ·.event)) := by
  induction events generalizing m with
  | nil => trivial
  | cons f rest ih => exact ⟨trivial, ih _⟩

def Monitor.after (id : Nat) (op : PortOp) (a : Answer) : Monitor :=
  observe { observe m (.called id op) with
      pending := fun dir => (observe m (.called id op)).pending dir && !a.ends dir }
    (.returned id op (a.status = .ok))

theorem monitor_append (log more : List Event) : monitor (log ++ more) = more.foldl observe (monitor log) :=
  List.foldl_append

theorem monitor_callPort (w : World) (d : Driver) (op : PortOp) (a : Answer) :
    monitor (callPort w d op a).log = (monitor w.log).after d.id op a := by
  rw [callPort, monitor_append, List.foldl_cons, List.foldl_append, seen]
  rfl

theorem lawful_callPort {w : World} (lawful : Lawful .init w.log) (d : Driver) (op : PortOp) (a : Answer)
    (allowed : Allowed (monitor w.log) (.called d.id op)) : Lawful .init (callPort w d op a).log := by
  rw [callPort, lawful_append]
  refine ⟨lawful, allowed, (lawful_append ..).mpr ⟨lawful_fired _ _, trivial, trivial⟩⟩

theorem callPort_driver (w : World) (d : Driver) (op : PortOp) (a : Answer) :
    (callPort w d op a).context.driver = w.context.driver := (sunk a.events w.context).1

theorem callPort_busy (w : World) (d : Driver) (op : PortOp) (a : Answer) (dir : Direction) :
    (callPort w d op a).context.isBusy dir = (w.context.isBusy dir && !a.ends dir) :=
  (sunk a.events w.context).2.2 dir

/-! ### The invariant -/

/-- Besides the balance: a port that is initialised is the one the context is started on, or was forgotten. -/
structure Sound (forgotten : Nat → Prop) (w : World) : Prop extends Balanced w where
  held : ∀ id, (monitor w.log).initialised id = true →
    forgotten id ∨ ∃ d, w.context.driver = some d ∧ d.id = id
  attached : ∀ d, w.context.driver = some d → (monitor w.log).started d.id = true

theorem Sound.mono {forgotten more : Nat → Prop} {w : World} (s : Sound forgotten w)
    (weaker : ∀ id, forgotten id → more id) : Sound more w :=
  { s with held := fun id seen => (s.held id seen).imp_left (weaker id) }

theorem Sound.idle {forgotten : Nat → Prop} {w : World} (s : Sound forgotten w) {dir : Direction}
    (idle : w.context.isBusy dir = false) : (monitor w.log).pending dir = false := by
  rw [← s.busy dir]
  exact idle

def Quiet : PortOp → Bool → Prop
  | .transferAsync _, _ => False
  | .init, ok | .deinit, ok | .start, ok | .stop, ok => ok = false
  | _, _ => True

theorem observe_quiet {op : PortOp} {ok : Bool} (quiet : Quiet op ok) (m : Monitor) (id : Nat) :
    observe m (.called id op) = m ∧ observe m (.returned id op ok) = m := by
  cases op <;> cases ok <;> first | exact ⟨rfl, rfl⟩ | cases quiet

variable {forgotten : Nat → Prop} {w : World}

theorem Balanced.call (b : Balanced w) (d : Driver) (op : PortOp) (a : Answer)
    (allowed : Allowed (monitor w.log) (.called d.id op)) (plain : ∀ dir, op ≠ .transferAsync dir) :
    Balanced (callPort w d op a) := by
  refine ⟨lawful_callPort b.lawful d op a allowed, fun dir => ?_⟩
  have keeps : ∀ m e, e = .called d.id op ∨ e = .returned d.id op (a.status = .ok) →
      (observe m e).pending = m.pending := by
    rintro m e (rfl | rfl)
    · cases op <;> first | rfl | exact absurd rfl (plain _)
    · cases op <;> cases decide (a.status = .ok) <;> first | rfl | exact absurd rfl (plain _)
  rw [callPort_busy, monitor_callPort, Monitor.after, keeps _ _ (.inr rfl), keeps _ _ (.inl rfl), b.busy]

theorem Sound.called (s : Sound forgotten w) (d : Driver) (op : PortOp) (a : Answer)
    (allowed : Allowed (monitor w.log) (.called d.id op)) {c : Context} (driver : c.driver = w.context.driver)
    (initialised : ((monitor w.log).after d.id op a).initialised = (monitor w.log).initialised)
    (started : ((monitor w.log).after d.id op a).started = (monitor w.log).started)
    (busy : ∀ dir, c.isBusy dir = ((monitor w.log).after d.id op a).pending dir) :
    Sound forgotten ⟨c, (callPort w d op a).log⟩ := by
  refine ⟨⟨lawful_callPort s.lawful d op a allowed, fun dir => ?_⟩, fun id seen => ?_, fun d' here => ?_⟩
  · rw [monitor_callPort]
    exact busy dir
  · rw [monitor_callPort, initialised] at seen
    rw [driver]
    exact s.held id seen
  · rw [monitor_callPort, started]
    exact s.attached d' (driver ▸ here)

theorem after_quiet {op : PortOp} {a : Answer} (quiet : Quiet op (a.status = .ok)) (m : Monitor) (id : Nat) :
    m.after id op a = { m with pending := fun dir => m.pending dir && !a.ends dir } := by
  rw [Monitor.after, (observe_quiet quiet _ id).1, (observe_quiet quiet _ id).2]

theorem Sound.call (s : Sound forgotten w) (d : Driver) (op : PortOp) (a : Answer)
    (allowed : Allowed (monitor w.log) (.called d.id op)) (quiet : Quiet op (a.status = .ok)) :
    Sound forgotten (callPort w d op a) := by
  refine s.called d op a allowed (callPort_driver w d op a) ?_ ?_ fun dir => ?_
  · rw [after_quiet quiet]
  · rw [after_quiet quiet]
  · rw [after_quiet quiet]
    simp only [← s.busy]
    exact callPort_busy w d op a dir

theorem Sound.unseen (s : Sound forgotten w) {id : Nat} (fresh : ¬ forgotten id)
    (other : ∀ d, w.context.driver = some d → d.id ≠ id) : (monitor w.log).initialised id = false := by
  by_contra seen
  rcases s.held id (by simpa using seen) with before | ⟨d, here, same⟩
  · exact fresh before
  · exact other d here same

theorem uartInit_sound (s : Sound forgotten w) (idle : Idle w) :
    Sound (fun id => forgotten id ∨ Forgets w id .init) (uartInit w).2 := by
  refine ⟨⟨s.lawful, fun dir => ?_⟩, fun id seen => .inl (s.held id seen), fun d here => by cases here⟩
  cases dir with
  | tx => exact (s.idle idle.1).symm
  | rx => exact (s.idle idle.2).symm

theorem cleared_sound (b : Balanced w) (idle : ∀ dir, (monitor w.log).pending dir = false)
    (none : ∀ id, (monitor w.log).initialised id = false) : Sound forgotten w.cleared := by
  have same : monitor w.cleared.log = monitor w.log := monitor_append ..
  refine ⟨⟨(lawful_append ..).mpr ⟨b.lawful, none, trivial⟩, fun dir => ?_⟩, fun id seen => ?_,
    fun d here => by cases here⟩
  · rw [same, idle]
    rfl
  · rw [same, none] at seen
    cases seen

section

variable (s : Sound forgotten w)
include s

theorem uartDeinit_sound (a : Answer) (meets : w.context.isInitialized = true → Idle w → ∀ id, ¬ forgotten id) :
    Sound forgotten (uartDeinit w a).2 := by
  rw [uartDeinit]
  by_cases initialized : w.context.isInitialized = true
  · rw [if_neg (not_not.mpr initialized)]
    by_cases tx : w.context.isBusy .tx = true
    · rwa [if_pos tx]
    by_cases rx : w.context.isBusy .rx = true
    · rwa [if_neg tx, if_pos rx]
    rw [if_neg tx, if_neg rx]
    rw [Bool.not_eq_true] at tx rx
    have fresh := meets initialized ⟨tx, rx⟩
    have idle : ∀ dir, (monitor w.log).pending dir = false := by
      intro dir
      cases dir with
      | tx => exact s.idle tx
      | rx => exact s.idle rx
    cases attached : w.context.driver with
    | none =>
      refine cleared_sound s.toBalanced idle fun id => s.unseen (fresh id) fun d here => ?_
      rw [attached] at here
      cases here
    | some d =>
      by_cases ok : a.status = .ok
      · simp only [ok, ne_eq, not_true_eq_false, if_false]
        have after : (monitor w.log).after d.id .deinit a =
            ⟨update (monitor w.log).initialised d.id false, update (monitor w.log).started d.id false,
              fun dir => (monitor w.log).pending dir && !a.ends dir⟩ := by simp [Monitor.after, observe, ok]
        refine cleared_sound (s.toBalanced.call d .deinit a trivial nofun) (fun dir => ?_) fun id => ?_
        · rw [monitor_callPort, after]
          simp [idle]
        · rw [monitor_callPort, after]
          by_cases own : id = d.id
          · simp [own]
          · simp only [Function.update_of_ne own]
            refine s.unseen (fresh id) fun d' here same => own ?_
            rw [attached] at here
            exact same.symm.trans (congrArg Driver.id (Option.some.inj here)).symm
      · simp only [ok, ne_eq, not_false_eq_true, if_true]
        exact s.call d .deinit a trivial (decide_eq_false ok)
  · rwa [if_pos initialized]

theorem uartStop_sound (a : Answer) : Sound (fun id => forgotten id ∨ Forgets w id (.stop a)) (uartStop w a).2 := by
  have weaker := s.mono fun id (before : forgotten id) => Or.inl (b := Forgets w id (.stop a)) before
  rw [uartStop]
  cases attached : w.context.driver with
  | none => exact weaker
  | some d =>
    simp only
    by_cases tx : w.context.isBusy .tx = true
    · rwa [if_pos tx]
    by_cases rx : w.context.isBusy .rx = true
    · rwa [if_neg tx, if_pos rx]
    rw [if_neg tx, if_neg rx]
    rw [Bool.not_eq_true] at tx rx
    by_cases ok : a.status = .ok
    · simp only [ok, ne_eq, not_true_eq_false, if_false]
      have b := s.toBalanced.call d .stop a trivial nofun
      refine ⟨⟨b.lawful, b.busy⟩, fun id seen => ?_, fun d' here => by cases here⟩
      have before : (monitor w.log).initialised id = true := by
        rw [monitor_callPort] at seen
        simpa [Monitor.after, observe, ok] using seen
      rcases s.held id before with old | here
      · exact .inl (.inl old)
      · exact .inl (.inr ⟨here, ⟨tx, rx⟩, ok⟩)
    · simp only [ok, ne_eq, not_false_eq_true, if_true]
      exact weaker.call d .stop a trivial (decide_eq_false ok)

theorem startPort_sound (d : Driver) (a : StartAnswers) (stopped : w.context.driver = none)
    (fresh : ¬ forgotten d.id) :
    Sound (fun id => forgotten id ∨ (d.id = id ∧ a.init.status = .ok ∧ a.start.status ≠ .ok ∧ a.deinit.status ≠ .ok))
      (startPort w d a).2 := by
  have unseen : (monitor w.log).initialised d.id = false := s.unseen fresh fun d' here => by
    rw [stopped] at here
    cases here
  rw [startPort]
  by_cases init : a.init.status = .ok
  · simp only [init, ne_eq, not_true_eq_false, if_false, true_and]
    have first : Sound (fun id => forgotten id ∨ d.id = id) (callPort w d .init a.init) := by
      refine ⟨s.toBalanced.call d .init a.init unseen nofun, fun id seen => ?_, fun d' here => ?_⟩
      · rw [monitor_callPort] at seen
        by_cases own : id = d.id
        · exact .inl (.inr own.symm)
        · have before : (monitor w.log).initialised id = true := by
            simpa [Monitor.after, observe, init, own] using seen
          rw [callPort_driver]
          exact (s.held id before).imp_left .inl
      · rw [callPort_driver, stopped] at here
        cases here
    have ready : (monitor (callPort w d .init a.init).log).initialised d.id = true := by
      rw [monitor_callPort]
      simp [Monitor.after, observe, init]
    by_cases start : a.start.status = .ok
    · simp only [start, not_true_eq_false, if_false]
      have b := first.toBalanced.call d .start a.start ready nofun
      refine ⟨⟨b.lawful, b.busy⟩, fun id seen => ?_, fun d' here => ?_⟩
      · have before : (monitor (callPort w d .init a.init).log).initialised id = true := by
          rw [monitor_callPort] at seen
          simpa [Monitor.after, observe, start] using seen
        rcases first.held id before with (old | own) | ⟨d', here, _⟩
        · exact .inl (.inl old)
        · exact .inr ⟨d, rfl, own⟩
        · rw [callPort_driver, stopped] at here
          cases here
      · rw [← Option.some.inj here, monitor_callPort]
        simp [Monitor.after, observe, start]
    · simp only [start, not_false_eq_true, if_true, true_and]
      have second : Sound (fun id => forgotten id ∨ d.id = id)
          (callPort (callPort w d .init a.init) d .start a.start) :=
        first.call d .start a.start ready (decide_eq_false start)
      by_cases deinit : a.deinit.status = .ok
      · refine ⟨second.toBalanced.call d .deinit a.deinit trivial nofun, fun id seen => ?_, fun d' here => ?_⟩
        · rw [monitor_callPort] at seen
          by_cases own : id = d.id
          · simp [Monitor.after, observe, deinit, own] at seen
          · have before : (monitor (callPort (callPort w d .init a.init) d .start a.start).log).initialised id =
                true := by simpa [Monitor.after, observe, deinit, own] using seen
            rw [callPort_driver]
            rcases second.held id before with (old | same) | here
            · exact .inl (.inl old)
            · exact absurd same.symm own
            · exact .inr here
        · rw [callPort_driver, callPort_driver, callPort_driver, stopped] at here
          cases here
      · exact (second.call d .deinit a.deinit trivial (decide_eq_false deinit)).mono fun id before =>
          before.imp_right fun own => ⟨own, deinit⟩
  · simp only [init, ne_eq, not_false_eq_true, if_true, false_and, and_false, or_false]
    exact s.call d .init a.init unseen (decide_eq_false init)

theorem uartStart_sound (opsAreValid : Bool) (d : Driver) (a : StartAnswers)
    (meets : ReachesInit w opsAreValid d a → ¬ forgotten d.id) :
    Sound (fun id => forgotten id ∨ Forgets w id (.start opsAreValid d a)) (uartStart w opsAreValid d a).2 := by
  have weaker := s.mono fun id (before : forgotten id) =>
    Or.inl (b := Forgets w id (.start opsAreValid d a)) before
  rw [uartStart]
  by_cases initialized : w.context.isInitialized = true
  · rw [if_neg (not_not.mpr initialized)]
    by_cases started : w.context.driver.isSome = true
    · rwa [if_pos started]
    have stopped : w.context.driver = none := by simpa using started
    by_cases valid : opsAreValid = true
    · rw [if_neg started, if_neg (not_not.mpr valid)]
      by_cases has : d.hasSetEventCallback = true
      · rw [if_pos has]
        have told := s.call d .setEventCallback a.setEventCallback trivial trivial
        by_cases ok : a.setEventCallback.status = .ok
        · simp only [ok, ne_eq, not_true_eq_false, if_false]
          have reaches : ReachesInit w opsAreValid d a := ⟨initialized, stopped, valid, fun _ => ok⟩
          refine (startPort_sound told d a ?_ (meets reaches)).mono fun id before => before.imp_right fun own =>
            ⟨reaches, own⟩
          rw [callPort_driver]
          exact stopped
        · simp only [ok, ne_eq, not_false_eq_true, if_true]
          exact told.mono fun id before => .inl before
      · rw [if_neg has]
        have reaches : ReachesInit w opsAreValid d a := ⟨initialized, stopped, valid, fun yes => absurd yes has⟩
        exact (startPort_sound s d a stopped (meets reaches)).mono fun id before => before.imp_right fun own =>
          ⟨reaches, own⟩
    · rwa [if_neg started, if_pos valid]
  · rwa [if_pos initialized]

theorem transfer_sound (dir : Direction) (length : Nat) (a : Answer) :
    Sound forgotten (transfer dir w length a).2 := by
  rw [transfer]
  by_cases empty : length = 0
  · rwa [if_pos empty]
  rw [if_neg empty]
  cases attached : w.context.driver with
  | none => exact s
  | some d =>
    simp only
    by_cases busy : w.context.isBusy dir = true
    · rwa [if_pos busy]
    rw [if_neg busy]
    have quiet : Quiet (.transfer dir) (a.status = .ok) := trivial
    refine s.called d (.transfer dir) a (s.attached d attached)
      (callPort_driver (w.setBusy dir true) d (.transfer dir) a) ?_ ?_ fun x => ?_
    · rw [after_quiet quiet]
    · rw [after_quiet quiet]
    · simp only [after_quiet quiet, ← s.busy]
      by_cases here : x = dir
      · simp [World.setBusy, here, busy]
      · simp [World.setBusy, here, callPort_busy]

theorem transferAsync_sound (dir : Direction) (length : Nat) (a : Answer) :
    Sound forgotten (transferAsync dir w length a).2 := by
  rw [transferAsync]
  by_cases empty : length = 0
  · rwa [if_pos empty]
  rw [if_neg empty]
  cases attached : w.context.driver with
  | none => exact s
  | some d =>
    simp only
    by_cases busy : w.context.isBusy dir = true
    · rwa [if_pos busy]
    by_cases has : ¬ d.hasAsync dir
    · rwa [if_neg busy, if_pos has]
    rw [if_neg busy, if_neg has]
    have driver := callPort_driver (w.setBusy dir true) d (.transferAsync dir) a
    have allowed := s.attached d attached
    by_cases ok : a.status = .ok
    · simp only [ok, ne_eq, not_true_eq_false, if_false]
      refine s.called d (.transferAsync dir) a allowed driver ?_ ?_ fun x => ?_
      · simp [Monitor.after, observe, ok]
      · simp [Monitor.after, observe, ok]
      · refine (callPort_busy (w.setBusy dir true) d (.transferAsync dir) a x).trans ?_
        by_cases here : x = dir
        · simp [World.setBusy, Monitor.after, observe, ok, here]
        · simp [World.setBusy, Monitor.after, observe, ok, here, s.busy]
    · simp only [ok, ne_eq, not_false_eq_true, if_true]
      refine s.called d (.transferAsync dir) a allowed driver ?_ ?_ fun x => ?_
      · simp [Monitor.after, observe, ok]
      · simp [Monitor.after, observe, ok]
      · by_cases here : x = dir
        · simp [World.setBusy, Monitor.after, observe, ok, here]
        · simp [callPort_busy, World.setBusy, Monitor.after, observe, ok, here, s.busy]

theorem abort_sound (dir : Direction) (a : Answer) : Sound forgotten (abort dir w a).2 := by
  rw [abort]
  cases attached : w.context.driver with
  | none => exact s
  | some d =>
    simp only
    by_cases idle : ¬ w.context.isBusy dir
    · rwa [if_pos idle]
    by_cases none : ¬ d.hasAbort dir
    · rwa [if_neg idle, if_pos none]
    rw [if_neg idle, if_neg none]
    exact s.call d (.abort dir) a (s.attached d attached) trivial

theorem fired_sound (f : Fired) : Sound forgotten ⟨coreEventSink w.context f, w.log ++ [.fired f.event]⟩ := by
  have same : monitor (w.log ++ [.fired f.event]) = observe (monitor w.log) (.fired f.event) := monitor_append ..
  refine ⟨⟨(lawful_append ..).mpr ⟨s.lawful, trivial, trivial⟩, fun dir => ?_⟩, ?_, ?_⟩
  · rw [same]
    by_cases here : dir = f.event.direction
    · simp [coreEventSink, observe, here]
    · simp [coreEventSink, observe, here, s.busy]
  · rw [same]
    exact s.held
  · rw [same]
    exact s.attached

theorem step_sound (call : Call) (meets : Meets forgotten w call) :
    Sound (fun id => forgotten id ∨ Forgets w id call) (step w call) := by
  have weaker {w' : World} (kept : Sound forgotten w') : Sound (fun id => forgotten id ∨ Forgets w id call) w' :=
    kept.mono fun _ => .inl
  cases call with
  | init => exact uartInit_sound s meets
  | deinit a => exact weaker (uartDeinit_sound s a meets)
  | start opsAreValid d a => exact uartStart_sound s opsAreValid d a meets
  | stop a => exact uartStop_sound s a
  | transmit length a => exact weaker (transfer_sound s .tx length a)
  | receive length a => exact weaker (transfer_sound s .rx length a)
  | transmitAsync length a => exact weaker (transferAsync_sound s .tx length a)
  | receiveAsync length a => exact weaker (transferAsync_sound s .rx length a)
  | abortTx a => exact weaker (abort_sound s .tx a)
  | abortRx a => exact weaker (abort_sound s .rx a)
  | event f => exact weaker (fired_sound s f)

theorem run_sound (calls : List Call) (meets : MeetsAll forgotten w calls) : Balanced (run w calls) := by
  induction calls generalizing forgotten w with
  | nil => exact s.toBalanced
  | cons call rest ih => exact ih (step_sound s call meets.1) meets.2

end

/-- Every run whose calls meet the condition is balanced. -/
theorem lifecycle_balanced (calls : List Call) (meets : MeetsAll (fun _ => False) boot calls) :
    Balanced (run boot calls) := by
  have start : Sound (fun _ => False) boot :=
    ⟨⟨trivial, fun _ => rfl⟩, fun id seen => (by cases seen), fun d here => by cases here⟩
  exact run_sound start calls meets

def plain : Answer := ⟨[], .ok⟩

def allOps : Driver := ⟨0, true, fun _ => true, fun _ => true⟩

/-- A transfer that ends before its submission returns. -/
theorem lifecycle_balanced_async :
    Balanced (run boot [.init, .start true allOps ⟨plain, plain, plain, plain⟩,
      .transmitAsync 4 ⟨[⟨.txComplete, none⟩], .ok⟩, .deinit plain]) :=
  lifecycle_balanced _ ⟨⟨rfl, rfl⟩, fun _ before => by simp [Forgets, boot, Context.zero] at before, trivial,
    fun _ _ id before => by
      simp [Forgets, boot, Context.zero, step, uartInit, plain] at before, trivial⟩

/-- Stop, and Start on the same port: it is initialised a second time without a deinit. -/
theorem lifecycle_unbalanced :
    ¬ Balanced (run boot [.init, .start true allOps ⟨plain, plain, plain, plain⟩, .stop plain,
      .start true allOps ⟨plain, plain, plain, plain⟩]) := by
  intro b
  have again := ((lawful_append .init [.called 0 .setEventCallback, .returned 0 .setEventCallback true,
    .called 0 .init, .returned 0 .init true, .called 0 .start, .returned 0 .start true, .called 0 .stop,
    .returned 0 .stop true, .called 0 .setEventCallback, .returned 0 .setEventCallback true] _).mp b.lawful).2.1
  have twice : true = false := again
  cases twice

end XSDK.Uart
