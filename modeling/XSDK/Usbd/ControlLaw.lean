import XSDK.Library.Runs
import XSDK.Usbd.Transfers

/-! Control transfers over whole runs: what a request asks for becomes the device's state at its
status stage, and the class that handled it is told then. -/
namespace XSDK.Usbd

open Library Library.Call
open List (append_nil findSome?_cons mem_append mem_map mem_singleton not_mem_nil)

/-- The lifecycle, the configuration and the address. -/
structure Settings where
  lifecycleState : LifecycleState
  configurationValue : UInt8
  addressValue : UInt8
  isConfigured : Bool
  deriving DecidableEq

def Tracked.settings (t : Tracked) : Settings :=
  ⟨t.lifecycleState, t.configurationValue, t.addressValue, t.isConfigured⟩

def Device.settings (d : Device) : Settings := d.tracked.settings

def Settings.Agree (s : Settings) : Prop := s.lifecycleState = .configured ↔ s.isConfigured = true

def Settings.Placed (s : Settings) : Prop := s.isConfigured = true → s.addressValue ≠ 0

instance (r : SetupRequest) (b : UInt8) : Decidable (r.IsStandard b) := inferInstanceAs (Decidable (_ ∧ _))
instance (r : SetupRequest) : Decidable r.IsSetAddress := inferInstanceAs (Decidable (_ ∧ _))
instance (r : SetupRequest) : Decidable r.IsSetConfiguration := inferInstanceAs (Decidable (_ ∧ _))
instance (r : SetupRequest) : Decidable r.Lookalike := inferInstanceAs (Decidable (_ ∧ _ ∧ _))
instance (s : Settings) : Decidable s.Placed := inferInstanceAs (Decidable (_ → _))

/-- The settings that a request asks for, when the device accepts it. -/
def Tracked.asked (t : Tracked) (r : SetupRequest) : Settings :=
  if r.IsSetAddress then { t.settings with addressValue := lowByte r.wValue }
  else if r.IsStandard reqSetConfiguration ∧ t.isAddressed = true ∧ (lowByte r.wValue = 0 ∨ lowByte r.wValue = 1) then
    { t.settings with isConfigured := lowByte r.wValue == 1, configurationValue := lowByte r.wValue }
  else t.settings

section Machine

variable {σ : Type} (e : Env σ)

/-- Endpoint 0 hears of SETUP packets, of data in both directions, and of the bus reset. -/
def controlMachine : Machine (System σ) DcdEvent (List Outgoing) where
  allowed _
    | .setupReceived data => data.length = 8
    | .dataReceived ep _ => ep = 0x00
    | .dataSent ep => ep = 0x80
    | .bus event => event = .reset
  step s event :=
    ((dcdEventCallback e event { s with log := [] }).2, (dcdEventCallback e event { s with log := [] }).2.log)

end Machine

abbrev ControlTransition (σ : Type) := Transition (System σ) DcdEvent (List Outgoing)

/- A control transfer as the host and the controller driver see it. -/

structure Transfer where
  request : SetupRequest
  before : Settings
  asked : Settings
  handled : List ClassRef
  phase : ControlPhase

/-- The transfer under way, and the last class that handled one and has not been told. -/
structure History where
  transfer : Option Transfer
  remembered : Option ClassRef

def Outgoing.handler : Outgoing → Option ClassRef
  | .handled c => some c
  | _ => none

def Outgoing.completed : Outgoing → Option ClassRef
  | .complete c => some c
  | _ => none

variable (isIn : Bool)

/-- The stage that the controller driver has taken, for a request in this direction. -/
def Outgoing.begins : Outgoing → Option ControlPhase
  | .dcd (.epSend _ _ _) (.ok ()) => some (if isIn then .dataIn else .outStatus)
  | .dcd (.epReceive _ _) (.ok ()) => some .dataOut
  | _ => none

def handledBy (log : List Outgoing) : List ClassRef := log.filterMap Outgoing.handler
def completions (log : List Outgoing) : List ClassRef := log.filterMap Outgoing.completed
def begun (log : List Outgoing) : Option ControlPhase := log.findSome? (Outgoing.begins isIn)

def DcdEvent.isReceived : DcdEvent → Bool
  | .dataReceived _ _ => true
  | _ => false

def DcdEvent.isSent : DcdEvent → Bool
  | .dataSent _ => true
  | _ => false

/-- The status stage ends: the host's empty packet after data, or the device's. -/
def Transfer.ends (t : Transfer) (event : DcdEvent) : Bool :=
  decide (t.phase = .dataIn) && event.isReceived || decide (t.phase = .outStatus) && event.isSent

section History

variable {σ : Type} (e : Env σ)

def wantsCompletion (c : ClassRef) : Bool := (e.transferComplete c).isSome

def followTransfer (t : Option Transfer) (s : ControlTransition σ) : Option Transfer :=
  match s.input with
  | .setupReceived data =>
    (SetupRequest.ofBytes data).bind fun r => (begun r.isIn s.output).map fun phase =>
      ⟨r, s.pre.device.settings, s.pre.device.tracked.asked r, handledBy s.output, phase⟩
  | .bus _ => none
  | event =>
    t.bind fun t =>
      if t.ends event = true then none
      else if t.phase = .dataOut ∧ event.isReceived = true then
        (begun false s.output).map fun phase => { t with handled := t.handled ++ handledBy s.output, phase := phase }
      else some t

/-- A class is remembered from the request that it handles to the end of a status stage. -/
def followClass (h : History) (s : ControlTransition σ) : Option ClassRef :=
  if h.transfer.any (·.ends s.input) = true then none
  else match (handledBy s.output).head? with
    | some c => if wantsCompletion e c = true then some c else none
    | none => h.remembered

def History.follow (h : History) (s : ControlTransition σ) : History := ⟨followTransfer h.transfer s, followClass e h s⟩

def historyOf (trace : List (ControlTransition σ)) : History := trace.foldl (History.follow e) ⟨none, none⟩

/-- The transfer is given up: for another, or because its data is refused. -/
def Transfer.Abandoned (t : Transfer) (s : ControlTransition σ) : Prop :=
  (∃ data, s.input = .setupReceived data) ∨ t.phase = .dataOut ∧ s.input.isReceived = true ∧ begun false s.output = none

structure ControlLaw (h : History) (s : ControlTransition σ) : Prop where
  address : ∀ a result, .dcd (.setAddress a) result ∈ s.output → ∃ t, h.transfer = some t ∧ t.ends s.input = true ∧
    t.request.IsSetAddress ∧ a = lowByte t.request.wValue
  testMode : ∀ mode result, .dcd (.setTestMode mode) result ∈ s.output →
    ∃ t, h.transfer = some t ∧ t.ends s.input = true ∧
    t.request.IsSetTestMode ∧ mode = highByte t.request.wIndex
  lifecycle : s.post.device.lifecycleState ≠ s.pre.device.lifecycleState → s.input = .bus .reset ∨
    ∃ t, h.transfer = some t ∧ t.ends s.input = true ∧ t.request.IsSetConfiguration ∧
      s.post.device.lifecycleState = if lowByte t.request.wValue = 1 then .configured else .started
  abandoned : ∀ t, h.transfer = some t → t.Abandoned s → s.pre.device.settings = t.before
  unbegun : ∀ data, s.input = .setupReceived data → (h.follow e s).transfer = none →
    s.post.device.settings = s.pre.device.settings
  agree : (h.follow e s).transfer = none → s.post.device.settings.Agree
  placed : s.post.device.settings.Placed
  told : ∀ t, h.transfer = some t → t.ends s.input = true →
    t.handled.length ≤ 1 ∧ completions s.output = t.handled.filter (wantsCompletion e)
  silent : (∀ t, h.transfer = some t → t.ends s.input = false) → completions s.output = []

/- When nothing of this fails. -/

/-- A SETUP interrupts no request that has changed the settings, the controller driver takes the stage of one
that does, and none configures the device in another recipient's name or without an address. -/
structure ProperSetup (h : History) (s : ControlTransition σ) (r : SetupRequest) : Prop where
  interrupts : ∀ t, h.transfer = some t → t.asked = t.before
  taken : s.pre.device.tracked.asked r ≠ s.pre.device.settings → (e.dcd r.emptyStage s.pre.outside).1 = .ok ()
  recipient : r.recipient ≠ recipientDevice → s.pre.device.tracked.asked r = s.pre.device.settings
  placed : (s.pre.device.tracked.asked r).Placed

/-- A status stage is that of no lookalike request, and no class is remembered that did not handle the transfer. -/
structure ProperStatus (h : History) (t : Transfer) : Prop where
  plain : ¬t.request.Lookalike
  fresh : t.handled = [] → h.remembered = none

def ProperControl (h : History) (s : ControlTransition σ) : Prop :=
  (∀ data r, s.input = .setupReceived data → SetupRequest.ofBytes data = some r → ProperSetup e h s r) ∧
    ∀ t, h.transfer = some t → t.ends s.input = true → ProperStatus h t

end History

variable {σ : Type} {e : Env σ} {s s' : System σ} {h : History} {r : SetupRequest} {c : ClassRef}

/- What the observers make of a log. -/

theorem handler_silent : ∀ o : Outgoing, o.telling = false → o.handler = none
  | .dcd _ _, _ => rfl
  | .complete _, _ => rfl

theorem completed_silent : ∀ o : Outgoing, o.telling = false → o.completed = none
  | .dcd _ _, _ => rfl
  | .handled _, _ => rfl

theorem begins_silent (o : Outgoing) (silent : o.telling = false) : o.begins isIn = none := by
  cases o with
  | dcd call result =>
    cases call with
    | epSend ep data zlp => cases silent
    | epReceive ep length => cases silent
    | epInit ep type mps => rfl
    | epStall ep => rfl
    | epClearStall ep => rfl
    | setAddress a => rfl
    | setRemoteWakeup on => rfl
    | setTestMode mode => rfl
  | handled c => rfl
  | complete c => rfl

theorem filterMap_signs {β : Type} {f : Outgoing → Option β}
    (silent : ∀ o, o.telling = false → f o = none) (log : List Outgoing) :
    (signs log).filterMap f = log.filterMap f := by
  induction log with
  | nil => rfl
  | cons o rest ih =>
    rcases tells : o.telling with _ | _
    · have dropped : signs (o :: rest) = signs rest := List.filter_cons_of_neg (by rw [tells]; decide)
      rw [dropped, ih, List.filterMap_cons_none (silent o tells)]
    · have kept : signs (o :: rest) = o :: signs rest := List.filter_cons_of_pos tells
      rw [kept, List.filterMap_cons, List.filterMap_cons, ih]

theorem findSome_signs {β : Type} {f : Outgoing → Option β}
    (silent : ∀ o, o.telling = false → f o = none) (log : List Outgoing) :
    (signs log).findSome? f = log.findSome? f := by
  induction log with
  | nil => rfl
  | cons o rest ih =>
    rcases tells : o.telling with _ | _
    · have dropped : signs (o :: rest) = signs rest := List.filter_cons_of_neg (by rw [tells]; decide)
      rw [dropped, ih, findSome?_cons, silent o tells]
    · have kept : signs (o :: rest) = o :: signs rest := List.filter_cons_of_pos tells
      rw [kept, findSome?_cons, findSome?_cons, ih]

theorem mem_signs {o : Outgoing} {log : List Outgoing} (tells : o.telling = true) : o ∈ log ↔ o ∈ signs log := by
  rw [signs, List.mem_filter]
  exact ⟨fun mem => ⟨mem, tells⟩, fun both => both.1⟩

def handledLog (handled : List ClassRef) : List Outgoing := handled.map .handled

theorem handledBy_handledLog (handled : List ClassRef) : handledBy (handledLog handled) = handled := by
  induction handled with
  | nil => rfl
  | cons c rest ih => exact congrArg (c :: ·) ih

theorem stages_silent {opened : List Outgoing} (stages : ∀ o ∈ opened, ∃ result, o.Stage result) :
    handledBy opened = [] ∧ completions opened = [] := by
  induction opened with
  | nil => exact ⟨rfl, rfl⟩
  | cons o rest ih =>
    obtain ⟨handled, complete⟩ := ih fun o mem => stages o (List.mem_cons_of_mem _ mem)
    obtain ⟨result, ⟨ep, data, zlp, rfl⟩ | ⟨ep, length, rfl⟩⟩ := stages o List.mem_cons_self
    · exact ⟨handled, complete⟩
    · exact ⟨handled, complete⟩

theorem handledBy_append (log more : List Outgoing) : handledBy (log ++ more) = handledBy log ++ handledBy more :=
  List.filterMap_append ..

theorem completions_append (log more : List Outgoing) :
    completions (log ++ more) = completions log ++ completions more :=
  List.filterMap_append ..

theorem completions_handledLog (handled : List ClassRef) : completions (handledLog handled) = [] := by
  induction handled with
  | nil => rfl
  | cons c rest ih => exact ih

theorem begun_handledLog (handled : List ClassRef) (opened : List Outgoing) :
    begun isIn (handledLog handled ++ opened) = begun isIn opened := by
  induction handled with
  | nil => rfl
  | cons c rest ih => exact ih

/- What the steps keep. -/

/-- What the request of a transfer asks for, beside the settings from before it. -/
inductive Asks (t : Transfer) : Prop
  | address (request : t.request.IsSetAddress) (asked : t.asked = { t.before with addressValue := lowByte t.request.wValue })
  | configuration (request : t.request.IsSetConfiguration)
      (asked : t.asked = { t.before with
        isConfigured := lowByte t.request.wValue == 1, configurationValue := lowByte t.request.wValue })
  | nothing (asked : t.asked = t.before) (plain : ¬t.request.IsSetAddress ∧ ¬t.request.IsSetConfiguration)

section Follows

variable (e : Env σ)

def wanted (c : ClassRef) : Option ClassRef := if wantsCompletion e c = true then some c else none

structure Underway (remembered : Option ClassRef) (t : Transfer) (d : Tracked) : Prop where
  phase : d.requestPhase = t.phase
  waits : t.phase ≠ .idle
  request : d.request = t.request
  settings : d.settings = t.asked
  agree : t.before.Agree
  asks : Asks t
  data : t.phase = .dataOut → t.asked = t.before ∧ (t.request.type ≠ reqTypeStandard → t.handled = [])
  handled : t.handled = [] ∨ ∃ c, t.handled = [c] ∧ remembered = wanted e c ∧ t.request.Unhooked

structure Follows (h : History) (d : Tracked) : Prop where
  remembered : d.controlRequestClass.bind (wanted e) = h.remembered
  running : d.lifecycleState = .started ∨ d.lifecycleState = .configured
  placed : d.settings.Placed
  idle : h.transfer = none → d.requestPhase = .idle ∧ d.settings.Agree
  busy : ∀ t, h.transfer = some t → Underway e h.remembered t d

end Follows

theorem Follows.settled (follows : Follows e h s.device.tracked)
    (interrupts : ∀ t, h.transfer = some t → t.asked = t.before) :
    s.device.settings.Agree ∧ ∀ t, h.transfer = some t → s.device.settings = t.before := by
  have before : ∀ t, h.transfer = some t → s.device.settings = t.before := fun t under =>
    ((follows.busy t under).settings).trans (interrupts t under)
  refine ⟨?_, before⟩
  rcases under : h.transfer with _ | t
  · exact (follows.idle under).2
  · rw [before t under]
    exact (follows.busy t under).agree

/- A SETUP. -/

structure Accepts (d d' : Tracked) (length : Nat) (handled : List ClassRef) : Prop where
  settings : d'.settings = d.asked d.request
  request : d'.request = d.request
  remembered : d'.controlRequestClass = handled.head?.or d.controlRequestClass
  few : handled = [] ∨ ∃ c, handled = [c]
  short : handled ≠ [] → (d.request.isIn = true ∨ d.request.wLength.toNat = 0 ∨ length = 0 ∨ d.request.Backward) ∧ d.request.Unhooked
  data : length ≠ 0 → d.asked d.request = d.settings
  honoured : d.request.IsStandard reqSetConfiguration →
    d.isAddressed = true ∧ (lowByte d.request.wValue = 0 ∨ lowByte d.request.wValue = 1)

theorem asked_plain {d : Tracked} (address : ¬r.IsStandard reqSetAddress)
    (configuration : ¬r.IsStandard reqSetConfiguration) :
    d.asked r = d.settings := by
  rw [Tracked.asked, if_neg fun is => address is.1, if_neg fun all => configuration all.1]

theorem Dispatched.accepts {mid : System σ} {response : Response} (dispatched : Dispatched s mid (.ok response)) :
    ∃ handled, Accepts s.device.tracked mid.device.tracked response.length handled ∧
      signs mid.log = signs s.log ++ handledLog handled ∧
      (s.device.tracked.asked s.device.request = s.device.settings ∨ mid.outside = s.outside) := by
  generalize result : (Except.ok response : Except Error Response) = outcome at dispatched
  cases dispatched with
  | quiet same plain =>
    obtain ⟨address, configuration⟩ := plain ⟨response, result.symm⟩
    refine ⟨[], ⟨?_, ?_, ?_, .inl rfl, fun some => absurd rfl some, fun _ => asked_plain address configuration,
      fun is => absurd is configuration⟩, same.signs.trans (append_nil _).symm, .inl (asked_plain address configuration)⟩
    · rw [same.tracked]
      exact (asked_plain address configuration).symm
    · rw [same.tracked]
    · rw [same.tracked]
      rfl
  | @handled c response' handled short plain =>
    injection result with result
    subst result
    refine ⟨[c], ⟨?_, ?_, ?_, .inr ⟨c, rfl⟩, fun _ => ⟨short, plain⟩, fun _ => asked_plain plain.address plain.configuration,
      fun is => absurd is plain.configuration⟩, handled.signs, .inl (asked_plain plain.address plain.configuration)⟩
    · rw [handled.tracked]
      exact (asked_plain plain.address plain.configuration).symm
    · rw [handled.tracked]
    · rw [handled.tracked]
      rfl
  | address request tracked signs unmoved =>
    injection result with result
    subst result
    refine ⟨[], ⟨?_, ?_, ?_, .inl rfl, fun some => absurd rfl some, fun some => absurd rfl some, fun is => ?_⟩,
      signs.trans (append_nil _).symm, .inr unmoved⟩
    · rw [tracked, Tracked.asked]
      exact (if_pos request).symm
    · rw [tracked]
    · rw [tracked]
      rfl
    · exact absurd (request.1.2.symm.trans is.2) (by decide)
  | configuration request addressed value tracked signs unmoved =>
    injection result with result
    subst result
    refine ⟨[], ⟨?_, ?_, ?_, .inl rfl, fun some => absurd rfl some, fun some => absurd rfl some, fun _ => ⟨addressed, value⟩⟩,
      signs.trans (append_nil _).symm, .inr unmoved⟩
    · have notAddress : ¬s.device.request.IsSetAddress := fun is => absurd (request.2.symm.trans is.1.2) (by decide)
      rw [tracked, Tracked.asked]
      exact ((if_neg notAddress).trans (if_pos ⟨request, addressed, value⟩)).symm
    · rw [tracked]
    · rw [tracked]
      rfl

/- The log of a step that ends no transfer. -/

structure Opens (log : List Outgoing) (handled : List ClassRef) (opened : List Outgoing) : Prop where
  signs : signs log = handledLog handled ++ opened
  stages : ∀ o ∈ opened, ∃ result, o.Stage result

namespace Opens

variable {log opened : List Outgoing} {handled : List ClassRef}

theorem nothing (silent : XSDK.Usbd.signs log = []) : Opens log [] [] := ⟨silent, fun _ mem => absurd mem not_mem_nil⟩

variable (opens : Opens log handled opened)
include opens

theorem handledBy : handledBy log = handled := by
  have signs : XSDK.Usbd.handledBy (XSDK.Usbd.signs log) = XSDK.Usbd.handledBy log := filterMap_signs handler_silent log
  rw [← signs, opens.signs, handledBy_append, handledBy_handledLog, (stages_silent opens.stages).1, append_nil]

theorem completions : completions log = [] := by
  have signs : XSDK.Usbd.completions (XSDK.Usbd.signs log) = XSDK.Usbd.completions log :=
    filterMap_signs completed_silent log
  rw [← signs, opens.signs, completions_append, completions_handledLog, (stages_silent opens.stages).2, append_nil]

theorem begun (isIn : Bool) : begun isIn log = begun isIn opened := by
  have signs : XSDK.Usbd.begun isIn (XSDK.Usbd.signs log) = XSDK.Usbd.begun isIn log :=
    findSome_signs (begins_silent isIn) log
  rw [← signs, opens.signs, begun_handledLog]

theorem stage {call : DcdCall} {result : Except Error Unit}
    (tells : (Outgoing.dcd call result).telling = true) (mem : .dcd call result ∈ log) :
    ∃ result', (Outgoing.dcd call result).Stage result' := by
  have heard := (mem_signs tells).mp mem
  rw [opens.signs] at heard
  rcases mem_append.mp heard with accepts | stage
  · obtain ⟨c, -, same⟩ := mem_map.mp accepts
    cases same
  · exact opens.stages _ stage

end Opens

theorem ControlLaw.of_open {h : History} {s : ControlTransition σ} {handled : List ClassRef} {opened : List Outgoing}
    (opens : Opens s.output handled opened) (going : ∀ t, h.transfer = some t → t.ends s.input = false)
    (lifecycle : s.post.device.lifecycleState ≠ s.pre.device.lifecycleState → s.input = .bus .reset)
    (abandoned : ∀ t, h.transfer = some t → t.Abandoned s → s.pre.device.settings = t.before)
    (unbegun : ∀ data, s.input = .setupReceived data → (h.follow e s).transfer = none →
      s.post.device.settings = s.pre.device.settings)
    (agree : (h.follow e s).transfer = none → s.post.device.settings.Agree) (placed : s.post.device.settings.Placed) :
    ControlLaw e h s where
  address a result mem := by
    obtain ⟨_, ⟨_, _, _, same⟩ | ⟨_, _, same⟩⟩ := opens.stage rfl mem
    · cases same
    · cases same
  testMode mode result mem := by
    obtain ⟨_, ⟨_, _, _, same⟩ | ⟨_, _, same⟩⟩ := opens.stage rfl mem
    · cases same
    · cases same
  lifecycle changed := .inl (lifecycle changed)
  abandoned := abandoned
  unbegun := unbegun
  agree := agree
  placed := placed
  told t under ends := absurd ends (by rw [going t under]; decide)
  silent _ := opens.completions

theorem followClass_open (s : ControlTransition σ) {handled : List ClassRef} {opened : List Outgoing} {d d' : Tracked}
    (opens : Opens s.output handled opened) (going : ∀ t, h.transfer = some t → t.ends s.input = false)
    (remembered : d.controlRequestClass.bind (wanted e) = h.remembered)
    (kept : d'.controlRequestClass = handled.head?.or d.controlRequestClass) :
    d'.controlRequestClass.bind (wanted e) = followClass e h s := by
  have unended : h.transfer.any (·.ends s.input) = false := by
    rcases under : h.transfer with _ | t
    · rfl
    · exact going t under
  rw [followClass, if_neg (by rw [unended]; decide), opens.handledBy, kept]
  cases handled with
  | nil => exact remembered
  | cons c rest => rfl

/- A SETUP. -/

structure SetUp (answers : DcdCall → Except Error Unit) (d d' : Tracked) (r : SetupRequest) (log : List Outgoing)
    (handled : List ClassRef) (next : ControlPhase) : Prop where
  request : d'.request = r
  phase : d'.requestPhase = next
  remembered : d'.controlRequestClass = handled.head?.or d.controlRequestClass
  opens : ∃ opened, Opens log handled opened ∧ begun r.isIn opened = if next = .idle then none else some next
  lifecycle : d'.lifecycleState = d.lifecycleState
  settings : d'.settings = d.settings ∨ d'.settings = d.asked r
  idle : next = .idle → d'.settings = d.settings ∨ ∃ code, answers r.emptyStage = .error code
  busy : next ≠ .idle → d'.settings = d.asked r ∧ (r.IsStandard reqSetConfiguration →
    d.isAddressed = true ∧ (lowByte r.wValue = 0 ∨ lowByte r.wValue = 1))
  data : next = .dataOut → d.asked r = d.settings ∧ (r.type ≠ reqTypeStandard → handled = [])
  handled : handled = [] ∨ ∃ c, handled = [c] ∧ r.Unhooked

theorem asked_lifecycle (d : Tracked) (r : SetupRequest) : (d.asked r).lifecycleState = d.lifecycleState := by
  rw [Tracked.asked]
  split
  · rfl
  · split
    · rfl
    · rfl

theorem Started.stages {answers : DcdCall → Except Error Unit} {length : Nat}
    {phase : ControlPhase} {opened : List Outgoing} (started : Started answers r length phase opened) :
    ∀ o ∈ opened, ∃ result, o.Stage result := by
  have one : ∀ {o : Outgoing} {result}, o.Stage result → ∀ o' ∈ [o], ∃ result, o'.Stage result := by
    intro o result stage o' mem
    rw [mem_singleton.mp mem]
    exact ⟨result, stage⟩
  cases started with
  | dataIn _ stage => exact one (.inl stage)
  | dataOut _ _ stage => exact one (.inr stage)
  | outStatus _ stage => exact one (.inl stage)
  | tooLong _ _ => exact fun _ mem => absurd mem not_mem_nil
  | refused _ stage _ => exact one stage

theorem Outgoing.Refused.begins {o : Outgoing} (refused : o.Refused) (isIn : Bool) : o.begins isIn = none := by
  obtain ⟨code, ⟨ep, data, zlp, rfl⟩ | ⟨ep, length, rfl⟩⟩ := refused
  · rfl
  · rfl

theorem Started.begun {answers : DcdCall → Except Error Unit} {length : Nat}
    {phase : ControlPhase} {opened : List Outgoing} (started : Started answers r length phase opened) :
    begun r.isIn opened = if phase = .idle then none else some phase := by
  cases started with
  | dataIn isIn stage =>
    obtain ⟨ep, data, zlp, rfl⟩ := stage
    rw [isIn]
    rfl
  | dataOut _ _ stage =>
    obtain ⟨ep, length, rfl⟩ := stage
    rfl
  | outStatus isOut stage =>
    obtain ⟨ep, data, zlp, rfl⟩ := stage
    rw [isOut]
    rfl
  | tooLong _ _ => rfl
  | refused _ stage _ =>
    rw [Usbd.begun, findSome?_cons, Outgoing.Refused.begins ⟨_, stage⟩]
    rfl

variable {t : Transfer} {data : Bytes}

theorem setupReceived_cases (e : Env σ) (s : System σ) (parsed : SetupRequest.ofBytes data = some r) :
    ∃ s', (dcdEventCallback e (.setupReceived data) { s with log := [] }).2 = s' ∧
      ∃ handled phase, SetUp (fun call => (e.dcd call s.outside).1) s.device.tracked s'.device.tracked r s'.log handled phase := by
  obtain ⟨s', ran, mid, ends⟩ := ep0SetupProcess_cases e { s with device := { s.device with request := r }, log := [] }
  refine ⟨s', ?_, ?_⟩
  · rw [dcdEventCallback, parsed]
    exact ran
  rcases ends with ⟨⟨code, dispatched⟩, tracked, logged⟩ | ⟨response, phase, opened, dispatched, started, tracked, logged⟩
  · generalize result : (Except.error code : Except Error Response) = outcome at dispatched
    cases dispatched with
    | quiet same _ =>
      have kept := tracked.trans (congrArg (fun t : Tracked => { t with requestPhase := .idle }) same.tracked)
      refine ⟨[], .idle, ?_⟩
      constructor
      · rw [kept]
        rfl
      · rw [kept]
      · rw [kept]
        rfl
      · exact ⟨[], .nothing (logged.trans same.signs), rfl⟩
      · rw [kept]
        rfl
      · left
        rw [kept]
        rfl
      · intro _
        left
        rw [kept]
        rfl
      · exact fun busy => absurd rfl busy
      · exact nofun
      · exact .inl rfl
    | handled _ _ _ => cases result
    | address _ _ _ _ => cases result
    | configuration _ _ _ _ _ _ => cases result
  · obtain ⟨handled, accepts, log, unmoved⟩ := dispatched.accepts
    have asked : s'.device.tracked.settings = s.device.tracked.asked r := by
      rw [tracked]
      exact accepts.settings
    have opens : Opens s'.log handled opened := ⟨logged.trans (congrArg (· ++ opened) log), started.stages⟩
    refine ⟨handled, phase, ?_⟩
    constructor
    · rw [tracked]
      exact accepts.request
    · rw [tracked]
    · rw [tracked]
      exact accepts.remembered
    · exact ⟨opened, opens, started.begun⟩
    · exact (congrArg Settings.lifecycleState asked).trans (asked_lifecycle _ _)
    · exact .inr asked
    · rintro rfl
      cases started with
      | tooLong _ more => exact .inl (asked.trans (accepts.data (by omega)))
      | refused answer _ short =>
        by_cases changes : s.device.tracked.asked r = s.device.settings
        · exact .inl (asked.trans changes)
        · have empty : response.length = 0 := by
            by_contra more
            exact changes (accepts.data more)
          rcases unmoved with same | same
          · exact absurd same changes
          · rw [short empty, same] at answer
            exact .inr ⟨_, answer⟩
    · exact fun _ => ⟨asked, accepts.honoured⟩
    · rintro rfl
      cases started with
      | dataOut isOut more _ =>
        refine ⟨accepts.data (by omega), fun other => ?_⟩
        by_contra some
        have announced : 0 < min r.wLength.toNat response.length := more
        rcases (accepts.short some).1 with isIn | none | none | ⟨-, ⟨standard, -⟩ | ⟨standard, -⟩ | ⟨standard, -⟩⟩
        · exact absurd (isIn.symm.trans isOut) (by decide)
        · exact absurd (show r.wLength.toNat = 0 from none) (by omega)
        · exact absurd none (by omega)
        · exact other standard
        · exact other standard
        · exact other standard
    · rcases accepts.few with none | ⟨c, one⟩
      · exact .inl none
      · exact .inr ⟨c, one, (accepts.short (by rw [one]; exact List.cons_ne_nil _ _)).2⟩

theorem SetUp.asks {answers d d' log handled next} (setUp : SetUp answers d d' r log handled next) (busy : next ≠ .idle)
    (recipient : r.recipient ≠ recipientDevice → d.asked r = d.settings) :
    Asks ⟨r, d.settings, d.asked r, handled, next⟩ := by
  by_cases address : r.IsSetAddress
  · refine .address address ?_
    show d.asked r = _
    rw [Tracked.asked, if_pos address]
  by_cases configuration : r.IsStandard reqSetConfiguration
  · by_cases device : r.recipient = recipientDevice
    · refine .configuration ⟨configuration, device⟩ ?_
      show d.asked r = _
      rw [Tracked.asked, if_neg address, if_pos ⟨configuration, (setUp.busy busy).2 configuration⟩]
    · exact .nothing (recipient device) ⟨address, fun is => device is.2⟩
  · refine .nothing ?_ ⟨address, fun is => configuration is.1⟩
    show d.asked r = _
    rw [Tracked.asked, if_neg address, if_neg fun all => configuration all.1]

theorem setup_follows (parsed : SetupRequest.ofBytes data = some r) (follows : Follows e h s.device.tracked)
    (proper : ProperSetup e h ((controlMachine e).take s (.setupReceived data)) r) :
    Follows e (h.follow e ((controlMachine e).take s (.setupReceived data)))
        ((controlMachine e).take s (.setupReceived data)).post.device.tracked ∧
      ControlLaw e h ((controlMachine e).take s (.setupReceived data)) := by
  obtain ⟨s', post, handled, next, setUp⟩ := setupReceived_cases e s parsed
  obtain ⟨opened, opens, begins⟩ := setUp.opens
  have taken : (controlMachine e).take s (.setupReceived data) = ⟨s, .setupReceived data, s'.log, s'⟩ := by
    rw [← post]
    rfl
  rw [taken] at proper ⊢
  have ends : ∀ t, h.transfer = some t → t.ends (.setupReceived data) = false :=
    fun t _ => by simp [Transfer.ends, DcdEvent.isReceived, DcdEvent.isSent]
  obtain ⟨agree, before⟩ := follows.settled proper.interrupts
  have transfer : (h.follow e ⟨s, .setupReceived data, s'.log, s'⟩).transfer =
      if next = .idle then none else some ⟨r, s.device.settings, s.device.tracked.asked r, handled, next⟩ := by
    show (SetupRequest.ofBytes data).bind _ = _
    rw [parsed, Option.bind_some, opens.begun, begins, opens.handledBy]
    split
    · rfl
    · rfl
  have placed : s'.device.settings.Placed := by
    rcases setUp.settings with same | asked
    · rw [Device.settings, same]
      exact follows.placed
    · rw [Device.settings, asked]
      exact proper.placed
  have kept : next = .idle → s'.device.settings = s.device.settings := by
    intro idle
    rcases setUp.idle idle with same | refused
    · exact same
    · rcases setUp.settings with same | asked
      · exact same
      · by_contra changed
        have taken := proper.taken fun same => changed (asked.trans same)
        obtain ⟨code, answer⟩ := refused
        cases taken.symm.trans answer
  have none_idle : (h.follow e ⟨s, .setupReceived data, s'.log, s'⟩).transfer = none → next = .idle := by
    intro none
    by_contra busy
    rw [transfer, if_neg busy] at none
    cases none
  have agrees : (h.follow e ⟨s, .setupReceived data, s'.log, s'⟩).transfer = none → s'.device.settings.Agree := by
    intro none
    rw [kept (none_idle none)]
    exact agree
  constructor
  · constructor
    · exact followClass_open _ opens ends follows.remembered setUp.remembered
    · rw [setUp.lifecycle]
      exact follows.running
    · exact placed
    · intro none
      exact ⟨setUp.phase.trans (none_idle none), agrees none⟩
    · intro t under
      by_cases idle : next = .idle
      · rw [transfer, if_pos idle] at under
        cases under
      rw [transfer, if_neg idle] at under
      cases under
      constructor
      · exact setUp.phase
      · exact idle
      · exact setUp.request
      · exact (setUp.busy idle).1
      · exact agree
      · exact setUp.asks idle proper.recipient
      · exact setUp.data
      · rcases setUp.handled with none | ⟨c, one, plain⟩
        · exact .inl none
        · refine .inr ⟨c, one, ?_, plain⟩
          have followed := followClass_open ⟨s, .setupReceived data, s'.log, s'⟩ opens ends follows.remembered setUp.remembered
          rw [setUp.remembered, one] at followed
          exact followed.symm
  · refine .of_open opens ends (fun changed => absurd setUp.lifecycle changed)
      (fun t under _ => before t under) ?_ agrees placed
    exact fun _ _ none => kept (none_idle none)

/- A status stage. -/

structure Hooks (t : Transfer) (d d' : Tracked) (calls : List Outgoing) : Prop where
  kept : d' = { d with lifecycleState := d'.lifecycleState, isAddressed := d'.isAddressed }
  agree : d'.settings.Agree
  lifecycle : d'.lifecycleState = d.lifecycleState ∨ t.request.IsSetConfiguration ∧
    d'.lifecycleState = if lowByte t.request.wValue = 1 then .configured else .started
  address : ∀ a result, .dcd (.setAddress a) result ∈ calls → t.request.IsSetAddress ∧ a = lowByte t.request.wValue
  testMode : ∀ mode result, .dcd (.setTestMode mode) result ∈ calls → t.request.IsSetTestMode ∧
    mode = highByte t.request.wIndex
  untold : completions calls = [] ∧ handledBy calls = []

theorem standard_of_plain (plain : ¬r.Lookalike) (device : r.recipient = recipientDevice)
    (number : r.bRequest = reqSetAddress ∨ r.bRequest = reqSetFeature ∧ lowByte r.wValue = 0) :
    r.type = reqTypeStandard := by
  by_contra other
  exact plain ⟨other, device, number⟩

theorem Underway.agrees {remembered : Option ClassRef} {d : Tracked} (under : Underway e remembered t d)
    (other : ¬t.request.IsSetConfiguration) : d.settings.Agree := by
  rw [under.settings]
  cases under.asks with
  | address _ asked =>
    rw [asked]
    exact under.agree
  | configuration request _ => exact absurd request other
  | nothing asked _ =>
    rw [asked]
    exact under.agree

theorem Hooked.hooks {result : Except Error Unit} {remembered : Option ClassRef} (hooked : Hooked s s' result)
    (under : Underway e remembered t { s.device.tracked with requestPhase := t.phase })
    (running : s.device.lifecycleState = .started ∨ s.device.lifecycleState = .configured)
    (plain : ¬t.request.Lookalike) :
    (∃ calls, Hooks t s.device.tracked s'.device.tracked calls ∧ signs s'.log = signs s.log ++ calls) ∧
      (result = .ok () ∨ ¬t.request.Unhooked) := by
  have request : s.device.request = t.request := under.request
  have settings : s.device.settings = t.asked := under.settings
  cases hooked with
  | none same other =>
    rw [request] at other
    refine ⟨⟨[], ?_, same.signs.trans (append_nil _).symm⟩, .inl rfl⟩
    constructor
    · rw [same.tracked]
    · rw [same.tracked]
      exact under.agrees fun is => other ⟨is.2, is.1.2⟩
    · left
      rw [same.tracked]
    · exact fun _ _ mem => absurd mem not_mem_nil
    · exact fun _ _ mem => absurd mem not_mem_nil
    · exact ⟨rfl, rfl⟩
  | testMode device feature tracked signs =>
    rw [request] at device feature signs
    have standard := standard_of_plain plain device (.inr feature)
    have other : ¬t.request.IsSetConfiguration := fun is => absurd (feature.1.symm.trans is.1.2) (by decide)
    refine ⟨⟨_, ?_, signs⟩, .inr fun unhooked => unhooked.feature ⟨standard, feature.1⟩⟩
    constructor
    · rw [tracked]
    · rw [tracked]
      exact under.agrees other
    · left
      rw [tracked]
    · intro a result mem
      cases mem_singleton.mp mem
    · intro mode result mem
      cases mem_singleton.mp mem
      exact ⟨⟨⟨standard, feature.1⟩, device, feature.2⟩, rfl⟩
    · exact ⟨rfl, rfl⟩
  | address device address tracked signs =>
    rw [request] at device address
    have standard := standard_of_plain plain device (.inl address)
    have other : ¬t.request.IsSetConfiguration := fun is => absurd (address.symm.trans is.1.2) (by decide)
    refine ⟨⟨_, ?_, signs⟩, .inr fun unhooked => unhooked.address ⟨standard, address⟩⟩
    constructor
    · rw [tracked]
    · rw [tracked]
      exact under.agrees other
    · left
      rw [tracked]
    · intro a result mem
      cases mem_singleton.mp mem
      refine ⟨⟨⟨standard, address⟩, device⟩, ?_⟩
      cases under.asks with
      | address _ asked => exact congrArg Settings.addressValue (settings.trans asked)
      | configuration is _ => exact absurd is other
      | nothing _ neither => exact absurd ⟨⟨standard, address⟩, device⟩ neither.1
    · intro mode result mem
      cases mem_singleton.mp mem
    · exact ⟨rfl, rfl⟩
  | configuration device configuration tracked signs =>
    rw [request] at device configuration
    refine ⟨⟨[], ?_, signs.trans (append_nil _).symm⟩, .inl rfl⟩
    constructor
    · rw [tracked]
    · rw [tracked]
      show (if s.device.isConfigured = true then LifecycleState.configured else .started) = .configured ↔ _
      split
      · rename_i is
        exact ⟨fun _ => is, fun _ => rfl⟩
      · rename_i no
        exact ⟨fun h => absurd h (by decide), fun is => absurd is no⟩
    · rw [tracked]
      by_cases is : t.request.IsSetConfiguration
      · refine .inr ⟨is, ?_⟩
        cases under.asks with
        | address isAddress _ => exact absurd (isAddress.1.2.symm.trans is.1.2) (by decide)
        | configuration _ asked =>
          have flag : s.device.isConfigured = (lowByte t.request.wValue == 1) :=
            congrArg Settings.isConfigured (settings.trans asked)
          show (if s.device.isConfigured = true then LifecycleState.configured else .started) = _
          rw [flag]
          simp only [beq_iff_eq]
        | nothing _ neither => exact absurd is neither.2
      · left
        have agree : s.device.lifecycleState = .configured ↔ s.device.isConfigured = true := under.agrees is
        show (if s.device.isConfigured = true then LifecycleState.configured else .started) = s.device.lifecycleState
        split
        · rename_i is
          exact (agree.mpr is).symm
        · rename_i no
          rcases running with started | configured
          · exact started.symm
          · exact absurd (agree.mp configured) no
    · exact fun _ _ mem => absurd mem not_mem_nil
    · exact fun _ _ mem => absurd mem not_mem_nil
    · exact ⟨rfl, rfl⟩

theorem told_completions (e : Env σ) (remembered : Option ClassRef) :
    completions (told e remembered) = (remembered.bind (wanted e)).toList := by
  rcases remembered with _ | c
  · rfl
  · show completions (([c].filter (wantsCompletion e)).map .complete) = (wanted e c).toList
    rw [wanted, List.filter_cons]
    split
    · rfl
    · rfl

theorem told_others (e : Env σ) (remembered : Option ClassRef) (call : DcdCall) (result : Except Error Unit) :
    .dcd call result ∉ told e remembered := by
  intro mem
  obtain ⟨c, -, same⟩ := mem_map.mp mem
  cases same

theorem wanted_toList (e : Env σ) (c : ClassRef) : (wanted e c).toList = [c].filter (wantsCompletion e) := by
  rw [wanted, List.filter_cons]
  split
  · rfl
  · rfl

theorem controlTransferCompleteProcess_cases {remembered : Option ClassRef}
    (under : Underway e remembered t { s.device.tracked with requestPhase := t.phase })
    (running : s.device.lifecycleState = .started ∨ s.device.lifecycleState = .configured)
    (kept : s.device.controlRequestClass.bind (wanted e) = remembered) (plain : ¬t.request.Lookalike)
    (fresh : t.handled = [] → remembered = none) :
    ∃ s', (controlTransferCompleteProcess e s).2 = s' ∧ ∃ d calls answers, Hooks t s.device.tracked d calls ∧
      signs s'.log = signs s.log ++ (calls ++ answers) ∧
      completions answers = t.handled.filter (wantsCompletion e) ∧ (∀ call result, .dcd call result ∉ answers) ∧
      s'.device.tracked = { d with controlRequestClass := s'.device.controlRequestClass } ∧
      s'.device.controlRequestClass.bind (wanted e) = none := by
  have hooked := statusPhaseCompleteProcess_cases e s
  rcases ran : statusPhaseCompleteProcess e s with ⟨result, mid⟩
  rw [ran] at hooked
  obtain ⟨⟨calls, hooks, logged⟩, ends⟩ := hooked.hooks under running plain
  have class_kept : mid.device.controlRequestClass = s.device.controlRequestClass :=
    congrArg Tracked.controlRequestClass hooks.kept
  rcases result with code | u
  · -- the hook failed: the class is not told, but no class handles such a request
    have none : t.handled = [] := by
      rcases under.handled with none | ⟨c, -, -, unhooked⟩
      · exact none
      · rcases ends with ok | hooks
        · cases ok
        · exact absurd unhooked hooks
    refine ⟨mid, ?_, mid.device.tracked, calls, [], hooks, ?_, ?_, fun _ _ => not_mem_nil, rfl, ?_⟩
    · rw [controlTransferCompleteProcess, bind_run, ran]
    · rw [append_nil]
      exact logged
    · rw [none]
      rfl
    · rw [class_kept, kept, fresh none]
  · obtain ⟨tracked, answered⟩ := classControlTransferCompleteProcess_run e mid
    have cleared : (classControlTransferCompleteProcess e mid).2.device.controlRequestClass = none :=
      congrArg Tracked.controlRequestClass tracked
    refine ⟨(classControlTransferCompleteProcess e mid).2, ?_, mid.device.tracked, calls, told e mid.device.controlRequestClass,
      hooks, ?_, ?_, told_others e _, ?_, ?_⟩
    · rw [controlTransferCompleteProcess, bind_run, ran]
    · rw [answered, logged, List.append_assoc]
    · rw [told_completions, class_kept, kept]
      rcases under.handled with none | ⟨c, one, same, -⟩
      · rw [fresh none, none]
        rfl
      · rw [same, one]
        exact wanted_toList e c
    · rw [tracked, cleared]
    · rw [cleared]
      rfl

theorem status_follows {event : DcdEvent} (follows : Follows e h s.device.tracked) (under : h.transfer = some t)
    (ends : t.ends event = true) (proper : ProperStatus h t)
    (runs : (dcdEventCallback e event { s with log := [] }).2 =
      (controlTransferCompleteProcess e { s with device := { s.device with requestPhase := .idle }, log := [] }).2) :
    Follows e (h.follow e ((controlMachine e).take s event)) ((controlMachine e).take s event).post.device.tracked ∧
      ControlLaw e h ((controlMachine e).take s event) := by
  have busy := follows.busy t under
  obtain ⟨s', ran, d, calls, answers, hooks, logged, told, others, tracked, cleared⟩ :=
    @controlTransferCompleteProcess_cases σ e { s with device := { s.device with requestPhase := .idle }, log := [] } t
      h.remembered ⟨rfl, busy.waits, busy.request, busy.settings, busy.agree, busy.asks, busy.data, busy.handled⟩
      follows.running follows.remembered proper.plain proper.fresh
  have taken : (controlMachine e).take s event = ⟨s, event, s'.log, s'⟩ := by
    rw [← ran, ← runs]
    rfl
  rw [taken]
  have followed : h.follow e ⟨s, event, s'.log, s'⟩ = ⟨none, none⟩ := by
    have transfer : followTransfer h.transfer (⟨s, event, s'.log, s'⟩ : ControlTransition σ) = none := by
      rw [under, followTransfer]
      cases event with
      | setupReceived data => simp [Transfer.ends, DcdEvent.isReceived, DcdEvent.isSent] at ends
      | dataReceived ep data => exact if_pos ends
      | dataSent ep => exact if_pos ends
      | bus event => rfl
    have unremembered : followClass e h (⟨s, event, s'.log, s'⟩ : ControlTransition σ) = none := by
      rw [followClass, under]
      exact if_pos ends
    rw [History.follow, transfer, unremembered]
  have settings : s'.device.settings = d.settings := by
    rw [Device.settings, tracked]
    rfl
  have placed : s'.device.settings.Placed := by
    rw [settings, hooks.kept]
    exact follows.placed
  have agree : s'.device.settings.Agree := by
    rw [settings]
    exact hooks.agree
  have lifecycle : s'.device.lifecycleState = d.lifecycleState := congrArg Settings.lifecycleState settings
  have heard : ∀ {call : DcdCall} {result}, (Outgoing.dcd call result).telling = true → .dcd call result ∈ s'.log →
      .dcd call result ∈ calls := by
    intro call result tells mem
    have mem := (mem_signs tells).mp mem
    rw [logged] at mem
    rcases mem_append.mp mem with mem | mem
    · exact absurd mem not_mem_nil
    · rcases mem_append.mp mem with mem | mem
      · exact mem
      · exact absurd mem (others call result)
  constructor
  · rw [followed]
    refine ⟨cleared, ?_, placed, fun _ => ⟨?_, agree⟩, nofun⟩
    · rw [show s'.device.tracked.lifecycleState = d.lifecycleState from lifecycle]
      rcases hooks.lifecycle with same | ⟨-, value⟩
      · rw [same]
        exact follows.running
      · rw [value]
        split
        · exact .inr rfl
        · exact .inl rfl
    · rw [tracked, hooks.kept]
      rfl
  · constructor
    · exact fun a result mem => ⟨t, under, ends, hooks.address a result (heard rfl mem)⟩
    · exact fun mode result mem => ⟨t, under, ends, hooks.testMode mode result (heard rfl mem)⟩
    · intro changed
      rcases hooks.lifecycle with same | ⟨request, value⟩
      · exact absurd (lifecycle.trans same) changed
      · exact .inr ⟨t, under, ends, request, lifecycle.trans value⟩
    · rintro t' under' (⟨data, setup⟩ | ⟨data, received, -⟩)
      · change event = .setupReceived data at setup
        subst setup
        simp [Transfer.ends, DcdEvent.isReceived, DcdEvent.isSent] at ends
      · cases under.symm.trans under'
        simp [Transfer.ends, data] at ends
    · intro data setup _
      change event = .setupReceived data at setup
      subst setup
      simp [Transfer.ends, DcdEvent.isReceived, DcdEvent.isSent] at ends
    · exact fun _ => agree
    · exact placed
    · intro t' under' _
      cases under.symm.trans under'
      constructor
      · rcases busy.handled with none | ⟨c, one, -⟩
        · rw [none]
          exact Nat.zero_le 1
        · rw [one]
          exact Nat.le_refl 1
      · have signs : completions (signs s'.log) = completions s'.log := filterMap_signs completed_silent s'.log
        show completions s'.log = _
        rw [← signs, logged, completions_append, completions_append, hooks.untold.1, told]
        rfl
    · exact fun going => absurd ends (by rw [going t under]; decide)

/- Data. -/

theorem Asks.of_same {t t' : Transfer} (asks : Asks t) (request : t'.request = t.request)
    (before : t'.before = t.before)
    (asked : t'.asked = t.asked) : Asks t' := by
  cases asks with
  | address is value =>
    refine .address ?_ ?_
    · rw [request]
      exact is
    · rw [asked, before, request]
      exact value
  | configuration is value =>
    refine .configuration ?_ ?_
    · rw [request]
      exact is
    · rw [asked, before, request]
      exact value
  | nothing same plain =>
    refine .nothing ?_ ?_
    · rw [asked, before]
      exact same
    · rw [request]
      exact plain

theorem data_follows (follows : Follows e h s.device.tracked) (under : h.transfer = some t)
    (phase : t.phase = .dataOut)
    (runs : (dcdEventCallback e (.dataReceived 0x00 data) { s with log := [] }).2 =
      (ep0OutDataReceivedProcess e data { s with log := [] }).2) :
    Follows e (h.follow e ((controlMachine e).take s (.dataReceived 0x00 data)))
        ((controlMachine e).take s (.dataReceived 0x00 data)).post.device.tracked ∧
      ControlLaw e h ((controlMachine e).take s (.dataReceived 0x00 data)) := by
  have busy := follows.busy t under
  obtain ⟨asked, untouched⟩ := busy.data phase
  have request : s.device.request = t.request := busy.request
  have pre : s.device.settings = t.before := busy.settings.trans asked
  obtain ⟨s', ran, mid, reached, next⟩ := ep0OutDataReceivedProcess_cases e data { s with log := [] }
  have taken : (controlMachine e).take s (.dataReceived 0x00 data) = ⟨s, .dataReceived 0x00 data, s'.log, s'⟩ := by
    rw [← ran, ← runs]
    rfl
  rw [taken]
  have ends : ∀ t', h.transfer = some t' → t'.ends (.dataReceived 0x00 data) = false := by
    intro t' under'
    cases under.symm.trans under'
    simp [Transfer.ends, phase, DcdEvent.isSent]
  -- what the class makes of the data
  obtain ⟨handled, mid_tracked, mid_signs, handles⟩ : ∃ handled,
      mid.device.tracked = { s.device.tracked with controlRequestClass := handled.head?.or s.device.controlRequestClass } ∧
        signs mid.log = handledLog handled ∧
        (handled = [] ∨ ∃ c, handled = [c] ∧ t.handled = [] ∧ t.request.Unhooked) := by
    rcases reached with same | ⟨c, handled, other⟩
    · exact ⟨[], same.tracked, same.signs, .inl rfl⟩
    · have class_request : t.request.type ≠ reqTypeStandard := by
        rw [← request]
        exact other
      refine ⟨[c], handled.tracked, handled.signs, .inr ⟨c, rfl, untouched class_request, ?_⟩⟩
      exact ⟨fun is => class_request is.1, fun is => class_request is.1, fun is => class_request is.1⟩
  obtain ⟨phase', opened, tracked, opens, begins⟩ : ∃ phase' opened,
      s'.device.tracked = { mid.device.tracked with requestPhase := phase' } ∧ Opens s'.log handled opened ∧
        (phase' = .idle ∧ begun false opened = none ∨ phase' = .outStatus ∧ begun false opened = some .outStatus) := by
    rcases next with ⟨tracked, refused, all, logged⟩ | ⟨o, sends, tracked, logged⟩
    · refine ⟨.idle, refused, tracked, ⟨?_, fun o mem => ?_⟩, .inl ⟨rfl, ?_⟩⟩
      · rw [logged, mid_signs]
      · obtain ⟨code, stage⟩ := all o mem
        exact ⟨_, stage⟩
      · exact List.findSome?_eq_none_iff.mpr fun o mem => (all o mem).begins false
    · refine ⟨.outStatus, [o], tracked, ⟨?_, fun o' mem => ?_⟩, .inr ⟨rfl, ?_⟩⟩
      · rw [logged, mid_signs]
      · rw [mem_singleton.mp mem]
        exact ⟨_, .inl sends⟩
      · obtain ⟨ep, sent, zlp, rfl⟩ := sends
        rfl
  rw [mid_tracked] at tracked
  have settings : s'.device.settings = s.device.settings := by
    rw [Device.settings, tracked]
    rfl
  have agree : s'.device.settings.Agree := by
    rw [settings, pre]
    exact busy.agree
  have placed : s'.device.settings.Placed := by
    rw [settings]
    exact follows.placed
  have known : s'.device.tracked.controlRequestClass = handled.head?.or s.device.tracked.controlRequestClass := by
    rw [tracked]
    rfl
  have remembered := followClass_open ⟨s, .dataReceived 0x00 data, s'.log, s'⟩ opens ends follows.remembered known
  have transfer : (h.follow e ⟨s, .dataReceived 0x00 data, s'.log, s'⟩).transfer =
      (begun false opened).map fun phase => { t with handled := t.handled ++ handled, phase := phase } := by
    show h.transfer.bind _ = _
    rw [under, Option.bind_some, ends t under, opens.begun, opens.handledBy]
    exact (if_neg (by decide)).trans (if_pos ⟨phase, rfl⟩)
  constructor
  · constructor
    · exact remembered
    · rw [tracked]
      exact follows.running
    · exact placed
    · intro none
      rcases begins with ⟨idle, -⟩ | ⟨-, status⟩
      · refine ⟨?_, agree⟩
        rw [tracked]
        exact idle
      · rw [transfer, status] at none
        cases none
    · intro t' under'
      rcases begins with ⟨-, none⟩ | ⟨status, begins⟩
      · rw [transfer, none] at under'
        cases under'
      rw [transfer, begins] at under'
      cases under'
      constructor
      · rw [tracked]
        exact status
      · exact nofun
      · rw [tracked]
        exact request
      · exact settings.trans busy.settings
      · exact busy.agree
      · exact busy.asks.of_same rfl rfl rfl
      · exact nofun
      · rcases handles with none | ⟨c, one, untouched, plain⟩
        · rcases busy.handled with nothing | ⟨c, one, known, plain⟩
          · left
            show t.handled ++ handled = []
            rw [nothing, none]
            rfl
          · refine .inr ⟨c, ?_, ?_, plain⟩
            · show t.handled ++ handled = [c]
              rw [one, none]
              rfl
            · rw [← known, ← follows.remembered]
              refine remembered.symm.trans ?_
              rw [tracked, none]
              rfl
        · refine .inr ⟨c, ?_, ?_, plain⟩
          · show t.handled ++ handled = [c]
            rw [untouched, one]
            rfl
          · refine remembered.symm.trans ?_
            rw [tracked, one]
            rfl
  · refine .of_open opens ends (fun changed => absurd ?_ changed) ?_
      nofun (fun _ => agree) placed
    · exact congrArg Settings.lifecycleState settings
    · intro t' under' _
      cases under.symm.trans under'
      exact pre

/- The other events. -/

theorem ignored_follows {event : DcdEvent} (follows : Follows e h s.device.tracked)
    (runs : (dcdEventCallback e event { s with log := [] }).2 = { s with log := [] })
    (transfer : followTransfer h.transfer ((controlMachine e).take s event) = h.transfer)
    (ends : ∀ t, h.transfer = some t → t.ends event = false) (setup : ∀ data, event ≠ .setupReceived data)
    (waits : ∀ t, h.transfer = some t → t.phase = .dataOut → event.isReceived = false) :
    Follows e (h.follow e ((controlMachine e).take s event)) ((controlMachine e).take s event).post.device.tracked ∧
      ControlLaw e h ((controlMachine e).take s event) := by
  have taken : (controlMachine e).take s event = ⟨s, event, [], { s with log := [] }⟩ := by
    unfold Machine.take controlMachine
    dsimp only
    rw [runs]
  rw [taken] at transfer ⊢
  have opens : Opens ([] : List Outgoing) [] [] := .nothing rfl
  have kept : s.device.tracked.controlRequestClass = [].head?.or s.device.tracked.controlRequestClass := rfl
  have unremembered := followClass_open ⟨s, event, [], { s with log := [] }⟩ opens ends follows.remembered kept
  have followed : h.follow e ⟨s, event, [], { s with log := [] }⟩ = h := by
    rw [History.follow, transfer, ← unremembered, follows.remembered]
  rw [followed]
  refine ⟨follows, .of_open opens ends (fun changed => absurd rfl changed) ?_ (fun data is => absurd is (setup data)) ?_
    follows.placed⟩
  · rintro t under (⟨data, is⟩ | ⟨phase, received, -⟩)
    · exact absurd is (setup data)
    · exact absurd received (by rw [waits t under phase]; decide)
  · intro none
    rw [followed] at none
    exact (follows.idle none).2

theorem reset_follows (follows : Follows e h s.device.tracked) :
    Follows e (h.follow e ((controlMachine e).take s (.bus .reset)))
        ((controlMachine e).take s (.bus .reset)).post.device.tracked ∧
      ControlLaw e h ((controlMachine e).take s (.bus .reset)) := by
  have same := classBusEventProcess_quiet (e := e) .reset { s with device := s.device.reset, log := [] }
  generalize after : (classBusEventProcess e .reset { s with device := s.device.reset, log := [] }).2 = s' at same
  have taken : (controlMachine e).take s (.bus .reset) = ⟨s, .bus .reset, s'.log, s'⟩ := by
    rw [← after]
    rfl
  rw [taken]
  have opens : Opens s'.log [] [] := .nothing same.signs
  have ends : ∀ t, h.transfer = some t → t.ends (.bus .reset) = false := fun t _ => by
    simp [Transfer.ends, DcdEvent.isReceived, DcdEvent.isSent]
  have known : s'.device.tracked.controlRequestClass = [].head?.or s.device.tracked.controlRequestClass := by
    rw [same.tracked]
    rfl
  have settings : s'.device.settings = ⟨.started, 0, 0, false⟩ := by
    rw [Device.settings, same.tracked]
    rfl
  have agree : s'.device.settings.Agree := by
    rw [settings]
    exact ⟨fun is => absurd is (by decide), fun is => absurd is (by decide)⟩
  have placed : s'.device.settings.Placed := by
    rw [settings]
    exact fun is => absurd is (by decide)
  constructor
  · constructor
    · exact followClass_open _ opens ends follows.remembered known
    · exact .inl (congrArg Settings.lifecycleState settings)
    · exact placed
    · intro _
      refine ⟨?_, agree⟩
      rw [same.tracked]
      rfl
    · exact nofun
  · refine .of_open opens ends (fun _ => rfl) ?_ nofun (fun _ => agree) placed
    rintro t _ (⟨_, setup⟩ | ⟨_, received, -⟩)
    · cases setup
    · cases received

/- Runs. -/

theorem received_runs (e : Env σ) (data : Bytes) (s : System σ) :
    (dcdEventCallback e (.dataReceived 0x00 data) s).2 = match s.device.requestPhase with
      | .dataOut => (ep0OutDataReceivedProcess e data s).2
      | .dataIn => (controlTransferCompleteProcess e { s with device := { s.device with requestPhase := .idle } }).2
      | _ => s := by
  show (ep0DataReceivedProcess e data s).2 = _
  rw [ep0DataReceivedProcess, read_bind]
  cases s.device.requestPhase <;> rfl

theorem sent_runs (e : Env σ) (s : System σ) :
    (dcdEventCallback e (.dataSent 0x80) s).2 = match s.device.requestPhase with
      | .outStatus => (controlTransferCompleteProcess e { s with device := { s.device with requestPhase := .idle } }).2
      | _ => s := by
  show (ep0DataSentProcess e s).2 = _
  rw [ep0DataSentProcess, read_bind]
  cases s.device.requestPhase <;> rfl

theorem ofBytes_eight (eight : data.length = 8) : ∃ r, SetupRequest.ofBytes data = some r := by
  match data, eight with
  | [_, _, _, _, _, _, _, _], _ => exact ⟨_, rfl⟩

theorem control_step {event : DcdEvent} (allowed : (controlMachine e).allowed s event)
    (follows : Follows e h s.device.tracked) (proper : ProperControl e h ((controlMachine e).take s event)) :
    Follows e (h.follow e ((controlMachine e).take s event)) ((controlMachine e).take s event).post.device.tracked ∧
      ControlLaw e h ((controlMachine e).take s event) := by
  cases event with
  | setupReceived data =>
    obtain ⟨r, parsed⟩ := ofBytes_eight allowed
    exact setup_follows parsed follows (proper.1 data r rfl parsed)
  | dataReceived ep data =>
    change ep = 0x00 at allowed
    subst allowed
    have runs := received_runs e data { s with log := [] }
    rcases under : h.transfer with _ | t
    · have idle : s.device.requestPhase = .idle := (follows.idle under).1
      simp only [idle] at runs
      refine ignored_follows follows runs ?_ ?_ nofun ?_
      · rw [under]
        rfl
      · exact fun t some => nomatch under.symm.trans some
      · exact fun t some => nomatch under.symm.trans some
    · have busy := follows.busy t under
      have phase : s.device.requestPhase = t.phase := busy.phase
      cases waits : t.phase with
      | idle => exact absurd waits busy.waits
      | dataIn =>
        simp only [phase.trans waits] at runs
        have ends : t.ends (.dataReceived 0x00 data) = true := by
          simp [Transfer.ends, waits, DcdEvent.isReceived]
        exact status_follows follows under ends (proper.2 t under ends) runs
      | dataOut =>
        simp only [phase.trans waits] at runs
        exact data_follows follows under waits runs
      | outStatus =>
        simp only [phase.trans waits] at runs
        have ends : t.ends (.dataReceived 0x00 data) = false := by
          simp [Transfer.ends, waits, DcdEvent.isSent]
        refine ignored_follows follows runs ?_ ?_ nofun ?_
        · show h.transfer.bind _ = _
          rw [under, Option.bind_some]
          exact (if_neg (Bool.eq_false_iff.mp ends)).trans (if_neg fun both => by rw [waits] at both; exact absurd both.1 (by decide))
        · intro t' same
          cases under.symm.trans same
          exact ends
        · intro t' same out
          cases under.symm.trans same
          cases waits.symm.trans out
  | dataSent ep =>
    change ep = 0x80 at allowed
    subst allowed
    have runs := sent_runs e { s with log := [] }
    rcases under : h.transfer with _ | t
    · have idle : s.device.requestPhase = .idle := (follows.idle under).1
      simp only [idle] at runs
      refine ignored_follows follows runs ?_ ?_ nofun fun _ _ _ => rfl
      · rw [under]
        rfl
      · exact fun t some => nomatch under.symm.trans some
    · have busy := follows.busy t under
      have phase : s.device.requestPhase = t.phase := busy.phase
      by_cases status : t.phase = .outStatus
      · simp only [phase.trans status] at runs
        have ends : t.ends (.dataSent 0x80) = true := by
          simp [Transfer.ends, status, DcdEvent.isSent]
        exact status_follows follows under ends (proper.2 t under ends) runs
      · have ends : t.ends (.dataSent 0x80) = false := by
          simp [Transfer.ends, status, DcdEvent.isReceived]
        refine ignored_follows follows ?_ ?_ ?_ nofun fun _ _ _ => rfl
        · rw [runs]
          cases waits : s.device.requestPhase with
          | outStatus => exact absurd (phase.symm.trans waits) status
          | idle => rfl
          | dataIn => rfl
          | dataOut => rfl
        · show h.transfer.bind _ = _
          rw [under, Option.bind_some]
          exact (if_neg (Bool.eq_false_iff.mp ends)).trans (if_neg fun e => nomatch e.2)
        · intro t' same
          cases under.symm.trans same
          exact ends
  | bus event =>
    change event = .reset at allowed
    subst allowed
    exact reset_follows follows

theorem historyOf_snoc (e : Env σ) (trace : List (ControlTransition σ)) (tr : ControlTransition σ) :
    historyOf e (trace ++ [tr]) = (historyOf e trace).follow e tr := by
  rw [historyOf, List.foldl_append]
  rfl

theorem Follows.started (e : Env σ) (speed : Speed) : Follows e ⟨none, none⟩ (Device.started speed).tracked where
  remembered := rfl
  running := .inl rfl
  placed is := absurd (show false = true from is) (by decide)
  idle _ := by
    refine ⟨rfl, fun is => ?_, fun is => ?_⟩
    · exact absurd (show LifecycleState.started = .configured from is) (by decide)
    · exact absurd (show false = true from is) (by decide)
  busy _ none := nomatch none

def loneEnv : Env Unit where
  classList := [7]
  interfaceToClass _ := none
  endpointToClass _ := none
  stringToClass _ := none
  nextInterface := 0
  dcd _ s := (.ok (), s)
  getSpeed s := (.ok .full, s)
  epIsStalled _ _ := false
  controlBuffer _ _ := []
  buildDescriptor _ _ s := ([], s)
  busEvent _ _ s := s
  controlIn _ := none
  controlOut _ := some fun _ _ s => (.ok (), s)
  transferComplete _ := some fun _ s => (.ok (), s)
  dataReceived _ := none
  transmitComplete _ := none
  interfaceString _ _ := none
  vendorString := []
  productString := []
  serialString := []
  deviceDescriptor := []
  deviceQualifierDescriptor := []
  mos2Descriptor := []

def loneStart : System Unit := ⟨.started .full, (), []⟩

def setAddressFive : DcdEvent := .setupReceived [0x00, 0x05, 5, 0, 0, 0, 0, 0]
def setConfigurationOne : DcdEvent := .setupReceived [0x00, 0x09, 1, 0, 0, 0, 0, 0]
def classRequest : DcdEvent := .setupReceived [0x20, 0x01, 0, 0, 0, 0, 0, 0]

def plainInputs : List DcdEvent :=
  [setAddressFive, .dataSent 0x80, setConfigurationOne, .dataSent 0x80, classRequest, .dataSent 0x80]

theorem plain_proper : Along (fun before tr => ProperControl loneEnv (historyOf loneEnv before) tr)
    ((controlMachine loneEnv).transitions loneStart plainInputs) := by
  have setup : ∀ {s : System Unit} {h : History} {data : Bytes} {r : SetupRequest}, SetupRequest.ofBytes data = some r →
      h.transfer = none → ProperSetup loneEnv h ((controlMachine loneEnv).take s (.setupReceived data)) r →
      ProperControl loneEnv h ((controlMachine loneEnv).take s (.setupReceived data)) := by
    intro s h data r parsed none proper
    refine ⟨fun data' r' same parsed' => ?_, fun t under => nomatch none.symm.trans under⟩
    cases same
    cases parsed.symm.trans parsed'
    exact proper
  have status : ∀ {s : System Unit} {h : History} {t : Transfer}, h.transfer = some t → ProperStatus h t →
      ProperControl loneEnv h ((controlMachine loneEnv).take s (.dataSent 0x80)) := by
    intro s h t under proper
    refine ⟨fun _ _ same => (nomatch same), fun t' under' _ => ?_⟩
    cases under.symm.trans under'
    exact proper
  refine ((((((Along.nil).snoc ?_).snoc ?_).snoc ?_).snoc ?_).snoc ?_).snoc ?_
  · exact setup rfl rfl ⟨fun t some => (nomatch some), fun _ => rfl, fun other => absurd rfl other, by decide⟩
  · exact status rfl ⟨by decide, fun _ => rfl⟩
  · exact setup rfl rfl ⟨fun t some => (nomatch some), fun _ => rfl, fun other => absurd rfl other, by decide⟩
  · exact status rfl ⟨by decide, fun _ => rfl⟩
  · exact setup rfl rfl ⟨fun t some => (nomatch some), fun _ => rfl, fun other => absurd rfl other, by decide⟩
  · exact status rfl ⟨by decide, nofun⟩

end XSDK.Usbd
