import XSDK.Usbh.Enumerating

/-! What an enumeration guarantees whatever the device answers, and when it does. -/
namespace XSDK.Usbh

open Library Library.Call
open Function (update update_self)

variable {c : Config} {hcd : Hcd} {n p d t : Nat} {h h' : Host}

/- What an observer of the calls sees. -/

/-- Whether the last thing the controller was asked is to take the slot. -/
def handedOver (t : Nat) (before after : List Record) : Bool :=
  match after with
  | .submit slot _ :: older => decide (slot = t ∧ older = before)
  | _ => false

/-- How many bytes the controller has brought since it was last given the transfer. -/
def receivedNext (t received : Nat) (s : EnumTransition) : Nat :=
  match s.input with
  | .process => if handedOver t s.pre.log s.post.log = true then 0 else received
  | .transferEvent _ actualLength _ => actualLength

def received (t : Nat) (trace : List EnumTransition) : Nat := trace.foldl (receivedNext t) 0

def processCalls (trace : List EnumTransition) : Nat := (trace.filter fun s => decide (s.input = .process)).length

def Transfer.EndedWell (transfer : Transfer) : Prop := transfer.isSubmitted = false ∧ transfer.lastEvent = .complete

/-- A SET_ADDRESS of the device has ended, and the device has its address. -/
structure AddressSet (t d : Nat) (s : EnumTransition) : Prop where
  process : s.input = .process
  asked : (s.pre.transfers t).setup = ⟨0x00, 5, d + 1, 0, 0⟩
  ended : (s.pre.transfers t).EndedWell
  address : (s.post.devices d).address = d + 1

/-- A configuration descriptor with that value has come in full, and its topology is built. -/
structure TopologyBuilt (c : Config) (t d value : Nat) (s : EnumTransition) : Prop where
  process : s.input = .process
  asked : (s.pre.transfers t).setup =
    setupBuildGetDescriptor descTypeConfiguration 0 0 (readLE16 s.pre.controlBuffer 2) ∧
    (s.pre.transfers t).data = .control
  ended : (s.pre.transfers t).EndedWell
  full : readLE16 s.pre.controlBuffer 2 ≤ (s.pre.transfers t).actualLength
  value : (s.pre.controlBuffer 5).toNat = value
  built : ∃ h', deviceBuildTopology c d s.pre.controlBuffer (readLE16 s.pre.controlBuffer 2) s.pre = (.ok (), h') ∧
    s.post.interfaces = h'.interfaces ∧ s.post.endpoints = h'.endpoints

/-- A SET_CONFIGURATION with that value has ended. -/
structure ConfigurationSet (t value : Nat) (s : EnumTransition) : Prop where
  process : s.input = .process
  asked : (s.pre.transfers t).setup = setupBuildSetConfiguration value
  ended : (s.pre.transfers t).EndedWell

/-- The enumeration reads only what came in, configures only what it has seen, and comes to an end with its slot given up. -/
structure EnumerationSound (c : Config) (hcd : Hcd) (p d t : Nat) (trace : List EnumTransition) (h : Host) : Prop where
  reads : Along (fun before s => s.input = .process → ∀ b, Agree b s.pre.controlBuffer (received t before) →
    enumerationProcess c hcd p (s.pre.showing b) = (s.output, s.post.showing b)) trace
  configured : Along (fun before s => (s.pre.devices d).state ≠ .configured → (s.post.devices d).state = .configured →
    (∃ a ∈ before, AddressSet t d a) ∧ ∃ value, (∃ a ∈ before, TopologyBuilt c t d value a) ∧ ConfigurationSet t value s) trace
  ended : ∀ s ∈ trace, s.pre.enumeration.isActive = true → s.post.enumeration.isActive = false →
    (s.post.enumeration.state = .complete ∨ s.post.enumeration.state = .error) ∧ SlotPassed t s.post
  bounded : enumerationBound c ≤ processCalls trace → h.enumeration.state = .complete ∨ h.enumeration.state = .error

/-- The full descriptor has the value that its header had, and a transfer that is too late is taken back. -/
def Consistent (c : Config) (hcd : Hcd) (t : Nat) (s : EnumTransition) : Prop :=
  s.input = .process → s.pre.enumeration.isActive = true →
    (s.pre.enumeration.state = .getConfigFullWait → (s.pre.transfers t).EndedWell →
      s.pre.enumeration.configTotalLength ≤ (s.pre.transfers t).actualLength →
      configurationDescriptorValidate s.pre.controlBuffer s.pre.enumeration.configTotalLength =
        .ok s.pre.enumeration.configTotalLength →
      (deviceBuildTopology c s.pre.enumeration.deviceIndex s.pre.controlBuffer s.pre.enumeration.configTotalLength s.pre).1 =
        .ok () →
      (s.pre.controlBuffer 5).toNat = s.pre.enumeration.configurationValue) ∧
    (s.pre.enumeration.awaits.isSome = true → (s.pre.transfers t).isSubmitted = true →
      s.pre.enumeration.timeoutRemaining = 0 → hcd.cancelTransfer s.pre.log t = .ok ())

instance (transfer : Transfer) : Decidable transfer.EndedWell := inferInstanceAs (Decidable (_ ∧ _))

instance (s : EnumTransition) : Decidable (Consistent c hcd t s) :=
  inferInstanceAs (Decidable (_ → _ → (_ → _ → _ → _ → _ → _) ∧ (_ → _ → _ → _)))

/- What a step shows. -/

theorem handedOver_same {l : List Record} : handedOver t l l = false := by
  rcases l with _ | ⟨r, older⟩
  · rfl
  · cases r with
    | submit slot transfer =>
      have longer : older ≠ .submit slot transfer :: older := fun same => by
        have lengths := congrArg List.length same
        simp at lengths
      simp [handedOver, longer]
    | _ => rfl

theorem Step.received (step : Step c hcd h h') (linked : Linked c n h)
    (enumerated : Enumerated c h) (busy : Busy c p d t h) (active : h'.enumeration.isActive = true) :
    (handedOver t h.log h'.log = true ∧ (h'.transfers t).actualLength = 0) ∨
    (h'.log = h.log ∧ h'.transfers = h.transfers) := by
  cases step with
  | tick _ _ _ _ => exact .inr ⟨rfl, rfl⟩
  | settle _ _ => exact .inr ⟨rfl, rfl⟩
  | @submit t' request asked slot _ =>
    rw [busy.got] at slot
    cases slot
    refine .inl ⟨?_, ?_⟩
    · simp [handedOver, Host.withRequest]
    · simp [Host.withRequest, ControlRequest.prepare]
  | header _ _ _ => exact .inr ⟨rfl, rfl⟩
  | address _ _ => exact .inr ⟨rfl, rfl⟩
  | device _ _ _ => exact .inr ⟨rfl, rfl⟩
  | configuration _ _ _ => exact .inr ⟨rfl, rfl⟩
  | topology built _ _ _ run =>
    rw [deviceBuildTopology_same run]
    exact .inr ⟨rfl, rfl⟩
  | configured _ _ _ _ => cases active
  | failed e failure => exact absurd active (failure.inactive linked enumerated e)

variable {r : Except Error Unit} {s : EnumTransition} {h₁ : Host}

theorem Failure.slot (failure : Failure c hcd h h₁) (up : Up n h) (busy : Busy c p d t h)
    (taken : h.enumeration.awaits.isSome = true → (h.transfers t).isSubmitted = true → h.enumeration.timeoutRemaining = 0 →
      hcd.cancelTransfer h.log t = .ok ()) :
    h₁.enumeration.transferIndex = t ∧ (SlotPassed t h₁ ∨ ((h₁.transfers t).isAllocated = true ∧
      ((h₁.transfers t).isSubmitted = true → hcd.cancelTransfer h₁.log t = .ok ()))) := by
  have mine {t' : Nat} (slot : enumTransferGet c h = some t') : t' = t := by
    rw [busy.got] at slot
    cases slot
    rfl
  have idle (still : (h.transfers t).isSubmitted = false) :
      (h.transfers t).isSubmitted = true → hcd.cancelTransfer h.log t = .ok () := fun submitted => by
    rw [still] at submitted
    cases submitted
  cases failure with
  | missing state missing =>
    rw [busy.got] at missing
    cases missing
  | timeout waits slot submitted lapsed =>
    have same := mine slot
    subst same
    exact ⟨busy.index, .inr ⟨busy.slot.2, fun _ => taken waits submitted lapsed⟩⟩
  | answer waits slot still =>
    have same := mine slot
    subst same
    exact ⟨busy.index, .inr ⟨busy.slot.2, idle still⟩⟩
  | address state =>
    exact ⟨busy.index, .inr ⟨busy.slot.2, idle (busy.idle (by rw [Enumeration.awaits, state]))⟩⟩
  | @refused t' request state log asked slot =>
    have same := mine slot
    subst same
    refine ⟨busy.index, .inr ⟨?_, ?_⟩⟩
    · simp only [update_self]
      exact busy.slot.2
    · simp only [update_self]
      intro submitted
      rw [show (request.prepare h.enumerated.address (h.transfers t')).isSubmitted = (h.transfers t').isSubmitted from rfl,
        busy.idle (Enumeration.request_idle asked)] at submitted
      cases submitted
  | topology state ended =>
    have same := mine ended.slot
    subst same
    rw [deviceBuildTopology_left]
    exact ⟨busy.index, .inr ⟨busy.slot.2, idle ended.idle⟩⟩
  | @bind t' state ended =>
    have same := mine ended.slot
    subst same
    obtain ⟨-, -, record⟩ := classBindDevice_left c hcd h.enumeration.deviceIndex (h.freed t')
    have keeps : Keeps (fun h => Up n h ∧ SlotPassed t' h) (classBindDevice c hcd h.enumeration.deviceIndex) :=
      classBindDevice_passed
    refine ⟨?_, .inl (keeps.after (s := h.freed t') ⟨up.frame rfl, .inl ?_⟩).2⟩
    · rw [record]
      exact busy.index
    · simp [Host.freed, Transfer.zero]

theorem Step.ended (step : Step c hcd h h') (linked : Linked c n h)
    (enumerated : Enumerated c h) (busy : Busy c p d t h)
    (active : h.enumeration.isActive = true) (inactive : h'.enumeration.isActive = false)
    (taken : h.enumeration.awaits.isSome = true → (h.transfers t).isSubmitted = true → h.enumeration.timeoutRemaining = 0 →
      hcd.cancelTransfer h.log t = .ok ()) :
    (h'.enumeration.state = .complete ∨ h'.enumeration.state = .error) ∧ SlotPassed t h' := by
  have still (same : h'.enumeration.isActive = h.enumeration.isActive) :
      (h'.enumeration.state = .complete ∨ h'.enumeration.state = .error) ∧ SlotPassed t h' := by
    rw [same, active] at inactive
    cases inactive
  cases step with
  | tick _ _ _ _ => exact still rfl
  | settle _ _ => exact still rfl
  | submit _ _ _ => exact still rfl
  | header _ _ _ => exact still rfl
  | address _ _ => exact still rfl
  | device _ _ _ => exact still rfl
  | configuration _ _ _ => exact still rfl
  | topology _ _ _ _ _ => exact still rfl
  | @configured t' bound _ ended run =>
    have slot := ended.slot
    rw [busy.got] at slot
    cases slot
    have keeps : Keeps (fun h => Up n h ∧ SlotPassed t h) (classBindDevice c hcd h.enumeration.deviceIndex) :=
      classBindDevice_passed
    have passed := keeps.after (s := h.freed t)
      ⟨linked.up.frame rfl, .inl (by simp [Host.freed, Transfer.zero])⟩
    rw [run] at passed
    exact ⟨.inl rfl, passed.2⟩
  | failed e failure =>
    have before := failure.linked linked enumerated
    obtain ⟨index, slot⟩ := failure.slot linked.up busy taken
    obtain ⟨transfers, log, run, given⟩ := enumFail_effect c hcd before.up e
    rw [run]
    refine ⟨.inr rfl, ?_⟩
    cases given with
    | missing missing =>
      rcases slot with passed | ⟨allocated, -⟩
      · exact passed
      · rw [enumTransferGet, index, if_neg (by simp [allocated, busy.slot.1])] at missing
        cases missing
    | freed found =>
      obtain ⟨same, -, -⟩ := enumTransferGet_some found
      rw [index] at same
      subst same
      exact .inl (by simp [Host.abandoned, Transfer.zero])
    | refused found submitted refused =>
      obtain ⟨same, -, -⟩ := enumTransferGet_some found
      rw [index] at same
      subst same
      rcases slot with passed | ⟨-, given⟩
      · exact passed
      · rw [given submitted] at refused
        cases refused

theorem Enumeration.request_state {e : Enumeration} {request : ControlRequest} (asked : e.request = some request) :
    request.waitState ≠ .setConfigurationSubmit ∧
      (request.waitState = .setConfigurationWait → e.state = .setConfigurationSubmit) := by
  rw [Enumeration.request] at asked
  split at asked
  case h_2 =>
    rw [ControlRequest.address] at asked
    split at asked
    · cases asked
      exact ⟨by rintro ⟨⟩, by rintro ⟨⟩⟩
    · cases asked
  case h_7 state =>
    cases asked
    exact ⟨by rintro ⟨⟩, fun _ => state⟩
  case h_8 => cases asked
  all_goals
    cases asked
    exact ⟨by rintro ⟨⟩, by rintro ⟨⟩⟩

theorem configurationDescriptorValidate_length {b : Nat → UInt8} {length total : Nat}
    (valid : configurationDescriptorValidate b length = .ok total) : total = readLE16 b 2 := by
  rw [configurationDescriptorValidate] at valid
  rcases parsed : configurationDescriptorParse b length with e | config
  · rw [parsed] at valid
    cases valid
  · rw [parsed] at valid
    change (if config.totalLength < configurationDescLen ∨ length < config.totalLength then
      Except.error Error.invalidArgument else _) = _ at valid
    split at valid
    · cases valid
    · rcases walked : descriptorWalk b config.totalLength config.totalLength 0 with e | headers
      · rw [walked] at valid
        cases valid
      · rw [walked] at valid
        cases valid
        rw [configurationDescriptorParse] at parsed
        rcases header : descriptorHeaderParse b length configurationDescLen descTypeConfiguration with e | x
        · rw [header] at parsed
          cases parsed
        · rw [header] at parsed
          cases parsed
          rfl

theorem Step.addressed (step : Step c hcd h h') (linked : Linked c n h)
    (enumerated : Enumerated c h) (busy : Busy c p d t h)
    (active : h'.enumeration.isActive = true) (addressed : h'.enumeration.state.addressed = true) :
    h.enumeration.state.addressed = true ∨ AddressSet t d ⟨h, .process, r, h'⟩ := by
  cases step with
  | tick _ _ _ _ => exact .inl addressed
  | settle _ _ => exact .inl addressed
  | submit asked _ _ =>
    rw [← (Enumeration.request_waits asked).2]
    exact .inl addressed
  | header _ _ _ => cases addressed
  | address state ended =>
    have slot := ended.slot
    rw [busy.got] at slot
    cases slot
    obtain ⟨setup, -⟩ := busy.asked _ _ (by simp only [Enumeration.awaited, state]; rfl)
    have assigned : h.enumeration.assignedAddress = d + 1 := by rw [enumerated.assigned, busy.device]
    refine .inr ⟨rfl, by rw [← assigned]; exact setup, ⟨ended.idle, ended.complete⟩, ?_⟩
    simp only [Host.withEnumerated, busy.device, update_self]
    exact assigned
  | device _ state _ => exact .inl (by rw [state]; rfl)
  | configuration _ state _ => exact .inl (by rw [state]; rfl)
  | topology _ state _ _ _ => exact .inl (by rw [state]; rfl)
  | configured _ _ _ _ => cases active
  | failed e failure => exact absurd active (failure.inactive linked enumerated e)

def Enumeration.settling (e : Enumeration) : Prop := e.state = .setConfigurationSubmit ∨ e.state = .setConfigurationWait

theorem Step.topology_built (step : Step c hcd h h') (linked : Linked c n h) (enumerated : Enumerated c h)
    (busy : Busy c p d t h) (active : h'.enumeration.isActive = true) (settling : h'.enumeration.settling)
    (consistent : h.enumeration.state = .getConfigFullWait → (h.transfers t).EndedWell →
      h.enumeration.configTotalLength ≤ (h.transfers t).actualLength →
      configurationDescriptorValidate h.controlBuffer h.enumeration.configTotalLength = .ok h.enumeration.configTotalLength →
      (deviceBuildTopology c h.enumeration.deviceIndex h.controlBuffer h.enumeration.configTotalLength h).1 = .ok () →
      (h.controlBuffer 5).toNat = h.enumeration.configurationValue) :
    (h.enumeration.settling ∧ h'.enumeration.configurationValue = h.enumeration.configurationValue) ∨
      TopologyBuilt c t d h'.enumeration.configurationValue ⟨h, .process, r, h'⟩ := by
  cases step with
  | tick _ _ _ _ => exact .inl ⟨settling, rfl⟩
  | settle state _ =>
    rcases settling with wrong | wrong
    · rw [show h.enumeration.state = _ from wrong] at state
      cases state
    · rw [show h.enumeration.state = _ from wrong] at state
      cases state
  | submit asked _ _ =>
    obtain ⟨not, from'⟩ := Enumeration.request_state asked
    rcases settling with wrong | right
    · exact absurd wrong not
    · exact .inl ⟨.inl (from' right), rfl⟩
  | header _ _ _ => rcases settling with wrong | wrong <;> cases wrong
  | address _ _ => rcases settling with wrong | wrong <;> cases wrong
  | device _ _ _ => rcases settling with wrong | wrong <;> cases wrong
  | configuration _ _ _ => rcases settling with wrong | wrong <;> cases wrong
  | topology built state ended valid run =>
    have slot := ended.slot
    rw [busy.got] at slot
    cases slot
    obtain ⟨length, awaits, full⟩ := ended.full
    have same : length = h.enumeration.configTotalLength := by
      rw [Enumeration.awaits, state] at awaits
      exact (Option.some.inj awaits).symm
    rw [same] at full
    have long := configurationDescriptorValidate_length valid
    obtain ⟨setup, data⟩ := busy.asked _ _ (by simp only [Enumeration.awaited, state]; rfl)
    have well : (h.transfers t).EndedWell := ⟨ended.idle, ended.complete⟩
    have value := consistent state well full valid (by rw [run])
    rw [busy.device] at run
    refine .inr ⟨rfl, ⟨?_, data⟩, well, ?_, value, built, ?_, rfl, rfl⟩
    · rw [← long]
      exact setup
    · rw [← long]
      exact full
    · rw [← long]
      exact run
  | configured _ _ _ _ => cases active
  | failed e failure => exact absurd active (failure.inactive linked enumerated e)

theorem Failure.devices (failure : Failure c hcd h h₁) : h₁.devices = h.devices := by
  cases failure with
  | missing _ _ => rfl
  | timeout _ _ _ _ => rfl
  | answer _ _ _ => rfl
  | address _ => rfl
  | refused _ _ _ _ => rfl
  | topology _ _ => rw [deviceBuildTopology_left]
  | @bind t' _ _ => exact (classBindDevice_left c hcd h.enumeration.deviceIndex (h.freed t')).1

theorem Step.configures (step : Step c hcd h h') (linked : Linked c n h)
    (enumerated : Enumerated c h) (busy : Busy c p d t h)
    (before : (h.devices d).state ≠ .configured) (after : (h'.devices d).state = .configured) :
    h.enumeration.state = .setConfigurationWait ∧
    ConfigurationSet t h.enumeration.configurationValue ⟨h, .process, r, h'⟩ := by
  have here : h.enumerated = h.devices d := by rw [Host.enumerated, busy.device]
  have same (unchanged : (h'.devices d).state = (h.devices d).state) :
      h.enumeration.state = .setConfigurationWait ∧
      ConfigurationSet t h.enumeration.configurationValue ⟨h, .process, r, h'⟩ :=
    absurd (unchanged.symm.trans after) before
  cases step with
  | tick _ _ _ _ => exact same rfl
  | settle _ _ => exact same rfl
  | submit _ _ _ => exact same rfl
  | header _ _ _ => exact same (by simp only [Host.withEnumerated, busy.device, update_self, here])
  | address _ _ =>
    simp only [Host.withEnumerated, busy.device, update_self] at after
    cases after
  | device _ _ _ => exact same (by simp only [Host.withEnumerated, busy.device, update_self, here])
  | configuration _ _ _ => exact same rfl
  | topology _ _ _ _ run => exact same (by rw [deviceBuildTopology_same run])
  | configured _ state ended _ =>
    have slot := ended.slot
    rw [busy.got] at slot
    cases slot
    obtain ⟨setup, -⟩ := busy.asked _ _ (by simp only [Enumeration.awaited, state]; rfl)
    exact ⟨state, rfl, setup, ended.idle, ended.complete⟩
  | failed e failure =>
    have linked' := failure.linked linked enumerated
    obtain ⟨transfers, log, run, -⟩ := enumFail_effect c hcd linked'.up e
    refine same ?_
    rw [run]
    exact congrArg (fun x => (x d).state) failure.devices

/- The whole run. -/

structure Progress (c : Config) (hcd : Hcd) (n p d t : Nat) (trace : List EnumTransition) (h : Host) : Prop where
  wired : Wired c n h
  busy : h.enumeration.isActive = true → Busy c p d t h
  arrived : h.enumeration.isActive = true → (h.transfers t).actualLength = received t trace
  left : h.enumeration.isActive = true → processCalls trace + h.enumeration.rank c ≤ enumerationBound c
  done : h.enumeration.isActive = false → h.enumeration.state = .complete ∨ h.enumeration.state = .error
  addressed : h.enumeration.isActive = true → h.enumeration.state.addressed = true → ∃ s ∈ trace, AddressSet t d s
  built : h.enumeration.isActive = true → h.enumeration.settling →
    ∃ s ∈ trace, TopologyBuilt c t d h.enumeration.configurationValue s
  sound : EnumerationSound c hcd p d t trace h

variable {trace : List EnumTransition}

theorem processCalls_snoc :
    processCalls (trace ++ [s]) = processCalls trace + if s.input = .process then 1 else 0 := by
  simp only [processCalls, List.filter_append, List.length_append]
  by_cases process : s.input = .process
  · simp [process]
  · simp [process]

theorem received_snoc : received t (trace ++ [s]) = receivedNext t (received t trace) s := by
  rw [received, List.foldl_append]
  rfl

theorem enumerationProcess_inactive (inactive : h.enumeration.isActive = false) :
    (enumerationProcess c hcd p h).2 = h := by
  simp only [enumerationProcess, read_bind, id_eq]
  by_cases elsewhere : portIsValid h p = false ∨ h.enumeration.port ≠ p
  · rw [reject_bind_pos _ elsewhere]
    rfl
  · rw [reject_bind_neg _ elsewhere, if_pos inactive]
    rfl

theorem enumerationProcess_inactive_blind (inactive : h.enumeration.isActive = false) (b : Nat → UInt8) :
    Unseen b (enumerationProcess c hcd p) h := by
  refine unseen_read rfl ?_
  by_cases elsewhere : portIsValid h p = false ∨ h.enumeration.port ≠ p
  · rw [reject_bind_pos _ elsewhere]
    rfl
  · rw [reject_bind_neg _ elsewhere, if_pos inactive]
    rfl

theorem begun_progress {before : Host} (wired : Wired c n (before.begun p d t)) (small : t < c.maxTransfers) :
    Progress c hcd n p d t [] (before.begun p d t) where
  wired := wired
  busy _ := begun_busy small
  arrived _ := by simp [Host.begun, received, Transfer.zero]
  left _ := Nat.le_of_eq (Nat.zero_add _)
  done inactive := by cases inactive
  addressed _ addressed := by cases addressed
  built _ settling := by rcases settling with wrong | wrong <;> cases wrong
  sound := ⟨.nil, .nil, fun _ mem => absurd mem List.not_mem_nil, fun few => by simp [processCalls, enumerationBound] at few⟩

/-- An active record has calls left, so many calls leave it inactive. -/
theorem Progress.bounded (wired : Wired c n h)
    (left : h.enumeration.isActive = true → processCalls trace + h.enumeration.rank c ≤ enumerationBound c)
    (done : h.enumeration.isActive = false → h.enumeration.state = .complete ∨ h.enumeration.state = .error) :
    enumerationBound c ≤ processCalls trace → h.enumeration.state = .complete ∨ h.enumeration.state = .error := by
  intro many
  rcases active : h.enumeration.isActive with _ | _
  · exact done active
  · have few := left active
    have positive := Enumeration.rank_pos (c := c) (wired.2 active).running
    omega

theorem Progress.process (progress : Progress c hcd n p d t trace h)
    (consistent : Consistent c hcd t ((enumMachine c hcd p t).take h .process)) :
    Progress c hcd n p d t (trace ++ [(enumMachine c hcd p t).take h .process]) (enumerationProcess c hcd p h).2 := by
  let s := (enumMachine c hcd p t).take h .process
  have member : s ∈ trace ++ [s] := List.mem_append_right _ List.mem_cons_self
  have wired' : Wired c n (enumerationProcess c hcd p h).2 := enumerationProcess_wired.after progress.wired
  rcases active : h.enumeration.isActive with _ | _
  · have same : (enumerationProcess c hcd p h).2 = h := enumerationProcess_inactive active
    have off (on : (enumerationProcess c hcd p h).2.enumeration.isActive = true) : False := by
      rw [same, active] at on
      cases on
    have done := progress.done active
    refine ⟨wired', fun on => (off on).elim, fun on => (off on).elim, fun on => (off on).elim, fun _ => by rwa [same],
      fun on => (off on).elim, fun on => (off on).elim, ?_⟩
    refine ⟨progress.sound.reads.snoc fun _ b _ => ?_, progress.sound.configured.snoc fun before after => ?_, ?_, fun _ => by rwa [same]⟩
    · exact enumerationProcess_inactive_blind active b
    · exact absurd ((congrArg (fun x => (x.devices d).state) same).symm.trans after) before
    · intro x mem on
      rcases List.mem_append.mp mem with mem | mem
      · exact progress.sound.ended x mem on
      · cases List.mem_singleton.mp mem
        exact absurd on (by simpa [Machine.take] using active)
  · have enumerated := progress.wired.2 active
    have busy := progress.busy active
    have linked := progress.wired.1
    obtain ⟨byteFive, taken⟩ := consistent rfl active
    have step : Step c hcd h (enumerationProcess c hcd p h).2 := by
      have step := enumerationProcess_step hcd linked.up enumerated active
      rwa [busy.port] at step
    have arrived : ∀ on : (enumerationProcess c hcd p h).2.enumeration.isActive = true,
        ((enumerationProcess c hcd p h).2.transfers t).actualLength = received t (trace ++ [s]) := by
      intro on
      have before := progress.arrived active
      rw [received_snoc]
      rcases step.received linked enumerated busy on with ⟨over', zero⟩ | ⟨log, transfers⟩
      · have fresh : receivedNext t (received t trace) s = 0 := if_pos over'
        rw [fresh, zero]
      · have kept : receivedNext t (received t trace) s = received t trace := by
          refine if_neg ?_
          change ¬handedOver t h.log (enumerationProcess c hcd p h).2.log = true
          rw [log, handedOver_same]
          simp
        rw [kept, transfers, before]
    have left : (enumerationProcess c hcd p h).2.enumeration.isActive = true →
        processCalls (trace ++ [s]) + (enumerationProcess c hcd p h).2.enumeration.rank c ≤ enumerationBound c := by
      intro on
      have less := step.rank linked enumerated on
      have before := progress.left active
      have counted : processCalls (trace ++ [s]) = processCalls trace + 1 := processCalls_snoc.trans rfl
      omega
    have ended (off : (enumerationProcess c hcd p h).2.enumeration.isActive = false) :=
      step.ended linked enumerated busy active off taken
    have addressed : ∀ on : (enumerationProcess c hcd p h).2.enumeration.isActive = true,
        (enumerationProcess c hcd p h).2.enumeration.state.addressed = true → ∃ x ∈ trace ++ [s], AddressSet t d x := by
      intro on is
      rcases step.addressed linked enumerated busy on is (r := (enumerationProcess c hcd p h).1) with before | now
      · obtain ⟨x, mem, set⟩ := progress.addressed active before
        exact ⟨x, List.mem_append_left _ mem, set⟩
      · exact ⟨s, member, now⟩
    have built : ∀ on : (enumerationProcess c hcd p h).2.enumeration.isActive = true,
        (enumerationProcess c hcd p h).2.enumeration.settling →
          ∃ x ∈ trace ++ [s], TopologyBuilt c t d (enumerationProcess c hcd p h).2.enumeration.configurationValue x := by
      intro on settling
      rcases step.topology_built linked enumerated busy on settling byteFive
          (r := (enumerationProcess c hcd p h).1) with
        ⟨before, same⟩ | now
      · obtain ⟨x, mem, built⟩ := progress.built active before
        rw [same]
        exact ⟨x, List.mem_append_left _ mem, built⟩
      · exact ⟨s, member, now⟩
    refine ⟨wired', fun on => step.busy linked enumerated busy on, arrived, left, fun off => (ended off).1, addressed, built, ?_⟩
    refine ⟨progress.sound.reads.snoc fun _ b agree => ?_, progress.sound.configured.snoc fun before after => ?_, ?_,
      Progress.bounded wired' left fun off => (ended off).1⟩
    · have all : h.arrived = received t trace := by rw [Host.arrived, busy.index, progress.arrived active]
      refine enumerationProcess_reads (h := h) ?_
      rw [all]
      exact agree
    · obtain ⟨state, set⟩ := step.configures linked enumerated busy before after (r := (enumerationProcess c hcd p h).1)
      exact ⟨progress.addressed active (by rw [state]; rfl), _, progress.built active (.inr state), set⟩
    · intro x mem on off
      rcases List.mem_append.mp mem with mem | mem
      · exact progress.sound.ended x mem on off
      · cases List.mem_singleton.mp mem
        exact ended off

theorem hcdTransferEvent_left (c : Config) (hcd : Hcd) (t : Nat) (event : TransferEvent)
    (actualLength : Nat) (bytes : List UInt8) (h : Host) :
    (hcdTransferEvent c hcd t event actualLength bytes h).2.enumeration = h.enumeration ∧
      (hcdTransferEvent c hcd t event actualLength bytes h).2.devices = h.devices := by
  have quiet : Quiet fun h₁ : Host => h₁.enumeration = h.enumeration ∧ h₁.devices = h.devices :=
    ⟨fun _ _ a => a, fun _ _ a => a, fun _ _ a => a, fun _ _ _ a => a⟩
  exact (hcdTransferEvent_frame quiet fun _ _ a => a).after ⟨rfl, rfl⟩

theorem Progress.transferEvent
    (progress : Progress c hcd n p d t trace h) (event : TransferEvent)
    (actualLength : Nat) (bytes : List UInt8) :
    Progress c hcd n p d t (trace ++ [(enumMachine c hcd p t).take h (.transferEvent event actualLength bytes)])
      (hcdTransferEvent c hcd t event actualLength bytes h).2 := by
  let s := (enumMachine c hcd p t).take h (.transferEvent event actualLength bytes)
  obtain ⟨record, devices⟩ := hcdTransferEvent_left c hcd t event actualLength bytes h
  have wired' : Wired c n (hcdTransferEvent c hcd t event actualLength bytes h).2 :=
    hcdTransferEvent_wired.after progress.wired
  have counted : processCalls (trace ++ [s]) = processCalls trace := processCalls_snoc.trans rfl
  have done : h.enumeration.isActive = false → _ := progress.done
  have left : (hcdTransferEvent c hcd t event actualLength bytes h).2.enumeration.isActive = true →
      processCalls (trace ++ [s]) + (hcdTransferEvent c hcd t event actualLength bytes h).2.enumeration.rank c ≤
        enumerationBound c := by
    rw [record, counted]
    exact progress.left
  refine ⟨wired', ?_, ?_, left, by rwa [record], ?_, ?_, ?_⟩
  · rw [record]
    intro active
    obtain ⟨buffer, run⟩ := hcdTransferEvent_busy hcd progress.wired active
      (progress.busy active) event actualLength bytes
    rw [run]
    exact (progress.busy active).reported event actualLength buffer
  · rw [record]
    intro active
    obtain ⟨buffer, run⟩ := hcdTransferEvent_busy hcd progress.wired active
      (progress.busy active) event actualLength bytes
    rw [run, received_snoc]
    simp only [Host.reported, update_self]
    rfl
  · rw [record]
    intro active addressed
    obtain ⟨x, mem, set⟩ := progress.addressed active addressed
    exact ⟨x, List.mem_append_left _ mem, set⟩
  · rw [record]
    intro active settling
    obtain ⟨x, mem, built⟩ := progress.built active settling
    exact ⟨x, List.mem_append_left _ mem, built⟩
  · refine ⟨progress.sound.reads.snoc nofun, progress.sound.configured.snoc fun before after => ?_, ?_,
      Progress.bounded wired' left (by rwa [record])⟩
    · exact absurd ((congrArg (fun x => (x d).state) devices).symm.trans after) before
    · intro x mem on off
      rcases List.mem_append.mp mem with mem | mem
      · exact progress.sound.ended x mem on off
      · cases List.mem_singleton.mp mem
        have same : h.enumeration.isActive = false := (congrArg (·.isActive) record).symm.trans off
        exact absurd on (by simpa [Machine.take] using same)

/-- In every run in which descriptors are consistent and late transfers can be taken back. -/
theorem enumeration_sound {start : Host} {trace : List EnumTransition} (begun : EnumerationBegun c hcd n p start)
    (run : (enumMachine c hcd p start.enumeration.transferIndex).Run start trace h)
    (consistent : ∀ s ∈ trace, Consistent c hcd start.enumeration.transferIndex s) :
    EnumerationSound c hcd p start.enumeration.deviceIndex start.enumeration.transferIndex trace h := by
  obtain ⟨before, d, t, -, wired, small, rfl⟩ := begun.eq
  have progress : Progress c hcd n p d t trace h := by
    change (enumMachine c hcd p t).Run _ _ _ at run
    induction run with
    | nil => exact begun_progress wired small
    | @snoc trace h op run allowed ih =>
      have earlier := ih fun s mem => consistent s (List.mem_append_left _ mem)
      cases op with
      | process => exact earlier.process (consistent _ (List.mem_append_right _ List.mem_cons_self))
      | transferEvent event actualLength bytes => exact earlier.transferEvent event actualLength bytes
  exact progress.sound

/- A device on the second port, with the same configuration descriptor twice, and with two that differ. -/

def sampleDeviceDescriptor : List UInt8 := [18, 1, 0, 2, 0, 0, 0, 64, 1, 0, 2, 0, 0, 0, 0, 0, 0, 1]

def sampleConfigurationDescriptor (value : UInt8) : List UInt8 :=
  [9, 2, 18, 0, 1, value, 0, 0x80, 50, 9, 4, 0, 0, 0, 0xFF, 0, 0, 0]

/-- What the controller reports while the device answers; the header has the first value, the full descriptor the second. -/
def sampleDialogue (first second : UInt8) : List EnumOp :=
  [.process, .transferEvent .complete 8 (sampleDeviceDescriptor.take 8), .process, .process, .transferEvent .complete 0 [],
    .process, .process, .process, .transferEvent .complete 18 sampleDeviceDescriptor, .process, .process,
    .transferEvent .complete 9 ((sampleConfigurationDescriptor first).take 9), .process, .process,
    .transferEvent .complete 18 (sampleConfigurationDescriptor second), .process, .process, .transferEvent .complete 0 []]

/-- The second port is about to start its enumeration, after the first one's step. -/
def sampleReady : Host :=
  (forEach (rootPortStep sampleConfig sampleHcd) 1 0
    ((machine sampleConfig sampleHcd).play sampleStarted (sampleArrival.take 6))).2

def sampleBegun : Host := (enumerationStart sampleConfig sampleHcd 1 sampleReady).2

theorem sampleBegun_begun : EnumerationBegun sampleConfig sampleHcd 2 1 sampleBegun := by
  have booted : Booted sampleConfig sampleHcd 2 sampleStarted :=
    ⟨[], boot_idle (by decide) (fun _ => rfl) (fun _ => rfl) fun _ => rfl⟩
  have legal : (machine sampleConfig sampleHcd).Legal sampleStarted (sampleArrival.take 6) := by decide +kernel
  exact ⟨_, _, _, 1, booted, Machine.run_of_legal legal, Prod.ext (by decide +kernel) rfl⟩

abbrev sampleEnum : Machine Host EnumOp (Except Error Unit) :=
  enumMachine sampleConfig sampleHcd 1 sampleBegun.enumeration.transferIndex

theorem sampleEnum_legal {h : Host} {ops : List EnumOp} : sampleEnum.Legal h ops := by
  induction ops generalizing h with
  | nil => trivial
  | cons op rest ih => exact ⟨trivial, ih⟩

theorem enumeration_sound_sample :
    EnumerationSound sampleConfig sampleHcd 1 sampleBegun.enumeration.deviceIndex sampleBegun.enumeration.transferIndex
      (sampleEnum.transitions sampleBegun (sampleDialogue 1 1 ++ [.process]))
      (sampleEnum.play sampleBegun (sampleDialogue 1 1 ++ [.process])) :=
  enumeration_sound sampleBegun_begun (Machine.run_of_legal sampleEnum_legal) (by decide +kernel)

/-- With two values the device is configured with one that its full descriptor does not have. -/
theorem enumeration_misled :
    ¬∀ start trace h, EnumerationBegun sampleConfig sampleHcd 2 1 start →
      (enumMachine sampleConfig sampleHcd 1 start.enumeration.transferIndex).Run start trace h →
      EnumerationSound sampleConfig sampleHcd 1 start.enumeration.deviceIndex start.enumeration.transferIndex trace h := by
  intro all
  have legal : sampleEnum.Legal sampleBegun (sampleDialogue 1 2 ++ [.process]) := sampleEnum_legal
  have sound := all _ _ _ sampleBegun_begun (Machine.run_of_legal legal)
  rw [Machine.transitions_append] at sound
  have last := sound.configured _ _ [] rfl (by decide +kernel) (by decide +kernel)
  obtain ⟨-, value, ⟨a, mem, built⟩, set⟩ := last
  have asked : ((sampleEnum.play sampleBegun (sampleDialogue 1 2)).transfers sampleBegun.enumeration.transferIndex).setup =
      setupBuildSetConfiguration 1 := by
    decide +kernel
  have one : value = 1 := by
    have seen := set.asked
    simp only [Machine.take, asked] at seen
    exact (SetupRequest.mk.inj seen).2.2.1.symm
  have other : ∀ a ∈ sampleEnum.transitions sampleBegun (sampleDialogue 1 2), a.input = .process →
      (a.pre.transfers sampleBegun.enumeration.transferIndex).setup =
        setupBuildGetDescriptor descTypeConfiguration 0 0 (readLE16 a.pre.controlBuffer 2) →
      (a.pre.controlBuffer 5).toNat ≠ 1 := by
    decide +kernel
  exact other a mem built.process built.asked.1 (built.value.trans one)

end XSDK.Usbh
