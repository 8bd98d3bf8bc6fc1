import XSDK.Usbd.Quiet

/-! What each event can do to a control transfer: one lemma for a stage, the cases written out. -/
namespace XSDK.Usbd

open Library Library.Call

namespace SetupRequest

variable (r : SetupRequest)

def IsStandard (bRequest : UInt8) : Prop := r.type = reqTypeStandard ∧ r.bRequest = bRequest

def IsSetAddress : Prop := r.IsStandard reqSetAddress ∧ r.recipient = recipientDevice
def IsSetConfiguration : Prop := r.IsStandard reqSetConfiguration ∧ r.recipient = recipientDevice

/-- TEST_MODE is the selector 0 here. -/
def IsSetTestMode : Prop :=
  r.IsStandard reqSetFeature ∧ r.recipient = recipientDevice ∧ lowByte r.wValue = 0

/-- None of the standard requests that the completion of a transfer looks for. -/
structure Unhooked (r : SetupRequest) : Prop where
  address : ¬r.IsStandard reqSetAddress
  configuration : ¬r.IsStandard reqSetConfiguration
  feature : ¬r.IsStandard reqSetFeature

def Backward : Prop :=
  r.isIn = false ∧ (r.IsStandard reqGetStatus ∨ r.IsStandard reqGetDescriptor ∨ r.IsStandard reqGetInterface)

/-- The status stage's hook of a standard request, found by another request. -/
def Lookalike : Prop :=
  r.type ≠ reqTypeStandard ∧ r.recipient = recipientDevice ∧
    (r.bRequest = reqSetAddress ∨ r.bRequest = reqSetFeature ∧ lowByte r.wValue = 0)

def emptyStage : DcdCall := .epSend 0x80 [] (r.isIn && decide (0 < r.wLength.toNat))

end SetupRequest

variable {σ : Type} {s s' : System σ} {e : Env σ} {c : ClassRef}

inductive Dispatched (s s' : System σ) : Except Error Response → Prop
  | quiet {result : Except Error Response} (same : SameSigns s s')
      (plain : (∃ response, result = .ok response) → ¬s.device.request.IsStandard reqSetAddress ∧
        ¬s.device.request.IsStandard reqSetConfiguration) : Dispatched s s' result
  | handled {c : ClassRef} {response : Response} (handled : Handled s s' c)
      (short : s.device.request.isIn = true ∨ s.device.request.wLength.toNat = 0 ∨ response.length = 0 ∨
        s.device.request.Backward)
      (plain : s.device.request.Unhooked) : Dispatched s s' (.ok response)
  | address (request : s.device.request.IsSetAddress)
      (tracked : s'.device.tracked = { s.device.tracked with addressValue := lowByte s.device.request.wValue })
      (signs : signs s'.log = signs s.log) (unmoved : s'.outside = s.outside) : Dispatched s s' (.ok .empty)
  | configuration (request : s.device.request.IsStandard reqSetConfiguration) (addressed : s.device.isAddressed = true)
      (value : lowByte s.device.request.wValue = 0 ∨ lowByte s.device.request.wValue = 1)
      (tracked : s'.device.tracked = { s.device.tracked with
        isConfigured := lowByte s.device.request.wValue == 1
        configurationValue := lowByte s.device.request.wValue })
      (signs : signs s'.log = signs s.log) (unmoved : s'.outside = s.outside) : Dispatched s s' (.ok .empty)

theorem Dispatched.of_routes {m : Core σ Response} (routes : Routes m)
    (short : ∀ response, (m s).1 = .ok response → s.device.request.isIn = true ∨ s.device.request.wLength.toNat = 0 ∨
      response.length = 0 ∨ s.device.request.Backward)
    (plain : s.device.request.Unhooked) : Dispatched s (m s).2 (m s).1 := by
  rcases routes s with same | ⟨c, a, ok, handled⟩
  · exact .quiet same fun _ => ⟨plain.address, plain.configuration⟩
  · have fits := short a ok
    rw [ok]
    exact .handled handled fits plain

theorem short_of_get {r : SetupRequest} {n : Nat} {P : Prop}
    (get : r.IsStandard reqGetStatus ∨ r.IsStandard reqGetDescriptor ∨ r.IsStandard reqGetInterface) :
    r.isIn = true ∨ n = 0 ∨ P ∨ r.Backward := by
  cases way : r.isIn with
  | true => exact .inl rfl
  | false => exact .inr (.inr (.inr ⟨way, get⟩))

variable {m : Core σ Unit}

theorem silent_length {response : Response} (ok : (silent m s).1 = .ok response) : response.length = 0 := by
  rw [silent, bind_run] at ok
  rcases run : m s with ⟨code | u, s'⟩ <;> rw [run] at ok
  · cases ok
  · cases ok
    rfl

theorem Quiet.silent (quiet : Quiet m) : Quiet (silent m) := quiet.bind fun _ => .pure

theorem Routes.silent (routes : Routes m) : Routes (silent m) := routes.before fun _ _ => ⟨_, rfl⟩

theorem standardSetAddressProcess_cases (request : s.device.request.IsStandard reqSetAddress) :
    Dispatched s (silent standardSetAddressProcess s).2 (silent standardSetAddressProcess s).1 := by
  by_cases device : s.device.request.recipient = recipientDevice
  · have run : silent standardSetAddressProcess s =
        (.ok .empty, { s with device := { s.device with addressValue := lowByte s.device.request.wValue } }) := by
      rw [silent, standardSetAddressProcess, bind_run, read_bind, if_pos device]
      rfl
    rw [run]
    exact .address ⟨request, device⟩ rfl rfl rfl
  · have run : silent standardSetAddressProcess s = (.error .reqSetAddressInvalidReq, s) := by
      rw [silent, standardSetAddressProcess, bind_run, read_bind, if_neg device]
      rfl
    rw [run]
    exact .quiet (.refl s) fun ⟨_, ok⟩ => nomatch ok

theorem standardSetConfigurationProcess_cases (request : s.device.request.IsStandard reqSetConfiguration) :
    Dispatched s (silent standardSetConfigurationProcess s).2 (silent standardSetConfigurationProcess s).1 := by
  by_cases addressed : s.device.isAddressed = true
  · by_cases zero : lowByte s.device.request.wValue = 0
    · have run : silent standardSetConfigurationProcess s =
          (.ok .empty, { s with device := { s.device with isConfigured := false, configurationValue := 0 } }) := by
        rw [silent, standardSetConfigurationProcess, bind_run, read_bind, if_pos addressed, if_pos zero]
        rfl
      rw [run]
      refine .configuration request addressed (.inl zero) ?_ rfl rfl
      rw [zero]
      rfl
    · by_cases one : lowByte s.device.request.wValue = 1
      · have run : silent standardSetConfigurationProcess s =
            (.ok .empty, { s with device := { s.device with isConfigured := true, configurationValue := 1 } }) := by
          rw [silent, standardSetConfigurationProcess, bind_run, read_bind, if_pos addressed, if_neg zero, if_pos one]
          rfl
        rw [run]
        refine .configuration request addressed (.inr one) ?_ rfl rfl
        rw [one]
        rfl
      · have run : silent standardSetConfigurationProcess s = (.error .reqSetConfigNotSupported, s) := by
          rw [silent, standardSetConfigurationProcess, bind_run, read_bind, if_pos addressed, if_neg zero, if_neg one]
          rfl
        rw [run]
        exact .quiet (.refl s) fun ⟨_, ok⟩ => nomatch ok
  · have run : silent standardSetConfigurationProcess s = (.error .reqSetConfigNotAddressed, s) := by
      rw [silent, standardSetConfigurationProcess, bind_run, read_bind, if_neg addressed]
      rfl
    rw [run]
    exact .quiet (.refl s) fun ⟨_, ok⟩ => nomatch ok

theorem standardRequestProcess_cases (standard : s.device.request.type = reqTypeStandard) :
    Dispatched s (standardRequestProcess e s).2 (standardRequestProcess e s).1 := by
  rw [standardRequestProcess, read_bind]
  have other : ∀ {b : UInt8}, s.device.request.bRequest = b → b ≠ reqSetAddress → b ≠ reqSetConfiguration →
      b ≠ reqSetFeature → s.device.request.Unhooked := by
    intro b is notAddress notConfiguration notFeature
    exact ⟨fun h => notAddress (is.symm.trans h.2), fun h => notConfiguration (is.symm.trans h.2),
      fun h => notFeature (is.symm.trans h.2)⟩
  by_cases is : s.device.request.bRequest = reqGetStatus
  · rw [if_pos is]
    exact .of_routes standardGetStatusProcess_routes (fun _ _ => short_of_get (.inl ⟨standard, is⟩))
      (other is (by decide) (by decide) (by decide))
  rw [if_neg is]
  clear is
  by_cases is : s.device.request.bRequest = reqClearFeature
  · rw [if_pos is]
    exact .of_routes (.quiet standardClearFeatureProcess_quiet.silent)
      (fun _ ok => .inr (.inr (.inl (silent_length ok))))
      (other is (by decide) (by decide) (by decide))
  rw [if_neg is]
  clear is
  by_cases is : s.device.request.bRequest = reqSetFeature
  · rw [if_pos is]
    refine .quiet (standardSetFeatureProcess_quiet.silent s) fun _ => ⟨fun h => ?_, fun h => ?_⟩
    · exact absurd (is.symm.trans h.2) (by decide)
    · exact absurd (is.symm.trans h.2) (by decide)
  rw [if_neg is]
  clear is
  by_cases is : s.device.request.bRequest = reqSetAddress
  · rw [if_pos is]
    exact standardSetAddressProcess_cases ⟨standard, is⟩
  rw [if_neg is]
  clear is
  by_cases is : s.device.request.bRequest = reqGetDescriptor
  · rw [if_pos is]
    exact .of_routes standardGetDescriptorProcess_routes (fun _ _ => short_of_get (.inr (.inl ⟨standard, is⟩)))
      (other is (by decide) (by decide) (by decide))
  rw [if_neg is]
  clear is
  by_cases is : s.device.request.bRequest = reqSetDescriptor
  · rw [if_pos is]
    exact .quiet (.refl s) fun ⟨_, ok⟩ => nomatch ok
  rw [if_neg is]
  clear is
  by_cases is : s.device.request.bRequest = reqGetConfiguration
  · rw [if_pos is]
    have plain := other is (by decide) (by decide) (by decide)
    exact .quiet (standardGetConfigurationProcess_quiet s) fun _ => ⟨plain.address, plain.configuration⟩
  rw [if_neg is]
  clear is
  by_cases is : s.device.request.bRequest = reqSetConfiguration
  · rw [if_pos is]
    exact standardSetConfigurationProcess_cases ⟨standard, is⟩
  rw [if_neg is]
  clear is
  by_cases is : s.device.request.bRequest = reqGetInterface
  · rw [if_pos is]
    exact .of_routes standardGetInterfaceProcess_routes (fun _ _ => short_of_get (.inr (.inr ⟨standard, is⟩)))
      (other is (by decide) (by decide) (by decide))
  rw [if_neg is]
  clear is
  by_cases is : s.device.request.bRequest = reqSetInterface
  · rw [if_pos is]
    exact .of_routes standardSetInterfaceProcess_routes.silent (fun _ ok => .inr (.inr (.inl (silent_length ok))))
      (other is (by decide) (by decide) (by decide))
  rw [if_neg is]
  clear is
  by_cases is : s.device.request.bRequest = reqSynchFrame
  · rw [if_pos is]
    exact .quiet (.refl s) fun ⟨_, ok⟩ => nomatch ok
  rw [if_neg is]
  clear is
  by_cases is : s.device.request.bRequest = reqSetSel
  · rw [if_pos is]
    have plain := other is (by decide) (by decide) (by decide)
    exact .quiet (standardSetSelProcess_quiet s) fun _ => ⟨plain.address, plain.configuration⟩
  rw [if_neg is]
  clear is
  by_cases is : s.device.request.bRequest = reqSetIsochDelay
  · rw [if_pos is]
    have plain := other is (by decide) (by decide) (by decide)
    exact .quiet (standardSetIsochDelayProcess_quiet.silent s) fun _ => ⟨plain.address, plain.configuration⟩
  rw [if_neg is]
  clear is
  exact .quiet (.refl s) fun ⟨_, ok⟩ => nomatch ok

theorem setupRequestDispatch_cases (e : Env σ) (s : System σ) :
    Dispatched s (setupRequestDispatch e s).2 (setupRequestDispatch e s).1 := by
  rw [setupRequestDispatch, read_bind]
  by_cases standard : s.device.request.type = reqTypeStandard
  · rw [if_pos standard]
    exact standardRequestProcess_cases standard
  · have plain : s.device.request.Unhooked := ⟨fun h => standard h.1, fun h => standard h.1, fun h => standard h.1⟩
    rw [if_neg standard]
    split
    · by_cases isIn : s.device.request.isIn = true
      · rw [if_pos isIn]
        exact .of_routes classInRequestProcess_routes (fun _ _ => .inl isIn) plain
      · rw [if_neg isIn]
        by_cases data : 0 < s.device.request.wLength.toNat
        · rw [if_pos data]
          exact .quiet (.refl s) fun _ => ⟨plain.address, plain.configuration⟩
        · rw [if_neg data]
          exact .of_routes (classOutRequestProcess_routes []).silent
            (fun _ ok => .inr (.inr (.inl (silent_length ok)))) plain
    · exact .quiet (.refl s) fun ⟨_, ok⟩ => nomatch ok

/-! ### Stages -/

theorem ask_run (e : Env σ) (call : DcdCall) (s : System σ) :
    ask e call s = ((e.dcd call s.outside).1, { s with
      outside := (e.dcd call s.outside).2
      log := s.log ++ [.dcd call (e.dcd call s.outside).1] }) := rfl

variable (o : Outgoing) (result : Except Error Unit)

/-- A transfer on endpoint 0 that the controller driver was asked for, to the host or from it. -/
def Outgoing.Sends :
    Prop := ∃ ep data zlp, o = .dcd (.epSend ep data zlp) result
def Outgoing.Receives :
    Prop := ∃ ep length, o = .dcd (.epReceive ep length) result

def Outgoing.Stage : Prop := o.Sends result ∨ o.Receives result

def Outgoing.Refused : Prop := ∃ code, o.Stage (.error code)

theorem Outgoing.Stage.telling {o : Outgoing} {result : Except Error Unit} (stage : o.Stage result) :
    o.telling = true := by
  rcases stage with ⟨ep, data, zlp, rfl⟩ | ⟨ep, length, rfl⟩ <;> rfl

/-- How the stage after a request that was accepted begins, with the answers of the controller driver. -/
inductive Started (answers : DcdCall → Except Error Unit) (r : SetupRequest) (length : Nat) :
    ControlPhase → List Outgoing → Prop
  | dataIn {o : Outgoing} (isIn : r.isIn = true) (stage : o.Sends (.ok ())) : Started answers r length .dataIn [o]
  | dataOut {o : Outgoing} (isOut : r.isIn = false) (more : 0 < min r.wLength.toNat length)
      (stage : o.Receives (.ok ())) :
      Started answers r length .dataOut [o]
  | outStatus {o : Outgoing} (isOut : r.isIn = false) (stage : o.Sends (.ok ())) :
      Started answers r length .outStatus [o]
  | tooLong (isOut : r.isIn = false) (more : 0 < min r.wLength.toNat length) : Started answers r length .idle []
  | refused {call : DcdCall} {code : Error} (answer : answers call = .error code)
      (stage : (Outgoing.dcd call (.error code)).Stage (.error code)) (short : length = 0 → call = r.emptyStage) :
      Started answers r length .idle [.dcd call (.error code)]

theorem stage_run {call : DcdCall} {phase : ControlPhase} (s : System σ)
    (stage : ∀ result, (Outgoing.dcd call result).Stage result) :
    ∃ s', (onError (setPhase phase >>= fun _ => ask e call) (fun _ => setPhase .idle) s).2 = s' ∧
      ((s'.device.tracked = { s.device.tracked with requestPhase := phase } ∧
          signs s'.log = signs s.log ++ [.dcd call (.ok ())]) ∨
        ∃ code, (e.dcd call s.outside).1 = .error code ∧
          s'.device.tracked = { s.device.tracked with requestPhase := .idle } ∧
          signs s'.log = signs s.log ++ [.dcd call (.error code)]) := by
  have tells : ∀ result, signs [.dcd call result] = [.dcd call result] := fun result =>
    List.filter_cons_of_pos (stage result).telling
  rcases result : (e.dcd call s.outside).1 with code | u
  · have run : (setPhase phase >>= fun _ => ask e call) s = (.error code, {
        device := { s.device with requestPhase := phase }
        outside := (e.dcd call s.outside).2
        log := s.log ++ [.dcd call (.error code)] }) := by
      rw [← result]
      rfl
    refine ⟨_, congrArg Prod.snd (onError_error _ run), .inr ⟨code, rfl, rfl, ?_⟩⟩
    show signs (s.log ++ [.dcd call (.error code)]) = _
    rw [signs_append, tells]
  · have run : (setPhase phase >>= fun _ => ask e call) s = (.ok u, {
        device := { s.device with requestPhase := phase }
        outside := (e.dcd call s.outside).2
        log := s.log ++ [.dcd call (.ok u)] }) := by
      rw [← result]
      rfl
    refine ⟨_, congrArg Prod.snd (onError_ok _ run), .inl ⟨rfl, ?_⟩⟩
    show signs (s.log ++ [.dcd call (.ok u)]) = _
    rw [signs_append, tells]

theorem ep0Stall_quiet : Quiet (ep0Stall e) := .ask fun _ => rfl

theorem setupDataStageStart_cases (e : Env σ) (response : Response) (s : System σ) :
    ∃ s', (onError (setupDataStageStart e response) (fun _ => setPhase .idle) s).2 = s' ∧
      ∃ phase opened, Started (fun call => (e.dcd call s.outside).1) s.device.request response.length phase opened ∧
        s'.device.tracked = { s.device.tracked with requestPhase := phase } ∧ signs s'.log = signs s.log ++ opened := by
  have branch : ∀ {m : Core σ Unit}, setupDataStageStart e response s = m s →
      (onError (setupDataStageStart e response) (fun _ => setPhase .idle) s).2 =
        (onError m (fun _ => (setPhase .idle : Core σ Unit)) s).2 := fun same =>
    congrArg Prod.snd (onError_congr _ same)
  -- what a stage that was tried gives, with the phase it would begin
  have tried : ∀ {call : DcdCall} {phase : ControlPhase}, (∀ result, (Outgoing.dcd call result).Stage result) →
      Started (fun call => (e.dcd call s.outside).1) s.device.request response.length phase [.dcd call (.ok ())] →
      setupDataStageStart e response s = (setPhase phase >>= fun _ => ask e call : Core σ Unit) s →
      (response.length = 0 → call = s.device.request.emptyStage) →
      ∃ s', (onError (setupDataStageStart e response) (fun _ => setPhase .idle) s).2 = s' ∧
        ∃ phase opened, Started (fun call => (e.dcd call s.outside).1) s.device.request response.length phase opened ∧
          s'.device.tracked = { s.device.tracked with requestPhase := phase } ∧
          signs s'.log = signs s.log ++ opened := by
    intro call phase stage started same short
    obtain ⟨s', run, ends⟩ := stage_run s stage
    refine ⟨s', (branch same).trans run, ?_⟩
    rcases ends with ⟨tracked, signs⟩ | ⟨code, answer, tracked, signs⟩
    · exact ⟨phase, _, started, tracked, signs⟩
    · exact ⟨.idle, _, .refused answer (stage _) short, tracked, signs⟩
  by_cases isIn : s.device.request.isIn = true
  · apply tried (fun result => .inl ⟨_, _, _, rfl⟩) (.dataIn isIn ⟨_, _, _, rfl⟩)
    · rw [setupDataStageStart, read_bind]
      exact congrFun (if_pos isIn) s
    · intro empty
      simp [SetupRequest.emptyStage, empty, isIn]
  have isOut : s.device.request.isIn = false := Bool.eq_false_iff.mpr isIn
  by_cases long : maxEp0DataSize < min s.device.request.wLength.toNat response.length
  · have same : setupDataStageStart e response s = (setPhase .idle >>= fun _ => ep0Stall e : Core σ Unit) s := by
      rw [setupDataStageStart, read_bind]
      exact congrFun ((if_neg isIn).trans (if_pos long)) s
    have quiet := ep0Stall_quiet (e := e) (setPhase .idle s).2
    rcases run : ep0Stall e (setPhase .idle s).2 with ⟨code | u, s'⟩ <;> rw [run] at quiet
    · refine ⟨_, (branch same).trans (congrArg Prod.snd (onError_error _ run)), .idle, [], .tooLong isOut (by omega), ?_, ?_⟩
      · exact congrArg (fun t : Tracked => { t with requestPhase := .idle }) quiet.tracked
      · exact quiet.signs.trans (List.append_nil _).symm
    · refine ⟨_, (branch same).trans (congrArg Prod.snd (onError_ok _ run)), .idle, [], .tooLong isOut (by omega), ?_, ?_⟩
      · exact quiet.tracked
      · exact quiet.signs.trans (List.append_nil _).symm
  by_cases more : 0 < min s.device.request.wLength.toNat response.length
  · apply tried (fun result => .inr ⟨_, _, rfl⟩) (.dataOut isOut more ⟨_, _, rfl⟩)
    · rw [setupDataStageStart, read_bind]
      exact congrFun ((if_neg isIn).trans ((if_neg long).trans (if_pos more))) s
    · intro empty
      omega
  · apply tried (fun result => .inl ⟨_, _, _, rfl⟩) (.outStatus isOut ⟨_, _, _, rfl⟩)
    · rw [setupDataStageStart, read_bind]
      exact congrFun ((if_neg isIn).trans ((if_neg long).trans (if_neg more))) s
    · intro _
      rw [SetupRequest.emptyStage, isOut]
      rfl

theorem Dispatched.request {result : Except Error Response} (dispatched : Dispatched s s' result) :
    s'.device.request = s.device.request := by
  have field : s'.device.tracked.request = s.device.tracked.request := by
    cases dispatched with
    | quiet same _ => rw [same.tracked]
    | handled handled _ _ => rw [handled.tracked]
    | address _ tracked _ _ => rw [tracked]
    | configuration _ _ _ tracked _ _ => rw [tracked]
  exact field

theorem ep0SetupProcess_cases (e : Env σ) (s : System σ) :
    ∃ s', (ep0SetupProcess e s).2 = s' ∧ ∃ mid : System σ,
      ((∃ code, Dispatched s mid (.error code)) ∧ s'.device.tracked = { mid.device.tracked with requestPhase := .idle } ∧
          signs s'.log = signs mid.log) ∨
        ∃ response phase opened, Dispatched s mid (.ok response) ∧
          Started (fun call => (e.dcd call mid.outside).1) s.device.request response.length phase opened ∧
          s'.device.tracked = { mid.device.tracked with requestPhase := phase } ∧
          signs s'.log = signs mid.log ++ opened := by
  have dispatched := setupRequestDispatch_cases e s
  rcases run : setupRequestDispatch e s with ⟨code | response, mid⟩ <;> rw [run] at dispatched
  · have quiet : Quiet (ep0Stall e >>= fun _ => fail code : Core σ Unit) := ep0Stall_quiet.bind fun _ => .fail
    have same := quiet (setPhase .idle mid).2
    refine ⟨_, rfl, mid, .inl ⟨⟨code, dispatched⟩, ?_⟩⟩
    rw [ep0SetupProcess, attempt_bind, run]
    exact ⟨same.tracked, same.signs⟩
  · obtain ⟨s', ran, phase, opened, started, tracked, signs⟩ := setupDataStageStart_cases e response mid
    rw [dispatched.request] at started
    refine ⟨s', ?_, mid, .inr ⟨response, phase, opened, dispatched, started, tracked, signs⟩⟩
    rw [ep0SetupProcess, attempt_bind, run]
    exact ran

/-! ### Completion -/

inductive Hooked (s s' : System σ) : Except Error Unit → Prop
  | none (same : SameSigns s s')
      (plain : ¬(s.device.request.recipient = recipientDevice ∧ s.device.request.bRequest = reqSetConfiguration)) :
      Hooked s s' (.ok ())
  | testMode {result : Except Error Unit} (request : s.device.request.recipient = recipientDevice)
      (feature : s.device.request.bRequest = reqSetFeature ∧ lowByte s.device.request.wValue = 0)
      (tracked : s'.device.tracked = s.device.tracked)
      (signs : signs s'.log = signs s.log ++ [.dcd (.setTestMode (highByte s.device.request.wIndex)) result]) :
      Hooked s s' result
  | address {result : Except Error Unit} {isAddressed : Bool} (request : s.device.request.recipient = recipientDevice)
      (address : s.device.request.bRequest = reqSetAddress)
      (tracked : s'.device.tracked = { s.device.tracked with isAddressed := isAddressed })
      (signs : signs s'.log = signs s.log ++ [.dcd (.setAddress s.device.addressValue) result]) : Hooked s s' result
  | configuration (request : s.device.request.recipient = recipientDevice)
      (configuration : s.device.request.bRequest = reqSetConfiguration)
      (tracked : s'.device.tracked = { s.device.tracked with
        lifecycleState := if s.device.isConfigured then .configured else .started })
      (signs : signs s'.log = signs s.log) : Hooked s s' (.ok ())

theorem statusPhaseCompleteProcess_cases (e : Env σ) (s : System σ) :
    Hooked s (statusPhaseCompleteProcess e s).2 (statusPhaseCompleteProcess e s).1 := by
  rw [statusPhaseCompleteProcess, read_bind, onlyIf]
  by_cases device : s.device.request.recipient = recipientDevice
  · rw [if_pos device]
    by_cases feature : s.device.request.bRequest = reqSetFeature
    · rw [if_pos feature, statusSetFeatureCompleteProcess, read_bind, onlyIf]
      by_cases selector : lowByte s.device.request.wValue = 0
      · rw [if_pos selector]
        exact .testMode device ⟨feature, selector⟩ rfl (signs_append _ _)
      · rw [if_neg selector]
        refine .none (.refl s) fun both => ?_
        rw [feature] at both
        exact absurd both.2 (by decide)
    · rw [if_neg feature]
      by_cases address : s.device.request.bRequest = reqSetAddress
      · rw [if_pos address, statusSetAddressCompleteProcess, read_bind, bind_run, ask_run]
        rcases (e.dcd (.setAddress s.device.addressValue) s.outside).1 with code | u
        · exact .address device address rfl (signs_append _ _)
        · exact .address device address rfl (signs_append _ _)
      · rw [if_neg address]
        by_cases configuration : s.device.request.bRequest = reqSetConfiguration
        · rw [if_pos configuration]
          exact .configuration device configuration rfl rfl
        · rw [if_neg configuration]
          exact .none (.refl s) fun both => configuration both.2
  · rw [if_neg device]
    exact .none (.refl s) fun both => device both.1

def told (e : Env σ) (remembered : Option ClassRef) : List Outgoing :=
  (remembered.toList.filter fun c => (e.transferComplete c).isSome).map .complete

theorem classControlTransferCompleteProcess_run (e : Env σ) (s : System σ) :
    (classControlTransferCompleteProcess e s).2.device.tracked = { s.device.tracked with controlRequestClass := none } ∧
      signs (classControlTransferCompleteProcess e s).2.log = signs s.log ++ told e s.device.controlRequestClass := by
  rw [classControlTransferCompleteProcess, read_bind]
  rcases remembered : s.device.controlRequestClass with _ | c
  · refine ⟨rfl, ?_⟩
    exact (List.append_nil _).symm
  · simp only [onDevice, modify_bind]
    rcases callback : e.transferComplete c with _ | call
    · refine ⟨rfl, ?_⟩
      have none : told e (some c) = [] := by
        simp [told, callback]
      rw [none, List.append_nil]
      rfl
    · refine ⟨rfl, ?_⟩
      have one : told e (some c) = [.complete c] := by
        simp [told, callback]
      rw [one]
      exact signs_append _ _

/-- The data has been handed on, and the status stage has begun or the transfer is over. -/
def DataTaken (s s' : System σ) : Prop :=
  ∃ mid : System σ,
    (SameSigns s mid ∨ ∃ c, Handled s mid c ∧ s.device.request.type ≠ reqTypeStandard) ∧
    ((s'.device.tracked = { mid.device.tracked with requestPhase := .idle } ∧ ∃ refused : List Outgoing,
        (∀ o ∈ refused, o.Refused) ∧ signs s'.log = signs mid.log ++ refused) ∨
      ∃ o : Outgoing, o.Sends (.ok ()) ∧ s'.device.tracked = { mid.device.tracked with requestPhase := .outStatus } ∧
        signs s'.log = signs mid.log ++ [o])

theorem outDataProcessed_cases (e : Env σ) (s : System σ) (routes : Routes m)
    (quiet : s.device.request.type = reqTypeStandard → Quiet m) :
    ∃ s', ((attempt m >>= fun result => match result with
      | .ok () => setPhase .outStatus >>= fun _ => onError (ask e (.epSend 0x80 [] false)) fun _ => setPhase .idle
      | .error code => setPhase .idle >>= fun _ => ep0Stall e >>= fun _ => fail code : Core σ Unit) s).2 =
          s' ∧ DataTaken s s' := by
  rw [attempt_bind]
  have routed := routes s
  have silent : s.device.request.type = reqTypeStandard → SameSigns s (m s).2 := fun standard => quiet standard s
  rcases run : m s with ⟨code | u, mid⟩ <;> rw [run] at routed silent
  · have stalls : Quiet (ep0Stall e >>= fun _ => fail code : Core σ Unit) := ep0Stall_quiet.bind fun _ => .fail
    have same := stalls (setPhase .idle mid).2
    refine ⟨_, rfl, mid, ?_, .inl ⟨same.tracked, [], fun _ none => absurd none List.not_mem_nil, ?_⟩⟩
    · rcases routed with same | ⟨c, a, bad, -⟩
      · exact .inl same
      · cases bad
    · rw [List.append_nil]
      exact same.signs
  · have reached : SameSigns s mid ∨ ∃ c, Handled s mid c ∧ s.device.request.type ≠ reqTypeStandard := by
      rcases routed with same | ⟨c, a, -, handled⟩
      · exact .inl same
      · by_cases standard : s.device.request.type = reqTypeStandard
        · exact .inl (silent standard)
        · exact .inr ⟨c, handled, standard⟩
    obtain ⟨s', staged, ends⟩ := @stage_run σ e (.epSend 0x80 [] false) .outStatus mid fun _ => .inl ⟨_, _, _, rfl⟩
    refine ⟨s', staged, mid, reached, ?_⟩
    rcases ends with ⟨tracked, signs⟩ | ⟨code, -, tracked, signs⟩
    · exact .inr ⟨_, ⟨_, _, _, rfl⟩, tracked, signs⟩
    · refine .inl ⟨tracked, _, fun o one => ?_, signs⟩
      rw [List.mem_singleton.mp one]
      exact ⟨code, .inl ⟨_, _, _, rfl⟩⟩

theorem ep0OutDataReceivedProcess_cases (e : Env σ) (data : Bytes) (s : System σ) :
    ∃ s', (ep0OutDataReceivedProcess e data s).2 = s' ∧ DataTaken s s' := by
  rw [ep0OutDataReceivedProcess, read_bind]
  by_cases standard : s.device.request.type = reqTypeStandard
  · rw [if_pos standard]
    exact outDataProcessed_cases e s (.quiet (standardOutDataProcess_quiet data)) fun _ =>
      standardOutDataProcess_quiet data
  · rw [if_neg standard]
    exact outDataProcessed_cases e s (classOutRequestProcess_routes data) fun is => absurd is standard

end XSDK.Usbd
