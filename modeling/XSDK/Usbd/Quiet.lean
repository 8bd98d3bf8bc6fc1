import XSDK.Usbd.Control

/-! What the pieces of a control transfer leave alone: the transfer's own record, the address and
the configuration, and the calls by which the law of control transfers tells a step. -/
namespace XSDK.Usbd

open Library Library.Call

/-- The transfer's record, the address and the configuration. -/
structure Tracked where
  request : SetupRequest
  requestPhase : ControlPhase
  controlRequestClass : Option ClassRef
  lifecycleState : LifecycleState
  configurationValue : UInt8
  addressValue : UInt8
  isConfigured : Bool
  isAddressed : Bool

def Device.tracked (d : Device) : Tracked :=
  ⟨d.request, d.requestPhase, d.controlRequestClass, d.lifecycleState, d.configurationValue, d.addressValue, d.isConfigured,
    d.isAddressed⟩

/-- The calls that a stage of a transfer, or its completion, is told by. -/
def Outgoing.telling : Outgoing → Bool
  | .dcd (.epSend _ _ _) _ => true
  | .dcd (.epReceive _ _) _ => true
  | .dcd (.setAddress _) _ => true
  | .dcd (.setTestMode _) _ => true
  | .dcd _ _ => false
  | .handled _ => true
  | .complete _ => true

def signs (log : List Outgoing) : List Outgoing := log.filter Outgoing.telling

theorem signs_append (log more : List Outgoing) :
    signs (log ++ more) = signs log ++ signs more := List.filter_append _ _

variable {σ α β : Type} {s : System σ} {e : Env σ}

structure SameSigns (s s' : System σ) : Prop where
  tracked : s'.device.tracked = s.device.tracked
  signs : signs s'.log = signs s.log

theorem SameSigns.refl (s : System σ) : SameSigns s s := ⟨rfl, rfl⟩

theorem SameSigns.trans {s s' s'' : System σ} (h : SameSigns s s') (h' : SameSigns s' s'') : SameSigns s s'' :=
  ⟨h'.tracked.trans h.tracked, h'.signs.trans h.signs⟩

def Quiet (m : Core σ α) : Prop := ∀ s, SameSigns s (m s).2

namespace Quiet

variable {m : Core σ α}

theorem pure {a : α} : Quiet (pure a : Core σ α) := fun s => .refl s
theorem fail {code : Error} : Quiet (fail code : Core σ α) := fun s => .refl s
theorem finish {r : Except Error α} : Quiet (finish r : Core σ α) := fun s => .refl s
theorem read {f : System σ → α} : Quiet (read f : Core σ α) := fun s => .refl s

theorem outside {m : Call σ Error α} : Quiet (outside m : Core σ α) := fun _ => ⟨rfl, rfl⟩

theorem onDevice {f : Device → Device} (same : ∀ d, (f d).tracked = d.tracked) : Quiet (onDevice f : Core σ Unit) :=
  fun s => ⟨same s.device, rfl⟩

theorem bind {f : α → Core σ β} (first : Quiet m) (rest : ∀ a, Quiet (f a)) : Quiet (m >>= f) := by
  intro s
  have h := first s
  rw [bind_run]
  rcases run : m s with ⟨code | a, s'⟩
  · rw [run] at h
    exact h
  · rw [run] at h
    exact h.trans (rest a s')

theorem ite {c : Prop} [Decidable c] {m' : Core σ α} (pos : c → Quiet m) (neg : ¬c → Quiet m') :
    Quiet (if c then m else m') := by
  split
  · next h => exact pos h
  · next h => exact neg h

theorem reject {c : Prop} [Decidable c] {code : Error} : Quiet (reject c code : Core σ Unit) :=
  ite (fun _ => fail) fun _ => pure

theorem onlyIf {c : Prop} [Decidable c] {m : Core σ Unit} (h : Quiet m) :
    Quiet (onlyIf c m) := ite (fun _ => h) fun _ => pure

theorem attempt (h : Quiet m) : Quiet (attempt m) := fun s => h s

theorem ask {call : DcdCall} (silent : ∀ result, (Outgoing.dcd call result).telling = false) : Quiet (ask e call) := by
  apply (attempt outside).bind
  intro result
  apply Quiet.bind _ fun _ => finish
  intro s
  refine ⟨rfl, ?_⟩
  show signs (s.log ++ [.dcd call result]) = signs s.log
  have none : signs [.dcd call result] = [] := List.filter_cons_of_neg (by rw [silent]; decide)
  rw [signs_append, none, List.append_nil]

end Quiet

/-! ### Descriptors -/

theorem buildClassDescriptors_quiet (speed : Speed) (classes : List ClassRef) (built : Bytes) :
    Quiet (buildClassDescriptors e speed classes built) := by
  induction classes generalizing built with
  | nil => exact .pure
  | cons c rest ih => exact Quiet.outside.bind fun written => Quiet.reject.bind fun _ => ih _

theorem buildConfigDescriptor_quiet (type : UInt8) (speed : Speed) : Quiet (buildConfigDescriptor e type speed) :=
  (buildClassDescriptors_quiet speed _ _).bind fun _ => .onDevice fun _ => rfl

theorem deviceBuildDescriptors_quiet (speed : Speed) : Quiet (deviceBuildDescriptors e speed) := by
  apply (buildConfigDescriptor_quiet _ speed).bind
  intro _
  exact Quiet.read.bind fun _ => .onlyIf (.onDevice fun _ => rfl)

theorem classBusEventProcess_quiet (event : BusEvent) : Quiet (classBusEventProcess e event) :=
  Quiet.read.bind fun _ => (Quiet.onlyIf (deviceBuildDescriptors_quiet _)).bind fun _ => .outside

/-! ### Class requests -/

/-- The class accepts the request, as the only thing that happens. -/
structure Handled (s s' : System σ) (c : ClassRef) : Prop where
  tracked : s'.device.tracked = { s.device.tracked with controlRequestClass := some c }
  signs : signs s'.log = signs s.log ++ [.handled c]

def Routes (m : Core σ α) : Prop := ∀ s, SameSigns s (m s).2 ∨ ∃ c a, (m s).1 = .ok a ∧ Handled s (m s).2 c

theorem Handled.after {s s' s'' : System σ} {c : ClassRef} (same : SameSigns s s')
    (handled : Handled s' s'' c) : Handled s s'' c := by
  refine ⟨?_, ?_⟩
  · rw [handled.tracked, same.tracked]
  · rw [handled.signs, same.signs]

namespace Routes

variable {m : Core σ α}

theorem quiet (h : Quiet m) : Routes m := fun s => .inl (h s)

theorem after {f : α → Core σ β} (first : Quiet m) (rest : ∀ a, Routes (f a)) : Routes (m >>= f) := by
  intro s
  have same := first s
  rw [bind_run]
  rcases run : m s with ⟨code | a, s'⟩
  · rw [run] at same
    exact .inl same
  · rw [run] at same
    rcases rest a s' with same' | ⟨c, b, ok, handled⟩
    · exact .inl (same.trans same')
    · exact .inr ⟨c, b, ok, handled.after same⟩

theorem before {f : α → Core σ β} (first : Routes m) (rest : ∀ a s, ∃ b, f a s = (.ok b, s)) : Routes (m >>= f) := by
  intro s
  have routed := first s
  rw [bind_run]
  rcases run : m s with ⟨code | a, s'⟩ <;> rw [run] at routed
  · rcases routed with same | ⟨c, b, ok, -⟩
    · exact .inl same
    · cases ok
  · obtain ⟨b, ends⟩ := rest a s'
    simp only [ends]
    rcases routed with same | ⟨c, b, -, handled⟩
    · exact .inl same
    · exact .inr ⟨c, _, rfl, handled⟩

theorem orElse {f : Except Error α → Core σ β} (first : Routes m) (ok : ∀ a s, ∃ b, f (.ok a) s = (.ok b, s))
    (error : ∀ code, Quiet (f (.error code))) : Routes (attempt m >>= f) := by
  intro s
  have routed := first s
  rw [attempt_bind]
  rcases run : m s with ⟨code | a, s'⟩ <;> rw [run] at routed
  · rcases routed with same | ⟨c, b, bad, -⟩
    · exact .inl (same.trans (error code s'))
    · cases bad
  · obtain ⟨b, ends⟩ := ok a s'
    simp only [ends]
    rcases routed with same | ⟨c, b, -, handled⟩
    · exact .inl same
    · exact .inr ⟨c, _, rfl, handled⟩

theorem ite {c : Prop} [Decidable c] {m' : Core σ α} (pos : c → Routes m) (neg : ¬c → Routes m') :
    Routes (if c then m else m') := by
  split
  · next h => exact pos h
  · next h => exact neg h

end Routes

theorem accepted_handled (c : ClassRef) (a : α) (s : System σ) :
    ((accepted c >>= fun _ => pure a : Core σ α) s).1 = .ok a ∧
    Handled s ((accepted c >>= fun _ => pure a : Core σ α) s).2 c :=
  ⟨rfl, rfl, signs_append _ _⟩

theorem broadcast_routes {callback : ClassRef → Option (Call σ Error α)} (classes : List ClassRef) :
    Routes (broadcast callback classes) := by
  induction classes with
  | nil => exact .quiet .fail
  | cons c rest ih =>
    rw [broadcast]
    split
    · exact ih
    · apply Routes.after (Quiet.attempt .outside)
      intro result
      cases result with
      | error code => exact ih
      | ok a => exact fun s => .inr ⟨c, a, accepted_handled c a s⟩

theorem classRequestProcess_routes (r : SetupRequest) (callback : ClassRef → Option (Call σ Error α)) :
    Routes (classRequestProcess e r callback) := by
  rw [classRequestProcess]
  split
  · next c found =>
    split
    · exact .quiet .fail
    · apply Routes.after Quiet.outside
      exact fun a s => .inr ⟨c, a, accepted_handled c a s⟩
  · exact .ite (fun _ => broadcast_routes _) fun _ => .quiet .fail

theorem classInRequestProcess_routes : Routes (classInRequestProcess e) := by
  apply Routes.after Quiet.read
  intro d
  exact .ite (fun _ => .quiet .pure) fun _ => classRequestProcess_routes _ _

theorem classOutRequestProcess_routes (data : Bytes) : Routes (classOutRequestProcess e data) :=
  Routes.after Quiet.read fun _ => classRequestProcess_routes _ _

/-! ### Standard requests -/

theorem standardGetStringDescriptorProcess_quiet : Quiet (standardGetStringDescriptorProcess e) := by
  apply Quiet.read.bind
  intro d
  apply Quiet.ite fun _ => .pure
  intro _
  refine Quiet.bind ?_ fun _ => .pure
  refine .ite (fun _ => .pure) fun _ => .ite (fun _ => .pure) fun _ => .ite (fun _ => .pure) fun _ =>
    .ite (fun _ => .pure) fun _ => ?_
  apply Quiet.outside.bind
  rintro (_ | string)
  · exact .fail
  · exact .pure

theorem configResponse_quiet : Quiet (configResponse : Core σ Response) := Quiet.read.bind fun _ => .pure

theorem standardGetDescriptorProcess_routes : Routes (standardGetDescriptorProcess e) := by
  apply Routes.after Quiet.read
  intro d
  refine .ite (fun _ => .quiet .pure) fun _ => .ite (fun _ => .quiet ?_) fun _ => .ite (fun _ => .quiet ?_) fun _ =>
    .ite (fun _ => .quiet standardGetStringDescriptorProcess_quiet) fun _ => .ite (fun _ => .quiet ?_) fun _ =>
    .ite (fun _ => .quiet .fail) fun _ => .ite (fun _ => .quiet ?_) fun _ => classInRequestProcess_routes
  · exact (buildConfigDescriptor_quiet _ _).bind fun _ => configResponse_quiet
  · exact .ite (fun _ => (buildConfigDescriptor_quiet _ _).bind fun _ => configResponse_quiet) fun _ => .fail
  · exact .ite (fun _ => .fail) fun _ => .pure
  · exact .ite (fun _ => .pure) fun _ => .fail

theorem standardGetStatusProcess_routes : Routes (standardGetStatusProcess e) := by
  apply Routes.after Quiet.read
  intro d
  refine .ite (fun _ => .quiet .pure) fun _ => .ite (fun _ => classInRequestProcess_routes) fun _ =>
    .ite (fun _ => .quiet ?_) fun _ => .quiet .fail
  exact Quiet.outside.bind fun _ => .pure

theorem standardClearFeatureProcess_quiet : Quiet (standardClearFeatureProcess e) := by
  apply Quiet.read.bind
  intro r
  refine .ite (fun _ => .ite (fun _ => .ask fun _ => rfl) fun _ => .fail) fun _ =>
    .ite (fun _ => .ite (fun _ => ?_) fun _ => .ite (fun _ => .pure) fun _ => .fail) fun _ => .fail
  exact (Quiet.ask fun _ => rfl).bind fun _ => .onDevice fun _ => rfl

theorem standardSetFeatureProcess_quiet : Quiet (standardSetFeatureProcess e) := by
  apply Quiet.read.bind
  intro r
  refine .ite (fun _ => .ite (fun _ => .ask fun _ => rfl) fun _ => .fail) fun _ =>
    .ite (fun _ => .ite (fun _ => ?_) fun _ => .ite (fun _ => .pure) fun _ => .fail) fun _ => .fail
  exact (Quiet.ask fun _ => rfl).bind fun _ => .onDevice fun _ => rfl

theorem standardGetConfigurationProcess_quiet : Quiet (standardGetConfigurationProcess : Core σ Response) :=
  Quiet.read.bind fun _ => .ite (fun _ => .pure) fun _ => .ite (fun _ => .pure) fun _ => .fail

theorem standardGetInterfaceProcess_routes : Routes (standardGetInterfaceProcess e) := by
  apply Routes.after Quiet.read
  intro r
  refine .ite (fun _ => ?_) fun _ => .quiet .fail
  apply classInRequestProcess_routes.orElse
  · exact fun a s => ⟨a, rfl⟩
  · exact fun code => .ite (fun _ => .pure) fun _ => .fail

theorem standardSetInterfaceProcess_routes : Routes (standardSetInterfaceProcess e) := by
  apply Routes.after Quiet.read
  intro r
  refine .ite (fun _ => ?_) fun _ => .quiet .fail
  apply Routes.after Quiet.outside
  intro data
  apply (classOutRequestProcess_routes data).orElse
  · exact fun a s => ⟨(), rfl⟩
  · exact fun code => .ite (fun _ => .pure) fun _ => .fail

theorem standardSetSelProcess_quiet : Quiet (standardSetSelProcess : Core σ Response) :=
  Quiet.read.bind fun _ => .ite (fun _ => .pure) fun _ => .fail

theorem standardSetIsochDelayProcess_quiet : Quiet (standardSetIsochDelayProcess : Core σ Unit) :=
  Quiet.read.bind fun _ => .ite (fun _ => .onDevice fun _ => rfl) fun _ => .fail

theorem standardOutDataProcess_quiet (data : Bytes) : Quiet (standardOutDataProcess data : Core σ Unit) :=
  Quiet.read.bind fun _ => .ite (fun _ => .onDevice fun _ => rfl) fun _ => .fail

end XSDK.Usbd
