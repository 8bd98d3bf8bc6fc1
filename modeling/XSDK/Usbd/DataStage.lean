import XSDK.Usbd.ControlData
import XSDK.Usbd.ControlLaw

/-! What the host reads in a data stage: bytes that are there, no more than it asked for, and
a string as its descriptor, unless it is too long for a byte of length. -/
namespace XSDK.Usbd.Ep0

open Library Library.Call Library.Stores

variable {σ : Type}

/-! ### Where the bytes of a response lie -/

/-- What the callers of a control transfer promise: the device's descriptors are as long as they
say, and a class names as many bytes as its object has. -/
structure Promised (e : Env σ) : Prop where
  device : (e.deviceDescriptor.headD 0).toNat ≤ e.deviceDescriptor.length
  qualifier : (e.deviceQualifierDescriptor.headD 0).toNat ≤ e.deviceQualifierDescriptor.length
  classes : ∀ c callback r o response, e.controlIn c = some callback → (callback r o).1 = .ok response →
    response.length ≤ response.data.length

/-- So many bytes can be read there: the request has written them, or the object has them. -/
def Reply.Covers (reply : Reply) (b : Stores) (n : Nat) : Prop :=
  match reply.source with
  | .none => n = 0
  | .control => ∀ j < n, j ∈ b.written
  | .object bytes => n ≤ bytes.length

section Sizes

variable {e : Env σ} {x : Buffered σ} {s : System σ}

def Backed (m : Core σ Response) : Prop := ∀ s response, (m s).1 = .ok response →
  response.length ≤ response.data.length

namespace Backed

variable {m m₂ : Core σ Response}

theorem fail {code : Error} : Backed (fail code : Core σ Response) := fun _ _ ok => nomatch ok

theorem pure {response : Response} (le : response.length ≤ response.data.length) :
    Backed (pure response : Core σ Response) := by
  intro s response' ok
  cases ok
  exact le

theorem bind {α : Type} {first : Core σ α} {f : α → Core σ Response} (rest : ∀ a, Backed (f a)) :
    Backed (first >>= f) := by
  intro s response ok
  rw [bind_run] at ok
  rcases run : first s with ⟨code | a, s'⟩ <;> rw [run] at ok
  · cases ok
  · exact rest a s' response ok

theorem ite {c : Prop} [Decidable c] (pos : c → Backed m) (neg : ¬c → Backed m₂) : Backed (if c then m else m₂) := by
  split
  · next h => exact pos h
  · next h => exact neg h

theorem answer {callback : Call σ Error Response} {f : Response → Core σ Response}
    (backed : ∀ o response, (callback o).1 = .ok response → response.length ≤ response.data.length)
    (same : ∀ response s response', (f response s).1 = .ok response' → response' = response) :
    Backed (outside callback >>= f) := by
  intro s response ok
  rw [bind_run, outside, zoom] at ok
  rcases run : callback s.outside with ⟨code | a, o⟩ <;> rw [run] at ok
  · cases ok
  · rw [same _ _ _ ok]
    exact backed s.outside a (by rw [run])

end Backed

theorem broadcast_backed {callback : ClassRef → Option (Call σ Error Response)}
    (backed : ∀ c m o response, callback c = some m → (m o).1 = .ok response → response.length ≤ response.data.length)
    (classes : List ClassRef) : Backed (broadcast callback classes) := by
  induction classes with
  | nil => exact .fail
  | cons c rest ih =>
    rw [broadcast]
    split
    · exact ih
    · next m found =>
      intro s response ok
      rw [attempt_bind, outside, zoom] at ok
      rcases run : m s.outside with ⟨code | a, o⟩ <;> rw [run] at ok
      · exact ih _ response ok
      · cases ok
        exact backed c m s.outside response found (by rw [run])

theorem classInRequestProcess_backed (promised : Promised e) : Backed (classInRequestProcess e) := by
  refine .bind fun d => .ite (fun _ => .pure (Nat.min_le_right _ _)) fun _ => ?_
  have answers : ∀ c m o response, (e.controlIn c).map (fun callback => callback d.request) = some m →
      (m o).1 = .ok response → response.length ≤ response.data.length := by
    intro c m o response found ok
    obtain ⟨callback, named, rfl⟩ := Option.map_eq_some_iff.mp found
    exact promised.classes c callback d.request o response named ok
  rw [classRequestProcess]
  split
  · split
    · exact .fail
    · next m found =>
      refine .answer (fun o response ok => answers _ m o response found ok) fun response s response' ok => ?_
      cases ok
      rfl
  · exact .ite (fun _ => broadcast_backed answers _) fun _ => .fail

theorem configResponse_backed : Backed (configResponse : Core σ Response) :=
  .bind fun _ => .pure (Nat.min_le_right _ _)

theorem stringDescriptor_backed (string : Text) :
    ((Usbd.stringToStringDescriptor string).headD 0).toNat ≤ (Usbd.stringToStringDescriptor string).length := by
  have pairs (l : Text) : (l.flatMap fun c => [c, (0 : UInt8)]).length = 2 * l.length := by
    induction l with
    | nil => rfl
    | cons c rest ih =>
      simp only [List.flatMap_cons, List.length_append, ih, List.length_cons, List.length_nil]
      omega
  have head := Nat.mod_le (2 + 2 * min (string.length % 256) ((maxEp0DataSize - 2) / 2)) 256
  have mod := Nat.mod_le string.length 256
  simp only [Usbd.stringToStringDescriptor, List.cons_append, List.nil_append, List.headD_cons, List.length_cons,
    pairs, List.length_take, UInt8.toNat_ofNat']
  omega

theorem standardGetStringDescriptorProcess_backed : Backed (Usbd.standardGetStringDescriptorProcess e) :=
  .bind fun _ => .ite (fun _ => .pure (Nat.min_le_right _ _)) fun _ => .bind fun string =>
    .pure (Nat.le_trans (Nat.min_le_right _ _) (stringDescriptor_backed string))

theorem standardGetDescriptorProcess_backed (promised : Promised e) :
    Backed (Usbd.standardGetDescriptorProcess e) := by
  refine .bind fun d => .ite (fun _ => .pure ?_) fun _ => .ite (fun _ => ?_)
    fun _ => .ite (fun _ => .ite (fun _ => ?_)
    fun _ => .fail) fun _ => .ite (fun _ => standardGetStringDescriptorProcess_backed) fun _ => .ite (fun _ =>
    .ite (fun _ => .fail) fun _ => .pure ?_) fun _ => .ite (fun _ => .fail) fun _ => .ite (fun _ => .ite (fun _ =>
    .pure (Nat.min_le_right _ _)) fun _ => .fail) fun _ => classInRequestProcess_backed promised
  · exact Nat.le_trans (Nat.min_le_right _ _) promised.device
  · exact .bind fun _ => configResponse_backed
  · exact .bind fun _ => configResponse_backed
  · exact Nat.le_trans (Nat.min_le_right _ _) promised.qualifier

/-- A request writes the buffer within its bounds, and answers with bytes that are there. -/
def Served (m : Ep0M σ Reply) : Prop :=
  ∀ x, InBounds x.control → InBounds (m x).2.control ∧ ∀ reply, (m x).1 = .ok reply →
    (x.system.device.request.isIn = true ∨ reply.source ≠ .none) → reply.Covers (m x).2.control reply.length

namespace Served

variable {m m₂ : Ep0M σ Reply}

theorem fail {code : Error} : Served (fail code : Ep0M σ Reply) :=
  fun _ inBounds => ⟨inBounds, fun _ ok => nomatch ok⟩

theorem fromObject {m : Core σ Response} (backed : Backed m) : Served (fromObject m) := by
  intro x inBounds
  rcases run : m x.system with ⟨code | response, s'⟩
  · rw [fromObject_error run]
    exact ⟨inBounds, fun _ ok => nomatch ok⟩
  · rw [fromObject_ok run]
    refine ⟨inBounds, fun reply ok _ => ?_⟩
    cases ok
    exact backed x.system response (by rw [run])

theorem silent {m : Core σ Unit} : Served (silent m) := by
  intro x inBounds
  rcases run : m x.system with ⟨code | u, s'⟩
  · rw [silent_error run]
    exact ⟨inBounds, fun _ ok => nomatch ok⟩
  · rw [silent_ok run]
    refine ⟨inBounds, fun reply ok _ => ?_⟩
    cases ok
    rfl

theorem ite {c : Prop} [Decidable c] (pos : c → Served m) (neg : ¬c → Served m₂) : Served (if c then m else m₂) := by
  split
  · next h => exact pos h
  · next h => exact neg h

theorem readDevice {α : Type} {f : System σ → α} {k : α → Ep0M σ Reply} (rest : ∀ a, Served (k a)) :
    Served (read (fun x : Buffered σ => f x.system) >>= k) := fun x => rest (f x.system) x

theorem control {f : Stores → Stores} {n : Nat} (inBounds : ∀ b, InBounds b → InBounds (f b))
    (covers : ∀ b, ∀ j < n, j ∈ (f b).written) :
    Served (fill f >>= fun _ => Pure.pure ⟨.control, n⟩ : Ep0M σ Reply) := by
  intro x before
  refine ⟨inBounds _ before, fun reply ok _ => ?_⟩
  cases ok
  exact covers x.control

end Served

theorem standardGetStringDescriptorProcess_served : Served (standardGetStringDescriptorProcess e) := by
  refine Served.readDevice (f := System.device) fun d => .ite (fun _ => ?_) fun _ => ?_
  · intro x before
    refine ⟨(((before.put (by decide) _).put (by decide) _).put (by decide) _).put (by decide) _,
      fun reply ok _ => ?_⟩
    cases ok
    intro j (small : j < min _ 4)
    have four : j < 4 := Nat.lt_of_lt_of_le small (Nat.min_le_right _ _)
    match j, four with
    | 0, _ => exact .tail _ (.tail _ (.tail _ (.head _)))
    | 1, _ => exact .tail _ (.tail _ (.head _))
    | 2, _ => exact .tail _ (.head _)
    | 3, _ => exact .head _
  · intro x before
    rcases got : stringGet e d (lowByte d.request.wValue) x.system with ⟨code | string, s'⟩
    · rw [bind_error _ (core_error got)]
      exact ⟨before, fun _ ok => nomatch ok⟩
    · rw [bind_ok _ (core_ok got)]
      refine ⟨before.describe, fun reply ok _ => ?_⟩
      cases ok
      intro j small
      have length : j < ((stringToStringDescriptor string x.control).bytes 0).toNat :=
        Nat.lt_of_lt_of_le small (Nat.min_le_right _ _)
      rw [string_bLength] at length
      exact string_covers (Nat.lt_of_lt_of_le length (Nat.mod_le _ _))

theorem deviceStatus_served (wake powered : Bool) : Served (deviceStatus wake powered : Ep0M σ Reply) := by
  intro x before
  have base := (before.put (by decide : 0 < maxEp0DataSize) 0).put (by decide : 1 < maxEp0DataSize) 0
  have two {rest : List Nat} : ∀ j < 2, j ∈ 1 :: 0 :: rest := fun j small => match j, small with
    | 0, _ => .tail _ (.head _)
    | 1, _ => .head _
  cases wake <;> cases powered
  · refine ⟨base, fun reply ok _ => ?_⟩
    cases ok
    exact two
  · refine ⟨base.put (by decide) _, fun reply ok _ => ?_⟩
    cases ok
    exact fun j small => .tail _ (two j small)
  · refine ⟨base.put (by decide) _, fun reply ok _ => ?_⟩
    cases ok
    exact fun j small => .tail _ (two j small)
  · refine ⟨(base.put (by decide) _).put (by decide) _, fun reply ok _ => ?_⟩
    cases ok
    exact fun j small => .tail _ (.tail _ (two j small))

theorem standardGetStatusProcess_served (promised : Promised e) : Served (standardGetStatusProcess e) := by
  refine Served.readDevice (f := System.device) fun d => .ite (fun _ => deviceStatus_served _ _) fun _ =>
    .ite (fun _ => .fromObject (classInRequestProcess_backed promised)) fun _ => .ite (fun _ => ?_) fun _ => .fail
  intro x
  refine Served.control
    (f := fun b => (b.put 0 (if e.epIsStalled (lowByte d.request.wIndex) x.system.outside then 1 else 0)).put 1 0)
    (fun b before => (before.put (by decide) _).put (by decide) _) (fun b j small => ?_) x
  match j, small with
  | 0, _ => exact .tail _ (.head _)
  | 1, _ => exact .head _

theorem put_served (byte : UInt8) : Served
    (fill (fun b => b.put 0 byte) >>= fun _ => pure ⟨.control, 1⟩ : Ep0M σ Reply) := by
  refine Served.control (fun b before => before.put (by decide) _) fun b j small => ?_
  obtain rfl : j = 0 := by omega
  exact .head _

theorem standardGetConfigurationProcess_served : Served (standardGetConfigurationProcess : Ep0M σ Reply) :=
  .readDevice (f := System.device) fun _ => .ite (fun _ => put_served _)
    fun _ => .ite (fun _ => put_served _) fun _ => .fail

theorem standardGetInterfaceProcess_served (promised : Promised e) : Served (standardGetInterfaceProcess e) := by
  refine Served.readDevice (f := fun s => s.device.request) fun r => .ite (fun _ => ?_) fun _ => .fail
  intro x before
  have object := Served.fromObject (classInRequestProcess_backed promised) x before
  rw [attempt_bind]
  rcases run : fromObject (classInRequestProcess e) x with ⟨code | reply, x'⟩ <;> rw [run] at object
  · by_cases known : (lowByte r.wIndex).toNat < e.nextInterface
    · simp only [if_pos known]
      obtain ⟨inBounds, covers⟩ := put_served 0 x' object.1
      refine ⟨inBounds, fun reply ok _ => ?_⟩
      cases ok
      exact covers _ rfl (.inr nofun)
    · simp only [if_neg known]
      exact ⟨object.1, fun _ ok => nomatch ok⟩
  · exact object

theorem standardSetSelProcess_served : Served (standardSetSelProcess : Ep0M σ Reply) := by
  intro x before
  rcases run : (Usbd.standardSetSelProcess : Core σ Response) x.system with ⟨code | response, s'⟩
  · rw [standardSetSelProcess_error run]
    exact ⟨before, fun _ ok => nomatch ok⟩
  · have outward : x.system.device.request.isIn = false := by
      rw [Usbd.standardSetSelProcess, read_bind] at run
      split at run
      · next asked => exact asked.2.2.1
      · cases run
    rw [standardSetSelProcess_ok run]
    refine ⟨before, fun reply ok inward => ?_⟩
    cases ok
    rcases inward with inward | placed
    · rw [outward] at inward
      cases inward
    · exact absurd rfl placed

theorem standardRequestProcess_served (promised : Promised e) : Served (standardRequestProcess e) :=
  .readDevice (f := fun s => s.device.request) fun _ =>
    .ite (fun _ => standardGetStatusProcess_served promised) fun _ => .ite (fun _ => .silent)
      fun _ => .ite (fun _ => .silent) fun _ =>
    .ite (fun _ => .silent) fun _ => .ite (fun _ => .readDevice (f := System.device) fun _ => .ite
      (fun _ => standardGetStringDescriptorProcess_served)
      fun _ => .fromObject (standardGetDescriptorProcess_backed promised)) fun _ => .ite (fun _ => .fail) fun _ =>
    .ite (fun _ => standardGetConfigurationProcess_served) fun _ => .ite (fun _ => .silent) fun _ =>
    .ite (fun _ => standardGetInterfaceProcess_served promised) fun _ => .ite (fun _ => .silent) fun _ =>
    .ite (fun _ => .fail) fun _ => .ite (fun _ => standardSetSelProcess_served)
      fun _ => .ite (fun _ => .silent) fun _ => .fail

theorem setupRequestDispatch_served (promised : Promised e) : Served (setupRequestDispatch e) := by
  intro x before
  rw [setupRequestDispatch, read_bind]
  split
  · exact standardRequestProcess_served promised x before
  split
  · split
    · exact Served.fromObject (classInRequestProcess_backed promised) x before
    split
    · next outward _ =>
      refine ⟨before, fun reply ok inward => ?_⟩
      cases ok
      rcases inward with inward | placed
      · exact absurd inward outward
      · exact absurd rfl placed
    · exact Served.silent x before
  · exact ⟨before, fun _ ok => nomatch ok⟩

end Sizes

/-! ### The data stage -/

/-- A standard request for a string other than the list of languages. -/
structure AsksString (r : SetupRequest) : Prop where
  isIn : r.isIn = true
  standard : r.IsStandard reqGetDescriptor
  type : highByte r.wValue = descTypeString
  index : lowByte r.wValue ≠ langIdStringIndex

/-- The string that the device has under the index of the request. -/
def StringServed (e : Env σ) (s : System σ) (string : Text) : Prop :=
  (stringGet e s.device (lowByte s.device.request.wValue) s).1 = .ok string

/-- The buffer holds the descriptor of a string, as far as 127 characters of it, and it is sent. -/
structure StringAnswered (string : Text) (wLength : Nat) (reply : Reply) (b : Stores) : Prop where
  source : reply.source = .control
  length : reply.length = min wLength (2 + 2 * min string.length 127)
  bLength : (b.bytes 0).toNat = 2 + 2 * min string.length 127
  type : b.bytes 1 = descTypeString
  characters : (List.range' 2 (2 * min string.length 127)).map b.bytes =
    (string.take (min string.length 127)).flatMap fun c => [c, 0]

/-- How a SETUP packet is answered: from a system that has stored it, over a buffer. -/
structure WellAnswered (e : Env σ) (s : System σ) (bytes : Nat → UInt8) : Prop where
  inBounds : InBounds (ep0SetupProcess e ⟨s, bytes, []⟩).2.control
  dispatch : signs (setupRequestDispatch e ⟨s, bytes, []⟩).2.system.log = signs s.log ∨
    ∃ c, signs (setupRequestDispatch e ⟨s, bytes, []⟩).2.system.log = signs s.log ++ [.handled c]
  sent : s.device.request.isIn = true → ∀ reply x, setupRequestDispatch e ⟨s, bytes, []⟩ = (.ok reply, x) →
    reply.Covers x.control (min s.device.request.wLength.toNat reply.length) ∧
    ∃ zlp result, (ep0SetupProcess e ⟨s, bytes, []⟩).2.system.log = x.system.log ++
      [.dcd (.epSend 0x80 (reply.source.take x.control (min s.device.request.wLength.toNat reply.length)) zlp) result]
  stalled : s.device.request.isIn = false → ∀ reply x, setupRequestDispatch e ⟨s, bytes, []⟩ = (.ok reply, x) →
    maxEp0DataSize < min s.device.request.wLength.toNat reply.length →
      ∃ result, (ep0SetupProcess e ⟨s, bytes, []⟩).2.system.log = x.system.log ++ [.dcd (.epStall 0x80) result]
  received : s.device.request.isIn = false → ∀ reply x, setupRequestDispatch e ⟨s, bytes, []⟩ = (.ok reply, x) →
    min s.device.request.wLength.toNat reply.length ≤ maxEp0DataSize →
      ∃ call result, (ep0SetupProcess e ⟨s, bytes, []⟩).2.system.log = x.system.log ++ [.dcd call result] ∧
        (call = .epReceive 0x00 (min s.device.request.wLength.toNat reply.length) ∨ call = .epSend 0x80 [] false)
  string : AsksString s.device.request → ∀ string, StringServed e s string →
    ∃ reply x, setupRequestDispatch e ⟨s, bytes, []⟩ = (.ok reply, x) ∧
      StringAnswered string s.device.request.wLength.toNat reply x.control

section Stages

variable {e : Env σ} {s : System σ} {bytes : Nat → UInt8} {x x' : Buffered σ} {reply : Reply} {string : Text}

theorem Reply.Covers.le {b : Stores} {n k : Nat} (covers : reply.Covers b n) (le : k ≤ n) : reply.Covers b k := by
  rcases reply with ⟨source, length⟩
  cases source with
  | none =>
    have none : n = 0 := covers
    exact Nat.le_zero.mp (none ▸ le)
  | control => exact fun j small => covers j (Nat.lt_of_lt_of_le small le)
  | object bytes => exact Nat.le_trans le covers

theorem setupRequestDispatch_request : (setupRequestDispatch e x).2.system.device.request =
    x.system.device.request := by
  rw [(setupRequestDispatch_refines x).1]
  exact (Usbd.setupRequestDispatch_cases e x.system).request

theorem setupRequestDispatch_signs : signs (setupRequestDispatch e x).2.system.log = signs x.system.log ∨
    ∃ c, signs (setupRequestDispatch e x).2.system.log = signs x.system.log ++ [.handled c] := by
  rw [(setupRequestDispatch_refines x).1]
  have dispatched := Usbd.setupRequestDispatch_cases e x.system
  generalize (Usbd.setupRequestDispatch e x.system).1 = result at dispatched
  cases dispatched with
  | quiet same _ => exact .inl same.signs
  | handled handled _ _ => exact .inr ⟨_, handled.signs⟩
  | address _ _ signs _ => exact .inl signs
  | configuration _ _ _ _ signs _ => exact .inl signs

theorem ask_logged (call : DcdCall) (x : Buffered σ) : ∃ result x', core (ask e call) x = (result, x') ∧
    x'.control = x.control ∧ ∃ result', x'.system.log = x.system.log ++ [.dcd call result'] :=
  ⟨_, _, rfl, rfl, _, rfl⟩

theorem stage_logged (phase : ControlPhase) (call : DcdCall) (x : Buffered σ) :
    ∃ r x', onError (core (setPhase phase) >>= fun _ => core (ask e call))
      (fun _ => core (setPhase .idle)) x = (r, x') ∧
      x'.control = x.control ∧ ∃ result, x'.system.log = x.system.log ++ [.dcd call result] := by
  obtain ⟨result, x', ran, same, result', logged⟩ := @ask_logged σ e call (core (setPhase phase) x).2
  have stage : (core (setPhase phase) >>= fun _ => core (ask e call) : Ep0M σ Unit) x = (result, x') := ran
  cases result with
  | ok u => exact ⟨_, x', onError_ok _ stage, same, result', logged⟩
  | error code => exact ⟨_, _, onError_error _ stage, same, result', logged⟩

theorem setupDataStageStart_logged (e : Env σ) (reply : Reply) (x : Buffered σ) :
    ∃ r x', onError (setupDataStageStart e reply) (fun _ => core (setPhase .idle)) x = (r, x') ∧
      x'.control = x.control ∧ ∃ call result, x'.system.log = x.system.log ++ [.dcd call result] ∧
        (x.system.device.request.isIn = true → ∃ zlp, call =
          .epSend 0x80 (reply.source.take x.control (min x.system.device.request.wLength.toNat reply.length)) zlp) ∧
        (x.system.device.request.isIn = false →
          maxEp0DataSize < min x.system.device.request.wLength.toNat reply.length → call = .epStall 0x80) ∧
        (x.system.device.request.isIn = false →
          min x.system.device.request.wLength.toNat reply.length ≤ maxEp0DataSize →
            call = .epReceive 0x00 (min x.system.device.request.wLength.toNat reply.length) ∨
              call = .epSend 0x80 [] false) := by
  obtain ⟨r, request⟩ : ∃ r, r = x.system.device.request := ⟨_, rfl⟩
  obtain ⟨length, cut⟩ : ∃ length, length = min r.wLength.toNat reply.length := ⟨_, rfl⟩
  rw [← request, ← cut]
  by_cases inward : r.isIn = true
  · have stage : setupDataStageStart e reply x = (core (setPhase .dataIn) >>= fun _ => core (ask e (.epSend 0x80
        (reply.source.take x.control length)
        (length % ep0Mps x.system.device.speed = 0 ∧ length < r.wLength.toNat))) : Ep0M σ Unit) x := by
      rw [setupDataStageStart, read_bind]
      simp only [id, ← request, ← cut, inward, if_true]
    obtain ⟨result, x', ran, same, result', logged⟩ := stage_logged (e := e) .dataIn (.epSend 0x80
      (reply.source.take x.control length)
      (length % ep0Mps x.system.device.speed = 0 ∧ length < r.wLength.toNat)) x
    rw [onError_congr _ stage]
    exact ⟨result, x', ran, same, _, result', logged, fun _ => ⟨_, rfl⟩,
      fun outward => absurd inward (by simp [outward]), fun outward => absurd inward (by simp [outward])⟩
  by_cases large : maxEp0DataSize < length
  · have stage : setupDataStageStart e reply x =
        (core (setPhase .idle) >>= fun _ => core (ask e (.epStall 0x80)) : Ep0M σ Unit) x := by
      rw [setupDataStageStart, read_bind]
      simp only [id, ← request, ← cut, inward, large, if_true]
      rfl
    obtain ⟨result, x', ran, same, result', logged⟩ := stage_logged (e := e) .idle (.epStall 0x80) x
    rw [onError_congr _ stage]
    exact ⟨result, x', ran, same, _, result', logged, fun i => absurd i inward, fun _ _ => rfl,
      fun _ small => absurd large (Nat.not_lt.mpr small)⟩
  by_cases some : 0 < length
  · have stage : setupDataStageStart e reply x =
        (core (setPhase .dataOut) >>= fun _ => core (ask e (.epReceive 0x00 length)) : Ep0M σ Unit) x := by
      rw [setupDataStageStart, read_bind]
      simp only [id, ← request, ← cut, inward, if_false, large, some, if_true]
      rfl
    obtain ⟨result, x', ran, same, result', logged⟩ := stage_logged (e := e) .dataOut (.epReceive 0x00 length) x
    rw [onError_congr _ stage]
    exact ⟨result, x', ran, same, _, result', logged, fun i => absurd i inward, fun _ l => absurd l large,
      fun _ _ => .inl rfl⟩
  · have stage : setupDataStageStart e reply x =
        (core (setPhase .outStatus) >>= fun _ => core (ask e (.epSend 0x80 [] false)) : Ep0M σ Unit) x := by
      rw [setupDataStageStart, read_bind]
      simp only [id, ← request, ← cut, inward, if_false, large, some]
      rfl
    obtain ⟨result, x', ran, same, result', logged⟩ := stage_logged (e := e) .outStatus (.epSend 0x80 [] false) x
    rw [onError_congr _ stage]
    exact ⟨result, x', ran, same, _, result', logged, fun i => absurd i inward, fun _ l => absurd l large,
      fun _ _ => .inr rfl⟩

theorem ep0SetupProcess_control : (ep0SetupProcess e x).2.control = (setupRequestDispatch e x).2.control := by
  rw [ep0SetupProcess, attempt_bind]
  rcases dispatched : setupRequestDispatch e x with ⟨code | reply, x'⟩
  · obtain ⟨result, x'', ran, same, -⟩ := @ask_logged σ e (.epStall 0x80) (core (setPhase .idle) x').2
    change ((core (ep0Stall e) >>= fun _ => fail code : Ep0M σ Unit) (core (setPhase .idle) x').2).2.control = _
    rw [bind_run, ep0Stall, ran]
    cases result <;> exact same
  · obtain ⟨result, x'', ran, same, -⟩ := setupDataStageStart_logged e reply x'
    simp only [ran, same]

theorem ep0SetupProcess_ok (dispatched : setupRequestDispatch e x = (.ok reply, x')) :
    ep0SetupProcess e x = onError (setupDataStageStart e reply) (fun _ => core (setPhase .idle)) x' := by
  rw [ep0SetupProcess, attempt_bind, dispatched]

theorem stringGet_dispatched (asks : AsksString s.device.request) (served : StringServed e s string) (b : Stores) :
    setupRequestDispatch e ⟨s, b⟩ =
      (.ok ⟨.control, min s.device.request.wLength.toNat ((stringToStringDescriptor string b).bytes 0).toNat⟩,
        ⟨s, stringToStringDescriptor string b⟩) := by
  have standard : setupRequestDispatch e ⟨s, b⟩ = standardRequestProcess e ⟨s, b⟩ := by
    rw [setupRequestDispatch, read_bind]
    exact congrFun (if_pos asks.standard.1) _
  have descriptor : standardRequestProcess e ⟨s, b⟩ = standardGetDescriptorProcess e ⟨s, b⟩ := by
    rw [standardRequestProcess, read_bind]
    simp only [show s.device.request.bRequest = reqGetDescriptor from asks.standard.2]
    rfl
  have type : standardGetDescriptorProcess e ⟨s, b⟩ = standardGetStringDescriptorProcess e ⟨s, b⟩ := by
    rw [standardGetDescriptorProcess, read_bind]
    exact congrFun (if_pos asks.type) _
  have got : core (stringGet e s.device (lowByte s.device.request.wValue)) ⟨s, b⟩ = (.ok string, ⟨s, b⟩) := by
    have quiet := @stringGet_quiet σ e s.device (lowByte s.device.request.wValue) s
    rw [core, zoom]
    rcases run : stringGet e s.device (lowByte s.device.request.wValue) s with ⟨result, s'⟩
    rw [StringServed, run] at served
    rw [run] at quiet
    cases served
    cases quiet
    rfl
  rw [standard, descriptor, type, standardGetStringDescriptorProcess, read_bind]
  simp only [asks.index, if_false]
  rw [bind_ok _ got]
  rfl

theorem stringAnswered_iff {wLength : Nat} (b : Stores) :
    StringAnswered string wLength ⟨.control, min wLength ((stringToStringDescriptor string b).bytes 0).toNat⟩
      (stringToStringDescriptor string b) ↔ string.length < 127 := by
  constructor
  · intro answered
    have byte := ((stringToStringDescriptor string b).bytes 0).toNat_lt
    rw [answered.bLength] at byte
    omega
  · intro short
    have all : min string.length 127 = string.length := by omega
    have encoded := encodedLength_short short
    have bLength : ((stringToStringDescriptor string b).bytes 0).toNat = 2 + 2 * min string.length 127 := by
      rw [string_bLength, encoded, all]
      omega
    refine ⟨rfl, ?_, bLength, string_type, ?_⟩
    · rw [← bLength]
    · have reads := @string_reads b string
      rw [encoded] at reads
      rw [all, reads]

theorem WellAnswered.short (answered : WellAnswered e s bytes) (asks : AsksString s.device.request)
    (served : StringServed e s string) : string.length < 127 := by
  obtain ⟨reply, x, dispatched, described⟩ := answered.string asks string served
  rw [stringGet_dispatched asks served] at dispatched
  cases dispatched
  exact (stringAnswered_iff _).mp described

end Stages

/-- Every request is answered with bytes that are there, within its length, and without a write
past the buffer; a string is answered as its descriptor exactly if it has less than 127 characters. -/
theorem ep0_well_answered_iff {σ : Type} (e : Env σ) (s : System σ) (bytes : Nat → UInt8) (promised : Promised e) :
    WellAnswered e s bytes ↔
      ¬(AsksString s.device.request ∧ ∃ string, StringServed e s string ∧ 127 ≤ string.length) := by
  constructor
  · rintro answered ⟨asks, string, served, long⟩
    exact absurd (answered.short asks served) (Nat.not_lt.mpr long)
  · intro short
    have served := setupRequestDispatch_served promised ⟨s, bytes, []⟩ nofun
    have request {reply x} (dispatched : setupRequestDispatch e ⟨s, bytes, []⟩ = (.ok reply, x)) :
        x.system.device.request = s.device.request := by
      have same := @setupRequestDispatch_request σ e ⟨s, bytes, []⟩
      rwa [dispatched] at same
    refine ⟨?_, setupRequestDispatch_signs, ?_, ?_, ?_, ?_⟩
    · rw [ep0SetupProcess_control]
      exact served.1
    · intro inward reply x dispatched
      have covered : reply.Covers x.control reply.length := by
        have all := served.2 reply
        rw [dispatched] at all
        exact all rfl (.inl inward)
      obtain ⟨result, x', ran, -, call, result', logged, sends, -⟩ := setupDataStageStart_logged e reply x
      rw [request dispatched] at sends
      obtain ⟨zlp, rfl⟩ := sends inward
      rw [ep0SetupProcess_ok dispatched, ran]
      exact ⟨covered.le (Nat.min_le_right _ _), zlp, result', logged⟩
    · intro outward reply x dispatched large
      obtain ⟨result, x', ran, -, call, result', logged, -, stalls, -⟩ := setupDataStageStart_logged e reply x
      rw [request dispatched] at stalls
      rw [ep0SetupProcess_ok dispatched, ran]
      exact ⟨result', stalls outward large ▸ logged⟩
    · intro outward reply x dispatched small
      obtain ⟨result, x', ran, -, call, result', logged, -, -, receives⟩ := setupDataStageStart_logged e reply x
      rw [request dispatched] at receives
      rw [ep0SetupProcess_ok dispatched, ran]
      exact ⟨call, result', logged, receives outward small⟩
    · intro asks string given
      have fits : string.length < 127 := by
        rcases Nat.lt_or_ge string.length 127 with less | more
        · exact less
        · exact absurd ⟨asks, string, given, more⟩ short
      exact ⟨_, _, stringGet_dispatched asks given _, (stringAnswered_iff _).mpr fits⟩

/- A device whose class names one string, 4. -/

def namedEnv (string : Text) : Env Unit := { loneEnv with
  stringToClass := fun index => if index = 4 then some 7 else none
  interfaceString := fun _ _ => some string
  deviceDescriptor := 18 :: List.replicate 17 0
  deviceQualifierDescriptor := 10 :: List.replicate 9 0 }

theorem namedEnv_promised (string : Text) : Promised (namedEnv string) :=
  ⟨by change 18 ≤ 18; decide, by change 10 ≤ 10; decide, fun _ _ _ _ _ none => (nomatch none)⟩

/-- The request for the string 4 has come in. -/
def namedStart : System Unit :=
  ⟨{ Device.started .full with request := ⟨0x80, reqGetDescriptor, 0x0304, 0x0409, 255⟩ }, (), []⟩

theorem namedStart_asks : AsksString namedStart.device.request := ⟨by decide, by decide, by decide, by decide⟩

theorem ep0_answers_name : WellAnswered (namedEnv [0x43, 0x44, 0x43]) namedStart fun _ => 0xFF := by
  refine (ep0_well_answered_iff _ _ _ (namedEnv_promised _)).mpr ?_
  rintro ⟨-, string, served, long⟩
  have same : string = [0x43, 0x44, 0x43] := by
    cases served
    rfl
  subst same
  exact absurd long (by decide)

/-- A name of 127 characters has the length 0. -/
theorem ep0_misanswers_name :
    ¬WellAnswered (namedEnv (List.replicate 127 0x41)) namedStart fun _ => 0xFF := by
  intro answered
  have served : StringServed (namedEnv (List.replicate 127 0x41)) namedStart (List.replicate 127 0x41) := rfl
  have short := answered.short namedStart_asks served
  rw [List.length_replicate] at short
  exact Nat.lt_irrefl 127 short

end XSDK.Usbd.Ep0
