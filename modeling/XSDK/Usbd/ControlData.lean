import XSDK.Library.Stores
import XSDK.Usbd.Quiet

/-! The data stage of a control transfer over the control buffer itself: what a request writes
there, where the bytes of the response lie, and how many of them are sent. -/
namespace XSDK.Usbd.Ep0

open Library Library.Call Library.Stores
open List (map_cons map_take mem_cons_of_mem mem_cons_self take_nil take_range)

/-- Where a response lies: nowhere, in the control buffer, or in an object of its own. -/
inductive Source
  | none
  | control
  | object (bytes : Bytes)

structure Reply where
  source : Source
  length : Nat

structure Buffered (σ : Type) where
  system : System σ
  control : Stores

variable {σ : Type}

abbrev Ep0M (σ α : Type) : Type := Call (Buffered σ) Error α

/-- A part of the request that leaves the control buffer alone. -/
def core {α : Type} (m : Core σ α) : Ep0M σ α := zoom Buffered.system (fun s x => { x with system := s }) m

def fill (f : Stores → Stores) : Ep0M σ Unit := modify fun x => { x with control := f x.control }

/-- The response of a part that has an object of its own to send. -/
def fromObject (m : Core σ Response) : Ep0M σ Reply := do
  let response ← core m
  pure ⟨.object response.data, response.length⟩

def silent (m : Core σ Unit) : Ep0M σ Reply := do
  core m
  pure ⟨.none, 0⟩

/-- So many characters of a string, each followed by a zero. The index counts in eight bits. -/
def copyCharacters : Nat → Text → UInt8 → Stores → Stores
  | 0, _, _, b => b
  | stringLength + 1, string, index, b =>
    copyCharacters stringLength (string.drop 1) (index + 2)
      ((b.put index.toNat (string.headD 0)).put (index + 1).toNat 0)

/-- The length that is encoded: eight bits of the string's, cut to what the buffer holds. -/
def encodedLength (string : Text) : UInt8 :=
  if (maxEp0DataSize - 2) / 2 < (UInt8.ofNat string.length).toNat then UInt8.ofNat ((maxEp0DataSize - 2) / 2)
  else UInt8.ofNat string.length

def stringToStringDescriptor (string : Text) (b : Stores) : Stores :=
  copyCharacters (encodedLength string).toNat string 2
    ((b.put 0 (2 + 2 * encodedLength string)).put 1 descTypeString)

variable (e : Env σ)

def standardGetStringDescriptorProcess : Ep0M σ Reply := do
  let d ← read (·.system.device)
  let index := lowByte d.request.wValue
  if index = langIdStringIndex then do
    fill fun b => (((b.put 0 4).put 1 descTypeString).put 2 0x09).put 3 0x04
    pure ⟨.control, min d.request.wLength.toNat 4⟩
  else do
    let string ← core (stringGet e d index)
    fill (stringToStringDescriptor string)
    let bLength ← read (·.control.bytes 0)
    pure ⟨.control, min d.request.wLength.toNat bLength.toNat⟩

def standardGetDescriptorProcess : Ep0M σ Reply := do
  let d ← read (·.system.device)
  if highByte d.request.wValue = descTypeString then standardGetStringDescriptorProcess e
  else fromObject (Usbd.standardGetDescriptorProcess e)

def deviceStatus (isRemoteWakeEnabled isSelfPowered : Bool) : Ep0M σ Reply := do
  fill fun b => (b.put 0 0).put 1 0
  onlyIf (isRemoteWakeEnabled = true) (fill fun b => b.put 0 (b.bytes 0 ||| 0x02))
  onlyIf (isSelfPowered = true) (fill fun b => b.put 0 (b.bytes 0 ||| 0x01))
  pure ⟨.control, 2⟩

def standardGetStatusProcess : Ep0M σ Reply := do
  let d ← read (·.system.device)
  if d.request.recipient = recipientDevice then deviceStatus d.isRemoteWakeEnabled d.isSelfPowered
  else if d.request.recipient = recipientInterface then fromObject (classInRequestProcess e)
  else if d.request.recipient = recipientEndpoint then do
    let stalled ← core (outside (read fun o => e.epIsStalled (lowByte d.request.wIndex) o))
    fill fun b => (b.put 0 (if stalled then 1 else 0)).put 1 0
    pure ⟨.control, 2⟩
  else fail .reqGetStatusInvalidRecipient

def standardGetConfigurationProcess : Ep0M σ Reply := do
  let d ← read (·.system.device)
  if d.isConfigured then do
    fill fun b => b.put 0 d.configurationValue
    pure ⟨.control, 1⟩
  else if d.isAddressed then do
    fill fun b => b.put 0 0
    pure ⟨.control, 1⟩
  else fail .reqGetConfigNotAddressed

def standardGetInterfaceProcess : Ep0M σ Reply := do
  let r ← read (·.system.device.request)
  if r.recipient = recipientInterface then do
    match ← attempt (fromObject (classInRequestProcess e)) with
    | .ok reply => pure reply
    | .error code =>
      if (lowByte r.wIndex).toNat < e.nextInterface then do
        fill fun b => b.put 0 0
        pure ⟨.control, 1⟩
      else fail code
  else fail .unsupportedRequest

def standardSetSelProcess : Ep0M σ Reply := do
  let response ← core Usbd.standardSetSelProcess
  pure ⟨.none, response.length⟩

def standardRequestProcess : Ep0M σ Reply := do
  let r ← read (·.system.device.request)
  if r.bRequest = reqGetStatus then standardGetStatusProcess e
  else if r.bRequest = reqClearFeature then silent (standardClearFeatureProcess e)
  else if r.bRequest = reqSetFeature then silent (standardSetFeatureProcess e)
  else if r.bRequest = reqSetAddress then silent standardSetAddressProcess
  else if r.bRequest = reqGetDescriptor then standardGetDescriptorProcess e
  else if r.bRequest = reqSetDescriptor then fail .reqSetDescNotSupported
  else if r.bRequest = reqGetConfiguration then standardGetConfigurationProcess
  else if r.bRequest = reqSetConfiguration then silent standardSetConfigurationProcess
  else if r.bRequest = reqGetInterface then standardGetInterfaceProcess e
  else if r.bRequest = reqSetInterface then silent (standardSetInterfaceProcess e)
  else if r.bRequest = reqSynchFrame then fail .unsupportedRequest
  else if r.bRequest = reqSetSel then standardSetSelProcess
  else if r.bRequest = reqSetIsochDelay then silent standardSetIsochDelayProcess
  else fail .unsupportedRequest

def setupRequestDispatch : Ep0M σ Reply := do
  let r ← read (·.system.device.request)
  if r.type = reqTypeStandard then standardRequestProcess e
  else if r.type = reqTypeClass ∨ r.type = reqTypeVendor then
    if r.isIn then fromObject (classInRequestProcess e)
    else if 0 < r.wLength.toNat then pure ⟨.none, r.wLength.toNat⟩
    else silent (classOutRequestProcess e [])
  else fail .unsupportedRequest

/-- The bytes that a response of so many bytes points to. -/
def Source.take (b : Stores) (length : Nat) : Source → Bytes
  | .none => []
  | .control => (List.range length).map b.bytes
  | .object bytes => bytes.take length

def setupDataStageStart (reply : Reply) : Ep0M σ Unit := do
  let x ← read id
  let wLength := x.system.device.request.wLength.toNat
  let length := min wLength reply.length
  if x.system.device.request.isIn then do
    core (setPhase .dataIn)
    core (ask e (.epSend 0x80 (reply.source.take x.control length)
      (length % ep0Mps x.system.device.speed = 0 ∧ length < wLength)))
  else if maxEp0DataSize < length then do
    core (setPhase .idle)
    core (ep0Stall e)
  else if 0 < length then do
    core (setPhase .dataOut)
    core (ask e (.epReceive 0x00 length))
  else do
    core (setPhase .outStatus)
    core (ask e (.epSend 0x80 [] false))

def ep0SetupProcess : Ep0M σ Unit := do
  match ← attempt (setupRequestDispatch e) with
  | .ok reply => onError (setupDataStageStart e reply) fun _ => core (setPhase .idle)
  | .error code => do
    core (setPhase .idle)
    core (ep0Stall e)
    fail code

/-! ### Parts of a request -/

section Parts

variable {x : Buffered σ} {s' : System σ} {code : Error} {response : Response} {u : Unit}

theorem core_ok {α : Type} {m : Core σ α} {a : α} (run : m x.system = (.ok a, s')) :
    core m x = (.ok a, { x with system := s' }) := by
  rw [core, zoom, run]

theorem core_error {α : Type} {m : Core σ α} (run : m x.system = (.error code, s')) :
    core m x = (.error code, { x with system := s' }) := by
  rw [core, zoom, run]

theorem fromObject_ok {m : Core σ Response} (run : m x.system = (.ok response, s')) :
    fromObject m x = (.ok ⟨.object response.data, response.length⟩, { x with system := s' }) := by
  rw [fromObject, bind_ok _ (core_ok run)]
  rfl

theorem fromObject_error {m : Core σ Response} (run : m x.system = (.error code, s')) :
    fromObject m x = (.error code, { x with system := s' }) :=
  bind_error _ (core_error run)

theorem silent_ok {m : Core σ Unit} (run : m x.system = (.ok u, s')) :
    silent m x = (.ok ⟨.none, 0⟩, { x with system := s' }) := by
  rw [silent, bind_ok _ (core_ok run)]
  rfl

theorem silent_error {m : Core σ Unit} (run : m x.system = (.error code, s')) :
    silent m x = (.error code, { x with system := s' }) :=
  bind_error _ (core_error run)

theorem standardSetSelProcess_ok
    (run : (Usbd.standardSetSelProcess : Core σ Response) x.system = (.ok response, s')) :
    (standardSetSelProcess : Ep0M σ Reply) x = (.ok ⟨.none, response.length⟩, { x with system := s' }) := by
  rw [standardSetSelProcess, bind_ok _ (core_ok run)]
  rfl

theorem standardSetSelProcess_error
    (run : (Usbd.standardSetSelProcess : Core σ Response) x.system = (.error code, s')) :
    (standardSetSelProcess : Ep0M σ Reply) x = (.error code, { x with system := s' }) :=
  bind_error _ (core_error run)

end Parts

/-! ### The string descriptor in the buffer -/

section Strings

variable {b : Stores} {string : Text} {index : UInt8} {n m : Nat}

def InBounds (b : Stores) : Prop := b.Within maxEp0DataSize

theorem InBounds.put (inBounds : InBounds b) {i : Nat} (small : i < maxEp0DataSize) (byte : UInt8) :
    InBounds (b.put i byte) :=
  Stores.Within.put inBounds small byte

theorem InBounds.copy (inBounds : InBounds b) : InBounds (copyCharacters n string index b) := by
  induction n generalizing string index b with
  | zero => exact inBounds
  | succ n ih => exact ih ((inBounds.put index.toNat_lt _).put (index + 1).toNat_lt _)

theorem InBounds.describe (inBounds : InBounds b) : InBounds (stringToStringDescriptor string b) :=
  InBounds.copy ((inBounds.put (by decide) _).put (by decide) _)

theorem copy_written (mem : m ∈ b.written) : m ∈ (copyCharacters n string index b).written := by
  induction n generalizing string index b with
  | zero => exact mem
  | succ n ih => exact ih (mem_cons_of_mem _ (mem_cons_of_mem _ mem))

theorem toNat_step (k : UInt8) (fits : index.toNat + k.toNat < 256) : (index + k).toNat = index.toNat + k.toNat := by
  rw [UInt8.toNat_add]
  exact Nat.mod_eq_of_lt fits

/-- As long as the index does not wrap, the places in front of it keep their bytes. -/
theorem copy_before (room : index.toNat + 2 * n ≤ 256) (before : m < index.toNat) :
    (copyCharacters n string index b).bytes m = b.bytes m := by
  induction n generalizing string index b with
  | zero => rfl
  | succ n ih =>
    have one : (index + 1).toNat = index.toNat + 1 := toNat_step 1 (show index.toNat + 1 < 256 by omega)
    by_cases last : n = 0
    · subst last
      simp only [copyCharacters, put_bytes, one]
      rw [Function.update_of_ne (by omega), Function.update_of_ne (by omega)]
    · have two : (index + 2).toNat = index.toNat + 2 := toNat_step 2 (show index.toNat + 2 < 256 by omega)
      rw [copyCharacters, ih (by omega) (by omega), put_bytes, put_bytes, one, Function.update_of_ne (by omega),
        Function.update_of_ne (by omega)]

theorem copy_reads (room : index.toNat + 2 * n ≤ 256) (long : n ≤ string.length) :
    (List.range' index.toNat (2 * n)).map (copyCharacters n string index b).bytes =
      (string.take n).flatMap fun c => [c, 0] := by
  induction n generalizing string index b with
  | zero => rfl
  | succ n ih =>
    obtain ⟨c, rest, rfl⟩ : ∃ c rest, string = c :: rest := by
      cases string with
      | nil => cases long
      | cons c rest => exact ⟨c, rest, rfl⟩
    have one : (index + 1).toNat = index.toNat + 1 := toNat_step 1 (show index.toNat + 1 < 256 by omega)
    have split : List.range' index.toNat (2 * (n + 1)) =
        index.toNat :: (index.toNat + 1) :: List.range' (index.toNat + 2) (2 * n) := rfl
    rw [split, map_cons, map_cons, List.take_succ_cons, List.flatMap_cons]
    by_cases last : n = 0
    · subst last
      simp [copyCharacters, one]
    · have two : (index + 2).toNat = index.toNat + 2 := toNat_step 2 (show index.toNat + 2 < 256 by omega)
      have tail := ih (b := (b.put index.toNat c).put (index + 1).toNat 0)
        (show (index + 2).toNat + 2 * n ≤ 256 by omega) (by simpa using long)
      rw [two] at tail
      rw [copyCharacters, List.headD_cons, List.drop_succ_cons, List.drop_zero, tail,
        copy_before (by omega) (by omega), copy_before (by omega) (by omega), put_bytes, put_bytes, one]
      simp

theorem copy_covers (room : index.toNat + 2 * n ≤ 256) (low : index.toNat ≤ m) (high : m < index.toNat + 2 * n) :
    m ∈ (copyCharacters n string index b).written := by
  induction n generalizing string index b with
  | zero => omega
  | succ n ih =>
    have one : (index + 1).toNat = index.toNat + 1 := toNat_step 1 (show index.toNat + 1 < 256 by omega)
    rcases Nat.lt_or_ge m (index.toNat + 2) with here | later
    · rw [copyCharacters]
      apply copy_written
      rw [put_written, put_written, one]
      rcases Nat.lt_or_ge m (index.toNat + 1) with first | second
      · obtain rfl : m = index.toNat := by omega
        exact mem_cons_of_mem _ mem_cons_self
      · obtain rfl : m = index.toNat + 1 := by omega
        exact mem_cons_self
    · have two : (index + 2).toNat = index.toNat + 2 := toNat_step 2 (show index.toNat + 2 < 256 by omega)
      exact ih (by omega) (by omega) (by omega)

theorem encodedLength_le (string : Text) : (encodedLength string).toNat ≤ 127 := by
  rw [encodedLength]
  split
  · decide
  · next small => exact Nat.le_of_not_lt small

theorem encodedLength_short (short : string.length < 127) : (encodedLength string).toNat = string.length := by
  have eight : (UInt8.ofNat string.length).toNat = string.length := by
    rw [UInt8.toNat_ofNat']
    exact Nat.mod_eq_of_lt (by omega)
  rw [encodedLength, if_neg (by rw [eight]; change ¬127 < _; omega), eight]

theorem string_bLength : ((stringToStringDescriptor string b).bytes 0).toNat =
    (2 + 2 * (encodedLength string).toNat) % 256 := by
  have small := encodedLength_le string
  rw [stringToStringDescriptor, copy_before (by change 2 + _ ≤ 256; omega) (by decide), put_bytes,
    Function.update_of_ne (by decide), put_bytes, Function.update_self, UInt8.toNat_add, UInt8.toNat_mul]
  change (2 + 2 * (encodedLength string).toNat % 256) % 256 = _
  omega

theorem string_type : (stringToStringDescriptor string b).bytes 1 = descTypeString := by
  have small := encodedLength_le string
  rw [stringToStringDescriptor, copy_before (by change 2 + _ ≤ 256; omega) (by decide), put_bytes,
    Function.update_self]

theorem encodedLength_le_length (string : Text) : (encodedLength string).toNat ≤ string.length := by
  have mod : (UInt8.ofNat string.length).toNat ≤ string.length := by
    rw [UInt8.toNat_ofNat']
    exact Nat.mod_le _ _
  rw [encodedLength]
  split
  · next large => exact Nat.le_trans (Nat.le_of_lt (by exact large)) mod
  · exact mod

theorem string_reads :
    (List.range' 2 (2 * (encodedLength string).toNat)).map (stringToStringDescriptor string b).bytes =
      (string.take (encodedLength string).toNat).flatMap fun c => [c, 0] := by
  have small := encodedLength_le string
  exact copy_reads (show (2 : UInt8).toNat + 2 * (encodedLength string).toNat ≤ 256 by change 2 + _ ≤ 256; omega)
    (encodedLength_le_length string)

theorem string_covers (high : m < 2 + 2 * (encodedLength string).toNat) :
    m ∈ (stringToStringDescriptor string b).written := by
  have small := encodedLength_le string
  rcases Nat.lt_or_ge m 2 with head | body
  · rw [stringToStringDescriptor]
    apply copy_written
    rw [put_written, put_written]
    rcases Nat.lt_or_ge m 1 with zero | one
    · obtain rfl : m = 0 := by omega
      exact mem_cons_of_mem _ mem_cons_self
    · obtain rfl : m = 1 := by omega
      exact mem_cons_self
  · exact copy_covers (by change 2 + _ ≤ 256; omega) body high

theorem string_image (string : Text) (b : Stores) :
    (List.range (2 + 2 * (encodedLength string).toNat)).map (stringToStringDescriptor string b).bytes =
      Usbd.stringToStringDescriptor string := by
  have same : (encodedLength string).toNat = min (string.length % 256) ((maxEp0DataSize - 2) / 2) := by
    have mod : (UInt8.ofNat string.length).toNat = string.length % 256 := UInt8.toNat_ofNat'
    rw [encodedLength, mod]
    split
    · next large =>
      rw [Nat.min_eq_right (by omega)]
      rfl
    · next small => rw [mod, Nat.min_eq_left (by omega)]
  have head : (stringToStringDescriptor string b).bytes 0 = UInt8.ofNat (2 + 2 * (encodedLength string).toNat) := by
    apply UInt8.toNat_inj.mp
    rw [string_bLength, UInt8.toNat_ofNat']
  rw [List.range_eq_range', Nat.add_comm]
  rw [show List.range' 0 (2 * (encodedLength string).toNat + 2) =
    0 :: 1 :: List.range' 2 (2 * (encodedLength string).toNat) from rfl]
  rw [map_cons, map_cons, string_reads, head, string_type, Usbd.stringToStringDescriptor, same]
  rfl

end Strings

/-! ### The same requests as without the buffer -/

section Refinement

variable {e : Env σ} {x : Buffered σ} {s : System σ} {m : Core σ Response} {m' : Ep0M σ Reply}

def SameBytes (b : Stores) : Except Error Reply → Except Error Response → Prop
  | .ok reply, .ok response => reply.length = response.length ∧
      ∀ n ≤ reply.length, reply.source.take b n = response.data.take n
  | .error code, .error code' => code = code'
  | _, _ => False

/-- The request does to the system what it does without the buffer, and answers the same. -/
def Refines (m' : Ep0M σ Reply) (m : Core σ Response) : Prop :=
  ∀ x, (m' x).2.system = (m x.system).2 ∧ SameBytes (m' x).2.control (m' x).1 (m x.system).1

namespace Refines

theorem fail {code : Error} : Refines (fail code : Ep0M σ Reply) (fail code) := fun _ => ⟨rfl, rfl⟩

theorem fromObject : Refines (fromObject m) m := by
  intro x
  rcases run : m x.system with ⟨code | response, s'⟩
  · rw [fromObject_error run]
    exact ⟨rfl, rfl⟩
  · rw [fromObject_ok run]
    exact ⟨rfl, rfl, fun _ _ => rfl⟩

theorem silent {m : Core σ Unit} : Refines (silent m) (Usbd.silent m) := by
  intro x
  rcases run : m x.system with ⟨code | u, s'⟩
  · rw [silent_error run, Usbd.silent, bind_error _ run]
    exact ⟨rfl, rfl⟩
  · rw [silent_ok run, Usbd.silent, bind_ok _ run]
    exact ⟨rfl, rfl, fun n _ => (take_nil).symm⟩

theorem ite {c : Prop} [Decidable c] {n' : Ep0M σ Reply} {n : Core σ Response} (pos : c → Refines m' m)
    (neg : ¬c → Refines n' n) : Refines (if c then m' else n') (if c then m else n) := by
  split
  · next h => exact pos h
  · next h => exact neg h

theorem readDevice {α : Type} {f : System σ → α} {k' : α → Ep0M σ Reply} {k : α → Core σ Response}
    (rest : ∀ a, Refines (k' a) (k a)) :
    Refines (read (fun x : Buffered σ => f x.system) >>= k') (read f >>= k) :=
  fun x => rest (f x.system) x

theorem control {f : Stores → Stores} (data : Bytes) (image : ∀ b, (List.range data.length).map (f b).bytes = data) :
    Refines (fill f >>= fun _ => Pure.pure ⟨.control, data.length⟩ : Ep0M σ Reply)
      (Pure.pure ⟨data, data.length⟩) := by
  intro x
  refine ⟨rfl, rfl, fun n (le : n ≤ data.length) => ?_⟩
  change (List.range n).map (f x.control).bytes = data.take n
  have front := congrArg (List.take n) (image x.control)
  rwa [← map_take, take_range, Nat.min_eq_left le] at front

end Refines

theorem classGetStringProcess_quiet (index : Nat) (s : System σ) : (classGetStringProcess e index s).2 = s := by
  rw [classGetStringProcess, outside, bind_run, zoom]
  simp only [Call.read]
  cases if index < maxStringMapEntries then (e.stringToClass index).bind (e.interfaceString · s.outside) else none
  · rfl
  · rfl

theorem stringGet_quiet (d : Device) (index : UInt8) (s : System σ) : (stringGet e d index s).2 = s := by
  simp only [stringGet]
  split
  · rfl
  split
  · rfl
  split
  · rfl
  split
  · rfl
  · exact classGetStringProcess_quiet _ s

theorem stringToStringDescriptor_bytes (string : Text) (b : Stores) {n : Nat}
    (le : n ≤ ((stringToStringDescriptor string b).bytes 0).toNat) :
    (List.range n).map (stringToStringDescriptor string b).bytes = (Usbd.stringToStringDescriptor string).take n := by
  have small := encodedLength_le string
  rw [string_bLength] at le
  have fits : n ≤ 2 + 2 * (encodedLength string).toNat := by omega
  have front := congrArg (List.take n) (string_image string b)
  rwa [← map_take, take_range, Nat.min_eq_left fits] at front

theorem standardGetStringDescriptorProcess_refines :
    Refines (standardGetStringDescriptorProcess e) (Usbd.standardGetStringDescriptorProcess e) := by
  intro x
  rw [standardGetStringDescriptorProcess, Usbd.standardGetStringDescriptorProcess, read_bind, read_bind]
  dsimp only
  by_cases lang : lowByte x.system.device.request.wValue = langIdStringIndex
  · rw [if_pos lang, if_pos lang]
    refine ⟨rfl, rfl, fun n le => ?_⟩
    have four : n ≤ 4 := Nat.le_trans le (Nat.min_le_right _ _)
    change (List.range n).map _ = _
    have image : (List.range 4).map ((((x.control.put 0 4).put 1 descTypeString).put 2 0x09).put 3 0x04).bytes =
        [4, descTypeString, 0x09, 0x04] := rfl
    have front := congrArg (List.take n) image
    rwa [← map_take, take_range, Nat.min_eq_left four] at front
  · rw [if_neg lang, if_neg lang]
    rcases got : stringGet e x.system.device (lowByte x.system.device.request.wValue) x.system with
      ⟨code | string, s'⟩
    · rw [bind_error _ got]
      rw [bind_error _ (core_error got)]
      exact ⟨rfl, rfl⟩
    · rw [bind_ok _ got]
      rw [bind_ok _ (core_ok got)]
      have first : ((Usbd.stringToStringDescriptor string).headD 0).toNat =
          ((stringToStringDescriptor string x.control).bytes 0).toNat := by
        rw [← string_image string x.control, List.range_eq_range', Nat.add_comm]
        rfl
      refine ⟨rfl, ?_, fun n le => ?_⟩
      · change min _ _ = min _ _
        rw [first]
      · exact stringToStringDescriptor_bytes string x.control (Nat.le_trans le (Nat.min_le_right _ _))

theorem standardGetDescriptorProcess_refines :
    Refines (standardGetDescriptorProcess e) (Usbd.standardGetDescriptorProcess e) := by
  intro x
  rw [standardGetDescriptorProcess, read_bind]
  by_cases string : highByte x.system.device.request.wValue = descTypeString
  · rw [if_pos string]
    have same : Usbd.standardGetDescriptorProcess e x.system =
        Usbd.standardGetStringDescriptorProcess e x.system := by
      rw [Usbd.standardGetDescriptorProcess, read_bind, string]
      rw [if_neg (by decide), if_neg (by decide), if_neg (by decide), if_pos rfl]
    rw [same]
    exact standardGetStringDescriptorProcess_refines x
  · rw [if_neg string]
    exact Refines.fromObject x

theorem deviceStatus_refines (wake powered : Bool) : Refines (deviceStatus wake powered : Ep0M σ Reply)
    (pure ⟨[(if wake = true then 0x02 else 0x00) ||| (if powered = true then 0x01 else 0x00), 0], 2⟩) := by
  cases wake <;> cases powered
  · exact Refines.control [0, 0] fun _ => rfl
  · exact Refines.control (f := fun b => ((b.put 0 0).put 1 0).put 0 (0 ||| 0x01)) [0 ||| 0x01, 0] fun _ => rfl
  · exact Refines.control (f := fun b => ((b.put 0 0).put 1 0).put 0 (0 ||| 0x02)) [0x02 ||| 0, 0] fun _ => rfl
  · exact Refines.control (f := fun b => (((b.put 0 0).put 1 0).put 0 (0 ||| 0x02)).put 0 (0 ||| 0x02 ||| 0x01))
      [0x02 ||| 0x01, 0] fun _ => rfl

theorem standardGetStatusProcess_refines :
    Refines (standardGetStatusProcess e) (Usbd.standardGetStatusProcess e) := by
  refine Refines.readDevice (f := System.device) fun d => .ite (fun _ => deviceStatus_refines _ _)
    fun _ => .ite (fun _ => .fromObject) fun _ => .ite (fun _ => ?_) fun _ => .fail
  intro x
  exact Refines.control
    (f := fun b => (b.put 0 (if e.epIsStalled (lowByte d.request.wIndex) x.system.outside then 1 else 0)).put 1 0)
    [if e.epIsStalled (lowByte d.request.wIndex) x.system.outside then 1 else 0, 0] (fun _ => rfl) x

theorem standardGetConfigurationProcess_refines :
    Refines (standardGetConfigurationProcess : Ep0M σ Reply) Usbd.standardGetConfigurationProcess :=
  .readDevice (f := System.device) fun d => .ite
    (fun _ => .control [d.configurationValue] fun _ => rfl)
    fun _ => .ite (fun _ => .control [0] fun _ => rfl) fun _ => .fail

theorem standardGetInterfaceProcess_refines :
    Refines (standardGetInterfaceProcess e) (Usbd.standardGetInterfaceProcess e) := by
  refine Refines.readDevice (f := fun s => s.device.request) fun r => .ite (fun _ => ?_) fun _ => .fail
  intro x
  rw [attempt_bind, attempt_bind]
  have object := @Refines.fromObject σ (classInRequestProcess e) x
  rcases run : classInRequestProcess e x.system with ⟨code | response, s'⟩
  · rw [fromObject_error run]
    by_cases known : (lowByte r.wIndex).toNat < e.nextInterface
    · simp only [if_pos known]
      exact Refines.control [0] (fun _ => rfl) { x with system := s' }
    · simp only [if_neg known]
      exact ⟨rfl, rfl⟩
  · rw [fromObject_ok run]
    exact ⟨rfl, rfl, fun _ _ => rfl⟩

theorem standardSetSelProcess_refines :
    Refines (standardSetSelProcess : Ep0M σ Reply) Usbd.standardSetSelProcess := by
  intro x
  rcases run : (Usbd.standardSetSelProcess : Core σ Response) x.system with ⟨code | response, s'⟩
  · rw [standardSetSelProcess_error run]
    exact ⟨rfl, rfl⟩
  · have empty : response.data = [] := by
      rw [Usbd.standardSetSelProcess, read_bind] at run
      split at run
      · cases run
        rfl
      · cases run
    rw [standardSetSelProcess_ok run]
    exact ⟨rfl, rfl, fun n _ => by rw [empty]; exact take_nil.symm⟩

theorem standardRequestProcess_refines : Refines (standardRequestProcess e) (Usbd.standardRequestProcess e) :=
  .readDevice (f := fun s => s.device.request) fun _ =>
    .ite (fun _ => standardGetStatusProcess_refines) fun _ => .ite (fun _ => .silent)
      fun _ => .ite (fun _ => .silent) fun _ =>
    .ite (fun _ => .silent) fun _ => .ite (fun _ => standardGetDescriptorProcess_refines)
      fun _ => .ite (fun _ => .fail) fun _ =>
    .ite (fun _ => standardGetConfigurationProcess_refines) fun _ => .ite (fun _ => .silent) fun _ =>
    .ite (fun _ => standardGetInterfaceProcess_refines) fun _ => .ite (fun _ => .silent)
      fun _ => .ite (fun _ => .fail) fun _ =>
    .ite (fun _ => standardSetSelProcess_refines) fun _ => .ite (fun _ => .silent) fun _ => .fail

theorem setupRequestDispatch_refines : Refines (setupRequestDispatch e) (Usbd.setupRequestDispatch e) :=
  .readDevice (f := fun s => s.device.request) fun _ => .ite (fun _ => standardRequestProcess_refines) fun _ =>
    .ite (fun _ => .ite (fun _ => .fromObject) fun _ => .ite
      (fun _ _ => ⟨rfl, rfl, fun _ _ => (take_nil).symm⟩) fun _ => .silent) fun _ => .fail

end Refinement

end XSDK.Usbd.Ep0
