import XSDK.Bridge.Uart
import XSDK.Library.Hex

/-! The SLCAN text protocol of the CAN bridge: lines from the host, and lines to it. -/
namespace XSDK.Bridge.Slcan

open Library

structure Frame where
  id : UInt32
  isExtended : Bool
  isRtr : Bool
  dlc : UInt8
  data : Bytes
  deriving DecidableEq, Repr

/-- What the bridge asks of the CAN peripheral and of USB. -/
inductive Event
  | open
  | close
  | setBitrate (hz : UInt32)
  | transmit (frame : Frame)
  | receive (frame : Frame)
  | send (data : Bytes)
  deriving DecidableEq, Repr

/-- Whether the last event of a log succeeds. -/
abbrev Env : Type := List Event → Bool

structure Channel where
  isOpen : Bool
  isTimestampEnabled : Bool
  log : List Event
  deriving DecidableEq

structure Context where
  line : Bytes
  channel : Channel
  deriving DecidableEq

def canInit : Context := ⟨[], ⟨false, false, []⟩⟩

def lineMax : Nat := 32
def bell : Bytes := [0x07]
def cr : Bytes := [0x0D]
def bitrateTable : List UInt32 := [10000, 20000, 50000, 100000, 125000, 250000, 500000, 800000, 1000000]

def hexNibble (c : UInt8) : UInt8 :=
  if 0x30 ≤ c ∧ c ≤ 0x39 then c - 0x30
  else if 0x41 ≤ c ∧ c ≤ 0x46 then c - 0x41 + 10
  else if 0x61 ≤ c ∧ c ≤ 0x66 then c - 0x61 + 10
  else 0

def parseHex (buf : Bytes) (nibbles : Nat) : UInt32 :=
  (buf.take nibbles).foldl (fun (val : UInt32) c => val <<< 4 ||| (hexNibble c).toUInt32) 0

def Channel.did (c : Channel) (event : Event) : Channel := { c with log := c.log ++ [event] }

variable (env : Env)

def sendAck (c : Channel) (resp : Bytes) : Bool × Channel :=
  (env (c.did (.send resp)).log, c.did (.send resp))

/-- The two transmit commands: their opcode, digits of the identifier and acknowledgement. -/
inductive Kind
  | standard
  | extended
  deriving DecidableEq

def Kind.cmd : Kind → UInt8
  | .standard => 0x74
  | .extended => 0x54

def Kind.digits : Kind → Nat
  | .standard => 3
  | .extended => 8

def Kind.isExtended : Kind → Bool
  | .standard => false
  | .extended => true

def Kind.ok : Kind → Bytes
  | .standard => [0x7A, 0x0D]
  | .extended => [0x5A, 0x0D]

def Kind.header (k : Kind) : Nat := k.digits + 2

def transmitFrame (c : Channel) (k : Kind) (frame : Frame) : Bool × Channel :=
  if env (c.did (.transmit frame)).log then sendAck env (c.did (.transmit frame)) k.ok
  else sendAck env (c.did (.transmit frame)) bell

def transmitLine (c : Channel) (k : Kind) (line : Bytes) : Bool × Channel :=
  if ¬ c.isOpen ∨ line.length < k.header then sendAck env c bell
  else
    let id := parseHex (line.drop 1) k.digits
    let dlc := hexNibble (line.getD (k.digits + 1) 0)
    if 8 < dlc.toNat ∨ line.length < k.header + dlc.toNat * 2 then sendAck env c bell
    else
      let data := (List.range dlc.toNat).map fun i => (parseHex (line.drop (k.header + i * 2)) 2).toUInt8
      transmitFrame env c k ⟨id, k.isExtended, false, dlc, data⟩

def otherCommand (c : Channel) (cmd : UInt8) (arg : Option UInt8) : Bool × Channel :=
  if cmd = 0x4F then
    let c := if c.isOpen then c else
      let c := c.did .open
      if env c.log then { c with isOpen := true } else c
    sendAck env c cr
  else if cmd = 0x43 then
    let c := if c.isOpen then { c.did .close with isOpen := false } else c
    sendAck env c cr
  else if cmd = 0x53 then
    let c := match arg with
      | some n =>
        match bitrateTable[(n.toUInt32 - 0x30).toNat]? with
        | some hz => c.did (.setBitrate hz)
        | none => c
      | none => c
    sendAck env c cr
  else if cmd = 0x5A then
    let c := match arg with
      | some n => { c with isTimestampEnabled := n ≠ 0x30 }
      | none => c
    sendAck env c cr
  else sendAck env c bell

def dispatchSlcanLine (c : Channel) (line : Bytes) : Bool × Channel :=
  match line.head? with
  | none => (true, c)
  | some cmd =>
    if cmd = Kind.cmd .standard then transmitLine env c .standard line
    else if cmd = Kind.cmd .extended then transmitLine env c .extended line
    else otherCommand env c cmd (line)[1]?

def onUsbReceive (env : Env) (c : Context) : Bytes → Bool × Context
  | [] => (true, c)
  | byte :: rest =>
    if byte = 0x0D then
      let (ok, channel) := dispatchSlcanLine env c.channel c.line
      if ok then onUsbReceive env ⟨[], channel⟩ rest else (false, ⟨[], channel⟩)
    else if c.line.length < lineMax then onUsbReceive env { c with line := c.line ++ [byte] } rest
    else onUsbReceive env c rest

def received (c : Context) (chunks : List Bytes) : Context :=
  chunks.foldl (fun c chunk => (onUsbReceive env c chunk).2) c

/-! ### The grammar of a frame -/

def Kind.idLimit : Kind → Nat
  | .standard => 0x7FF
  | .extended => 0x1FFFFFFF

/-- The frame of a line that is an opcode, the digits of an identifier in range, a digit 0 to 8 and
that many pairs of digits. -/
def Kind.frame? (k : Kind) (line : Bytes) : Option Frame :=
  match line.drop (k.digits + 1) with
  | [] => none
  | d :: data =>
    let ids := (line.drop 1).take k.digits
    if Hex.Digits ids ∧ Hex.value ids ≤ k.idLimit ∧ 48 ≤ d.toNat ∧ d.toNat ≤ 56 ∧
        data.length = 2 * (d.toNat - 48) ∧ Hex.Digits data then
      some ⟨UInt32.ofNat (Hex.value ids), k.isExtended, false, d - 48, Hex.bytes data⟩
    else none

/-- What a transmit line is for: the frame it writes, or else a bell. -/
def strictLine (c : Channel) (k : Kind) (line : Bytes) : Bool × Channel :=
  if c.isOpen then
    match k.frame? line with
    | some frame => transmitFrame env c k frame
    | none => sendAck env c bell
  else sendAck env c bell

def strictDispatch (c : Channel) (line : Bytes) : Bool × Channel :=
  match line.head? with
  | none => (true, c)
  | some cmd =>
    if cmd = Kind.cmd .standard then strictLine env c .standard line
    else if cmd = Kind.cmd .extended then strictLine env c .extended line
    else otherCommand env c cmd (line)[1]?

/-- A stream is a sequence of lines of any length, whatever becomes of the answers. -/
def strictByte (c : Context) (byte : UInt8) : Context :=
  if byte = 0x0D then ⟨[], (strictDispatch env c.channel c.line).2⟩ else { c with line := c.line ++ [byte] }

/-- The tests of the source on a line, as far as it has been stored. -/
def Kind.Passes (k : Kind) (line : Bytes) : Prop :=
  k.header ≤ line.length ∧ (hexNibble (line.getD (k.digits + 1) 0)).toNat ≤ 8 ∧
    k.header + (hexNibble (line.getD (k.digits + 1) 0)).toNat * 2 ≤ line.length

/-- A transmit line that passes the tests and writes no frame. -/
def Lenient (line : Bytes) : Prop :=
  ∃ k : Kind, line.head? = some k.cmd ∧ k.Passes (line.take lineMax) ∧ k.frame? line = none

/-- No lenient line ends while the channel is open, and no answer fails while bytes of its chunk remain. -/
def Fair (env : Env) (c : Context) : Bytes → Prop
  | [] => True
  | byte :: rest =>
    (byte = 0x0D → c.channel.isOpen = true → ¬ Lenient c.line) ∧
      (byte = 0x0D → rest ≠ [] → (strictDispatch env c.channel c.line).1 = true) ∧
      Fair env (strictByte env c byte) rest

def FairCalls (env : Env) (c : Context) : List Bytes → Prop
  | [] => True
  | chunk :: rest => Fair env c chunk ∧ FairCalls env (chunk.foldl (strictByte env) c) rest

/-! ### One line -/

theorem hexNibble_digit {c : UInt8} (isDigit : Hex.IsDigit c) :
    (hexNibble c).toUInt32.toNat = Hex.digit c ∧ Hex.digit c < 16 := by
  have ten : ((10 : UInt8)).toNat = 10 := rfl
  simp only [Hex.IsDigit] at isDigit
  simp only [hexNibble, Hex.digit, UInt8.le_iff_toNat_le, UInt8.toNat_ofNat, UInt8.toNat_toUInt32]
  rcases isDigit with decimal | upper | lower
  · rw [if_pos (by omega), if_pos (by omega), UInt8.toNat_sub_of_le c 0x30 (UInt8.le_iff_toNat_le.mpr decimal.1)]
    exact ⟨rfl, by omega⟩
  · rw [if_neg (by omega), if_pos (by omega), if_neg (by omega), if_pos (by omega), UInt8.toNat_add,
      UInt8.toNat_sub_of_le c 0x41 (UInt8.le_iff_toNat_le.mpr upper.1), ten, show (0x41 : UInt8).toNat = 65 from rfl]
    omega
  · rw [if_neg (by omega), if_neg (by omega), if_pos (by omega), if_neg (by omega), if_neg (by omega),
      UInt8.toNat_add, UInt8.toNat_sub_of_le c 0x61 (UInt8.le_iff_toNat_le.mpr lower.1), ten,
      show (0x61 : UInt8).toNat = 97 from rfl]
    omega

theorem parseHex_value {buf : Bytes} {nibbles : Nat} (isDigit : Hex.Digits (buf.take nibbles))
    (short : nibbles ≤ 8) : parseHex buf nibbles = UInt32.ofNat (Hex.value (buf.take nibbles)) := by
  refine Hex.word_eq_value (fun c member => hexNibble_digit (isDigit c member)) ?_
  rw [List.length_take]
  omega

theorem parseHex_bytes (data : Bytes) (n : Nat) (length : data.length = 2 * n) (isDigit : Hex.Digits data) :
    ((List.range n).map fun i => (parseHex (data.drop (i * 2)) 2).toUInt8) = Hex.bytes data := by
  induction n generalizing data with
  | zero =>
    rw [List.eq_nil_of_length_eq_zero length]
    rfl
  | succ n ih =>
    match data, length, isDigit with
    | a :: b :: rest, length, isDigit =>
      have first : parseHex (a :: b :: rest) 2 = UInt32.ofNat (Hex.value [a, b]) :=
        parseHex_value (fun c member => isDigit c (List.mem_of_mem_take member)) (by decide)
      have more := ih rest (by simp only [List.length_cons] at length; omega) fun c member =>
        isDigit c (List.mem_cons_of_mem _ (List.mem_cons_of_mem _ member))
      rw [List.range_succ_eq_map, List.map_cons, List.map_map, Hex.bytes, ← more]
      simp only [Nat.zero_mul, List.drop_zero, first, Function.comp_def, Nat.succ_mul, List.drop_succ_cons]
      simp

variable {line : Bytes} {c : Channel} {k : Kind}

theorem Kind.frame?_eq_some {frame : Frame} (writes : k.frame? line = some frame) :
    ∃ d data, line.drop (k.digits + 1) = d :: data ∧ Hex.Digits ((line.drop 1).take k.digits) ∧
      48 ≤ d.toNat ∧ d.toNat ≤ 56 ∧ data.length = 2 * (d.toNat - 48) ∧ Hex.Digits data ∧
      frame = ⟨UInt32.ofNat (Hex.value ((line.drop 1).take k.digits)), k.isExtended, false, d - 48, Hex.bytes data⟩ := by
  simp only [Kind.frame?] at writes
  split at writes
  · cases writes
  · rename_i d data tail
    split at writes
    · rename_i shape
      obtain ⟨ids, _, low, high, length, pairs⟩ := shape
      exact ⟨d, data, tail, ids, low, high, length, pairs, (Option.some.inj writes).symm⟩
    · cases writes

theorem transmitLine_frame (isOpen : c.isOpen = true) {frame : Frame} (writes : k.frame? line = some frame) :
    line.length ≤ lineMax ∧ transmitLine env c k line = transmitFrame env c k frame := by
  obtain ⟨d, data, tail, ids, low, high, length, pairs, rfl⟩ := Kind.frame?_eq_some writes
  have size : line.length = k.digits + 1 + (data.length + 1) := by
    have whole := congrArg List.length tail
    rw [List.length_drop, List.length_cons] at whole
    omega
  have few : k.digits ≤ 8 := by cases k <;> decide
  have at_ : line.getD (k.digits + 1) 0 = d := by
    rw [List.getD_eq_getElem?_getD, ← List.head?_drop, tail]
    rfl
  have digit : Hex.IsDigit d := .inl (by omega)
  have dlc : hexNibble d = d - 48 := by
    simp only [hexNibble, UInt8.le_iff_toNat_le, UInt8.toNat_ofNat]
    rw [if_pos (by omega)]
  have count : (d - 48).toNat = d.toNat - 48 := UInt8.toNat_sub_of_le d 0x30 (UInt8.le_iff_toNat_le.mpr low)
  have rest : line.drop k.header = data := by
    rw [Kind.header, show k.digits + 2 = k.digits + 1 + 1 from rfl, ← List.drop_drop, tail]
    rfl
  have read : ((List.range (d - 48).toNat).map fun i => (parseHex (line.drop (k.header + i * 2)) 2).toUInt8) =
      Hex.bytes data := by
    rw [count, ← parseHex_bytes data _ length pairs]
    refine List.map_congr_left fun i _ => ?_
    rw [← rest, List.drop_drop]
  refine ⟨by rw [lineMax]; omega, ?_⟩
  have header : k.header = k.digits + 2 := rfl
  simp only [transmitLine, at_, dlc]
  rw [if_neg (by simp only [isOpen, not_true_eq_false, false_or]; omega), if_neg (by omega), read,
    parseHex_value ids few]

theorem transmitLine_fails
    (fails : ¬ (c.isOpen = true ∧ k.Passes line)) : transmitLine env c k line = sendAck env c bell := by
  simp only [transmitLine]
  by_cases first : ¬ c.isOpen ∨ line.length < k.header
  · rw [if_pos first]
  · rw [if_neg first, if_pos]
    by_contra second
    rw [not_or, not_not] at first
    rw [not_or] at second
    exact fails ⟨first.1, by omega, by omega, by omega⟩

theorem transmitLine_strict (c : Channel) (k : Kind) (starts : line.head? = some k.cmd)
    (exact : c.isOpen = true → ¬ Lenient line) :
    transmitLine env c k (line.take lineMax) = strictLine env c k line := by
  rw [strictLine]
  by_cases isOpen : c.isOpen = true
  · rw [if_pos isOpen]
    cases writes : k.frame? line with
    | some frame =>
      obtain ⟨fits, transmits⟩ := transmitLine_frame env isOpen writes
      rw [List.take_of_length_le fits, transmits]
    | none => exact transmitLine_fails env fun passes => exact isOpen ⟨k, starts, passes.2, writes⟩
  · rw [if_neg isOpen]
    exact transmitLine_fails env fun passes => isOpen passes.1

theorem dispatch_strict (c : Channel) (line : Bytes) (exact : c.isOpen = true → ¬ Lenient line) :
    dispatchSlcanLine env c (line.take lineMax) = strictDispatch env c line := by
  have first : (line.take lineMax).head? = line.head? := by cases line <;> rfl
  have second : (line.take lineMax)[1]? = (line)[1]? := List.getElem?_take_of_lt (by decide)
  rw [dispatchSlcanLine, strictDispatch, first, second]
  cases starts : line.head? with
  | none => rfl
  | some cmd =>
    simp only
    by_cases standard : cmd = Kind.cmd .standard
    · rw [if_pos standard, if_pos standard]
      exact transmitLine_strict env c .standard (by rw [starts, standard]) exact
    · by_cases extended : cmd = Kind.cmd .extended
      · rw [if_neg standard, if_pos extended, if_neg standard, if_pos extended]
        exact transmitLine_strict env c .extended (by rw [starts, extended]) exact
      · rw [if_neg standard, if_neg extended, if_neg standard, if_neg extended]

/-! ### A stream -/

def Context.cut (c : Context) : Context := { c with line := c.line.take lineMax }

theorem onUsbReceive_strict (c : Context) (chunk : Bytes) (fair : Fair env c chunk) :
    (onUsbReceive env c.cut chunk).2 = (chunk.foldl (strictByte env) c).cut := by
  induction chunk generalizing c with
  | nil => rfl
  | cons byte rest ih =>
    obtain ⟨exact, answered, later⟩ := fair
    have more := ih _ later
    rw [onUsbReceive, List.foldl_cons, ← more]
    by_cases ends : byte = 0x0D
    · rw [if_pos ends]
      have same : dispatchSlcanLine env c.cut.channel c.cut.line = strictDispatch env c.channel c.line :=
        dispatch_strict env c.channel c.line (exact ends)
      have next : (strictByte env c byte).cut = ⟨[], (strictDispatch env c.channel c.line).2⟩ := by
        rw [strictByte, if_pos ends]
        rfl
      rw [same, next]
      simp only
      by_cases last : rest = []
      · rw [last]
        split <;> rfl
      · rw [if_pos (answered ends last)]
    · rw [if_neg ends]
      have next : strictByte env c byte = { c with line := c.line ++ [byte] } := if_neg ends
      rw [next]
      by_cases room : c.cut.line.length < lineMax
      · rw [if_pos room]
        have whole : c.line.length < lineMax := by
          rw [Context.cut, List.length_take] at room
          omega
        have grown : Context.cut { c with line := c.line ++ [byte] } = { c.cut with line := c.cut.line ++ [byte] } := by
          simp only [Context.cut, List.take_of_length_le (Nat.le_of_lt whole)]
          rw [List.take_of_length_le (by rw [List.length_append, List.length_singleton]; omega)]
        rw [grown]
      · rw [if_neg room]
        have full : lineMax ≤ c.line.length := by
          rw [Context.cut, List.length_take] at room
          omega
        have same : Context.cut { c with line := c.line ++ [byte] } = c.cut := by
          rw [Context.cut, Context.cut, List.take_append_of_le_length full]
        rw [same]

theorem received_strict (c : Context) (chunks : List Bytes) (fair : FairCalls env c chunks) :
    received env c.cut chunks = (chunks.flatten.foldl (strictByte env) c).cut := by
  induction chunks generalizing c with
  | nil => rfl
  | cons chunk rest ih =>
    rw [received, List.foldl_cons, List.flatten_cons, List.foldl_append, onUsbReceive_strict env c chunk fair.1]
    exact ih _ fair.2

theorem sendAck_log (c : Channel) (resp : Bytes) : (sendAck env c resp).2.log.length = c.log.length + 1 := by
  simp [sendAck, Channel.did]

theorem transmitFrame_log (c : Channel) (k : Kind) (frame : Frame) :
    (transmitFrame env c k frame).2.log.length = c.log.length + 2 := by
  simp only [transmitFrame]
  split <;> simp [sendAck_log, Channel.did]

theorem transmitLine_passes (isOpen : c.isOpen = true)
    (passes : k.Passes line) : ∃ frame, transmitLine env c k line = transmitFrame env c k frame := by
  obtain ⟨long, small, whole⟩ := passes
  simp only [transmitLine]
  rw [if_neg (by simp only [isOpen, not_true_eq_false, false_or]; omega), if_neg (by omega)]
  exact ⟨_, rfl⟩

theorem dispatch_lenient (isOpen : c.isOpen = true)
    (lenient : Lenient line) : dispatchSlcanLine env c (line.take lineMax) ≠ strictDispatch env c line := by
  obtain ⟨k, starts, passes, nothing⟩ := lenient
  have first : (line.take lineMax).head? = line.head? := by cases line <;> rfl
  obtain ⟨frame, transmits⟩ := transmitLine_passes env isOpen passes
  have code : dispatchSlcanLine env c (line.take lineMax) = transmitFrame env c k frame := by
    rw [dispatchSlcanLine, first, starts, ← transmits]
    cases k <;> rfl
  have spec : strictDispatch env c line = sendAck env c bell := by
    have bells : strictLine env c k line = sendAck env c bell := by
      rw [strictLine, if_pos isOpen, nothing]
    rw [strictDispatch, starts, ← bells]
    cases k <;> rfl
  intro same
  have lengths := congrArg (fun r => r.2.log.length) same
  simp only [code, spec, transmitFrame_log, sendAck_log] at lengths
  omega

/-- A line is handled as the grammar says exactly where it is not lenient or the channel is closed; and where
the condition holds throughout, the bridge does what the stream says, whatever the chunks. -/
theorem slcan_strict (env : Env) :
    (∀ c line, dispatchSlcanLine env c (line.take lineMax) = strictDispatch env c line ↔
      ¬ (c.isOpen = true ∧ Lenient line)) ∧
    (∀ chunks, FairCalls env canInit chunks →
      (received env canInit chunks).channel = (chunks.flatten.foldl (strictByte env) canInit).channel) ∧
    (∀ chunks others, FairCalls env canInit chunks → FairCalls env canInit others →
      chunks.flatten = others.flatten → received env canInit chunks = received env canInit others) := by
  have strict : ∀ chunks, FairCalls env canInit chunks →
      received env canInit chunks = (chunks.flatten.foldl (strictByte env) canInit).cut := fun chunks fair =>
    received_strict env canInit chunks fair
  refine ⟨fun c line => ⟨fun same lenient => ?_, fun exact => ?_⟩, fun chunks fair => ?_,
    fun chunks others fair too same => ?_⟩
  · exact dispatch_lenient env lenient.1 lenient.2 same
  · exact dispatch_strict env c line fun isOpen lenient => exact ⟨isOpen, lenient⟩
  · rw [strict chunks fair]
    rfl
  · rw [strict chunks fair, strict others too, same]

/-- `O`, then `t7FF1` and a byte, over three calls. -/
theorem slcan_strict_split :
    (received (fun _ => true) canInit [[0x4F, 0x0D], [0x74, 0x37, 0x46], [0x46, 0x31, 0x41, 0x42, 0x0D]]).channel =
      ([0x4F, 0x0D, 0x74, 0x37, 0x46, 0x46, 0x31, 0x41, 0x42, 0x0D].foldl (strictByte fun _ => true)
        canInit).channel := by
  refine (slcan_strict fun _ => true).2.1 _ ?_
  have written : ¬ Lenient [0x74, 0x37, 0x46, 0x46, 0x31, 0x41, 0x42] := by
    rintro ⟨k, starts, _, nothing⟩
    cases k with
    | standard => exact absurd nothing (by decide)
    | extended => exact absurd starts (by decide)
  have bare {c : Context} {byte : UInt8} {rest : Bytes} (other : byte ≠ 0x0D)
      (after : Fair (fun _ => true) (strictByte (fun _ => true) c byte) rest) : Fair (fun _ => true) c (byte :: rest) :=
    ⟨fun cr => absurd cr other, fun cr => absurd cr other, after⟩
  refine ⟨bare (by decide) ⟨fun _ isOpen => absurd isOpen (by decide), fun _ more => absurd rfl more, trivial⟩,
    bare (by decide) (bare (by decide) (bare (by decide) trivial)), ?_, trivial⟩
  refine bare (by decide) (bare (by decide) (bare (by decide) (bare (by decide) ?_)))
  exact ⟨fun _ _ => written, fun _ more => absurd rfl more, trivial⟩

/-- `tXYZ0` on an open channel. -/
theorem slcan_misreads :
    (received (fun _ => true) canInit [[0x4F, 0x0D, 0x74, 0x58, 0x59, 0x5A, 0x30, 0x0D]]).channel ≠
      ([0x4F, 0x0D, 0x74, 0x58, 0x59, 0x5A, 0x30, 0x0D].foldl (strictByte fun _ => true) canInit).channel := by
  decide

end XSDK.Bridge.Slcan
