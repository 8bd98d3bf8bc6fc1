import XSDK.Logic.Core

/-! The SUMP byte machine and the transport that feeds it and sends its replies. -/
namespace XSDK.Logic.Sump

open Function (update)

inductive ParseState
  | cmd
  | arg
  deriving DecidableEq, Repr

inductive Event
  | none
  | reset
  | run
  | queryId
  | metadata
  | configSet
  deriving DecidableEq, Repr

/-- The capture configuration that long commands decode. -/
structure SumpConfig where
  divider : UInt32
  readCount : UInt32
  delayCount : UInt32
  flags : UInt32
  triggerMask : UInt32
  triggerValue : UInt32
  triggerMode : TriggerMode
  deriving DecidableEq

structure SumpContext where
  parseState : ParseState
  pendingCmd : UInt8
  argBytes : Nat → UInt8
  argCount : Nat
  config : SumpConfig

def SumpConfig.init : SumpConfig := ⟨0, 0, 0, 0, 0, 0, .none⟩

def sumpInit : SumpContext := ⟨.cmd, 0, fun _ => 0, 0, .init⟩

def isLongCommand (cmd : UInt8) : Bool := cmd &&& 0x80 != 0

/-- Four argument bytes, the least significant one first. -/
def argWord (a b c d : UInt8) : UInt32 :=
  d.toUInt32 <<< 24 ||| c.toUInt32 <<< 16 ||| b.toUInt32 <<< 8 ||| a.toUInt32

def assembleArg (s : SumpContext) : UInt32 :=
  argWord (s.argBytes 0) (s.argBytes 1) (s.argBytes 2) (s.argBytes 3)

def processShortCommand (s : SumpContext) (cmd : UInt8) : SumpContext × Event :=
  if cmd = 0x00 then (sumpInit, .reset)
  else if cmd = 0x01 then (s, .run)
  else if cmd = 0x02 then (s, .queryId)
  else if cmd = 0x04 then (s, .metadata)
  else (s, .none)

/-- The switch of `process_long_command`. -/
def SumpConfig.set (c : SumpConfig) (cmd : UInt8) (arg : UInt32) : SumpConfig × Event :=
  if cmd = 0x80 then ({ c with divider := arg &&& 0x00FFFFFF }, .configSet)
  else if cmd = 0x81 then
    ({ c with
      readCount := ((arg &&& 0x0000FFFF) + 1) * 4
      delayCount := ((arg >>> 16 &&& 0x0000FFFF) + 1) * 4 }, .configSet)
  else if cmd = 0x82 then ({ c with flags := arg }, .configSet)
  else if cmd = 0xC0 then ({ c with triggerMask := arg }, .configSet)
  else if cmd = 0xC1 then ({ c with triggerValue := arg }, .configSet)
  else if cmd = 0xC4 then
    ({ c with triggerMode := if arg &&& 0x00000001 ≠ 0 then .level else .edge }, .configSet)
  else (c, .none)

def processLongCommand (s : SumpContext) : SumpContext × Event :=
  ({ s with config := (s.config.set s.pendingCmd (assembleArg s)).1 },
    (s.config.set s.pendingCmd (assembleArg s)).2)

def feedByte (s : SumpContext) (byte : UInt8) : SumpContext × Event :=
  if s.parseState = .cmd then
    if isLongCommand byte then ({ s with pendingCmd := byte, argCount := 0, parseState := .arg }, .none)
    else processShortCommand s byte
  else
    let s := { s with argBytes := update s.argBytes s.argCount byte, argCount := s.argCount + 1 }
    if s.argCount = 4 then
      let (s, event) := processLongCommand s
      ({ s with parseState := .cmd }, event)
    else (s, .none)

/-! ### The metadata -/

inductive SumpError
  | bufferFull
  | txFailed
  deriving DecidableEq, Repr

def sumpId : Bytes := [0x31, 0x41, 0x4C, 0x53]
def metadataBufBytes : Nat := 64
def maxSampleBytes : UInt32 := 0x00200000 - 0x40

variable (max : Nat) (dest : Bytes)

def appendByte (value : UInt8) : Bytes :=
  if dest.length < max then dest ++ [value] else dest

def appendU32Be (value : UInt32) : Bytes :=
  [(value >>> 24).toUInt8, (value >>> 16).toUInt8, (value >>> 8).toUInt8, value.toUInt8].foldl (appendByte max) dest

def appendString (text : String) : Bytes :=
  appendByte max (text.toUTF8.toList.foldl (appendByte max) dest) 0

def buildMetadata : Except SumpError Bytes :=
  if max = 0 then .error .bufferFull
  else
    let dest := appendString max (appendByte max [] 0x01) "xLOGIC AM243x"
    let dest := appendString max (appendByte max dest 0x02) "PRU 1.0"
    let dest := appendU32Be max (appendByte max dest 0x21) maxSampleBytes
    let dest := appendU32Be max (appendByte max dest 0x23) maxSampleRate
    let dest := appendByte max (appendByte max dest 0x40) (UInt8.ofNat maxChannels)
    let dest := appendByte max (appendByte max dest 0x41) 2
    let dest := appendByte max dest 0x00
    if dest.length = max ∧ dest.getLast? ≠ some 0x00 then .error .bufferFull else .ok dest

/-! ### The transport -/

/-- The transport context, with the replies it has handed to `tx_fn`. -/
structure TransportContext where
  sump : SumpContext
  requests : Transport
  sent : List Bytes

/-- Whether `tx_fn` sends the last of these replies. -/
abbrev Sender : Type := List Bytes → Bool

def transportInit : TransportContext := ⟨sumpInit, ⟨false, false⟩, []⟩

variable (tx : Sender)

def sendResponse (t : TransportContext) (data : Bytes) :
    Except SumpError Unit × TransportContext :=
  if data.length = 0 then (.ok (), t)
  else
    (if tx (t.sent ++ [data]) then .ok () else .error .txFailed, { t with sent := t.sent ++ [data] })

def handleEvent (t : TransportContext) : Event → Except SumpError Unit × TransportContext
  | .reset => (.ok (), { t with requests := ⟨false, true⟩ })
  | .queryId => sendResponse tx t sumpId
  | .metadata =>
    match buildMetadata metadataBufBytes with
    | .error e => (.error e, t)
    | .ok block => sendResponse tx t block
  | .run => (.ok (), { t with requests := { t.requests with hasRunRequest := true } })
  | .configSet => (.ok (), t)
  | .none => (.ok (), t)

/-- One pass of the loop of `xLOGIC_Transport_Process_RX`. -/
def processByte (t : TransportContext) (byte : UInt8) :
    Except SumpError Unit × TransportContext :=
  let (sump, event) := feedByte t.sump byte
  let t := { t with sump := sump }
  if event ≠ .none then handleEvent tx t event else (.ok (), t)

def processRx (tx : Sender) (t : TransportContext) : Bytes → Except SumpError Unit × TransportContext
  | [] => (.ok (), t)
  | byte :: rest =>
    match processByte tx t byte with
    | (.error e, t) => (.error e, t)
    | (.ok (), t) => processRx tx t rest

def received (t : TransportContext) (chunks : List Bytes) : TransportContext :=
  chunks.foldl (fun t chunk => (processRx tx t chunk).2) t

/-! ### The stream of commands -/

inductive Command
  | short (cmd : UInt8)
  | long (cmd : UInt8) (arg : UInt32)

/-- The commands of a stream; a long command that the stream ends in is none. -/
def decode : Bytes → List Command
  | [] => []
  | cmd :: rest =>
    if isLongCommand cmd then
      match rest with
      | a :: b :: c :: d :: rest => .long cmd (argWord a b c d) :: decode rest
      | _ => []
    else .short cmd :: decode rest

/-- The configuration and the request flags. -/
structure Decoded where
  config : SumpConfig
  requests : Transport

def Decoded.init : Decoded := ⟨.init, ⟨false, false⟩⟩

def Decoded.apply (s : Decoded) : Command → Decoded
  | .short cmd =>
    if cmd = 0x00 then ⟨.init, ⟨false, true⟩⟩
    else if cmd = 0x01 then { s with requests := { s.requests with hasRunRequest := true } }
    else s
  | .long cmd arg => { s with config := (s.config.set cmd arg).1 }

def TransportContext.decoded (t : TransportContext) : Decoded := ⟨t.sump.config, t.requests⟩

def Unbroken (tx : Sender) (t : TransportContext) : Bytes → Prop
  | [] => True
  | byte :: rest =>
    (rest ≠ [] → (processByte tx t byte).1 = .ok ()) ∧ Unbroken tx (processByte tx t byte).2 rest

def UnbrokenCalls (tx : Sender) (t : TransportContext) : List Bytes → Prop
  | [] => True
  | chunk :: rest => Unbroken tx t chunk ∧ UnbrokenCalls tx (processRx tx t chunk).2 rest

/-- At a command boundary, with the default configuration and a reset requested. -/
structure AfterReset (t : TransportContext) : Prop where
  boundary : t.sump.parseState = .cmd
  config : t.sump.config = .init
  reset : t.requests.hasResetRequest = true

/-! ### One byte -/

theorem handleEvent_sump (t : TransportContext) (event : Event) : (handleEvent tx t event).2.sump = t.sump := by
  cases event with
  | metadata =>
    simp only [handleEvent]
    split
    · rfl
    · simp only [sendResponse]
      split <;> rfl
  | queryId => rfl
  | _ => rfl

theorem handleEvent_requests (t : TransportContext) (event : Event) :
    (handleEvent tx t event).2.requests =
      if event = .reset then ⟨false, true⟩
      else if event = .run then { t.requests with hasRunRequest := true } else t.requests := by
  cases event with
  | metadata =>
    simp only [handleEvent]
    split
    · rfl
    · simp only [sendResponse]
      split <;> rfl
  | queryId => rfl
  | _ => rfl

theorem processByte_sump (t : TransportContext) (byte : UInt8) :
    (processByte tx t byte).2.sump = (feedByte t.sump byte).1 := by
  simp only [processByte]
  split
  · exact handleEvent_sump ..
  · rfl

theorem processByte_requests (t : TransportContext) (byte : UInt8) :
    (processByte tx t byte).2.requests =
      if (feedByte t.sump byte).2 = .reset then ⟨false, true⟩
      else if (feedByte t.sump byte).2 = .run then { t.requests with hasRunRequest := true }
      else t.requests := by
  simp only [processByte]
  split
  · exact handleEvent_requests ..
  · rename_i none
    rw [ne_eq, not_not] at none
    rw [none]
    rfl

theorem set_event (c : SumpConfig) (cmd : UInt8) (arg : UInt32) :
    (c.set cmd arg).2 = .configSet ∨ (c.set cmd arg).2 = .none := by
  simp only [SumpConfig.set]
  split_ifs <;> simp

theorem processByte_short (t : TransportContext) (cmd : UInt8)
    (boundary : t.sump.parseState = .cmd) (short : isLongCommand cmd = false) :
    (processByte tx t cmd).2.sump.parseState = .cmd ∧
      (processByte tx t cmd).2.decoded = t.decoded.apply (.short cmd) := by
  have fed : feedByte t.sump cmd = processShortCommand t.sump cmd := by
    simp only [feedByte, if_pos boundary, short, Bool.false_eq_true, if_false]
  simp only [TransportContext.decoded, processByte_sump, processByte_requests, fed, processShortCommand,
    Decoded.apply]
  split_ifs <;> simp_all [sumpInit]

/-- A long command is open and has these argument bytes so far. -/
structure Pending (s : SumpContext) (cmd : UInt8) (args : Bytes) : Prop where
  state : s.parseState = .arg
  command : s.pendingCmd = cmd
  count : s.argCount = args.length
  bytes : (List.range args.length).map s.argBytes = args

theorem processByte_long (t : TransportContext) (cmd : UInt8)
    (boundary : t.sump.parseState = .cmd) (long : isLongCommand cmd = true) :
    Pending (processByte tx t cmd).2.sump cmd [] ∧ (processByte tx t cmd).2.decoded = t.decoded := by
  have fed : feedByte t.sump cmd = ({ t.sump with pendingCmd := cmd, argCount := 0, parseState := .arg }, .none) := by
    simp only [feedByte, if_pos boundary, long, if_true]
  simp only [TransportContext.decoded, processByte_sump, processByte_requests, fed]
  exact ⟨⟨rfl, rfl, rfl, rfl⟩, rfl⟩

variable {t : TransportContext} {s : SumpContext} {args : Bytes} {cmd : UInt8}

theorem Pending.stored (h : Pending s cmd args) (byte : UInt8) :
    (List.range (args ++ [byte]).length).map (update s.argBytes s.argCount byte) = args ++ [byte] := by
  rw [List.length_append, List.length_singleton, List.range_succ, List.map_append, h.count]
  have kept : (List.range args.length).map (update s.argBytes args.length byte) =
      (List.range args.length).map s.argBytes := by
    refine List.map_congr_left fun k below => ?_
    have other : k ≠ args.length := by
      have inside := List.mem_range.mp below
      omega
    exact Function.update_of_ne other ..
  rw [kept, h.bytes]
  simp

theorem Pending.more (h : Pending t.sump cmd args) (room : args.length < 3) (byte : UInt8) :
    Pending (processByte tx t byte).2.sump cmd (args ++ [byte]) ∧ (processByte tx t byte).2.decoded = t.decoded := by
  have open_ : t.sump.parseState ≠ .cmd := by
    rw [h.state]
    exact nofun
  have short : t.sump.argCount + 1 ≠ 4 := by
    have count := h.count
    omega
  have fed : feedByte t.sump byte =
      ({ t.sump with argBytes := update t.sump.argBytes t.sump.argCount byte, argCount := t.sump.argCount + 1 },
        .none) := by
    simp only [feedByte, if_neg open_, if_neg short]
  simp only [TransportContext.decoded, processByte_sump, processByte_requests, fed]
  refine ⟨⟨h.state, h.command, ?_, h.stored byte⟩, rfl⟩
  simp [h.count]

theorem Pending.last {cmd a b c : UInt8} (h : Pending t.sump cmd [a, b, c]) (d : UInt8) :
    (processByte tx t d).2.sump.parseState = .cmd ∧
      (processByte tx t d).2.decoded = t.decoded.apply (.long cmd (argWord a b c d)) := by
  have open_ : t.sump.parseState ≠ .cmd := by
    rw [h.state]
    exact nofun
  have full : t.sump.argCount + 1 = 4 := by rw [h.count]; rfl
  have stored := h.stored d
  simp only [List.cons_append, List.nil_append, List.length_cons, List.length_nil, List.range_succ,
    List.range_zero, List.map_cons, List.map_nil, List.cons.injEq, and_true] at stored
  obtain ⟨first, second, third, fourth⟩ := stored
  have silent := set_event t.sump.config cmd (argWord a b c d)
  simp only [TransportContext.decoded, processByte_sump, processByte_requests, feedByte, if_neg open_, full,
    if_true, processLongCommand, h.command, assembleArg, first, second, third, fourth, Decoded.apply]
  rcases silent with set | none
  · simp [set]
  · simp [none]

/-! ### A stream -/

theorem processRx_unbroken (t : TransportContext) (chunk : Bytes) (whole : Unbroken tx t chunk) :
    (processRx tx t chunk).2 = chunk.foldl (fun t byte => (processByte tx t byte).2) t := by
  induction chunk generalizing t with
  | nil => rfl
  | cons byte rest ih =>
    obtain ⟨sends, later⟩ := whole
    rw [processRx, List.foldl_cons, ← ih _ later]
    rcases step : processByte tx t byte with ⟨status, after⟩
    cases status with
    | ok => rfl
    | error e =>
      have last : rest = [] := by
        by_contra more
        have fine := sends more
        rw [step] at fine
        cases fine
      rw [last]
      rfl

theorem received_unbroken (t : TransportContext) (chunks : List Bytes) (whole : UnbrokenCalls tx t chunks) :
    received tx t chunks = chunks.flatten.foldl (fun t byte => (processByte tx t byte).2) t := by
  induction chunks generalizing t with
  | nil => rfl
  | cons chunk rest ih =>
    rw [received, List.foldl_cons, List.flatten_cons, List.foldl_append, ← processRx_unbroken tx t chunk whole.1]
    exact ih _ whole.2

theorem fed_decodes (stream : Bytes) (t : TransportContext) (boundary : t.sump.parseState = .cmd) :
    (stream.foldl (fun t byte => (processByte tx t byte).2) t).decoded =
      (decode stream).foldl Decoded.apply t.decoded := by
  fun_induction decode generalizing t with
  | case1 => rfl
  | case2 cmd long a b c d rest ih =>
    obtain ⟨opened, same⟩ := processByte_long tx t cmd boundary long
    obtain ⟨one, same1⟩ := opened.more tx (by simp) a
    obtain ⟨two, same2⟩ := one.more tx (by simp) b
    obtain ⟨three, same3⟩ := two.more tx (by simp) c
    obtain ⟨closed, applied⟩ := three.last tx d
    simp only [List.foldl_cons]
    rw [ih _ closed, applied, same3, same2, same1, same]
  | case3 cmd rest long partly =>
    obtain ⟨opened, same⟩ := processByte_long tx t cmd boundary long
    match rest with
    | [] => exact same
    | [a] => exact (opened.more tx (by simp) a).2.trans same
    | [a, b] =>
      obtain ⟨one, same1⟩ := opened.more tx (by simp) a
      exact (one.more tx (by simp) b).2.trans (same1.trans same)
    | [a, b, c] =>
      obtain ⟨one, same1⟩ := opened.more tx (by simp) a
      obtain ⟨two, same2⟩ := one.more tx (by simp) b
      exact (two.more tx (by simp) c).2.trans (same2.trans (same1.trans same))
    | a :: b :: c :: d :: rest => exact absurd rfl (partly a b c d rest)
  | case4 cmd rest short ih =>
    obtain ⟨closed, applied⟩ := processByte_short tx t cmd boundary (by simpa using short)
    simp only [List.foldl_cons]
    rw [ih _ closed, applied]

/-! ### Resynchronisation -/

def zerosNeeded (s : SumpContext) : Nat := if s.parseState = .cmd then 1 else 5 - s.argCount

def Framed (s : SumpContext) : Prop := s.parseState = .arg → s.argCount < 4

theorem feedByte_framed (framed : Framed s) (byte : UInt8) : Framed (feedByte s byte).1 := by
  rcases state : s.parseState with _ | _
  · simp only [feedByte, state, if_true]
    split
    · exact fun _ => (by decide : 0 < 4)
    · simp only [processShortCommand]
      split_ifs <;> simp [Framed, sumpInit, state]
  · have inside := framed state
    simp only [feedByte, state, reduceCtorEq, if_false]
    split
    · exact nofun
    · rename_i short
      intro _
      show s.argCount + 1 < 4
      have short : s.argCount + 1 ≠ 4 := short
      omega

theorem processRx_framed (t : TransportContext) (framed : Framed t.sump) (chunk : Bytes) :
    Framed (processRx tx t chunk).2.sump := by
  induction chunk generalizing t with
  | nil => exact framed
  | cons byte rest ih =>
    have kept : Framed (processByte tx t byte).2.sump := by
      rw [processByte_sump]
      exact feedByte_framed framed byte
    rw [processRx]
    split
    · rename_i e after step
      rwa [step] at kept
    · rename_i after step
      rw [step] at kept
      exact ih _ kept

theorem received_framed (t : TransportContext) (framed : Framed t.sump) (chunks : List Bytes) :
    Framed (received tx t chunks).sump := by
  induction chunks generalizing t with
  | nil => exact framed
  | cons chunk rest ih => exact ih _ (processRx_framed tx t framed chunk)

theorem fed_framed (t : TransportContext) (framed : Framed t.sump) (stream : Bytes) :
    Framed (stream.foldl (fun t byte => (processByte tx t byte).2) t).sump := by
  induction stream generalizing t with
  | nil => exact framed
  | cons byte rest ih =>
    refine ih _ ?_
    rw [processByte_sump]
    exact feedByte_framed framed byte

theorem zero_resets (t : TransportContext) (boundary : t.sump.parseState = .cmd) :
    AfterReset (processByte tx t 0).2 := by
  have fed : feedByte t.sump 0 = (sumpInit, .reset) := by
    simp only [feedByte, if_pos boundary, show isLongCommand 0 = false from rfl, Bool.false_eq_true, if_false,
      processShortCommand, if_true]
  constructor
  · rw [processByte_sump, fed]
    rfl
  · rw [processByte_sump, fed]
    rfl
  · rw [processByte_requests, fed]
    rfl

theorem zero_counts (s : SumpContext) (framed : Framed s) (state : s.parseState = .arg) :
    zerosNeeded (feedByte s 0).1 + 1 = zerosNeeded s := by
  have inside := framed state
  have closed : s.parseState ≠ .cmd := by
    rw [state]
    exact nofun
  by_cases full : s.argCount + 1 = 4
  · simp only [feedByte, if_neg closed, full, if_true, processLongCommand, zerosNeeded]
    omega
  · simp only [feedByte, if_neg closed, full, if_false, zerosNeeded]
    omega

theorem zeros_reset (n : Nat) (t : TransportContext) (framed : Framed t.sump) (enough : zerosNeeded t.sump ≤ n) :
    AfterReset ((List.replicate n 0).foldl (fun t byte => (processByte tx t byte).2) t) := by
  induction n generalizing t with
  | zero =>
    exfalso
    simp only [zerosNeeded] at enough
    split at enough
    · omega
    · rename_i state
      have inside := framed (by cases here : t.sump.parseState with | cmd => exact absurd here state | arg => rfl)
      omega
  | succ n ih =>
    rw [List.replicate_succ, List.foldl_cons]
    have kept : Framed (processByte tx t 0).2.sump := by
      rw [processByte_sump]
      exact feedByte_framed framed 0
    rcases state : t.sump.parseState with _ | _
    · have reset := zero_resets tx t state
      cases n with
      | zero => exact reset
      | succ n =>
        refine ih _ kept ?_
        simp only [zerosNeeded, reset.boundary, if_true]
        omega
    · refine ih _ kept ?_
      rw [processByte_sump]
      have fewer := zero_counts t.sump framed state
      omega

theorem zero_event (s : SumpContext) :
    (feedByte s 0).2 = .reset ∨ (feedByte s 0).2 = .configSet ∨ (feedByte s 0).2 = .none := by
  rcases state : s.parseState with _ | _
  · simp [feedByte, state, isLongCommand, processShortCommand]
  · simp only [feedByte, state, reduceCtorEq, if_false]
    split
    · exact .inr (set_event ..)
    · exact .inr (.inr rfl)

theorem zero_sends (t : TransportContext) : (processByte tx t 0).1 = .ok () := by
  simp only [processByte]
  rcases zero_event t.sump with reset | set | none
  · rw [reset]
    rfl
  · rw [set]
    rfl
  · rw [none]
    rfl

theorem zeros_unbroken (t : TransportContext) (chunk : Bytes) (zeros : ∀ byte ∈ chunk, byte = 0) :
    Unbroken tx t chunk := by
  induction chunk generalizing t with
  | nil => trivial
  | cons byte rest ih =>
    have zero := zeros byte List.mem_cons_self
    refine ⟨fun _ => ?_, ih _ fun b member => zeros b (List.mem_cons_of_mem _ member)⟩
    rw [zero]
    exact zero_sends tx t

theorem zeros_unbroken_calls (t : TransportContext) (chunks : List Bytes)
    (zeros : ∀ byte ∈ chunks.flatten, byte = 0) : UnbrokenCalls tx t chunks := by
  induction chunks generalizing t with
  | nil => trivial
  | cons chunk rest ih =>
    rw [List.flatten_cons] at zeros
    exact ⟨zeros_unbroken tx t chunk fun b member => zeros b (List.mem_append_left _ member),
      ih _ fun b member => zeros b (List.mem_append_right _ member)⟩

/-- Where no reply fails before the end of its chunk, the calls decode the stream; from whatever state
calls have led to, five zero bytes lead to a reset, also where they start in the middle of a chunk. -/
theorem received_decodes (tx : Sender) :
    (∀ chunks, UnbrokenCalls tx transportInit chunks →
      (received tx transportInit chunks).decoded = (decode chunks.flatten).foldl Decoded.apply .init) ∧
    (∀ before after stream, UnbrokenCalls tx (received tx transportInit before) after →
      after.flatten = stream ++ List.replicate 5 0 → AfterReset (received tx transportInit (before ++ after))) ∧
    (∀ before after, after.flatten = List.replicate 5 0 →
      AfterReset (received tx transportInit (before ++ after))) := by
  have resets : ∀ before after stream, UnbrokenCalls tx (received tx transportInit before) after →
      after.flatten = stream ++ List.replicate 5 0 →
        AfterReset (received tx transportInit (before ++ after)) := by
    intro before after stream whole ends
    have framed := received_framed tx transportInit (fun state => by cases state) before
    rw [received, List.foldl_append]
    show AfterReset (received tx (received tx transportInit before) after)
    rw [received_unbroken tx _ after whole, ends, List.foldl_append]
    refine zeros_reset tx 5 _ (fed_framed tx _ framed stream) ?_
    simp only [zerosNeeded]
    split <;> omega
  refine ⟨fun chunks whole => ?_, resets, fun before after zeros => ?_⟩
  · rw [received_unbroken tx _ chunks whole]
    exact fed_decodes tx _ _ rfl
  · refine resets before after [] (zeros_unbroken_calls tx _ after fun byte member => ?_) zeros
    rw [zeros] at member
    exact List.eq_of_mem_replicate member

theorem received_decodes_split :
    (received (fun _ => true) transportInit [[0x02, 0x82, 1], [0, 0, 0]]).decoded =
        (decode [0x02, 0x82, 1, 0, 0, 0]).foldl Decoded.apply .init ∧
      AfterReset (received (fun _ => false) transportInit ([[0x02, 0x82, 1], [0xC1, 7]] ++ [[0, 0], [0, 0, 0]])) :=
  ⟨(received_decodes fun _ => true).1 _ ⟨⟨fun _ => rfl, fun _ => rfl, fun more => (more rfl).elim, trivial⟩,
      ⟨fun _ => rfl, fun _ => rfl, fun more => (more rfl).elim, trivial⟩, trivial⟩,
    (received_decodes fun _ => false).2.2 _ _ rfl⟩

/-- The reply to an identity query fails and takes the command after it along. -/
theorem received_drops :
    (received (fun _ => false) transportInit [[0x02, 0x82, 1, 0, 0, 0]]).decoded ≠
      (decode [0x02, 0x82, 1, 0, 0, 0]).foldl Decoded.apply .init := by
  intro same
  have flags := congrArg (fun s => s.config.flags) same
  exact absurd flags (by decide)

end XSDK.Logic.Sump
