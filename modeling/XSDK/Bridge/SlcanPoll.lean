import XSDK.Bridge.Slcan

/-! The frames that the CAN driver has received, on their way to the host and through another bridge. -/
namespace XSDK.Bridge.Slcan

open Library

def hexChars : Bytes :=
  [0x30, 0x31, 0x32, 0x33, 0x34, 0x35, 0x36, 0x37, 0x38, 0x39, 0x41, 0x42, 0x43, 0x44, 0x45, 0x46]

def hexAt (value shift : UInt32) : UInt8 := hexChars.getD (value >>> shift &&& 0xF).toNat 0

variable (f : Frame)

def slcanLine : Bytes :=
  (if f.isExtended then 0x54 :: [28, 24, 20, 16, 12, 8, 4, 0].map (hexAt f.id) else 0x74 :: [8, 4, 0].map (hexAt f.id)) ++
    (0x30 + f.dlc) ::
    ((f.data.take f.dlc.toNat).flatMap fun b => [hexAt b.toUInt32 4, hexAt b.toUInt32 0]) ++ [0x0D]

/-- The loop of `xBRIDGE_CAN_Poll` over what `receive` yields in turn, a frame or an error. -/
def pollLoop (env : Env) (c : Channel) : List (Option Frame) → Bool × Channel
  | [] => (true, c)
  | none :: _ => (false, c)
  | some f :: rest =>
    let (ok, c) := sendAck env (c.did (.receive f)) (slcanLine f)
    if ok then pollLoop env c rest else (false, c)

variable (env : Env)

def canPoll (c : Channel) (driver : List (Option Frame)) : Bool × Channel :=
  if c.isOpen then pollLoop env c driver else (true, c)

/-! ### What went where -/

variable (log : List Event)

def transmitted : List Frame :=
  log.filterMap fun e => match e with | .transmit f => some f | _ => none

def taken : List Frame :=
  log.filterMap fun e => match e with | .receive f => some f | _ => none

def delivered : List Bytes :=
  (List.range log.length).filterMap fun i =>
    match log[i]? with
    | some (Event.send l) => if env (log.take (i + 1)) then some l else none
    | _ => none

/-- A frame as the driver receives it. -/
structure Receivable (f : Frame) : Prop where
  standard : f.isExtended = false → f.id.toNat < 2 ^ 11
  extended : f.isExtended = true → f.id.toNat < 2 ^ 29
  short : f.dlc.toNat ≤ 8
  data : f.data.length = f.dlc.toNat

/-- The frames that a call takes from the driver are those that another bridge transmits when it is fed
the lines which the call has delivered. -/
def RoundTrip (env peerEnv : Env) (c peer : Channel) (driver : List (Option Frame)) : Prop :=
  ∃ lines frames,
    delivered env (canPoll env c driver).2.log = delivered env c.log ++ lines ∧
    taken (canPoll env c driver).2.log = taken c.log ++ frames ∧
    transmitted (received peerEnv ⟨[], peer⟩ lines).channel.log = transmitted peer.log ++ frames

def offered : List (Option Frame) → List Frame
  | some f :: rest => f :: offered rest
  | _ => []

def AllSent (env : Env) (log : List Event) : List Frame → Prop
  | [] => True
  | f :: rest =>
    env (log ++ [.receive f, .send (slcanLine f)]) = true ∧ AllSent env (log ++ [.receive f, .send (slcanLine f)]) rest

/-! ### One line there and back -/

def Frame.kind : Kind := if f.isExtended then .extended else .standard

def Frame.asData : Frame := { f with isRtr := false }

def Frame.text : Bytes :=
  f.kind.cmd :: (Hex.digits f.kind.digits f.id.toNat ++
    (0x30 + f.dlc) :: f.data.flatMap fun b => Hex.digits 2 b.toNat)

theorem hexAt_eq (value shift : UInt32) (small : shift.toNat < 32) :
    hexAt value shift = Hex.char (value.toNat / 2 ^ shift.toNat % 16) := by
  have chars : ∀ n < 16, hexChars.getD n 0 = Hex.char n := by decide
  have nibble : (value >>> shift &&& 0xF).toNat = value.toNat / 2 ^ shift.toNat % 16 := by
    rw [UInt32.toNat_and, UInt32.toNat_shiftRight, Nat.mod_eq_of_lt small, Nat.shiftRight_eq_div_pow]
    exact Nat.and_two_pow_sub_one_eq_mod _ 4
  rw [hexAt, nibble, chars _ (Nat.mod_lt _ (by decide))]

theorem slcanLine_eq (valid : Receivable f) : slcanLine f = f.text ++ [0x0D] := by
  have pairs : ∀ b : UInt8, [hexAt b.toUInt32 4, hexAt b.toUInt32 0] = Hex.digits 2 b.toNat := by
    intro b
    rw [hexAt_eq _ 4 (by decide), hexAt_eq _ 0 (by decide)]
    simp [Hex.digits]
  have all : f.data.take f.dlc.toNat = f.data := List.take_of_length_le (Nat.le_of_eq valid.data)
  simp only [slcanLine, all, pairs, Frame.text, Frame.kind]
  cases f.isExtended with
  | true =>
    simp [hexAt_eq, Kind.cmd, Kind.digits, Hex.digits, Nat.div_div_eq_div_mul]
  | false =>
    simp [hexAt_eq, Kind.cmd, Kind.digits, Hex.digits, Nat.div_div_eq_div_mul]

theorem frame?_line (valid : Receivable f) : f.kind.frame? f.text = some f.asData := by
  have short := valid.short
  have limit : f.id.toNat < 16 ^ f.kind.digits ∧ f.id.toNat ≤ f.kind.idLimit ∧ f.kind.isExtended = f.isExtended := by
    rw [Frame.kind]
    cases ext : f.isExtended with
    | true =>
      have bound := valid.extended ext
      exact ⟨by simp only [if_true, Kind.digits]; omega, by simp only [if_true, Kind.idLimit]; omega, rfl⟩
    | false =>
      have bound := valid.standard ext
      exact ⟨by simp [Kind.digits]; omega, by simp [Kind.idLimit]; omega, rfl⟩
  have size := Hex.length_digits f.kind.digits f.id.toNat
  have digit : (0x30 + f.dlc).toNat = 48 + f.dlc.toNat := by
    rw [UInt8.toNat_add, show (0x30 : UInt8).toNat = 48 from rfl]
    omega
  have tail : f.text.drop (f.kind.digits + 1) = (0x30 + f.dlc) :: f.data.flatMap fun b => Hex.digits 2 b.toNat := by
    rw [Frame.text, List.drop_succ_cons, List.drop_append_of_le_length (Nat.le_of_eq size.symm), List.drop_of_length_le
      (Nat.le_of_eq size), List.nil_append]
  have ids : (f.text.drop 1).take f.kind.digits = Hex.digits f.kind.digits f.id.toNat := by
    rw [Frame.text, List.drop_succ_cons, List.drop_zero, List.take_append_of_le_length (Nat.le_of_eq size.symm),
      List.take_of_length_le (Nat.le_of_eq size)]
  have pairs : (f.data.flatMap fun b => Hex.digits 2 b.toNat).length = 2 * f.dlc.toNat := by
    simp [List.length_flatMap, Hex.length_digits, valid.data, Nat.mul_comm]
  have each : Hex.Digits (f.data.flatMap fun b => Hex.digits 2 b.toNat) := by
    intro c member
    obtain ⟨b, _, here⟩ := List.mem_flatMap.mp member
    exact Hex.digits_isDigit _ _ c here
  have count : 0x30 + f.dlc - 48 = f.dlc := by
    apply UInt8.toNat_inj.mp
    rw [UInt8.toNat_sub_of_le _ _ (UInt8.le_iff_toNat_le.mpr (by rw [digit]; exact Nat.le_add_right _ _)), digit]
    exact Nat.add_sub_cancel_left ..
  simp only [Kind.frame?, tail, ids, Hex.value_digits _ limit.1, Hex.bytes_digits, digit, pairs]
  rw [if_pos ⟨Hex.digits_isDigit _ _, limit.2.1, by omega, by omega, by omega, each⟩, limit.2.2, UInt32.ofNat_toNat,
    count]
  rfl

theorem onUsbReceive_line (text : Bytes) (plain : ∀ b ∈ text, b ≠ 0x0D) (c : Context)
    (fits : c.line.length + text.length ≤ lineMax) :
    (onUsbReceive env c (text ++ [0x0D])).2 = ⟨[], (dispatchSlcanLine env c.channel (c.line ++ text)).2⟩ := by
  induction text generalizing c with
  | nil =>
    rw [List.nil_append, List.append_nil, onUsbReceive, if_pos rfl]
    simp only
    split <;> rfl
  | cons b rest ih =>
    rw [List.length_cons] at fits
    rw [List.cons_append, onUsbReceive, if_neg (plain b List.mem_cons_self), if_pos (by omega),
      ih (fun d member => plain d (List.mem_cons_of_mem _ member)) _
        (by simp only [List.length_append, List.length_singleton]; omega),
      List.append_assoc]
    rfl

theorem transmitFrame_transmitted (c : Channel) (k : Kind) (frame : Frame) :
    transmitted (transmitFrame env c k frame).2.log = transmitted c.log ++ [frame] ∧
      (transmitFrame env c k frame).2.isOpen = c.isOpen := by
  simp only [transmitFrame]
  split <;> simp [sendAck, Channel.did, transmitted]

/-- An open bridge transmits a line of `xBRIDGE_CAN_Poll` as a data frame. -/
theorem onUsbReceive_slcanLine (peer : Channel) (isOpen : peer.isOpen = true) (f : Frame) (valid : Receivable f) :
    (onUsbReceive env ⟨[], peer⟩ (slcanLine f)).2.line = [] ∧
      (onUsbReceive env ⟨[], peer⟩ (slcanLine f)).2.channel.isOpen = true ∧
      transmitted (onUsbReceive env ⟨[], peer⟩ (slcanLine f)).2.channel.log = transmitted peer.log ++ [f.asData] := by
  have writes := frame?_line f valid
  obtain ⟨fits, transmits⟩ := transmitLine_frame env isOpen writes
  have short := valid.short
  have plain : ∀ b ∈ f.text, b ≠ 0x0D := by
    have apart : ∀ b : UInt8, Hex.IsDigit b → b ≠ 0x0D := by
      intro b isDigit same
      rw [same] at isDigit
      exact absurd isDigit (by decide)
    intro b member
    simp only [Frame.text, List.mem_cons, List.mem_append, List.mem_flatMap] at member
    rcases member with cmd | id | dlc | ⟨d, _, data⟩
    · rw [cmd]
      cases f.kind <;> decide
    · exact apart b (Hex.digits_isDigit _ _ b id)
    · refine apart b (.inl ?_)
      rw [dlc, UInt8.toNat_add, show (0x30 : UInt8).toNat = 48 from rfl]
      omega
    · exact apart b (Hex.digits_isDigit _ _ b data)
  have whole := onUsbReceive_line env _ plain ⟨[], peer⟩ (by rw [List.length_nil]; omega)
  rw [← slcanLine_eq f valid, List.nil_append] at whole
  have sends : dispatchSlcanLine env peer f.text = transmitFrame env peer f.kind f.asData := by
    rw [← transmits, dispatchSlcanLine, Frame.text, List.head?_cons]
    cases f.kind <;> rfl
  obtain ⟨frames, stays⟩ := transmitFrame_transmitted env peer f.kind f.asData
  rw [whole, sends]
  exact ⟨rfl, stays.trans isOpen, frames⟩

theorem received_lines (frames : List Frame) (valid : ∀ f ∈ frames, Receivable f) (peer : Channel)
    (isOpen : peer.isOpen = true) :
    transmitted (received env ⟨[], peer⟩ (frames.map slcanLine)).channel.log =
      transmitted peer.log ++ frames.map Frame.asData := by
  induction frames generalizing peer with
  | nil => exact (List.append_nil _).symm
  | cons f rest ih =>
    obtain ⟨line, stays, frame⟩ := onUsbReceive_slcanLine env peer isOpen f (valid f List.mem_cons_self)
    rw [List.map_cons, received, List.foldl_cons]
    have next : (onUsbReceive env ⟨[], peer⟩ (slcanLine f)).2 =
        ⟨[], (onUsbReceive env ⟨[], peer⟩ (slcanLine f)).2.channel⟩ := congrArg (Context.mk · _) line
    have more := ih (fun g member => valid g (List.mem_cons_of_mem _ member)) _ stays
    rw [← next, frame, List.append_assoc] at more
    exact more

/-! ### The loop -/

theorem delivered_snoc (e : Event) :
    delivered env (log ++ [e]) = delivered env log ++
      match e with
      | .send l => if env (log ++ [e]) then [l] else []
      | _ => [] := by
  have kept : ((List.range log.length).filterMap fun i =>
      match (log ++ [e])[i]? with
      | some (Event.send l) => if env ((log ++ [e]).take (i + 1)) then some l else none
      | _ => none) = delivered env log := by
    refine List.filterMap_congr fun i below => ?_
    have inside := List.mem_range.mp below
    rw [List.getElem?_append_left inside, List.take_append_of_le_length inside]
  rw [delivered, List.length_append, List.length_singleton, List.range_succ, List.filterMap_append, kept]
  congr 1
  cases e with
  | send l =>
    simp only [List.filterMap_cons, List.filterMap_nil, List.getElem?_append_right (Nat.le_refl _), Nat.sub_self,
      List.getElem?_cons_zero]
    rw [List.take_of_length_le (by simp)]
    by_cases ok : env (log ++ [.send l]) = true
    · simp only [if_pos ok]
    · simp only [if_neg ok]
  | _ => simp

theorem pollLoop_moves (driver : List (Option Frame)) (c : Channel) :
    ∃ sent got, delivered env (pollLoop env c driver).2.log = delivered env c.log ++ sent.map slcanLine ∧
      taken (pollLoop env c driver).2.log = taken c.log ++ got ∧ (∀ f ∈ sent, some f ∈ driver) ∧
      ((AllSent env c.log (offered driver) ∧ sent = offered driver ∧ got = offered driver) ∨
        (¬ AllSent env c.log (offered driver) ∧ sent.length < got.length)) := by
  induction driver generalizing c with
  | nil => exact ⟨[], [], by simp [pollLoop], by simp [pollLoop], by simp, .inl ⟨trivial, rfl, rfl⟩⟩
  | cons received rest ih =>
    cases received with
    | none => exact ⟨[], [], by simp [pollLoop], by simp [pollLoop], by simp, .inl ⟨trivial, rfl, rfl⟩⟩
    | some f =>
      have log : (sendAck env (c.did (.receive f)) (slcanLine f)).2.log =
          c.log ++ [.receive f, .send (slcanLine f)] := by simp [sendAck, Channel.did]
      have got : taken (c.log ++ [.receive f, .send (slcanLine f)]) = taken c.log ++ [f] := by simp [taken]
      have sent : delivered env (c.log ++ [.receive f, .send (slcanLine f)]) = delivered env c.log ++
          if env (c.log ++ [.receive f, .send (slcanLine f)]) then [slcanLine f] else [] := by
        rw [show c.log ++ [.receive f, .send (slcanLine f)] = c.log ++ [.receive f] ++ [.send (slcanLine f)] by simp,
          delivered_snoc, delivered_snoc]
        simp
      have answer : (sendAck env (c.did (.receive f)) (slcanLine f)).1 =
          env (c.log ++ [.receive f, .send (slcanLine f)]) := congrArg env log
      rw [pollLoop]
      simp only [answer]
      by_cases ok : env (c.log ++ [.receive f, .send (slcanLine f)]) = true
      · obtain ⟨lines, frames, out, in_, member, kept⟩ := ih (sendAck env (c.did (.receive f)) (slcanLine f)).2
        rw [log] at out in_ kept
        rw [if_pos ok, out, in_, sent, got, if_pos ok]
        refine ⟨f :: lines, f :: frames, by simp, by simp, ?_, ?_⟩
        · intro g here
          rcases List.mem_cons.mp here with first | later
          · rw [first]
            exact List.mem_cons_self
          · exact List.mem_cons_of_mem _ (member g later)
        · rcases kept with ⟨all, same, too⟩ | ⟨fails, fewer⟩
          · exact .inl ⟨⟨ok, all⟩, by rw [offered, same], by rw [offered, too]⟩
          · exact .inr ⟨fun all => fails all.2, Nat.succ_lt_succ fewer⟩
      · rw [if_neg ok, log, sent, got, if_neg ok]
        exact ⟨[], [f], by simp, rfl, by simp, .inr ⟨fun all => ok all.1, Nat.zero_lt_one⟩⟩

/-- Every frame taken arrives at the other end as it was, exactly when none of them is a remote frame and
no line of theirs fails to be sent. -/
theorem roundTrip_iff (env peerEnv : Env) (c peer : Channel) (driver : List (Option Frame))
    (isOpen : c.isOpen = true) (peerOpen : peer.isOpen = true) (valid : ∀ f, some f ∈ driver → Receivable f) :
    RoundTrip env peerEnv c peer driver ↔
      (∀ f ∈ offered driver, f.isRtr = false) ∧ AllSent env c.log (offered driver) := by
  obtain ⟨sent, got, out, in_, member, kept⟩ := pollLoop_moves env driver c
  have poll : canPoll env c driver = pollLoop env c driver := if_pos isOpen
  have arrives := received_lines peerEnv sent (fun f here => valid f (member f here)) peer peerOpen
  have trip : RoundTrip env peerEnv c peer driver ↔ sent.map Frame.asData = got := by
    rw [RoundTrip, poll, out, in_]
    constructor
    · rintro ⟨lines, frames, lines_eq, frames_eq, same⟩
      rw [← List.append_cancel_left lines_eq, ← List.append_cancel_left frames_eq, arrives] at same
      exact List.append_cancel_left same
    · intro same
      exact ⟨_, _, rfl, rfl, by rw [arrives, same]⟩
  rw [trip]
  rcases kept with ⟨all, same, too⟩ | ⟨fails, fewer⟩
  · rw [same, too]
    constructor
    · intro data
      refine ⟨fun f here => ?_, all⟩
      have fixed : f.asData = f := List.map_inj_left.mp (data.trans (List.map_id _).symm) f here
      rw [← fixed]
      rfl
    · rintro ⟨data, _⟩
      refine (List.map_inj_left.mpr fun f here => ?_).trans (List.map_id _)
      rw [Frame.asData, ← data f here]
      rfl
  · constructor
    · intro same
      have lengths := congrArg List.length same
      rw [List.length_map] at lengths
      omega
    · exact fun all => absurd all.2 fails

theorem roundTrip_iff_data :
    RoundTrip (fun _ => true) (fun _ => false) ⟨true, false, []⟩ ⟨true, false, []⟩
      [some ⟨0x123, false, false, 1, [0xAB]⟩] := by
  refine (roundTrip_iff _ _ _ _ _ rfl rfl fun f member => ?_).mpr ⟨?_, rfl, trivial⟩
  · rw [Option.some.inj (List.mem_singleton.mp member)]
    constructor <;> simp
  · simp [offered]

/-- A remote frame comes back as a data frame. -/
theorem roundTrip_remote :
    ¬ RoundTrip (fun _ => true) (fun _ => true) ⟨true, false, []⟩ ⟨true, false, []⟩
      [some ⟨0x123, false, true, 0, []⟩] := by
  rintro ⟨lines, frames, out, in_, same⟩
  have line : delivered (fun _ => true) (canPoll (fun _ => true) ⟨true, false, []⟩
      [some ⟨0x123, false, true, 0, []⟩]).2.log = [[0x74, 0x31, 0x32, 0x33, 0x30, 0x0D]] := by decide
  have frame : taken (canPoll (fun _ => true) ⟨true, false, []⟩ [some ⟨0x123, false, true, 0, []⟩]).2.log =
      [⟨0x123, false, true, 0, []⟩] := by decide
  rw [line] at out
  rw [frame] at in_
  have lines_eq : [[0x74, 0x31, 0x32, 0x33, 0x30, 0x0D]] = lines := out
  have frames_eq : [⟨0x123, false, true, 0, []⟩] = frames := in_
  rw [← lines_eq, ← frames_eq] at same
  exact absurd same (by decide)

end XSDK.Bridge.Slcan
