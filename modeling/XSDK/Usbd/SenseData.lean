import Mathlib.Algebra.Ring.Nat
import XSDK.Usbd.MediumBounds

/-! Runs of commands, and what REQUEST SENSE tells of the command in front of it. -/
namespace XSDK.Usbd.Msc

open Library Library.Call

/-- A command block of the host, and what it meets until its status has been sent. -/
structure Exchange where
  cbw : Cbw
  length : UInt32
  env : Env

inductive Event
  | exchange (x : Exchange)
  | reset (env : Env)
  | bus (env : Env) (event : BusEvent)

def dataStage (x : Exchange) : MscM Unit := do
  let state ← read fun s => s.ctx.state
  if state = .dataIn then transmitComplete x.env
  else onlyIf (state = .dataOut) (dataReceived x.env x.cbw.dataLength)

/-- What the device does while the host goes through a command. -/
def exchange (x : Exchange) : MscM Unit := do
  let state ← read fun s => s.ctx.state
  if state = .waitCbw then do
    update fun c => { c with cbw := x.cbw }
    dataReceived x.env x.length
    dataStage x
    let state ← read fun s => s.ctx.state
    onlyIf (state = .sendCsw) (transmitComplete x.env)
  else pure ()

def Event.run : Event → MscM Unit
  | exchange x => Msc.exchange x
  | reset env => resetBulkTransport env
  | bus env event => busEvent env event

def stepOf (c : Context) (event : Event) : Context := (event.run ⟨c, []⟩).2.ctx
def runFrom (c : Context) (events : List Event) : Context := events.foldl stepOf c

def Exchange.effects (x : Exchange) (c : Context) : List Effect := (exchange x ⟨c, []⟩).2.log

def Exchange.Valid (x : Exchange) : Prop := x.length = cbwLength ∧ x.cbw.signature = cbwSignature

/-- The device waited for the command and went through to its end, and this was its status. -/
structure Answered (c : Context) (x : Exchange) (status : CswStatus) : Prop where
  waits : c.state = .waitCbw
  valid : x.Valid
  ended : (exchange x ⟨c, []⟩).1 = .ok ()
  sent : .send .csw cswLength ∈ x.effects c
  status : (stepOf c (.exchange x)).csw.status = status

/-- A REQUEST SENSE that the device waits for returns this sense. -/
structure Reports (c : Context) (y : Exchange) (sense : Sense) : Prop where
  waits : c.state = .waitCbw
  valid : y.Valid
  scsi : y.cbw.scsi = .requestSense
  ended : (exchange y ⟨c, []⟩).1 = .ok ()
  sense : senseAt (stepOf c (.exchange y)).temp = sense

/-- What a REQUEST SENSE tells of the command in front of it. -/
structure Told (c : Context) (x : Exchange) (status : CswStatus) (sense : Sense) : Prop where
  failed : status = .failed → sense.key ≠ 0 ∧ .setSense sense ∈ x.effects c
  passed : status = .passed → x.cbw.scsi ≠ .requestSense → sense = .zero
  cleared : status = .passed → x.cbw.scsi = .requestSense → sense = .zero

/-- In a run each REQUEST SENSE is truthful about the command that it directly follows. -/
def Truthful (c : Context) (events : List Event) : Prop :=
  ∀ before x y after status sense, events = before ++ .exchange x :: .exchange y :: after →
    Answered (runFrom c before) x status → Reports (runFrom c (before ++ [.exchange x])) y sense →
    Told (runFrom c before) x status sense

/-- The write of the host's data is refused when it is complete. -/
def Exchange.Late (x : Exchange) : Prop :=
  x.cbw.dataLength ≠ 0 ∧ isIn x.cbw.flags = false ∧ (x.env.io .writeComplete).ok = false

/-- The command is not carried out, or its length is not that of the request: it fails and sets no sense. -/
def Exchange.Mute (x : Exchange) (c : Context) : Prop :=
  x.cbw.scsi.kind = .silent ∨ ((x.cbw.scsi = .read10 ∨ x.cbw.scsi = .write10) ∧
    (blockRequest x.cbw c.capacity).InRange c.capacity ∧
    x.cbw.dataLength ≠ (blockRequest x.cbw c.capacity).transferLength)

/-- The application takes the block request of the command. -/
def Exchange.BlockTaken (x : Exchange) (c : Context) (cmd : UInt32 → UInt32 → IoCmd) : Prop :=
  (blockRequest x.cbw c.capacity).InRange c.capacity ∧
    x.cbw.dataLength = (blockRequest x.cbw c.capacity).transferLength ∧
    (x.env.io (cmd x.cbw.blockOffset x.cbw.numberOfBlocks)).ok = true

def Exchange.Passes (x : Exchange) (c : Context) : Prop :=
  (x.cbw.scsi.kind = .passing ∨ (x.cbw.scsi = .inquiry ∧ (x.env.io .inquiry).ok = true) ∨
    (x.cbw.scsi = .read10 ∧ x.BlockTaken c .getReadAddr) ∨
    (x.cbw.scsi = .write10 ∧ x.BlockTaken c .getWriteAddr)) ∧
  ¬x.Late

/-- The command sets a sense when it fails, and finds none when it passes. -/
structure Exchange.Meets (x : Exchange) (c : Context) : Prop where
  speaks : ¬x.Mute c
  clear : x.Passes c → c.sense = .zero

def Event.Meets (c : Context) : Event → Prop
  | exchange x => x.Meets c
  | _ => True

def AllMeet : Context → List Event → Prop
  | _, [] => True
  | c, event :: rest => event.Meets c ∧ AllMeet (stepOf c event) rest

section Sense

variable {env : Env} {c : Context} {s s' s₀ : Storage} {x y : Exchange} {result : CommandResult}

structure Frame (s s' : Storage) : Prop where
  sense : s'.ctx.sense = s.ctx.sense
  status : s'.ctx.csw.status = s.ctx.csw.status
  temp : s'.ctx.temp = s.ctx.temp
  log : ∃ more, s'.log = s.log ++ more ∧ ∀ sense, .setSense sense ∉ more

theorem Frame.refl (s : Storage) : Frame s s :=
  ⟨rfl, rfl, rfl, [], (List.append_nil _).symm, nofun⟩

theorem Frame.trans {a b d : Storage} (first : Frame a b) (then_ : Frame b d) : Frame a d := by
  obtain ⟨m, log, quiet⟩ := first.log
  obtain ⟨m', log', quiet'⟩ := then_.log
  refine ⟨then_.sense.trans first.sense, then_.status.trans first.status, then_.temp.trans first.temp,
    m ++ m', ?_, ?_⟩
  · rw [log', log, List.append_assoc]
  · exact fun sense mem => (List.mem_append.mp mem).elim (quiet sense) (quiet' sense)

theorem Frame.mem_iff (frame : Frame s s') (sense : Sense) : .setSense sense ∈ s'.log ↔ .setSense sense ∈ s.log := by
  obtain ⟨more, log, quiet⟩ := frame.log
  rw [log, List.mem_append, or_iff_left (quiet sense)]

theorem same_frame {ctx : Context} (sense : ctx.sense = s.ctx.sense) (status : ctx.csw.status = s.ctx.csw.status)
    (temp : ctx.temp = s.ctx.temp) : Frame s ⟨ctx, s.log⟩ :=
  ⟨sense, status, temp, [], (List.append_nil _).symm, nofun⟩

theorem did_frame {effect : Effect} (other : ∀ sense, effect ≠ .setSense sense) :
    Frame s ⟨s.ctx, s.log ++ [effect]⟩ :=
  ⟨rfl, rfl, rfl, [effect], rfl, fun sense mem => other sense (List.mem_singleton.mp mem).symm⟩

/-- The parts of a command that only move the transport on. -/
structure At (s₀ : Storage) (state : BotState) (s : Storage) : Prop where
  frame : Frame s₀ s
  state : s.ctx.state = state

abbrev Any : Error → Storage → Prop := fun _ _ => True

theorem dcdCall_at {state : BotState} {effect : Effect} (other : ∀ sense, effect ≠ .setSense sense) :
    Triple (At s₀ state) (dcdCall env effect) (fun _ => At s₀ state) Any :=
  .bind (.modify fun _ reached => ⟨reached.frame.trans (did_frame other), reached.state⟩) fun _ =>
    .ite (fun _ => .fail fun _ _ => trivial) fun _ => .pure fun _ reached => reached

theorem moveTo_at (state : BotState) :
    Triple (Frame s₀) (update fun c => { c with state }) (fun _ => At s₀ state) Any :=
  .modify fun _ frame => ⟨frame.trans (same_frame rfl rfl rfl), rfl⟩

theorem setCswResidue_at {state : BotState} (residue : UInt32) :
    Triple (At s₀ state) (setCswResidue residue) (fun _ => At s₀ state) Any :=
  .modify fun _ reached => ⟨reached.frame.trans (same_frame rfl rfl rfl), reached.state⟩

theorem setCswResidue_frame (residue : UInt32) : Triple (Frame s₀) (setCswResidue residue) (fun _ => Frame s₀) Any :=
  .modify fun _ frame => frame.trans (same_frame rfl rfl rfl)

theorem sendCurrentCsw_at : Triple (Frame s₀) (sendCurrentCsw env) (fun _ => At s₀ .sendCsw) Any :=
  .bind (moveTo_at _) fun _ => dcdCall_at fun _ => nofun

theorem startCbwReceive_at : Triple (Frame s₀) (startCbwReceive env) (fun _ => At s₀ .waitCbw) Any :=
  .bind (moveTo_at _) fun _ => dcdCall_at fun _ => nofun

def stageState (cbw : Cbw) (status : CswStatus) : BotState :=
  if status = .passed then
    if cbw.dataLength = 0 then .sendCsw else if isIn cbw.flags then .dataIn else .dataOut
  else .sendCsw

theorem dataPhaseStart_at (cbw : Cbw) : Triple (Frame s₀) (dataPhaseStart env cbw.dataLength cbw.flags result)
    (fun _ => At s₀ (stageState cbw .passed)) Any := by
  rw [dataPhaseStart, stageState, if_pos rfl]
  by_cases none : cbw.dataLength = 0
  · rw [if_pos none, if_pos none]
    exact .bind (setCswResidue_frame _) fun _ => sendCurrentCsw_at
  · rw [if_neg none, if_neg none]
    by_cases toHost : isIn cbw.flags = true
    · rw [if_pos toHost, if_pos toHost]
      exact .bind (moveTo_at _) fun _ => .bind (dcdCall_at fun _ => (by rintro ⟨⟩)) fun _ => setCswResidue_at _
    · rw [if_neg toHost, if_neg toHost]
      exact .bind (moveTo_at _) fun _ => .bind (dcdCall_at fun _ => (by rintro ⟨⟩)) fun _ => setCswResidue_at _

def Begun (env : Env) (c : Context) (s : Storage) : Prop :=
  ∃ result s', ScsiRun env (begun c) result s' ∧ At s' (stageState c.cbw s'.ctx.csw.status) s

theorem cbwReceived_begun (valid : c.cbw.signature = cbwSignature) :
    Triple (· = ⟨c, []⟩) (cbwReceived env cbwLength) (fun _ => Begun env c) Any := by
  obtain ⟨result, s', run, ends⟩ := @scsiCommandProcess_run env (begun c)
  have accepted : cbwValidate env cbwLength (begun c) = (.ok true, begun c) := by
    rw [cbwValidate, read_bind, if_pos ⟨rfl, valid⟩]
    rfl
  have reached {state : BotState} (same : state = stageState c.cbw s'.ctx.csw.status)
      (s : Storage) (at_ : At s' state s) :
      Begun env c s := ⟨result, s', ends, same ▸ at_⟩
  have prepared : Frame s'
      ⟨{ s'.ctx with csw := { s'.ctx.csw with signature := cswSignature, tag := s'.ctx.cbw.tag } }, s'.log⟩ :=
    same_frame rfl rfl rfl
  refine .step (setStatus_run _) <| .step accepted <| .step (read_run _) <| .step run <| .step (update_run _) <|
    .step (read_run _) ?_
  refine .ite (fun passed => ?_) fun failed => ?_
  · refine (dataPhaseStart_at c.cbw).weaken (fun s here => here ▸ prepared) (fun _ => reached ?_) fun _ _ h => h
    exact congrArg _ passed.symm
  · refine Triple.weaken (.bind (setCswResidue_frame _) fun _ => sendCurrentCsw_at) (fun s here => here ▸ prepared)
      (fun _ => reached ?_) fun _ _ h => h
    exact (if_neg failed).symm

structure LateEnd (s s' : Storage) : Prop where
  sense : s'.ctx.sense = ⟨0x03, 0x0C, 0⟩
  status : s'.ctx.csw.status = .failed
  temp : s'.ctx.temp = s.ctx.temp
  told : .setSense ⟨0x03, 0x0C, 0⟩ ∈ s'.log

theorem LateEnd.frame {s'' : Storage} (ends : LateEnd s s') (frame : Frame s' s'') : LateEnd s s'' :=
  ⟨frame.sense.trans ends.sense, frame.status.trans ends.status, frame.temp.trans ends.temp,
    (frame.mem_iff _).mpr ends.told⟩

def Staged (x : Exchange) (c : Context) (state : BotState) (s : Storage) : Prop :=
  ∃ result s', ScsiRun x.env (begun { c with cbw := x.cbw }) result s' ∧
    ((¬(s'.ctx.csw.status = .passed ∧ x.Late) ∧ At s' state s) ∨
      (s'.ctx.csw.status = .passed ∧ x.Late ∧ ∃ s'', LateEnd s' s'' ∧ At s'' state s))

theorem dataOutReceived_ok (ok : (env.io .writeComplete).ok = true) :
    Triple (Frame s₀) (dataOutReceived env) (fun _ => At s₀ .sendCsw) Any := by
  have taken : ¬(env.io .writeComplete).ok = false := by
    rw [ok]
    decide
  refine .forState fun s frame => .step (ioControl_run _) ?_
  rw [onlyIf, if_neg taken]
  refine .step (pure_run) ?_
  exact sendCurrentCsw_at.weaken (fun _ here => here ▸ frame.trans (did_frame fun _ => nofun)) (fun _ _ h => h)
    fun _ _ h => h

theorem dataOutReceived_late (refused : (env.io .writeComplete).ok = false) :
    Triple (Frame s₀) (dataOutReceived env) (fun _ s => ∃ s', LateEnd s₀ s' ∧ At s' .sendCsw s) Any := by
  refine .forState fun s frame => .step (ioControl_run _) ?_
  rw [onlyIf, if_pos refused]
  obtain ⟨s', late, ends⟩ : ∃ s', refuseWrite ⟨s.ctx, s.log ++ [.ioControl .writeComplete]⟩ = (.ok (), s') ∧
      LateEnd s₀ s' := by
    refine ⟨_, rfl, ⟨rfl, rfl, frame.temp, ?_⟩⟩
    exact List.mem_append_right _ List.mem_cons_self
  refine .step late ?_
  exact (@sendCurrentCsw_at env s').weaken (fun _ here => here ▸ .refl s')
    (fun _ _ reached => ⟨s', ends, reached⟩) fun _ _ h => h

theorem transmitComplete_dataIn : Triple (At s₀ .dataIn) (transmitComplete env) (fun _ => At s₀ .sendCsw) Any := by
  refine .readThen fun state => .forState fun s ⟨same, reached⟩ => ?_
  subst same
  rw [reached.state, if_neg (by decide), if_pos rfl]
  exact sendCurrentCsw_at.weaken (fun _ here => here ▸ reached.frame) (fun _ _ h => h) fun _ _ h => h

theorem transmitComplete_sendCsw : Triple (At s₀ .sendCsw) (transmitComplete env) (fun _ => At s₀ .waitCbw) Any := by
  refine .readThen fun state => .forState fun s ⟨same, reached⟩ => ?_
  subst same
  rw [reached.state, if_pos rfl]
  exact startCbwReceive_at.weaken (fun _ here => here ▸ reached.frame) (fun _ _ h => h) fun _ _ h => h

theorem dataReceived_dataOut {length : UInt32} {Q : Unit → Storage → Prop}
    (rest : Triple (Frame s₀) (dataOutReceived env) Q Any) :
    Triple (At s₀ .dataOut) (dataReceived env length) Q Any := by
  refine .readThen fun state => .forState fun s ⟨same, reached⟩ => ?_
  subst same
  rw [reached.state, if_neg (by decide), if_pos rfl]
  exact rest.weaken (fun _ here => here ▸ reached.frame) (fun _ _ h => h) fun _ _ h => h

theorem dataStage_staged (x : Exchange) : Triple (Begun x.env { c with cbw := x.cbw }) (dataStage x)
    (fun _ => Staged x c .sendCsw) Any := by
  refine .readThen fun state => .forState fun s ⟨same, result, s', run, reached⟩ => ?_
  have here : s.ctx.state = stageState x.cbw s'.ctx.csw.status := reached.state
  have plain (apart : ¬(s'.ctx.csw.status = .passed ∧ x.Late)) (s : Storage) (at_ : At s' .sendCsw s) :
      Staged x c .sendCsw s :=
    ⟨result, s', run, .inl ⟨apart, at_⟩⟩
  rw [here, stageState] at same
  by_cases passed : s'.ctx.csw.status = .passed
  · rw [if_pos passed] at same
    by_cases none : x.cbw.dataLength = 0
    · rw [if_pos none] at same
      subst same
      rw [if_neg (by decide), onlyIf, if_neg (by decide)]
      refine .pure fun _ is => is ▸ plain (fun h => h.2.1 none) s ⟨reached.frame, here.trans ?_⟩
      rw [stageState, if_pos passed, if_pos none]
    · rw [if_neg none] at same
      by_cases toHost : isIn x.cbw.flags = true
      · rw [if_pos toHost] at same
        subst same
        have stays : At s' .dataIn s :=
          ⟨reached.frame, by rw [here, stageState, if_pos passed, if_neg none, if_pos toHost]⟩
        have apart : ¬(s'.ctx.csw.status = .passed ∧ x.Late) := fun h => absurd toHost (by rw [h.2.2.1]; decide)
        rw [if_pos rfl]
        exact transmitComplete_dataIn.weaken (fun _ is => is ▸ stays) (fun _ => plain apart) fun _ _ h => h
      · rw [if_neg toHost] at same
        subst same
        have stays : At s' .dataOut s :=
          ⟨reached.frame, by rw [here, stageState, if_pos passed, if_neg none, if_neg toHost]⟩
        rw [if_neg (by decide), onlyIf, if_pos rfl]
        cases taken : (x.env.io .writeComplete).ok with
        | true =>
          have apart : ¬(s'.ctx.csw.status = .passed ∧ x.Late) := fun h => absurd taken (by rw [h.2.2.2]; decide)
          exact (dataReceived_dataOut (dataOutReceived_ok taken)).weaken
            (fun _ is => is ▸ stays) (fun _ => plain apart)
            fun _ _ h => h
        | false =>
          have late : x.Late := ⟨none, Bool.not_eq_true _ ▸ toHost, taken⟩
          exact (dataReceived_dataOut (dataOutReceived_late taken)).weaken (fun _ is => is ▸ stays)
            (fun _ s ends => ⟨result, s', run, .inr ⟨passed, late, ends⟩⟩) fun _ _ h => h
  · rw [if_neg passed] at same
    subst same
    rw [if_neg (by decide), onlyIf, if_neg (by decide)]
    exact .pure fun _ is => is ▸ plain (fun h => passed h.1) s ⟨reached.frame, here.trans (if_neg passed)⟩

theorem Staged.completes (x : Exchange) :
    Triple (Staged x c .sendCsw) (transmitComplete x.env) (fun _ => Staged x c .waitCbw) Any := by
  refine .forState fun s ⟨result, s', run, ended⟩ => ?_
  rcases ended with ⟨apart, reached⟩ | ⟨passed, late, s'', ends, reached⟩
  · exact transmitComplete_sendCsw.weaken (fun _ is => is ▸ reached)
      (fun _ _ at_ => ⟨result, s', run, .inl ⟨apart, at_⟩⟩)
      fun _ _ h => h
  · exact transmitComplete_sendCsw.weaken (fun _ is => is ▸ reached)
      (fun _ _ at_ => ⟨result, s', run, .inr ⟨passed, late, s'', ends, at_⟩⟩) fun _ _ h => h

theorem Staged.state {state : BotState} (staged : Staged x c state s) : s.ctx.state = state := by
  obtain ⟨_, _, _, ⟨_, reached⟩ | ⟨_, _, _, _, reached⟩⟩ := staged <;> exact reached.state

theorem exchange_staged (waits : c.state = .waitCbw) (valid : x.Valid) :
    Triple (· = ⟨c, []⟩) (exchange x) (fun _ => Staged x c .waitCbw) Any := by
  have block : Triple (· = ⟨{ c with cbw := x.cbw }, []⟩) (dataReceived x.env x.length)
      (fun _ => Begun x.env { c with cbw := x.cbw }) Any := by
    refine .step (read_run _) ?_
    rw [if_pos waits, valid.1]
    exact cbwReceived_begun valid.2
  have status : Triple (Staged x c .sendCsw) (read (fun s : Storage => s.ctx.state) >>= fun state =>
      onlyIf (state = .sendCsw) (transmitComplete x.env)) (fun _ => Staged x c .waitCbw) Any := by
    refine .readThen fun state => .forState fun s ⟨same, staged⟩ => ?_
    rw [staged.state] at same
    subst same
    rw [onlyIf, if_pos rfl]
    exact (Staged.completes x).weaken (fun _ is => is ▸ staged) (fun _ _ h => h) fun _ _ h => h
  refine .step (read_run _) ?_
  rw [if_pos waits]
  exact .step (update_run _) (.bind block fun _ => .bind (dataStage_staged x) fun _ => status)

theorem staged_of_ended (waits : c.state = .waitCbw) (valid : x.Valid) (ended : (exchange x ⟨c, []⟩).1 = .ok ()) :
    Staged x c .waitCbw (exchange x ⟨c, []⟩).2 := by
  have run := exchange_staged waits valid ⟨c, []⟩ rfl
  rcases ends : exchange x ⟨c, []⟩ with ⟨e | _, s⟩
  · rw [ends] at ended
    cases ended
  · rw [ends] at run
    exact run

theorem Reports.eq {sense : Sense} (reports : Reports c y sense) : sense = c.sense := by
  have is : (begun { c with cbw := y.cbw }).ctx.cbw.scsi.kind = .sense := (congrArg Scsi.kind reports.scsi).trans rfl
  obtain ⟨result, s', run, ended⟩ := staged_of_ended reports.waits reports.valid reports.ended
  have kept : (stepOf c (.exchange y)).temp = s'.ctx.temp := by
    rcases ended with ⟨-, reached⟩ | ⟨-, -, s'', ends, reached⟩
    · exact reached.frame.temp
    · exact (ends.frame reached.frame).temp
  rw [← reports.sense, kept]
  cases run with
  | sense _ _ told _ => exact told
  | silent kind => cases is.symm.trans kind
  | _ kind => cases is.symm.trans kind

theorem BlockRun.tells {cmd : UInt32 → UInt32 → IoCmd} {asc : UInt8} {fill : Pointer → UInt32 → CommandResult}
    (run : BlockRun x.env (begun { c with cbw := x.cbw }) cmd asc fill (blockRequest x.cbw c.capacity) result s')
    (speaks : ¬((blockRequest x.cbw c.capacity).InRange c.capacity ∧
      x.cbw.dataLength ≠ (blockRequest x.cbw c.capacity).transferLength)) :
    (s'.ctx.csw.status = .passed ∧ x.BlockTaken c cmd ∧ s'.ctx.sense = c.sense) ∨
      (s'.ctx.csw.status = .failed ∧ s'.ctx.sense.key ≠ 0 ∧ .setSense s'.ctx.sense ∈ s'.log) := by
  cases run with
  | range out ran =>
    refine .inr ⟨ran.status, ?_, ?_⟩
    · rw [ran.sense]
      decide
    · rw [ran.log, ran.sense]
      exact List.mem_cons_self
  | length range mismatch => exact absurd ⟨range, mismatch⟩ speaks
  | passed range length taken ran => exact .inl ⟨ran.status, ⟨range, length, taken⟩, ran.sense⟩
  | refused range length refused ran =>
    refine .inr ⟨ran.status, ?_, ?_⟩
    · rw [ran.sense]
      change (3 : UInt8) ≠ 0
      decide
    · rw [ran.log, ran.sense]
      exact List.mem_cons_of_mem _ List.mem_cons_self

theorem ScsiRun.tells (meets : x.Meets c) (run : ScsiRun x.env (begun { c with cbw := x.cbw }) result s')
    (timely : s'.ctx.csw.status = .passed → ¬x.Late) :
    (s'.ctx.csw.status = .passed ∧ s'.ctx.sense = .zero) ∨
      (s'.ctx.csw.status = .failed ∧ s'.ctx.sense.key ≠ 0 ∧ .setSense s'.ctx.sense ∈ s'.log) := by
  cases run with
  | silent kind => exact absurd (.inl kind) meets.speaks
  | passing kind _ ran =>
    exact .inl ⟨ran.status, ran.sense.trans (meets.clear ⟨.inl kind, timely ran.status⟩)⟩
  | sense _ _ _ ran => exact .inl ⟨ran.status, ran.sense⟩
  | inquiryPassed kind taken ran =>
    exact .inl ⟨ran.status, ran.sense.trans
      (meets.clear ⟨.inr (.inl ⟨kind_inquiry kind, taken⟩), timely ran.status⟩)⟩
  | inquiryRefused _ _ ran =>
    refine .inr ⟨ran.status, ?_, ?_⟩
    · rw [ran.sense]
      decide
    · rw [ran.log, ran.sense]
      exact List.mem_cons_of_mem _ List.mem_cons_self
  | read kind run =>
    have speaks := fun h => meets.speaks (.inr ⟨.inl (kind_read kind), h⟩)
    refine (run.tells speaks).imp_left fun ⟨passed, taken, same⟩ =>
      ⟨passed, same.trans (meets.clear ⟨?_, timely passed⟩)⟩
    exact .inr (.inr (.inl ⟨kind_read kind, taken⟩))
  | write kind run =>
    have speaks := fun h => meets.speaks (.inr ⟨.inr (kind_write kind), h⟩)
    refine (run.tells speaks).imp_left fun ⟨passed, taken, same⟩ =>
      ⟨passed, same.trans (meets.clear ⟨?_, timely passed⟩)⟩
    exact .inr (.inr (.inr ⟨kind_write kind, taken⟩))

theorem told_of_meets {status : CswStatus} {sense : Sense} (meets : x.Meets c) (answered : Answered c x status)
    (reports : Reports (stepOf c (.exchange x)) y sense) : Told c x status sense := by
  obtain rfl := reports.eq
  obtain ⟨result, s', run, ended⟩ := staged_of_ended answered.waits answered.valid answered.ended
  have is : (exchange x ⟨c, []⟩).2.ctx.csw.status = status := answered.status
  rcases ended with ⟨apart, reached⟩ | ⟨-, -, s'', ends, reached⟩
  · have frame := reached.frame
    rcases run.tells meets fun passed late => apart ⟨passed, late⟩ with ⟨passed, zero⟩ | ⟨failed, key, told⟩
    · have clear : (stepOf c (.exchange x)).sense = .zero := frame.sense.trans zero
      refine ⟨fun failed => ?_, fun _ _ => clear, fun _ _ => clear⟩
      rw [← is, frame.status, passed] at failed
      cases failed
    · have not_passed : status ≠ .passed := by
        rw [← is, frame.status, failed]
        decide
      refine ⟨fun _ => ?_, fun passed => absurd passed not_passed, fun passed => absurd passed not_passed⟩
      have same : (stepOf c (.exchange x)).sense = s'.ctx.sense := frame.sense
      rw [same]
      exact ⟨key, (frame.mem_iff _).mpr told⟩
  · have ends := ends.frame reached.frame
    have not_passed : status ≠ .passed := by
      rw [← is, ends.status]
      decide
    refine ⟨fun _ => ?_, fun passed => absurd passed not_passed, fun passed => absurd passed not_passed⟩
    have same : (stepOf c (.exchange x)).sense = ⟨0x03, 0x0C, 0⟩ := ends.sense
    rw [same]
    exact ⟨by decide, ends.told⟩

theorem runFrom_append (c : Context) (events : List Event) (event : Event) :
    runFrom c (events ++ [event]) = stepOf (runFrom c events) event := List.foldl_append

theorem AllMeet.at {events before after : List Event} {event : Event} (meets : AllMeet c events)
    (split : events = before ++ event :: after) : event.Meets (runFrom c before) := by
  subst split
  induction before generalizing c with
  | nil => exact meets.1
  | cons first before ih => exact ih meets.2

end Sense

/-- An application that takes every call, and a controller that does. -/
def willing : Env := ⟨fun _ => ⟨true, some 0, 0⟩, none, fun _ => true⟩

local instance commandBytes_ne_zero : NeZero 16 := ⟨by decide⟩

def sampleCommand (opcode : UInt8) (dataLength : UInt32) : Exchange :=
  ⟨⟨cbwSignature, 1, dataLength, botIn, .ofFn fun k => if k = 0 then opcode else 0⟩, cbwLength, willing⟩

def sampleContext : Context :=
  ⟨.waitCbw, .zero, fun _ => 0, ⟨0, 0, 0, 0, .replicate 16 0⟩, ⟨0, 0, 0, .failed⟩, ⟨1000, 512⟩⟩

end XSDK.Usbd.Msc
