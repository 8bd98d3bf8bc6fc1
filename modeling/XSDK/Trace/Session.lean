import XSDK.Trace.Recorder

/-! A trace session: the recorder with what its transport took and which Emit calls came.
A transport takes any part of what it is offered, and calls may come while it does. -/
namespace XSDK.Trace

open Library

/-- One call of the transport's write: the calls that come before it reads the offered
bytes, how many of the offered number of bytes it takes (none: it fails), and the calls
that come after that and before it returns. -/
structure Write where
  before : List (UInt32 × Call)
  answer : Nat → Option Nat
  after : List (UInt32 × Call)

/-- The event of an Emit call; a name that is not printable names none. -/
structure Event where
  eventId : UInt32
  params : List Nat
  deriving DecidableEq, Repr

def Call.event : Call → Option Event
  | .emit0 eventId => some ⟨eventId, []⟩
  | .emit1 eventId a => some ⟨eventId, [a.toNat]⟩
  | .emit2 eventId a b => some ⟨eventId, [a.toNat, b.toNat]⟩
  | .emit3 eventId a b c => some ⟨eventId, [a.toNat, b.toNat, c.toNat]⟩
  | .emitName eventId objType objId name =>
    let name := cString name
    if name.all isPrintable then
      some ⟨eventId, [objType.toNat, objId.toNat, name.length] ++ name.map (·.toNat)⟩
    else none
  | _ => none

/-- An enabled Emit call and what became of it. -/
structure Attempt where
  ts : UInt32
  event : Event
  isRecorded : Bool
  deriving DecidableEq, Repr

/-- Bytes of the parameters, as the callers of the common prologue add them up. -/
def Call.extraBytes : Call → Nat
  | .emit0 _ => 0
  | .emit1 _ a => leb128Size a.toNat
  | .emit2 _ a b => leb128Size a.toNat + leb128Size b.toNat
  | .emit3 _ a b c => leb128Size a.toNat + leb128Size b.toNat + leb128Size c.toNat
  | .emitName _ objType objId name => nameExtra objType objId (cString name).length
  | _ => 0

/-- The enabled Emit call that a call is, when it is one. -/
def attempt (ctx : Context) (ts : UInt32) (call : Call) : Option Attempt :=
  match call.event with
  | none => none
  | some event =>
    if isActive ctx event.eventId then
      (emitStart ctx ts event.eventId call.extraBytes).map fun started => ⟨ts, event, started.1⟩
    else none

structure Session where
  ctx : Context
  /-- What the transport took, write by write. -/
  writes : List (List UInt8)
  attempts : List Attempt

namespace Session

def sent (s : Session) : List UInt8 := s.writes.flatten

def waiting (s : Session) : List UInt8 := s.ctx.contents

/-- All that was put on the wire and is still to be put there. -/
def bytes (s : Session) : List UInt8 := s.sent ++ s.waiting

def call (s : Session) (ts : UInt32) (c : Call) : Option Session :=
  (c.run s.ctx ts).map fun ctx =>
    { s with ctx := ctx, attempts := s.attempts ++ (attempt s.ctx ts c).toList }

def calls (s : Session) : List (UInt32 × Call) → Option Session
  | [] => some s
  | (ts, c) :: rest => (s.call ts c).bind fun s => s.calls rest

def contiguous (ctx : Context) : Nat :=
  if ctx.writePos > ctx.readPos then ctx.writePos - ctx.readPos else ctx.capacityBytes - ctx.readPos

def advance (ctx : Context) (written : Nat) : Context :=
  { ctx with readPos := (ctx.readPos + written) % ctx.capacityBytes }

/-- One round of a flush: the session after it, and the result when the loop ends there. -/
def round (s : Session) (w : Write) : Option (Session × Option (Except Error Unit)) :=
  let start := s.ctx.readPos
  let offered := contiguous s.ctx
  (s.calls w.before).bind fun reading =>
  (reading.calls w.after).map fun s =>
    match w.answer offered with
    | none => (s, some (.error .transport))
    | some written =>
      if written > offered then (s, some (.error .transport))
      else if written = 0 then (s, some (.ok ()))
      else
        ({ s with
            ctx := advance s.ctx written
            writes := s.writes ++ [Ring.slice reading.ctx.buffer start written] }, none)

def flushLoop : List Write → Session → Option (Session × Except Error Unit)
  | [], s => some (s, if s.ctx.readPos ≠ s.ctx.writePos then .error .transport else .ok ())
  | w :: writes, s =>
    if s.ctx.readPos ≠ s.ctx.writePos then
      match s.round w with
      | none => none
      | some (s, some result) => some (s, result)
      | some (s, none) => flushLoop writes s
    else some (s, .ok ())

def flush (s : Session) (writes : List Write) : Option (Session × Except Error Unit) :=
  if !s.ctx.isInitialized then some (s, .error .notInitialized)
  else if !s.ctx.hasTransport then some (s, .ok ())
  else flushLoop writes s

end Session

/-- What the application does next. -/
inductive Step where
  | call (ts : UInt32) (c : Call)
  | flush (writes : List Write)

def Session.step (s : Session) : Step → Option Session
  | .call ts c => s.call ts c
  | .flush writes => (s.flush writes).map (·.1)

def Session.start (ctx : Context) : Session := ⟨ctx, [], []⟩

/-- Whether a write takes some of the bytes it is offered. -/
def Write.takes (w : Write) (offered : Nat) : Bool :=
  match w.answer offered with
  | none => false
  | some written => 0 < written && written ≤ offered

/-- A condition on a call in the session it comes in; the flag tells a call from inside a
write that takes bytes. -/
abbrev CallCondition := Bool → Session → UInt32 → Call → Prop

def Session.EveryCall (P : Session → UInt32 → Call → Prop) (s : Session) : List (UInt32 × Call) → Prop
  | [] => True
  | (ts, c) :: rest => P s ts c ∧ ∀ s', s.call ts c = some s' → s'.EveryCall P rest

def Session.EveryWrite (P : CallCondition) : List Write → Session → Prop
  | [], _ => True
  | w :: writes, s =>
    s.ctx.readPos ≠ s.ctx.writePos →
      s.EveryCall (P (w.takes (contiguous s.ctx))) w.before ∧
      (∀ reading, s.calls w.before = some reading → reading.EveryCall (P (w.takes (contiguous s.ctx))) w.after) ∧
      ∀ s', s.round w = some (s', none) → EveryWrite P writes s'

def Step.Meets (P : CallCondition) (s : Session) : Step → Prop
  | .call ts c => P false s ts c
  | .flush writes => s.EveryWrite P writes

/-- Runs whose steps meet a condition, with the steps in the order they were taken. -/
inductive Run (ok : Session → Step → Prop) (start : Session) : List Step → Session → Prop
  | nil : Run ok start [] start
  | snoc {steps : List Step} {s s' : Session} {step : Step} (run : Run ok start steps s)
      (met : ok s step) (next : s.step step = some s') : Run ok start (steps ++ [step]) s'

end XSDK.Trace
