import XSDK.Library.Call
import Mathlib.Data.List.Basic
import Mathlib.Logic.Function.Iterate

/-! The text shell: tokens and commands, the line editor, and the session that reads the transport. -/
namespace XSDK.Shell

open Library Library.Call

abbrev Text : Type := List UInt8

/-- Return codes; the last one is a message. -/
inductive Code
  | nullPointer
  | invalidArg
  | invalidState
  | bufferFull
  | notFound
  | callbackFailed
  | noCommand
  deriving DecidableEq, Repr

def maxLineLength : Nat := 128
def maxArgs : Nat := 16
def maxPromptLength : Nat := 16
def readChunkSize : Nat := 16

inductive SessionState
  | uninit
  | ready
  | running
  | stopped
  deriving DecidableEq, Repr

def cString (bytes : Text) : Text := bytes.takeWhile (· ≠ 0)

/-! ### Commands -/

def space : UInt8 := 0x20
def tab : UInt8 := 0x09
def isBlank (c : UInt8) : Bool := c = space || c = tab

/-- A token in quotes, and what follows the closing one. -/
def consumeQuotedToken (close : UInt8) (p : Text) : Except Code (Text × Text) :=
  match p.dropWhile (· ≠ close) with
  | [] => .error .invalidArg
  | _ :: rest => .ok (p.takeWhile (· ≠ close), rest)

def consumeUnquotedToken (p : Text) : Text × Text :=
  (p.takeWhile fun c => !isBlank c, (p.dropWhile fun c => !isBlank c).tail)

def consumeToken (p : Text) : Except Code (Text × Text) :=
  match p with
  | 0x22 :: rest => consumeQuotedToken 0x22 rest
  | 0x27 :: rest => consumeQuotedToken 0x27 rest
  | p => .ok (consumeUnquotedToken p)

/-- The tokens of a line, at most as many as fit; each takes at least one byte. -/
def parseTokens : Nat → Text → List Text → Except Code (List Text)
  | 0, _, argv => .ok argv
  | fuel + 1, p, argv =>
    match p.dropWhile isBlank with
    | [] => .ok argv
    | p =>
      if maxArgs ≤ argv.length then .error .bufferFull
      else
        match consumeToken p with
        | .error code => .error code
        | .ok (token, rest) => parseTokens fuel rest (argv ++ [token])

def parseLine (line : Text) : Except Code (List Text) :=
  match parseTokens line.length line [] with
  | .error code => .error code
  | .ok [] => .error .noCommand
  | .ok argv => .ok argv

/-- A command: what its callback does with the arguments, to the session's state and outside. -/
structure Command (σ : Type) where
  path : Text
  callback : List Text → Call (SessionState × σ) Code Unit

/-- The transport, and the commands that are registered for now. -/
structure Env (σ : Type) where
  read : Call σ Code { chunk : Text // chunk.length ≤ readChunkSize }
  write : Text → Call σ Code Unit
  commands : σ → List (Command σ)

variable {σ : Type}

def cmdDispatch (commands : List (Command σ)) (argv : List Text) : Call (SessionState × σ) Code Unit :=
  match commands.find? fun command => some command.path = argv.head? with
  | some command => command.callback argv
  | none => fail .notFound

def cliExecuteLine (e : Env σ) (line : Text) : Call (SessionState × σ) Code Unit :=
  match parseLine line with
  | .error code => fail code
  | .ok argv => do
    let commands ← read fun s => e.commands s.2
    cmdDispatch commands argv

/-! ### The session -/

structure Context where
  prompt : Text
  lineBuffer : Text
  lineLength : Nat
  state : SessionState
  isOverflow : Bool
  skipNextLf : Bool

def copyPrompt (src : Text) : Text := (cString src).take (maxPromptLength - 1)

def Context.init (prompt : Text) (memory : Vector UInt8 maxLineLength) : Context where
  prompt := copyPrompt prompt
  lineBuffer := memory.toList
  lineLength := 0
  state := .ready
  isOverflow := false
  skipNextLf := false

/-- The shell and what surrounds it, with the bytes read so far, the lines handed on, and the
places of the line buffer that were written. -/
structure System (σ : Type) where
  shell : Context
  outside : σ
  received : Text
  executed : List Text
  stores : List Nat

abbrev Session (σ : Type) : Type → Type := Call (System σ) Code

def System.init (prompt : Text) (memory : Vector UInt8 maxLineLength) (o : σ) :
    System σ := ⟨.init prompt memory, o, [], [], []⟩

def onShell (f : Context → Context) : Session σ Unit := modify fun s => { s with shell := f s.shell }

def store (i : Nat) (c : UInt8) : Session σ Unit := modify fun s =>
  { s with
    shell := { s.shell with lineBuffer := s.shell.lineBuffer.set i c }
    stores := s.stores ++ [i] }

variable (e : Env σ)

def write (data : Text) : Session σ Unit := zoom System.outside (fun o s => { s with outside := o }) (e.write data)

def writePrompt : Session σ Unit := do
  let prompt ← read (·.shell.prompt)
  onlyIf (prompt ≠ []) (write e prompt)

/-- A line is handed over as the string in the line buffer. -/
def executeLine : Session σ Unit := do
  let line ← read fun s => cString s.shell.lineBuffer
  modify fun s => { s with executed := s.executed ++ [line] }
  zoom (fun s => (s.shell.state, s.outside)) (fun o s => { s with shell := { s.shell with state := o.1 }, outside := o.2 })
    (cliExecuteLine e line)

def carriageReturn : UInt8 := 0x0D
def lineFeed : UInt8 := 0x0A
def backspace : UInt8 := 0x08
def delete : UInt8 := 0x7F

def dispatchLine : Session σ Unit := do
  ignore (write e [carriageReturn, lineFeed])
  let shell ← read (·.shell)
  if shell.isOverflow then do
    onShell fun s => { s with isOverflow := false, lineLength := 0 }
    writePrompt e
  else do
    store shell.lineLength 0
    onShell fun s => { s with lineLength := 0 }
    ignore (executeLine e)
    writePrompt e

def processByte (byte : UInt8) : Session σ Unit := do
  let shell ← read (·.shell)
  if shell.skipNextLf = true ∧ byte = lineFeed then onShell fun s => { s with skipNextLf := false }
  else do
    onShell fun s => { s with skipNextLf := false }
    if byte = carriageReturn ∨ byte = lineFeed then do
      onShell fun s => { s with skipNextLf := byte = carriageReturn }
      dispatchLine e
    else if byte = backspace ∨ byte = delete then
      onlyIf (0 < shell.lineLength) (onShell fun s => { s with
        lineLength := s.lineLength - 1
        isOverflow := if s.lineLength - 1 < maxLineLength - 1 then false else s.isOverflow })
    else if maxLineLength - 1 ≤ shell.lineLength then do
      onShell fun s => { s with isOverflow := true }
      fail .bufferFull
    else do
      store shell.lineLength byte
      onShell fun s => { s with lineLength := s.lineLength + 1 }

def processBytes : Text → Session σ Unit
  | [] => pure ()
  | byte :: rest => do
    ignore (processByte e byte)
    processBytes rest

def receive : Session σ Text := do
  let chunk ← zoom System.outside (fun o s => { s with outside := o }) e.read
  modify fun s => { s with received := s.received ++ chunk.val }
  pure chunk.val

def process : Session σ Unit := do
  let state ← read (·.shell.state)
  reject (state ≠ .running) .invalidState
  let chunk ← receive e
  processBytes e chunk

def start : Session σ Unit := do
  let state ← read (·.shell.state)
  reject (state ≠ .ready) .invalidState
  onShell fun s => { s with state := .running }
  writePrompt e

/-- The session after so many calls of xSHELL_Process. -/
def session (prompt : Text) (memory : Vector UInt8 maxLineLength) (o : σ) (n : Nat) : System σ :=
  (fun s => (process e s).2)^[n] (start e (.init prompt memory o)).2

end XSDK.Shell
