import XSDK.Fs.Layout
import XSDK.Library.Walks

/-! The volume as a call sees it: the disk under the sector that the cache holds. Reading
through the cache leaves this view alone, and what a call answers depends on nothing else as
long as no request fails. -/
namespace XSDK.Fs

open Library Prog

theorem updateFile_run (f : File → File) (io : Io) :
    updateFile f io = some (.ok (), { io with file := f io.file }) := rfl

theorem updateDirectory_run (f : Directory → Directory) (io : Io) :
    updateDirectory f io = some (.ok (), { io with directory := f io.directory }) := rfl

namespace Io

variable (io : Io)

def view : Nat → Sector :=
  if io.cache.isValid = true then Function.update io.disk io.cache.sector io.cache.buffer else io.disk

def Coherent : Prop :=
  io.cache.isValid = true → io.cache.isDirty = false → io.cache.buffer = io.disk io.cache.sector

def calls : Nat := io.requests.length

end Io

def Env.Ideal (env : Env) : Prop := ∀ requests, env.fails requests = none

/-- A driver that never fails, and a disk of zeros. -/
def idealEnv (fuel : Nat) : Env := ⟨fun _ => none, fuel⟩
def blankIo : Io := ⟨fun _ => zeroSector, Cache.zero, File.zero, Directory.zero, [], []⟩

theorem idealEnv_ideal (fuel : Nat) : (idealEnv fuel).Ideal := fun _ => rfl

structure Looked (io io' : Io) : Prop where
  view : io'.view = io.view
  file : io'.file = io.file
  directory : io'.directory = io.directory

theorem Looked.refl (io : Io) : Looked io io := ⟨rfl, rfl, rfl⟩

theorem Looked.trans {io₁ io₂ io₃ : Io} (first : Looked io₁ io₂) (second : Looked io₂ io₃) : Looked io₁ io₃ :=
  ⟨second.view.trans first.view, second.file.trans first.file, second.directory.trans first.directory⟩

/-- The call ends within the cost. If no request failed, it gives the answer and leaves a state
with the property; otherwise it may fail with the driver's code. -/
def Acts {α : Type} (env : Env) (m : IoM α) (cost : Nat) (io : Io) (answer : Except Error α)
    (after : Io → Prop) : Prop :=
  ∃ r io', m io = some (r, io') ∧ io'.Coherent ∧ io'.calls ≤ io.calls + cost ∧
    ((r = answer ∧ after io') ∨ ((∃ code, r = .error (.driver code)) ∧ ¬env.Ideal))

namespace Acts

variable {α β : Type} {env : Env} {m : IoM α} {cost d : Nat} {io : Io} {a : α} {e : Error}
  {answer : Except Error α} {after after' : Io → Prop}

theorem pure (coherent : io.Coherent) (h : after io) : Acts env (pure a) 0 io (.ok a) after :=
  ⟨.ok a, io, rfl, coherent, Nat.le_refl _, .inl ⟨rfl, h⟩⟩

theorem fail (coherent : io.Coherent) (h : after io) : Acts env (fail e : IoM α) 0 io (.error e) after :=
  ⟨.error e, io, rfl, coherent, Nat.le_refl _, .inl ⟨rfl, h⟩⟩

theorem weaken (acts : Acts env m cost io answer after) (more : cost ≤ d) (h : ∀ io', after io' → after' io') :
    Acts env m d io answer after' := by
  obtain ⟨r, io', run, coherent, calls, outcome⟩ := acts
  refine ⟨r, io', run, coherent, by omega, ?_⟩
  rcases outcome with ⟨same, post⟩ | failed
  · exact .inl ⟨same, h io' post⟩
  · exact .inr failed

variable {f : α → IoM β}

theorem bind {answer : Except Error β} (first : Acts env m cost io (.ok a) after)
    (rest : ∀ io', io'.Coherent → after io' → Acts env (f a) d io' answer after') :
    Acts env (m >>= f) (cost + d) io answer after' := by
  obtain ⟨r, io', run, coherent, calls, outcome⟩ := first
  rcases outcome with ⟨same, post⟩ | ⟨⟨code, failed⟩, driver⟩
  · subst same
    obtain ⟨r, io'', run', coherent', calls', outcome⟩ := rest io' coherent post
    exact ⟨r, io'', (bind_ok _ run).trans run', coherent', by omega, outcome⟩
  · subst failed
    exact ⟨_, io', bind_error _ run, coherent, by omega, .inr ⟨⟨code, rfl⟩, driver⟩⟩

theorem bind_error (first : Acts env m cost io (.error e) after) : Acts env (m >>= f) cost io (.error e) after := by
  obtain ⟨r, io', run, coherent, calls, outcome⟩ := first
  rcases outcome with ⟨same, post⟩ | ⟨⟨code, failed⟩, driver⟩
  · subst same
    exact ⟨_, io', Prog.bind_error _ run, coherent, calls, .inl ⟨rfl, post⟩⟩
  · subst failed
    exact ⟨_, io', Prog.bind_error _ run, coherent, calls, .inr ⟨⟨code, rfl⟩, driver⟩⟩

theorem read {β : Type} {f : Io → β} {m : β → IoM α} (h : Acts env (m (f io)) cost io answer after) :
    Acts env (Prog.read f >>= m) cost io answer after := h

theorem modify {f : Io → Io} {m : Unit → IoM α} (same : (f io).requests = io.requests)
    (h : Acts env (m ()) cost (f io) answer after) : Acts env (Prog.modify f >>= m) cost io answer after := by
  obtain ⟨r, io', run, coherent, calls, outcome⟩ := h
  have before : (f io).calls = io.calls := congrArg List.length same
  exact ⟨r, io', run, coherent, before ▸ calls, outcome⟩

theorem reject_no {c : Prop} [Decidable c] {m : Unit → IoM α} (no : ¬c) (h : Acts env (m ()) cost io answer after) :
    Acts env (reject c e >>= m) cost io answer after := by
  rwa [reject_bind_neg _ no]

theorem reject_yes {c : Prop} [Decidable c] {m : Unit → IoM α} (yes : c) (coherent : io.Coherent) (h : after io) :
    Acts env (reject c e >>= m) 0 io (.error e) after := by
  rw [reject_bind_pos _ yes]
  exact fail coherent h

theorem ideal (acts : Acts env m cost io answer after) (ideal : env.Ideal) :
    ∃ io', m io = some (answer, io') ∧ io'.Coherent ∧ after io' := by
  obtain ⟨r, io', run, coherent, _, outcome⟩ := acts
  rcases outcome with ⟨same, post⟩ | ⟨_, driver⟩
  · subst same
    exact ⟨io', run, coherent, post⟩
  · exact absurd ideal driver

end Acts

/-- After it has looked at the volume the call goes on as another one, unless a request failed. -/
def Reaches {α : Type} (env : Env) (io : Io) (cost : Nat) (m m' : IoM α) : Prop :=
  ∃ io', io'.Coherent ∧ io'.calls ≤ io.calls + cost ∧
    ((Looked io io' ∧ m io = m' io') ∨ ((∃ code, m io = some (.error (.driver code), io')) ∧ ¬env.Ideal))

namespace Reaches

variable {α β : Type} {env : Env} {io : Io} {cost d : Nat} {m m' m'' : IoM α}

theorem refl (coherent : io.Coherent) : Reaches env io 0 m m :=
  ⟨io, coherent, Nat.le_refl _, .inl ⟨Looked.refl io, rfl⟩⟩

theorem weaken (h : Reaches env io cost m m') (more : cost ≤ d) : Reaches env io d m m' := by
  obtain ⟨io', coherent, calls, outcome⟩ := h
  exact ⟨io', coherent, by omega, outcome⟩

theorem trans (first : Reaches env io cost m m')
    (second : ∀ io', io'.Coherent → Looked io io' → Reaches env io' d m' m'') :
    Reaches env io (cost + d) m m'' := by
  obtain ⟨io', coherent, calls, outcome⟩ := first
  rcases outcome with ⟨looked, same⟩ | failed
  · obtain ⟨io'', coherent', calls', outcome'⟩ := second io' coherent looked
    refine ⟨io'', coherent', by omega, ?_⟩
    rcases outcome' with ⟨looked', same'⟩ | ⟨⟨code, failed⟩, driver⟩
    · exact .inl ⟨looked.trans looked', same.trans same'⟩
    · exact .inr ⟨⟨code, same.trans failed⟩, driver⟩
  · exact ⟨io', coherent, by omega, .inr failed⟩

theorem bind {m : IoM β} {a : β} (acts : Acts env m cost io (.ok a) (Looked io)) (f : β → IoM α) :
    Reaches env io cost (m >>= f) (f a) := by
  obtain ⟨r, io', run, coherent, calls, outcome⟩ := acts
  refine ⟨io', coherent, calls, ?_⟩
  rcases outcome with ⟨same, looked⟩ | ⟨⟨code, failed⟩, driver⟩
  · subst same
    exact .inl ⟨looked, bind_ok _ run⟩
  · subst failed
    exact .inr ⟨⟨code, bind_error _ run⟩, driver⟩

theorem bind_error {m : IoM β} {e : Error} (acts : Acts env m cost io (.error e) (Looked io)) (f : β → IoM α) :
    Reaches env io cost (m >>= f) (fail e) := by
  obtain ⟨r, io', run, coherent, calls, outcome⟩ := acts
  refine ⟨io', coherent, calls, ?_⟩
  rcases outcome with ⟨same, looked⟩ | ⟨⟨code, failed⟩, driver⟩
  · subst same
    exact .inl ⟨looked, Prog.bind_error _ run⟩
  · subst failed
    exact .inr ⟨⟨code, Prog.bind_error _ run⟩, driver⟩

theorem acts {answer : Except Error α} {after : Io → Prop} (h : Reaches env io cost m m')
    (rest : ∀ io', io'.Coherent → Looked io io' → Acts env m' d io' answer after) :
    Acts env m (cost + d) io answer after := by
  obtain ⟨io', coherent, calls, outcome⟩ := h
  rcases outcome with ⟨looked, same⟩ | ⟨⟨code, failed⟩, driver⟩
  · obtain ⟨r, io'', run, coherent', calls', outcome'⟩ := rest io' coherent looked
    exact ⟨r, io'', same.trans run, coherent', by omega, outcome'⟩
  · exact ⟨_, io', failed, coherent, by omega, .inr ⟨⟨code, rfl⟩, driver⟩⟩

theorem ideal (h : Reaches env io cost m m') (ideal : env.Ideal) :
    ∃ io', io'.Coherent ∧ Looked io io' ∧ m io = m' io' := by
  obtain ⟨io', coherent, _, outcome⟩ := h
  rcases outcome with ⟨looked, same⟩ | ⟨_, driver⟩
  · exact ⟨io', coherent, looked, same⟩
  · exact absurd ideal driver

end Reaches

section Cache

variable (env : Env) {io : Io}

theorem view_of_valid (valid : io.cache.isValid = true) :
    io.view = Function.update io.disk io.cache.sector io.cache.buffer := if_pos valid

theorem view_of_invalid (invalid : io.cache.isValid = false) : io.view = io.disk := if_neg (by rw [invalid]; decide)

theorem view_of_clean (coherent : io.Coherent) (clean : io.cache.isValid = false ∨ io.cache.isDirty = false) :
    io.view = io.disk := by
  cases valid : io.cache.isValid with
  | false => exact view_of_invalid valid
  | true =>
    rcases clean with invalid | clean
    · rw [valid] at invalid; cases invalid
    · rw [view_of_valid valid, coherent valid clean, Function.update_eq_self]

/-- The state with other bytes in the cache's buffer, to be written back. -/
def Io.store (io : Io) (buffer : Sector) :
    Io := { io with cache := { io.cache with buffer := buffer, isDirty := true } }

theorem store_coherent (buffer : Sector) : (io.store buffer).Coherent := by
  intro _ clean
  cases clean

theorem store_view (valid : io.cache.isValid = true) (buffer : Sector) :
    (io.store buffer).view = Function.update io.view io.cache.sector buffer := by
  rw [view_of_valid valid, Function.update_idem]
  exact view_of_valid valid

theorem request_ends (call : Request) (io : Io) :
    ∃ r, request env call io = some (r, { io with requests := call :: io.requests }) ∧
      (r = .ok () ∨ ((∃ code, r = .error (.driver code)) ∧ ¬env.Ideal)) := by
  cases h : env.fails (call :: io.requests) with
  | none =>
    refine ⟨.ok (), ?_, .inl rfl⟩
    rw [request, bind_ok _ (modify_run _), bind_ok _ (read_run _)]
    simp only [h]
    rfl
  | some code =>
    refine ⟨.error (.driver code), ?_, .inr ⟨⟨code, rfl⟩, fun ideal => ?_⟩⟩
    · rw [request, bind_ok _ (modify_run _), bind_ok _ (read_run _)]
      simp only [h]
      rfl
    · rw [ideal] at h
      cases h

structure Flushed (io io' : Io) : Prop extends Looked io io' where
  disk : io'.disk = io.view
  cache : io'.cache.sector = io.cache.sector ∧ io'.cache.isValid = io.cache.isValid ∧ io'.cache.buffer = io.cache.buffer
  clean : io'.cache.isValid = false ∨ io'.cache.isDirty = false

theorem cacheWrite_acts (coherent : io.Coherent) : Acts env (cacheWrite env) 1 io (.ok ()) (Flushed io) := by
  rw [cacheWrite]
  apply Acts.read
  split
  · next quiet =>
    have clean : io.cache.isValid = false ∨ io.cache.isDirty = false := quiet
    exact (Acts.pure coherent
      ⟨Looked.refl io, (view_of_clean coherent clean).symm, ⟨rfl, rfl, rfl⟩, clean⟩).weaken (by omega) fun _ h => h
  · next busy =>
    have valid : io.cache.isValid = true := by
      cases h : io.cache.isValid with
      | true => rfl
      | false => exact absurd (.inl h) busy
    obtain ⟨r, run, outcome⟩ := request_ends env (.write io.cache.sector) io
    rcases outcome with ok | ⟨⟨code, failed⟩, driver⟩
    · subst ok
      refine ⟨.ok (), { io with
          requests := .write io.cache.sector :: io.requests,
          disk := Function.update io.disk io.cache.sector io.cache.buffer,
          cache := { io.cache with isDirty := false } }, ?_, ?_, Nat.le_refl _, .inl ⟨rfl, ?_⟩⟩
      · rw [writeSector, Prog.bind_assoc, bind_ok _ run]
        rfl
      · intro _ _
        exact (Function.update_self io.cache.sector io.cache.buffer io.disk).symm
      · refine ⟨⟨?_, rfl, rfl⟩, (view_of_valid valid).symm, ⟨rfl, rfl, rfl⟩, .inr rfl⟩
        rw [view_of_valid valid, view_of_valid (by exact valid)]
        exact Function.update_idem (a := io.cache.sector) io.cache.buffer io.cache.buffer io.disk
    · subst failed
      refine ⟨_, { io with requests := .write io.cache.sector :: io.requests }, ?_, coherent, Nat.le_refl _,
        .inr ⟨⟨code, rfl⟩, driver⟩⟩
      rw [writeSector, Prog.bind_assoc]
      exact Prog.bind_error _ run

structure Fetched (io : Io) (s : Nat) (io' : Io) : Prop extends Looked io io' where
  valid : io'.cache.isValid = true
  sector : io'.cache.sector = s
  buffer : io'.cache.buffer = io.view s

theorem cacheRead_acts (coherent : io.Coherent) (sector : Nat) :
    Acts env (cacheRead env sector) 2 io (.ok ()) (Fetched io sector) := by
  rw [cacheRead]
  apply Acts.read
  split
  · next hit =>
    obtain ⟨valid, same⟩ := hit
    refine (Acts.pure coherent ⟨Looked.refl io, valid, same, ?_⟩).weaken (by omega) fun _ h => h
    rw [view_of_valid valid, ← same, Function.update_self]
  · have flushed : Acts env (onlyIf (io.cache.isDirty = true) (cacheWrite env)) 1 io (.ok ())
        fun io' => Looked io io' ∧ (io'.cache.isValid = false ∨ io'.cache.isDirty = false) := by
      rw [onlyIf]
      split
      · exact (cacheWrite_acts env coherent).weaken (Nat.le_refl _) fun io' h => ⟨h.toLooked, h.clean⟩
      · next clean =>
        exact (Acts.pure coherent ⟨Looked.refl io, .inr (by simpa using clean)⟩).weaken (by omega) fun _ h => h
    refine flushed.bind (d := 1) ?_
    rintro io' coherent' ⟨looked, clean⟩
    obtain ⟨r, run, outcome⟩ := request_ends env (.read sector) io'
    rcases outcome with ok | ⟨⟨code, failed⟩, driver⟩
    · subst ok
      refine ⟨.ok (), { io' with
          requests := .read sector :: io'.requests, cache := ⟨true, false, sector, io'.disk sector⟩ }, ?_, ?_,
        Nat.le_refl _, .inl ⟨rfl, ?_⟩⟩
      · rw [readSector, Prog.bind_assoc, bind_ok _ run]
        rfl
      · intro _ _
        rfl
      · refine ⟨⟨?_, looked.file, looked.directory⟩, rfl, rfl, ?_⟩
        · rw [← looked.view, view_of_clean coherent' clean, view_of_valid rfl]
          exact Function.update_eq_self _ _
        · rw [← looked.view, view_of_clean coherent' clean]
    · subst failed
      refine ⟨_, { io' with requests := .read sector :: io'.requests }, ?_, coherent', Nat.le_refl _,
        .inr ⟨⟨code, rfl⟩, driver⟩⟩
      rw [readSector, Prog.bind_assoc]
      exact Prog.bind_error _ run

end Cache
end XSDK.Fs
