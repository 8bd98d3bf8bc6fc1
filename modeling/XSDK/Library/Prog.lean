import Mathlib.Init

/-! Calls on a state that end with a value or an error code, or never end. The
rules below read a call from its parts, so that a caller cites the specification
of what it calls and never unfolds it. -/
namespace XSDK.Library

/-- A call: nothing when it never ends, and otherwise how it ended and the state it left. -/
def Prog (σ ε α : Type) : Type := σ → Option (Except ε α × σ)

namespace Prog

variable {σ ε α β : Type}

protected def pure (a : α) : Prog σ ε α := fun s => some (.ok a, s)

protected def bind (m : Prog σ ε α) (f : α → Prog σ ε β) : Prog σ ε β := fun s =>
  match m s with
  | none => none
  | some (.error e, s') => some (.error e, s')
  | some (.ok a, s') => f a s'

instance : Monad (Prog σ ε) where
  pure := Prog.pure
  bind := Prog.bind

def fail (e : ε) : Prog σ ε α := fun s => some (.error e, s)
def hang : Prog σ ε α := fun _ => none
def read (f : σ → α) : Prog σ ε α := fun s => some (.ok (f s), s)
def modify (f : σ → σ) : Prog σ ε Unit := fun s => some (.ok (), f s)

/-- Return the code when the condition holds. -/
def reject (c : Prop) [Decidable c] (e : ε) : Prog σ ε Unit := if c then fail e else pure ()

/-- A step that is only taken when the condition holds. -/
def onlyIf (c : Prop) [Decidable c] (m : Prog σ ε Unit) : Prog σ ε Unit := if c then m else pure ()

/-- The result of a call as a value, whatever it is. -/
def attempt (m : Prog σ ε α) : Prog σ ε (Except ε α) := fun s =>
  match m s with
  | none => none
  | some (r, s') => some (.ok r, s')

/-- A call whose result is not looked at. -/
def ignore (m : Prog σ ε α) : Prog σ ε Unit := attempt m >>= fun _ => pure ()

/-- End as a result says. -/
def finish : Except ε α → Prog σ ε α
  | .ok a => pure a
  | .error e => fail e

/-- Clean up after a call that failed, and fail with its code. -/
def onError (m : Prog σ ε α) (cleanup : Prog σ ε β) : Prog σ ε α :=
  attempt m >>= fun
    | .ok a => pure a
    | .error e => ignore cleanup >>= fun _ => fail e

/-- A call on a part of the state. -/
def zoom {τ : Type} (get : τ → σ) (set : σ → τ → τ) (m : Prog σ ε α) : Prog τ ε α := fun t =>
  match m (get t) with
  | none => none
  | some (r, s) => some (r, set s t)

/-- The body for each of so many numbers, from one on. -/
def forEach (body : Nat → Prog σ ε Unit) : Nat → Nat → Prog σ ε Unit
  | 0, _ => pure ()
  | left + 1, k => body k >>= fun _ => forEach body left (k + 1)

section Run

variable {s s' : σ} {a : α} {e : ε} {r : Except ε α} {m : Prog σ ε α} {c : Prop} [Decidable c]

@[simp] theorem pure_run : (pure a : Prog σ ε α) s = some (.ok a, s) := rfl
@[simp] theorem fail_run : (fail e : Prog σ ε α) s = some (.error e, s) := rfl
@[simp] theorem hang_run : (hang : Prog σ ε α) s = none := rfl
@[simp] theorem read_run (f : σ → α) : (read f : Prog σ ε α) s = some (.ok (f s), s) := rfl
@[simp] theorem modify_run (f : σ → σ) : (modify f : Prog σ ε Unit) s = some (.ok (), f s) := rfl
@[simp] theorem finish_ok : (finish (.ok a) : Prog σ ε α) = pure a := rfl
@[simp] theorem finish_error : (finish (.error e) : Prog σ ε α) = fail e := rfl

theorem bind_ok (f : α → Prog σ ε β) (h : m s = some (.ok a, s')) : (m >>= f) s = f a s' := by
  change Prog.bind m f s = _
  rw [Prog.bind, h]

theorem bind_error (f : α → Prog σ ε β) (h : m s = some (.error e, s')) : (m >>= f) s = some (.error e, s') := by
  change Prog.bind m f s = _
  rw [Prog.bind, h]

theorem bind_none (f : α → Prog σ ε β) (h : m s = none) : (m >>= f) s = none := by
  change Prog.bind m f s = _
  rw [Prog.bind, h]

@[simp] theorem pure_bind (f : α → Prog σ ε β) : (pure a >>= f) = f a := rfl
@[simp] theorem fail_bind (f : α → Prog σ ε β) : (fail e >>= f) = fail e := rfl

theorem bind_assoc {γ : Type} (m : Prog σ ε α) (f : α → Prog σ ε β) (g : β → Prog σ ε γ) :
    m >>= f >>= g = m >>= fun a => f a >>= g := by
  funext s
  cases h : m s with
  | none => rw [bind_none _ h, bind_none _ (bind_none _ h)]
  | some out =>
    obtain ⟨r, s'⟩ := out
    cases r with
    | error e => rw [bind_error _ h, bind_error _ (bind_error _ h)]
    | ok a =>
      rw [bind_ok _ h]
      change Prog.bind _ _ _ = Prog.bind _ _ _
      simp only [Prog.bind, bind_ok _ h]

theorem attempt_run (h : m s = some (r, s')) : attempt m s = some (.ok r, s') := by
  rw [attempt, h]

theorem ignore_run (h : m s = some (r, s')) : ignore m s = some (.ok (), s') :=
  bind_ok _ (attempt_run h)

theorem onError_ok (cleanup : Prog σ ε β) (h : m s = some (.ok a, s')) : onError m cleanup s = some (.ok a, s') :=
  bind_ok _ (attempt_run h)

theorem onError_error {cleanup : Prog σ ε β} {r' : Except ε β} {s'' : σ} (h : m s = some (.error e, s'))
    (cleaned : cleanup s' = some (r', s'')) : onError m cleanup s = some (.error e, s'') := by
  rw [onError, bind_ok _ (attempt_run h)]
  exact bind_ok _ (ignore_run cleaned)

/-- A sequence ends with the failure of its first part, or as the rest does from there on. -/
theorem of_bind {f : α → Prog σ ε β} {r : Except ε β} {s'' : σ} (run : (m >>= f) s = some (r, s'')) :
    (∃ e, m s = some (.error e, s'') ∧ r = .error e) ∨ ∃ a s', m s = some (.ok a, s') ∧ f a s' = some (r, s'') := by
  cases first : m s with
  | none =>
    rw [bind_none _ first] at run
    cases run
  | some out =>
    obtain ⟨e | a, s'⟩ := out
    · rw [bind_error _ first] at run
      cases run
      exact .inl ⟨e, rfl, rfl⟩
    · rw [bind_ok _ first] at run
      exact .inr ⟨a, s', rfl, run⟩

theorem of_bind_ok {f : α → Prog σ ε β} {b : β} {s'' : σ} (run : (m >>= f) s = some (.ok b, s'')) :
    ∃ a s', m s = some (.ok a, s') ∧ f a s' = some (.ok b, s'') := by
  rcases of_bind run with ⟨e, _, failed⟩ | ended
  · cases failed
  · exact ended

theorem of_onError_ok {cleanup : Prog σ ε β} (run : onError m cleanup s = some (.ok a, s')) :
    m s = some (.ok a, s') := by
  cases first : m s with
  | none =>
    rw [onError, bind_none _ (by rw [attempt, first])] at run
    cases run
  | some out =>
    obtain ⟨r, s₁⟩ := out
    rw [onError, bind_ok _ (attempt_run first)] at run
    cases r with
    | ok b => exact run
    | error e =>
      obtain ⟨_, _, _, last⟩ := of_bind_ok run
      cases last

theorem zoom_run {τ : Type} {get : τ → σ} {set : σ → τ → τ} {t : τ} (h : m (get t) = some (r, s')) :
    zoom get set m t = some (r, set s' t) := by
  rw [zoom, h]

theorem zoom_none {τ : Type} {get : τ → σ} {set : σ → τ → τ} {t : τ} (h : m (get t) = none) :
    zoom get set m t = none := by
  rw [zoom, h]

theorem reject_pos (h : c) : (reject c e : Prog σ ε Unit) = fail e := if_pos h
theorem reject_neg (h : ¬c) : (reject c e : Prog σ ε Unit) = pure () := if_neg h

theorem reject_bind_pos (f : Unit → Prog σ ε β) (h : c) : (reject c e >>= f) = fail e := by
  rw [reject_pos h]
  rfl

theorem reject_bind_neg (f : Unit → Prog σ ε β) (h : ¬c) : (reject c e >>= f) = f () := by
  rw [reject_neg h]
  rfl

end Run

/-- If the call ends from a state with P, it ends well in a state with Q or fails in one with E. -/
def Triple (P : σ → Prop) (m : Prog σ ε α) (Q : α → σ → Prop) (E : ε → σ → Prop) : Prop :=
  ∀ s, P s → ∀ r s', m s = some (r, s') →
    match r with
    | .ok a => Q a s'
    | .error e => E e s'

namespace Triple

variable {P : σ → Prop} {m : Prog σ ε α} {Q : α → σ → Prop} {E : ε → σ → Prop} {c : Prop} [Decidable c]

theorem pure {a : α} (h : ∀ s, P s → Q a s) : Triple P (pure a) Q E := by
  intro s hs r s' run
  cases run
  exact h s hs

theorem fail {e : ε} (h : ∀ s, P s → E e s) : Triple P (fail e : Prog σ ε α) Q E := by
  intro s hs r s' run
  cases run
  exact h s hs

theorem hang : Triple P (hang : Prog σ ε α) Q E := by
  intro s _ r s' run
  cases run

theorem read {f : σ → α} (h : ∀ s, P s → Q (f s) s) : Triple P (read f) Q E := by
  intro s hs r s' run
  cases run
  exact h s hs

theorem modify {f : σ → σ} {Q : Unit → σ → Prop} (h : ∀ s, P s → Q () (f s)) : Triple P (modify f) Q E := by
  intro s hs r s' run
  cases run
  exact h s hs

theorem bind {R : α → σ → Prop} {f : α → Prog σ ε β} {Q : β → σ → Prop} (first : Triple P m R E)
    (rest : ∀ a, Triple (R a) (f a) Q E) : Triple P (m >>= f) Q E := by
  intro s hs r s' run
  cases h : m s with
  | none => rw [bind_none _ h] at run; cases run
  | some out =>
    obtain ⟨r₁, s₁⟩ := out
    cases r₁ with
    | error e =>
      rw [bind_error _ h] at run
      cases run
      exact first s hs _ _ h
    | ok a =>
      rw [bind_ok _ h] at run
      exact rest a s₁ (first s hs _ _ h) r s' run

theorem reject {e : ε} {Q : Unit → σ → Prop} (failed : ∀ s, P s → c → E e s)
    (passed : ∀ s, P s → ¬c → Q () s) : Triple P (reject c e) Q E := by
  by_cases h : c
  · rw [reject_pos h]
    exact .fail fun s hs => failed s hs h
  · rw [reject_neg h]
    exact .pure fun s hs => passed s hs h

theorem readThen {f : σ → β} {g : β → Prog σ ε α} (rest : ∀ b, Triple P (g b) Q E) :
    Triple P (Prog.read f >>= g) Q E :=
  bind (R := fun _ => P) (read fun _ hs => hs) rest

theorem rejectThen {e : ε} {g : Unit → Prog σ ε α} (failed : ∀ s, P s → E e s)
    (rest : ¬c → Triple P (g ()) Q E) : Triple P (Prog.reject c e >>= g) Q E := by
  by_cases h : c
  · rw [reject_bind_pos _ h]
    exact .fail failed
  · rw [reject_bind_neg _ h]
    exact rest h

variable {E' : ε → σ → Prop}

theorem attempt {R : Except ε α → σ → Prop} (h : Triple P m Q E)
    (ok : ∀ a s, Q a s → R (.ok a) s) (error : ∀ e s, E e s → R (.error e) s) :
    Triple P (attempt m) R E' := by
  intro s hs r s' run
  cases hm : m s with
  | none => rw [Prog.attempt, hm] at run; cases run
  | some out =>
    obtain ⟨r₁, s₁⟩ := out
    rw [attempt_run hm] at run
    cases run
    have post := h s hs _ _ hm
    cases r₁ with
    | ok a => exact ok a _ post
    | error e => exact error e _ post

theorem ignore {R : Unit → σ → Prop} (h : Triple P m Q E) (ok : ∀ a s, Q a s → R () s)
    (error : ∀ e s, E e s → R () s) : Triple P (ignore m) R E' :=
  .bind (R := fun _ => R ()) (h.attempt ok error) fun _ => .pure fun _ hs => hs

theorem ite {m' : Prog σ ε α} (pos : c → Triple P m Q E)
    (neg : ¬c → Triple P m' Q E) : Triple P (if c then m else m') Q E := by
  split
  · next h => exact pos h
  · next h => exact neg h

theorem both {P' : σ → Prop} {Q' : α → σ → Prop} (h : Triple P m Q E) (h' : Triple P' m Q' E') :
    Triple (fun s => P s ∧ P' s) m (fun a s => Q a s ∧ Q' a s) (fun e s => E e s ∧ E' e s) := by
  intro s hs r s' run
  have post := h s hs.1 r s' run
  have post' := h' s hs.2 r s' run
  cases r with
  | ok _ => exact ⟨post, post'⟩
  | error _ => exact ⟨post, post'⟩

theorem onlyIf {m : Prog σ ε Unit} {Q : Unit → σ → Prop} (taken : c → Triple P m Q E)
    (skipped : ∀ s, P s → ¬c → Q () s) : Triple P (onlyIf c m) Q E :=
  .ite taken fun h => .pure fun s hs => skipped s hs h

theorem weaken {P' : σ → Prop} {Q' : α → σ → Prop} (h : Triple P m Q E)
    (pre : ∀ s, P' s → P s) (ok : ∀ a s, Q a s → Q' a s) (error : ∀ e s, E e s → E' e s) :
    Triple P' m Q' E' := by
  intro s hs r s' run
  have post := h s (pre s hs) r s' run
  cases r with
  | ok a => exact ok a _ post
  | error e => exact error e _ post

theorem onError {R : ε → σ → Prop} {cleanup : Prog σ ε β} (h : Triple P m Q R)
    (clean : ∀ e, Triple (R e) cleanup (fun _ => E e) (fun _ => E e)) : Triple P (onError m cleanup) Q E := by
  refine .bind (R := fun r s => match r with | .ok a => Q a s | .error e => R e s)
    (h.attempt (fun _ _ hs => hs) fun _ _ hs => hs) fun r => ?_
  cases r with
  | ok a => exact .pure fun _ hs => hs
  | error e =>
    have cleaned : Triple (R e) (Prog.ignore cleanup) (fun _ => E e) E :=
      (clean e).ignore (fun _ _ hs => hs) fun _ _ hs => hs
    exact .bind cleaned fun _ => .fail fun _ hs => hs

theorem finish {r : Except ε α} (ok : ∀ a s, P s → r = .ok a → Q a s) (error : ∀ e s, P s → r = .error e → E e s) :
    Triple P (finish r) Q E := by
  cases r with
  | ok a => exact .pure fun s hs => ok a s hs rfl
  | error e => exact .fail fun s hs => error e s hs rfl

/-- A round takes what holds before it to what holds before the next one. -/
theorem forEach {body : Nat → Prog σ ε Unit} {I : Nat → σ → Prop} {E : ε → σ → Prop} {n k : Nat}
    (round : ∀ j, k ≤ j → j < k + n → Triple (I j) (body j) (fun _ => I (j + 1)) E) :
    Triple (I k) (forEach body n k) (fun _ => I (k + n)) E := by
  induction n generalizing k with
  | zero => exact .pure fun _ hs => hs
  | succ n ih =>
    have first := round k (Nat.le_refl k) (by omega)
    have rest := ih (k := k + 1) fun j low high => round j (by omega) (by omega)
    have shift : k + (n + 1) = k + 1 + n := by omega
    rw [shift]
    exact .bind first fun _ => rest

theorem always {K : σ → Prop} {s s' : σ} {r : Except ε α} (h : Triple P m (fun _ => K) (fun _ => K)) (hs : P s)
    (run : m s = some (r, s')) : K s' := by
  have post := h s hs r s' run
  cases r with
  | ok _ => exact post
  | error _ => exact post

theorem forState {P : σ → Prop} (h : ∀ s, P s → Triple (· = s) m Q E) : Triple P m Q E :=
  fun s hs => h s hs s rfl

theorem assuming {p : Prop} {P : σ → Prop} (h : p → Triple P m Q E) : Triple (fun s => p ∧ P s) m Q E :=
  fun s hs => h hs.1 s hs.2

end Triple

/-- However the call ends, what held before it holds after it. -/
def Keeps (I : σ → Prop) (m : Prog σ ε α) : Prop := Triple I m (fun _ => I) (fun _ => I)

namespace Keeps

variable {I : σ → Prop} {m : Prog σ ε α} {c : Prop} [Decidable c]

theorem pure {a : α} : Keeps I (pure a : Prog σ ε α) := Triple.pure fun _ hs => hs
theorem fail {e : ε} : Keeps I (fail e : Prog σ ε α) := Triple.fail fun _ hs => hs
theorem hang : Keeps I (hang : Prog σ ε α) := Triple.hang
theorem read {f : σ → α} : Keeps I (read f : Prog σ ε α) := Triple.read fun _ hs => hs

theorem modify {f : σ → σ} (h : ∀ s, I s → I (f s)) : Keeps I (modify f : Prog σ ε Unit) := Triple.modify h

theorem reject {e : ε} : Keeps I (reject c e : Prog σ ε Unit) :=
  Triple.reject (fun _ hs _ => hs) fun _ hs _ => hs

theorem onlyIf {m : Prog σ ε Unit} (h : Keeps I m) : Keeps I (onlyIf c m) :=
  Triple.onlyIf (fun _ => h) fun _ hs _ => hs

theorem bind {f : α → Prog σ ε β} (first : Keeps I m) (rest : ∀ a, Keeps I (f a)) : Keeps I (m >>= f) :=
  Triple.bind first rest

theorem attempt {E : ε → σ → Prop} (h : Keeps I m) : Triple I (attempt m) (fun _ => I) E :=
  Triple.attempt h (fun _ _ hs => hs) fun _ _ hs => hs

theorem ignore {E : ε → σ → Prop} (h : Keeps I m) : Triple I (ignore m) (fun _ => I) E :=
  Triple.ignore h (fun _ _ hs => hs) fun _ _ hs => hs

theorem finish {r : Except ε α} : Keeps I (finish r : Prog σ ε α) :=
  Triple.finish (fun _ _ hs _ => hs) fun _ _ hs _ => hs

theorem onError {cleanup : Prog σ ε β} (h : Keeps I m) (clean : Keeps I cleanup) : Keeps I (onError m cleanup) :=
  Triple.onError h fun _ => clean

theorem ite {m' : Prog σ ε α} (pos : c → Keeps I m) (neg : ¬c → Keeps I m') : Keeps I (if c then m else m') :=
  Triple.ite pos neg

theorem zoom {τ : Type} {get : τ → σ} {set : σ → τ → τ} {J : τ → Prop} (enter : ∀ t, J t → I (get t))
    (leave : ∀ t s, J t → I s → J (set s t)) (h : Keeps I m) : Keeps J (Prog.zoom get set m) := by
  intro t ht r t' run
  cases inner : m (get t) with
  | none => simp [zoom_none inner] at run
  | some out =>
    rw [zoom_run inner] at run
    cases run
    have after := leave t out.2 ht (Triple.always h (enter t ht) inner)
    cases out.1 with
    | ok _ => exact after
    | error _ => exact after

end Keeps

/-- The call ends, and however it ends, what held before it holds after it. -/
def Steady (I : σ → Prop) (m : Prog σ ε α) : Prop := ∀ s, I s → ∃ r s', m s = some (r, s') ∧ I s'

namespace Steady

variable {I : σ → Prop} {m : Prog σ ε α} {c : Prop} [Decidable c]

theorem keeps (h : Steady I m) : Keeps I m := by
  intro s hs r s' run
  obtain ⟨r₁, s₁, ran, hs₁⟩ := h s hs
  rw [run] at ran
  cases ran
  cases r with
  | ok _ => exact hs₁
  | error _ => exact hs₁

theorem pure {a : α} : Steady I (pure a : Prog σ ε α) := fun s hs => ⟨.ok a, s, rfl, hs⟩
theorem fail {e : ε} : Steady I (fail e : Prog σ ε α) := fun s hs => ⟨.error e, s, rfl, hs⟩
theorem read {f : σ → α} : Steady I (read f : Prog σ ε α) := fun s hs => ⟨.ok (f s), s, rfl, hs⟩

theorem modify {f : σ → σ} (h : ∀ s, I s → I (f s)) : Steady I (modify f : Prog σ ε Unit) :=
  fun s hs => ⟨.ok (), f s, rfl, h s hs⟩

theorem bind {f : α → Prog σ ε β} (first : Steady I m) (rest : ∀ a, Steady I (f a)) : Steady I (m >>= f) := by
  intro s hs
  obtain ⟨r, s', run, hs'⟩ := first s hs
  cases r with
  | error e => exact ⟨.error e, s', bind_error _ run, hs'⟩
  | ok a =>
    obtain ⟨r, s'', run', hs''⟩ := rest a s' hs'
    exact ⟨r, s'', (bind_ok _ run).trans run', hs''⟩

theorem ite {m' : Prog σ ε α} (pos : c → Steady I m) (neg : ¬c → Steady I m') : Steady I (if c then m else m') := by
  split
  · next h => exact pos h
  · next h => exact neg h

theorem reject {e : ε} : Steady I (reject c e : Prog σ ε Unit) :=
  ite (fun _ => fail) fun _ => pure

theorem onlyIf {m : Prog σ ε Unit} (h : Steady I m) : Steady I (onlyIf c m) :=
  ite (fun _ => h) fun _ => pure

theorem attempt (h : Steady I m) : Steady I (attempt m) := by
  intro s hs
  obtain ⟨r, s', run, hs'⟩ := h s hs
  exact ⟨.ok r, s', attempt_run run, hs'⟩

theorem ignore (h : Steady I m) : Steady I (ignore m) := h.attempt.bind fun _ => pure

theorem finish {r : Except ε α} : Steady I (finish r : Prog σ ε α) := by
  cases r with
  | ok _ => exact pure
  | error _ => exact fail

theorem onError {cleanup : Prog σ ε β} (h : Steady I m) (clean : Steady I cleanup) :
    Steady I (onError m cleanup) := by
  refine h.attempt.bind fun r => ?_
  cases r with
  | ok _ => exact pure
  | error _ => exact clean.ignore.bind fun _ => fail

end Steady

/-- From a state with P the call ends, well in a state with Q or with an error in one with E. -/
def Total (P : σ → Prop) (m : Prog σ ε α) (Q : α → σ → Prop) (E : ε → σ → Prop) : Prop :=
  ∀ s, P s → ∃ r s', m s = some (r, s') ∧
    match r with
    | .ok a => Q a s'
    | .error e => E e s'

namespace Total

variable {P : σ → Prop} {m : Prog σ ε α} {Q : α → σ → Prop} {E : ε → σ → Prop}

theorem pure {a : α} (h : ∀ s, P s → Q a s) : Total P (pure a) Q E := fun s hs => ⟨.ok a, s, rfl, h s hs⟩

theorem fail {e : ε} (h : ∀ s, P s → E e s) :
    Total P (fail e : Prog σ ε α) Q E := fun s hs => ⟨.error e, s, rfl, h s hs⟩

theorem read {f : σ → α} (h : ∀ s, P s → Q (f s) s) : Total P (read f) Q E := fun s hs => ⟨.ok (f s), s, rfl, h s hs⟩

theorem modify {f : σ → σ} {Q : Unit → σ → Prop} (h : ∀ s, P s → Q () (f s)) : Total P (modify f) Q E :=
  fun s hs => ⟨.ok (), f s, rfl, h s hs⟩

theorem bind {R : α → σ → Prop} {f : α → Prog σ ε β} {Q : β → σ → Prop} (first : Total P m R E)
    (rest : ∀ a, Total (R a) (f a) Q E) : Total P (m >>= f) Q E := by
  intro s hs
  obtain ⟨r, s', run, post⟩ := first s hs
  cases r with
  | error e => exact ⟨.error e, s', bind_error _ run, post⟩
  | ok a =>
    obtain ⟨r, s'', run', post'⟩ := rest a s' post
    exact ⟨r, s'', (bind_ok _ run).trans run', post'⟩

theorem readThen {f : σ → β} {g : β → Prog σ ε α} (rest : ∀ b, Total (fun s => f s = b ∧ P s) (g b) Q E) :
    Total P (Prog.read f >>= g) Q E :=
  bind (R := fun b s => f s = b ∧ P s) (read fun _ hs => ⟨rfl, hs⟩) rest

theorem rejectThen {c : Prop} [Decidable c] {e : ε} {g : Unit → Prog σ ε α} (failed : c → ∀ s, P s → E e s)
    (rest : ¬c → Total P (g ()) Q E) : Total P (Prog.reject c e >>= g) Q E := by
  by_cases h : c
  · rw [reject_bind_pos _ h]
    exact fail (failed h)
  · rw [reject_bind_neg _ h]
    exact rest h

theorem attempt {R : Except ε α → σ → Prop} {E' : ε → σ → Prop} (h : Total P m Q E)
    (ok : ∀ a s, Q a s → R (.ok a) s) (error : ∀ e s, E e s → R (.error e) s) : Total P (attempt m) R E' := by
  intro s hs
  obtain ⟨r, s', run, post⟩ := h s hs
  refine ⟨.ok r, s', attempt_run run, ?_⟩
  cases r with
  | ok a => exact ok a s' post
  | error e => exact error e s' post

theorem ignore {R : Unit → σ → Prop} {E' : ε → σ → Prop} (h : Total P m Q E) (ok : ∀ a s, Q a s → R () s)
    (error : ∀ e s, E e s → R () s) : Total P (ignore m) R E' :=
  bind (R := fun _ => R ()) (h.attempt ok error) fun _ => pure fun _ hs => hs

theorem onError {R : ε → σ → Prop} {cleanup : Prog σ ε β} (h : Total P m Q R)
    (clean : ∀ e, Total (R e) cleanup (fun _ => E e) fun _ => E e) : Total P (onError m cleanup) Q E := by
  refine bind (R := fun r s => match r with | .ok a => Q a s | .error e => R e s)
    (h.attempt (fun _ _ hs => hs) fun _ _ hs => hs) fun r => ?_
  cases r with
  | ok a => exact pure fun _ hs => hs
  | error e =>
    have cleaned : Total (R e) (Prog.ignore cleanup) (fun _ => E e) E :=
      (clean e).ignore (fun _ _ hs => hs) fun _ _ hs => hs
    exact cleaned.bind fun _ => fail fun _ hs => hs

theorem weaken {P' : σ → Prop} {Q' : α → σ → Prop} {E' : ε → σ → Prop} (h : Total P m Q E)
    (pre : ∀ s, P' s → P s) (ok : ∀ a s, Q a s → Q' a s) (error : ∀ e s, E e s → E' e s) : Total P' m Q' E' := by
  intro s hs
  obtain ⟨r, s', run, post⟩ := h s (pre s hs)
  refine ⟨r, s', run, ?_⟩
  cases r with
  | ok a => exact ok a s' post
  | error e => exact error e s' post

theorem of_steady {I : σ → Prop} (h : Steady I m) : Total I m (fun _ => I) fun _ => I := by
  intro s hs
  obtain ⟨r, s', run, kept⟩ := h s hs
  refine ⟨r, s', run, ?_⟩
  cases r with
  | ok _ => exact kept
  | error _ => exact kept

theorem zoom {τ : Type} {get : τ → σ} {set : σ → τ → τ} {P : τ → Prop} {Q : α → τ → Prop} {E : ε → τ → Prop}
    (h : ∀ t, P t → Total (· = get t) m (fun a s => Q a (set s t)) fun e s => E e (set s t)) :
    Total P (zoom get set m) Q E := by
  intro t ht
  obtain ⟨r, s', run, post⟩ := h t ht _ rfl
  refine ⟨r, set s' t, zoom_run run, ?_⟩
  cases r with
  | ok _ => exact post
  | error _ => exact post

end Total

/-- The call ends and keeps what held before, and a measure of the state grows by no more than
the cost. -/
def Within (I : σ → Prop) (size : σ → Nat) (cost : Nat) (m : Prog σ ε α) : Prop :=
  ∀ s, I s → ∃ r s', m s = some (r, s') ∧ I s' ∧ size s' ≤ size s + cost

namespace Within

variable {I : σ → Prop} {size : σ → Nat} {c c' : Nat} {m : Prog σ ε α}

theorem weaken (h : Within I size c m) (more : c ≤ c') : Within I size c' m := by
  intro s hs
  obtain ⟨r, s', run, hs', grown⟩ := h s hs
  exact ⟨r, s', run, hs', by omega⟩

theorem pure {a : α} : Within I size 0 (pure a : Prog σ ε α) := fun s hs => ⟨.ok a, s, rfl, hs, Nat.le_refl _⟩
theorem fail {e : ε} : Within I size 0 (fail e : Prog σ ε α) := fun s hs => ⟨.error e, s, rfl, hs, Nat.le_refl _⟩
theorem bind {f : α → Prog σ ε β} (first : Within I size c m) (rest : ∀ a, Within I size c' (f a)) :
    Within I size (c + c') (m >>= f) := by
  intro s hs
  obtain ⟨r, s', run, hs', grown⟩ := first s hs
  cases r with
  | error e => exact ⟨.error e, s', bind_error _ run, hs', by omega⟩
  | ok a =>
    obtain ⟨r, s'', run', hs'', grown'⟩ := rest a s' hs'
    exact ⟨r, s'', (bind_ok _ run).trans run', hs'', by omega⟩

theorem ite {b : Prop} [Decidable b] {m' : Prog σ ε α} (pos : b → Within I size c m) (neg : ¬b → Within I size c m') :
    Within I size c (if b then m else m') := by
  split
  · next h => exact pos h
  · next h => exact neg h

theorem rejectThen {b : Prop} [Decidable b] {e : ε} {f : Unit → Prog σ ε α} (rest : ¬b → Within I size c (f ())) :
    Within I size c (Prog.reject b e >>= f) := by
  by_cases h : b
  · rw [reject_bind_pos _ h]
    exact fail.weaken (Nat.zero_le _)
  · rw [reject_bind_neg _ h]
    exact rest h

theorem attempt (h : Within I size c m) : Within I size c (attempt m) := by
  intro s hs
  obtain ⟨r, s', run, hs', grown⟩ := h s hs
  exact ⟨.ok r, s', attempt_run run, hs', grown⟩

theorem ignore (h : Within I size c m) : Within I size c (ignore m) := h.attempt.bind fun _ => pure

theorem onError {cleanup : Prog σ ε β} (h : Within I size c m) (clean : Within I size c' cleanup) :
    Within I size (c + c') (onError m cleanup) := by
  refine h.attempt.bind fun r => ?_
  cases r with
  | ok _ => exact pure.weaken (Nat.zero_le _)
  | error _ => exact clean.ignore.bind fun _ => fail

theorem forEach {body : Nat → Prog σ ε Unit} {n k : Nat} (round : ∀ j, Within I size c (body j)) :
    Within I size (n * c) (forEach body n k) := by
  induction n generalizing k with
  | zero => exact pure.weaken (Nat.zero_le _)
  | succ n ih =>
    have cost : (n + 1) * c = c + n * c := by rw [Nat.add_mul, Nat.one_mul, Nat.add_comm]
    rw [cost]
    exact (round k).bind fun _ => ih

end Within

end Prog
end XSDK.Library
