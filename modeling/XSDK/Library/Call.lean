import Mathlib.Init

/-! Calls that always come back, with a value or an error code, and leave a state. The rules
read a call from its parts, as those for the calls that may not come back do. -/
namespace XSDK.Library

/-- How the call ended, and the state it left. -/
def Call (σ ε α : Type) : Type := σ → Except ε α × σ

namespace Call

variable {σ ε α β : Type}

protected def pure (a : α) : Call σ ε α := fun s => (.ok a, s)

protected def bind (m : Call σ ε α) (f : α → Call σ ε β) : Call σ ε β := fun s =>
  match m s with
  | (.error e, s') => (.error e, s')
  | (.ok a, s') => f a s'

instance : Monad (Call σ ε) where
  pure := Call.pure
  bind := Call.bind

def fail (e : ε) : Call σ ε α := fun s => (.error e, s)
def read (f : σ → α) : Call σ ε α := fun s => (.ok (f s), s)
def modify (f : σ → σ) : Call σ ε Unit := fun s => (.ok (), f s)

/-- Return the code when the condition holds. -/
def reject (c : Prop) [Decidable c] (e : ε) : Call σ ε Unit := if c then fail e else pure ()

/-- A step that is only taken when the condition holds. -/
def onlyIf (c : Prop) [Decidable c] (m : Call σ ε Unit) : Call σ ε Unit := if c then m else pure ()

/-- The result of a call as a value, whatever it is. -/
def attempt (m : Call σ ε α) : Call σ ε (Except ε α) := fun s => (.ok (m s).1, (m s).2)

/-- A call whose result is not looked at. -/
def ignore (m : Call σ ε α) : Call σ ε Unit := fun s => (.ok (), (m s).2)

/-- End as a result says. -/
def finish (r : Except ε α) : Call σ ε α := fun s => (r, s)

/-- Clean up after a call that failed, and fail with its code. -/
def onError (m : Call σ ε α) (cleanup : ε → Call σ ε β) : Call σ ε α := fun s =>
  match m s with
  | (.ok a, s') => (.ok a, s')
  | (.error e, s') => (.error e, (cleanup e s').2)

/-- A call on a part of the state. -/
def zoom {τ : Type} (get : τ → σ) (set : σ → τ → τ) (m : Call σ ε α) : Call τ ε α := fun t =>
  ((m (get t)).1, set (m (get t)).2 t)

/-- The body for each of so many numbers, from one on. -/
def forEach (body : Nat → Call σ ε Unit) : Nat → Nat → Call σ ε Unit
  | 0, _ => pure ()
  | left + 1, k => body k >>= fun _ => forEach body left (k + 1)

section Run

variable {s s' : σ} {a : α} {e : ε} {r : Except ε α} {m : Call σ ε α} {c : Prop} [Decidable c]

@[simp] theorem pure_run : (pure a : Call σ ε α) s = (.ok a, s) := rfl
@[simp] theorem fail_run : (fail e : Call σ ε α) s = (.error e, s) := rfl
@[simp] theorem read_run (f : σ → α) : (read f : Call σ ε α) s = (.ok (f s), s) := rfl
@[simp] theorem modify_run (f : σ → σ) : (modify f : Call σ ε Unit) s = (.ok (), f s) := rfl
@[simp] theorem finish_run : (finish r : Call σ ε α) s = (r, s) := rfl
@[simp] theorem finish_ok : (finish (.ok a) : Call σ ε α) = pure a := rfl
@[simp] theorem finish_error : (finish (.error e) : Call σ ε α) = fail e := rfl
@[simp] theorem attempt_run : attempt m s = (.ok (m s).1, (m s).2) := rfl
@[simp] theorem ignore_run : ignore m s = (.ok (), (m s).2) := rfl

theorem bind_run (f : α → Call σ ε β) :
    (m >>= f) s = match m s with
      | (.error e, s') => (.error e, s')
      | (.ok a, s') => f a s' := rfl

theorem bind_ok (f : α → Call σ ε β) (h : m s = (.ok a, s')) : (m >>= f) s = f a s' := by
  rw [bind_run, h]

theorem bind_error (f : α → Call σ ε β) (h : m s = (.error e, s')) : (m >>= f) s = (.error e, s') := by
  rw [bind_run, h]

@[simp] theorem pure_bind (f : α → Call σ ε β) : (pure a >>= f) = f a := rfl
@[simp] theorem fail_bind (f : α → Call σ ε β) : (fail e >>= f) = fail e := rfl
@[simp] theorem read_bind (g : σ → α) (f : α → Call σ ε β) : (read g >>= f) s = f (g s) s := rfl
@[simp] theorem modify_bind (g : σ → σ) (f : Unit → Call σ ε β) : (modify g >>= f) s = f () (g s) := rfl
@[simp] theorem ignore_bind (f : Unit → Call σ ε β) : (ignore m >>= f) s = f () (m s).2 := rfl
@[simp] theorem attempt_bind (f : Except ε α → Call σ ε β) : (attempt m >>= f) s = f (m s).1 (m s).2 := rfl

theorem bind_assoc {γ : Type} (m : Call σ ε α) (f : α → Call σ ε β) (g : β → Call σ ε γ) :
    (m >>= f >>= g) = (m >>= fun a => f a >>= g) := by
  funext s
  rcases run : m s with ⟨e | a, s'⟩
  · rw [bind_error _ run, bind_error _ (bind_error _ run)]
  · rw [bind_ok _ run, bind_run, bind_ok _ run]
    rfl

theorem bind_unit (m : Call σ ε Unit) : (m >>= fun _ => pure ()) = m := by
  funext s
  rcases run : m s with ⟨e | a, s'⟩
  · rw [bind_error _ run]
  · rw [bind_ok _ run]
    rfl

theorem onError_ok (cleanup : ε → Call σ ε β) (h : m s = (.ok a, s')) : onError m cleanup s = (.ok a, s') := by
  rw [onError, h]

theorem onError_error (cleanup : ε → Call σ ε β) (h : m s = (.error e, s')) :
    onError m cleanup s = (.error e, (cleanup e s').2) := by
  rw [onError, h]

theorem onError_congr {m' : Call σ ε α} (cleanup : ε → Call σ ε β) (h : m s = m' s) :
    onError m cleanup s = onError m' cleanup s := by
  rw [onError, onError, h]

@[simp] theorem onError_pure (cleanup : ε → Call σ ε β) : onError (pure a) cleanup = pure a := rfl

@[simp] theorem onError_fail_bind (cleanup : ε → Call σ ε β) (f : α → Call σ ε β) :
    (onError (fail e) cleanup >>= f) s = (.error e, (cleanup e s).2) := rfl

theorem reject_pos (h : c) : (reject c e : Call σ ε Unit) = fail e := if_pos h
theorem reject_neg (h : ¬c) : (reject c e : Call σ ε Unit) = pure () := if_neg h

theorem reject_bind_pos (f : Unit → Call σ ε β) (h : c) : (reject c e >>= f) = fail e := by
  rw [reject_pos h]
  rfl

theorem reject_bind_neg (f : Unit → Call σ ε β) (h : ¬c) : (reject c e >>= f) = f () := by
  rw [reject_neg h]
  rfl

theorem forEach_add (body : Nat → Call σ ε Unit) (m n k : Nat) :
    forEach body (m + n) k s = (forEach body m k >>= fun _ => forEach body n (k + m)) s := by
  induction m generalizing k s with
  | zero => rw [Nat.zero_add]; rfl
  | succ m ih =>
    rw [Nat.add_right_comm, forEach, forEach]
    rcases run : body k s with ⟨e | u, s'⟩
    · rw [bind_error _ run, bind_error _ (bind_error _ run)]
    · rw [bind_ok _ run, ih]
      have shift : k + 1 + m = k + (m + 1) := by omega
      rw [shift]
      rcases more : forEach body m (k + 1) s' with ⟨e | v, s''⟩
      · rw [bind_error _ more, bind_error _ ((bind_ok _ run).trans more)]
      · rw [bind_ok _ more, bind_ok _ ((bind_ok _ run).trans more)]

theorem forEach_still {body : Nat → Call σ ε Unit} {n k : Nat}
    (still : ∀ j, k ≤ j → j < k + n → body j s = (.ok (), s)) :
    forEach body n k s = (.ok (), s) := by
  induction n generalizing k with
  | zero => rfl
  | succ n ih =>
    rw [forEach, bind_ok _ (still k (Nat.le_refl k) (by omega))]
    exact ih fun j low high => still j (by omega) (by omega)

end Run

/-- From a state with P the call ends, well in a state with Q or with an error in one with E. -/
def Triple (P : σ → Prop) (m : Call σ ε α) (Q : α → σ → Prop) (E : ε → σ → Prop) : Prop :=
  ∀ s, P s →
    match m s with
    | (.ok a, s') => Q a s'
    | (.error e, s') => E e s'

namespace Triple

variable {P : σ → Prop} {m : Call σ ε α} {Q : α → σ → Prop} {E : ε → σ → Prop} {c : Prop} [Decidable c]

theorem pure {a : α} (h : ∀ s, P s → Q a s) : Triple P (pure a) Q E := fun s hs => h s hs
theorem fail {e : ε} (h : ∀ s, P s → E e s) : Triple P (fail e : Call σ ε α) Q E := fun s hs => h s hs
theorem read {f : σ → α} (h : ∀ s, P s → Q (f s) s) : Triple P (read f) Q E := fun s hs => h s hs

theorem modify {f : σ → σ} {Q : Unit → σ → Prop} (h : ∀ s, P s → Q () (f s)) : Triple P (modify f) Q E :=
  fun s hs => h s hs

variable {f : α → Call σ ε β} {Q' : α → σ → Prop} {P' : σ → Prop}

theorem bind {R : α → σ → Prop} {Q : β → σ → Prop} (first : Triple P m R E)
    (rest : ∀ a, Triple (R a) (f a) Q E) : Triple P (m >>= f) Q E := by
  intro s hs
  have done := first s hs
  rw [bind_run]
  rcases run : m s with ⟨_ | a, s'⟩
  · simpa only [run] using done
  · have next : R a s' := by simpa only [run] using done
    exact rest a s' next

theorem step {s s' : σ} {a : α} {Q : β → σ → Prop} (run : m s = (.ok a, s'))
    (rest : Triple (· = s') (f a) Q E) : Triple (· = s) (m >>= f) Q E := by
  rintro _ rfl
  rw [bind_ok f run]
  exact rest s' rfl

theorem readThen {f : σ → β} {g : β → Call σ ε α} (rest : ∀ b, Triple (fun s => f s = b ∧ P s) (g b) Q E) :
    Triple P (Call.read f >>= g) Q E :=
  fun s hs => rest (f s) s ⟨rfl, hs⟩

theorem rejectThen {e : ε} {g : Unit → Call σ ε α} (failed : c → ∀ s, P s → E e s)
    (rest : ¬c → Triple P (g ()) Q E) : Triple P (Call.reject c e >>= g) Q E := by
  by_cases h : c
  · rw [reject_bind_pos _ h]
    exact fail (failed h)
  · rw [reject_bind_neg _ h]
    exact rest h

theorem ite {m' : Call σ ε α} (pos : c → Triple P m Q E) (neg : ¬c → Triple P m' Q E) :
    Triple P (if c then m else m') Q E := by
  split
  · next h => exact pos h
  · next h => exact neg h

theorem onlyIf {m : Call σ ε Unit} {Q : Unit → σ → Prop} (taken : c → Triple P m Q E)
    (skipped : ∀ s, P s → ¬c → Q () s) : Triple P (onlyIf c m) Q E :=
  ite taken fun h => pure fun s hs => skipped s hs h

variable {E' : ε → σ → Prop}

theorem weaken (h : Triple P m Q E)
    (pre : ∀ s, P' s → P s) (ok : ∀ a s, Q a s → Q' a s) (error : ∀ e s, E e s → E' e s) : Triple P' m Q' E' := by
  intro s hs
  have done := h s (pre s hs)
  rcases run : m s with ⟨e | a, s'⟩
  · rw [run] at done
    exact error e s' done
  · rw [run] at done
    exact ok a s' done

theorem ignore {R : Unit → σ → Prop} (h : Triple P m Q E) (ok : ∀ a s, Q a s → R () s)
    (error : ∀ e s, E e s → R () s) : Triple P (ignore m) R E' := by
  intro s hs
  have done := h s hs
  change R () (m s).2
  rcases run : m s with ⟨e | a, s'⟩
  · rw [run] at done
    exact error e s' done
  · rw [run] at done
    exact ok a s' done

theorem attempt {R : Except ε α → σ → Prop} (h : Triple P m Q E)
    (ok : ∀ a s, Q a s → R (.ok a) s) (error : ∀ e s, E e s → R (.error e) s) : Triple P (attempt m) R E' := by
  intro s hs
  have done := h s hs
  change R (m s).1 (m s).2
  rcases run : m s with ⟨e | a, s'⟩
  · rw [run] at done
    exact error e s' done
  · rw [run] at done
    exact ok a s' done

theorem onError {R : ε → σ → Prop} {cleanup : ε → Call σ ε β} (h : Triple P m Q R)
    (clean : ∀ e, Triple (R e) (cleanup e) (fun _ => E e) fun _ => E e) : Triple P (onError m cleanup) Q E := by
  intro s hs
  have done := h s hs
  rw [Call.onError]
  rcases run : m s with ⟨e | a, s'⟩
  · rw [run] at done
    have cleaned := clean e s' done
    rcases run' : cleanup e s' with ⟨e' | b, s''⟩
    · simpa only [run, run'] using cleaned
    · simpa only [run, run'] using cleaned
  · simpa only [run] using done

/-- A round takes what holds before it to what holds before the next one. -/
theorem forEach {body : Nat → Call σ ε Unit} {I : Nat → σ → Prop} {E : ε → σ → Prop} {n k : Nat}
    (round : ∀ j, k ≤ j → j < k + n → Triple (I j) (body j) (fun _ => I (j + 1)) E) :
    Triple (I k) (forEach body n k) (fun _ => I (k + n)) E := by
  induction n generalizing k with
  | zero => exact pure fun _ hs => hs
  | succ n ih =>
    have first := round k (Nat.le_refl k) (by omega)
    have rest := ih (k := k + 1) fun j low high => round j (by omega) (by omega)
    have shift : k + (n + 1) = k + 1 + n := by omega
    rw [shift]
    exact bind first fun _ => rest

theorem always {K : σ → Prop} {s : σ} (h : Triple P m (fun _ => K) fun _ => K) (hs : P s) : K (m s).2 := by
  have done := h s hs
  rcases run : m s with ⟨e | a, s'⟩
  · rw [run] at done
    exact done
  · rw [run] at done
    exact done

theorem forState {P : σ → Prop} (h : ∀ s, P s → Triple (· = s) m Q E) : Triple P m Q E :=
  fun s hs => h s hs s rfl

theorem and (h : Triple P m Q E) (h' : Triple P' m Q' E') :
    Triple (fun s => P s ∧ P' s) m (fun a s => Q a s ∧ Q' a s) fun e s => E e s ∧ E' e s := by
  intro s hs
  have done := h s hs.1
  have done' := h' s hs.2
  rcases run : m s with ⟨e | a, s'⟩
  · rw [run] at done done'
    exact ⟨done, done'⟩
  · rw [run] at done done'
    exact ⟨done, done'⟩

end Triple

/-- However the call ends, what held before it holds after it. -/
def Keeps (I : σ → Prop) (m : Call σ ε α) : Prop := Triple I m (fun _ => I) fun _ => I

namespace Keeps

variable {I : σ → Prop} {m : Call σ ε α} {c : Prop} [Decidable c]

theorem after (h : Keeps I m) {s : σ} (hs : I s) : I (m s).2 := Triple.always h hs

theorem intro (h : ∀ s, I s → I (m s).2) : Keeps I m := by
  intro s hs
  have done := h s hs
  rcases run : m s with ⟨e | a, s'⟩
  · rwa [run] at done
  · rwa [run] at done

theorem pure {a : α} : Keeps I (pure a : Call σ ε α) := Triple.pure fun _ hs => hs
theorem fail {e : ε} : Keeps I (fail e : Call σ ε α) := Triple.fail fun _ hs => hs
theorem read {f : σ → α} : Keeps I (read f : Call σ ε α) := Triple.read fun _ hs => hs
theorem modify {f : σ → σ} (h : ∀ s, I s → I (f s)) : Keeps I (modify f : Call σ ε Unit) := Triple.modify h
theorem finish {r : Except ε α} : Keeps I (finish r : Call σ ε α) := by
  intro s hs
  cases r with
  | ok _ => exact hs
  | error _ => exact hs

theorem bind {f : α → Call σ ε β} (first : Keeps I m) (rest : ∀ a, Keeps I (f a)) : Keeps I (m >>= f) :=
  Triple.bind first rest

theorem ite {m' : Call σ ε α} (pos : c → Keeps I m) (neg : ¬c → Keeps I m') : Keeps I (if c then m else m') :=
  Triple.ite pos neg

theorem reject {e : ε} : Keeps I (reject c e : Call σ ε Unit) :=
  ite (fun _ => fail) fun _ => pure

theorem onlyIf {m : Call σ ε Unit} (h : Keeps I m) : Keeps I (onlyIf c m) :=
  ite (fun _ => h) fun _ => pure

theorem attempt (h : Keeps I m) : Keeps I (attempt m) := Triple.attempt h (fun _ _ hs => hs) fun _ _ hs => hs
theorem ignore (h : Keeps I m) : Keeps I (ignore m) := Triple.ignore h (fun _ _ hs => hs) fun _ _ hs => hs

theorem onError {cleanup : ε → Call σ ε β} (h : Keeps I m) (clean : ∀ e, Keeps I (cleanup e)) :
    Keeps I (onError m cleanup) :=
  Triple.onError h clean

theorem forEach {body : Nat → Call σ ε Unit} {n k : Nat} (round : ∀ j, Keeps I (body j)) :
    Keeps I (forEach body n k) :=
  Triple.forEach (I := fun _ => I) fun j _ _ => round j

end Keeps

/-- A change of the state that the call neither sees nor undoes. -/
def Commutes (u : σ → σ) (m : Call σ ε α) : Prop := ∀ s, m (u s) = ((m s).1, u (m s).2)

namespace Commutes

variable {u : σ → σ} {m : Call σ ε α} {c : Prop} [Decidable c]

theorem pure {a : α} : Commutes u (pure a : Call σ ε α) := fun _ => rfl
theorem fail {e : ε} : Commutes u (fail e : Call σ ε α) := fun _ => rfl
theorem finish {r : Except ε α} : Commutes u (finish r : Call σ ε α) := fun _ => rfl
theorem modify {f : σ → σ} (h : ∀ s, f (u s) = u (f s)) : Commutes u (modify f : Call σ ε Unit) := fun s => by
  rw [modify_run, modify_run, h]

theorem readThen {f : σ → β} {g : β → Call σ ε α} (same : ∀ s, g (f (u s)) = g (f s)) (rest : ∀ b, Commutes u (g b)) :
    Commutes u (read f >>= g) := fun s => by
  rw [read_bind, read_bind, same]
  exact rest (f s) s

theorem bind {f : α → Call σ ε β} (first : Commutes u m) (rest : ∀ a, Commutes u (f a)) : Commutes u (m >>= f) := by
  intro s
  rw [bind_run, bind_run, first s]
  rcases m s with ⟨e | a, s'⟩
  · rfl
  · exact rest a s'

theorem ite {m' : Call σ ε α} (pos : c → Commutes u m) (neg : ¬c → Commutes u m') :
    Commutes u (if c then m else m') := by
  split
  · next h => exact pos h
  · next h => exact neg h

theorem reject {e : ε} : Commutes u (reject c e : Call σ ε Unit) :=
  ite (fun _ => fail) fun _ => pure

theorem onlyIf {m : Call σ ε Unit} (h : Commutes u m) : Commutes u (onlyIf c m) :=
  ite (fun _ => h) fun _ => pure

theorem attempt (h : Commutes u m) : Commutes u (attempt m) := fun s => by
  rw [attempt_run, attempt_run, h s]

theorem ignore (h : Commutes u m) : Commutes u (ignore m) := fun s => by
  rw [ignore_run, ignore_run, h s]

theorem onError {cleanup : ε → Call σ ε β} (h : Commutes u m) (clean : ∀ e, Commutes u (cleanup e)) :
    Commutes u (onError m cleanup) := by
  intro s
  rw [Call.onError, Call.onError, h s]
  rcases m s with ⟨e | a, s'⟩
  · simp only
    rw [clean e s']
  · rfl

theorem forEach {body : Nat → Call σ ε Unit} {n k : Nat} (round : ∀ j, Commutes u (body j)) :
    Commutes u (forEach body n k) := by
  induction n generalizing k with
  | zero => exact pure
  | succ n ih => exact bind (round k) fun _ => ih

end Commutes

/-- From related states a call ends alike, in related states. -/
def Respects (R : σ → σ → Prop) (m : Call σ ε α) : Prop :=
  ∀ s t, R s t → (m s).1 = (m t).1 ∧ R (m s).2 (m t).2

namespace Respects

variable {R : σ → σ → Prop} {m : Call σ ε α} {c : Prop} [Decidable c]

theorem pure {a : α} : Respects R (pure a : Call σ ε α) := fun _ _ h => ⟨rfl, h⟩
theorem fail {e : ε} : Respects R (fail e : Call σ ε α) := fun _ _ h => ⟨rfl, h⟩
theorem finish {r : Except ε α} : Respects R (finish r : Call σ ε α) := fun _ _ h => ⟨rfl, h⟩

theorem modify {f : σ → σ} (step : ∀ s t, R s t → R (f s) (f t)) : Respects R (modify f : Call σ ε Unit) :=
  fun s t h => ⟨rfl, step s t h⟩

theorem readThen {f : σ → β} {g : β → Call σ ε α} (same : ∀ s t, R s t → f s = f t) (rest : ∀ b, Respects R (g b)) :
    Respects R (read f >>= g) := fun s t h => by
  rw [read_bind, read_bind, same s t h]
  exact rest (f t) s t h

theorem bind {f : α → Call σ ε β} (first : Respects R m) (rest : ∀ a, Respects R (f a)) : Respects R (m >>= f) := by
  intro s t h
  have ends := first s t h
  rw [bind_run, bind_run]
  rcases run : m s with ⟨r, s'⟩
  rcases run' : m t with ⟨r', t'⟩
  rw [run, run'] at ends
  obtain ⟨same, related⟩ := ends
  dsimp only at same
  subst same
  cases r with
  | error e => exact ⟨rfl, related⟩
  | ok a => exact rest a s' t' related

theorem ite {m' : Call σ ε α} (pos : Respects R m) (neg : Respects R m') : Respects R (if c then m else m') := by
  split
  · exact pos
  · exact neg

theorem reject {e : ε} : Respects R (reject c e : Call σ ε Unit) := ite fail pure

theorem onlyIf {m : Call σ ε Unit} (h : Respects R m) : Respects R (onlyIf c m) := ite h pure

theorem attempt (h : Respects R m) : Respects R (attempt m) := fun s t related => by
  obtain ⟨same, after⟩ := h s t related
  rw [attempt_run, attempt_run, same]
  exact ⟨rfl, after⟩

end Respects
end Call
end XSDK.Library
