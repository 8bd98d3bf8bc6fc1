import XSDK.Usbh.Effects
import XSDK.Usbh.Ports

/-! One transfer between the calls that submit it and the controller's reports that end it. A
report comes from another context, and may come between any two accesses of a submission. -/
namespace XSDK.Usbh.Handover

open Library Library.Call

/- A submission and a report, in the parts that another context may come between. -/

section Parts

variable (c : Config) (hcd : Hcd) (t : Nat)

def submitChecks : HostM Unit := do
  let h ← read id
  reject (h.isInitialized = false) .notInitialized
  reject (h.isStarted = false) .notStarted
  reject (c.maxTransfers ≤ t ∨ (h.transfers t).isAllocated = false) .invalidObject
  reject ((h.transfers t).isSubmitted = true) .invalidState

def submitHand : HostM Unit := do
  let h ← read id
  ask (.submit t (h.transfers t)) fun log => hcd.submitTransfer log t (h.transfers t)

def submitMark : HostM Unit := updateTransfer t fun transfer => { transfer with isSubmitted := true }

/-- The callback acts on a transfer of the pool that is allocated. -/
def Pooled (h : Host) : Prop := t < c.maxTransfers ∧ (h.transfers t).isAllocated = true

instance (h : Host) : Decidable (Pooled c t h) := inferInstanceAs (Decidable (_ ∧ _))

def reportClear (event : TransferEvent) : HostM Unit :=
  updateTransfer t fun transfer => { transfer with lastEvent := event, isSubmitted := false }

end Parts

/-- How far one context is with the transfer. -/
inductive Activity
  | submit (fromClass : Bool)
  | hand (fromClass : Bool)
  | mark (submission : Nat)
  | report (submission : Nat) (event : TransferEvent)
  | complete
  deriving DecidableEq

/-- The host with the submissions that the controller took and has neither ended nor given back. -/
structure Exchange where
  host : Host
  taken : Nat
  outstanding : List Nat
  activities : List Activity

/-- What a class does with the transfer when it is told of its end. -/
inductive ClassCall
  | resubmit
  | cancel
  | release
  | leave
  deriving DecidableEq

inductive Move
  | submit
  | step (k : Nat)
  | report (submission : Nat) (event : TransferEvent)
  | complete (k : Nat) (call : ClassCall)
  | cancel
  | release
  | other (host : Host)

/-- The rest of the stack leaves the slot and its flag alone. -/
def Elsewhere (t : Nat) (h h' : Host) : Prop :=
  (h'.transfers t).isAllocated = (h.transfers t).isAllocated ∧
    (h'.transfers t).isSubmitted = (h.transfers t).isSubmitted

namespace Exchange

variable (c : Config) (hcd : Hcd) (t : Nat)

def submitted (x : Exchange) : Bool := (x.host.transfers t).isSubmitted

/-- A refused submission goes back to the class that made it, if one did. -/
def refused (x : Exchange) (k : Nat) (fromClass : Bool) (h : Host) : Exchange :=
  { x with host := h, activities := if fromClass = true then x.activities.set k .complete else x.activities.eraseIdx k }

def advance (x : Exchange) (k : Nat) : Activity → Exchange
  | .submit fromClass =>
    match submitChecks c t x.host with
    | (.ok _, h) => { x with host := h, activities := x.activities.set k (.hand fromClass) }
    | (.error _, h) => x.refused k fromClass h
  | .hand fromClass =>
    match submitHand hcd t x.host with
    | (.ok _, h) => ⟨h, x.taken + 1, x.taken :: x.outstanding, x.activities.set k (.mark x.taken)⟩
    | (.error _, h) => x.refused k fromClass h
  | .mark _ => { x with host := (submitMark t x.host).2, activities := x.activities.eraseIdx k }
  | .report _ event =>
    if Pooled c t x.host then
      { x with host := (reportClear t event x.host).2, activities := x.activities.set k .complete }
    else { x with activities := x.activities.eraseIdx k }
  | .complete => x

/-- A call that takes the transfer back from the controller. Without the flag nothing is asked of it. -/
def withdraw (x : Exchange) (call : HostM Unit) : Exchange :=
  match call x.host with
  | (.ok _, h) => { x with host := h, outstanding := if x.submitted t = true then [] else x.outstanding }
  | (.error _, h) => { x with host := h }

/-- A class that has submitted the transfer again returns without another look at it. -/
def classCall (x : Exchange) (k : Nat) : ClassCall → Exchange
  | .resubmit => { x with activities := x.activities.set k (.submit true) }
  | .cancel => x.withdraw t (transferCancelIfSubmitted hcd t)
  | .release => x.withdraw t (transferRelease c hcd t)
  | .leave => { x with activities := x.activities.eraseIdx k }

def move (x : Exchange) : Move → Exchange
  | .submit => { x with activities := [.submit false] }
  | .step k =>
    match x.activities[k]? with
    | some activity => x.advance c hcd t k activity
    | none => x
  | .report n event =>
    { x with outstanding := x.outstanding.erase n, activities := x.activities ++ [.report n event] }
  | .complete k call => x.classCall c hcd t k call
  | .cancel => x.withdraw t (transferCancelIfSubmitted hcd t)
  | .release => x.withdraw t (transferRelease c hcd t)
  | .other host => { x with host := host }

/-- One submission at a time is made from outside, and only the controller ends what it has taken. -/
def Allowed (x : Exchange) : Move → Prop
  | .submit => x.activities = [] ∧ x.outstanding = []
  | .step _ => True
  | .report n _ => n ∈ x.outstanding
  | .complete k _ => x.activities[k]? = some .complete
  | .cancel => x.activities = []
  | .release => x.activities = []
  | .other host => Elsewhere t x.host host

def machine : Machine Exchange Move Unit where
  allowed x m := x.Allowed t m
  step x m := (x.move c hcd t m, ())

def start (h : Host) : Exchange := ⟨h, 0, [], []⟩

end Exchange

/-- The submission whose report the next step of a context acts on. -/
def Exchange.reported (x : Exchange) : Move → Option Nat
  | .step k =>
    match x.activities[k]? with
    | some (.report n _) => some n
    | _ => none
  | _ => none

/-- The report of a submission clears the flag when the call that made it has set it. -/
def Ordered (tr : Transition Exchange Move Unit) : Prop :=
  ∀ n ∈ tr.pre.reported tr.input, .mark n ∉ tr.pre.activities

instance (tr : Transition Exchange Move Unit) : Decidable (Ordered tr) := inferInstanceAs (Decidable (∀ n ∈ _, _))

section Exact

variable {c : Config} {hcd : Hcd} {t : Nat} {h : Host} {x : Exchange}

theorem submitChecks_run : (∃ e, submitChecks c t h = (.error e, h)) ∨
    submitChecks c t h = (.ok (), h) ∧ Pooled c t h ∧ (h.transfers t).isSubmitted = false := by
  simp only [submitChecks, read_bind, id_eq]
  by_cases uninitialized : h.isInitialized = false
  · rw [reject_bind_pos _ uninitialized]
    exact .inl ⟨_, rfl⟩
  rw [reject_bind_neg _ uninitialized]
  by_cases stopped : h.isStarted = false
  · rw [reject_bind_pos _ stopped]
    exact .inl ⟨_, rfl⟩
  rw [reject_bind_neg _ stopped]
  by_cases free : c.maxTransfers ≤ t ∨ (h.transfers t).isAllocated = false
  · rw [reject_bind_pos _ free]
    exact .inl ⟨_, rfl⟩
  rw [reject_bind_neg _ free]
  by_cases again : (h.transfers t).isSubmitted = true
  · rw [reject_pos again]
    exact .inl ⟨_, rfl⟩
  · rw [reject_neg again]
    obtain ⟨small, allocated⟩ := not_or.mp free
    exact .inr ⟨rfl, ⟨Nat.lt_of_not_le small, by simpa using allocated⟩, by simpa using again⟩

theorem submitHand_transfers : (submitHand hcd t h).2.transfers = h.transfers := by
  have asked : submitHand hcd t h =
    ask (.submit t (h.transfers t)) (fun log => hcd.submitTransfer log t (h.transfers t)) h := rfl
  rw [asked]
  rcases ask_effect (.submit t (h.transfers t)) (fun log => hcd.submitTransfer log t (h.transfers t)) h with ran | ran
  · rw [ran]
  · rw [ran]

def TakesBack (t : Nat) (call : HostM Unit) : Prop :=
  ∀ h, (∃ h', call h = (.ok (), h') ∧ (h'.transfers t).isSubmitted = false) ∨
    ∃ e h', call h = (.error e, h') ∧ h'.transfers = h.transfers

theorem transferCancelIfSubmitted_takesBack : TakesBack t (transferCancelIfSubmitted hcd t) := by
  intro h
  rw [transferCancelIfSubmitted, read_bind]
  by_cases idle : (h.transfers t).isSubmitted = false
  · rw [if_pos idle]
    exact .inl ⟨h, rfl, idle⟩
  · rw [if_neg idle]
    rcases ask_effect (.cancel t) (fun log => hcd.cancelTransfer log t) h with ran | ran
    · rw [bind_error _ ran]
      exact .inr ⟨_, h, rfl, rfl⟩
    · rcases answer : hcd.cancelTransfer h.log t with e | u
      · rw [bind_error (e := e) _ (by rw [ran, answer])]
        exact .inr ⟨e, _, rfl, rfl⟩
      · rw [bind_ok (a := u) _ (by rw [ran, answer])]
        exact .inl ⟨_, rfl, by simp⟩

theorem transferRelease_takesBack : TakesBack t (transferRelease c hcd t) := by
  intro h
  simp only [transferRelease, contextReadyForRuntimeSlots, bind_assoc, read_bind, id_eq]
  by_cases uninitialized : h.isInitialized = false
  · rw [reject_bind_pos _ uninitialized]
    exact .inr ⟨_, h, rfl, rfl⟩
  rw [reject_bind_neg _ uninitialized, read_bind]
  by_cases free : c.maxTransfers ≤ t ∨ (h.transfers t).isAllocated = false
  · rw [reject_bind_pos _ free]
    exact .inr ⟨_, h, rfl, rfl⟩
  rw [reject_bind_neg _ free]
  rcases @transferCancelIfSubmitted_takesBack hcd t h with ⟨h', ran, -⟩ | ⟨e, h', ran, same⟩
  · rw [bind_ok _ ran]
    exact .inl ⟨_, rfl, by simp [Transfer.zero]⟩
  · rw [bind_error _ ran]
    exact .inr ⟨e, h', rfl, same⟩

inductive Sound (c : Config) (t : Nat) : Exchange → Prop
  | idle {h : Host} {taken : Nat} (clear : (h.transfers t).isSubmitted = false) : Sound c t ⟨h, taken, [], []⟩
  | waiting {h : Host} {taken n : Nat} (pooled : Pooled c t h) (set : (h.transfers t).isSubmitted = true) :
      Sound c t ⟨h, taken, [n], []⟩
  | submit {h : Host} {taken : Nat} {fromClass : Bool} (clear : (h.transfers t).isSubmitted = false) :
      Sound c t ⟨h, taken, [], [.submit fromClass]⟩
  | hand {h : Host} {taken : Nat} {fromClass : Bool} (pooled : Pooled c t h)
      (clear : (h.transfers t).isSubmitted = false) : Sound c t ⟨h, taken, [], [.hand fromClass]⟩
  | mark {h : Host} {taken n : Nat} (pooled : Pooled c t h) : Sound c t ⟨h, taken, [n], [.mark n]⟩
  | both {h : Host} {taken n : Nat} {event : TransferEvent} (pooled : Pooled c t h) :
      Sound c t ⟨h, taken, [], [.mark n, .report n event]⟩
  | report {h : Host} {taken n : Nat} {event : TransferEvent} (pooled : Pooled c t h) :
      Sound c t ⟨h, taken, [], [.report n event]⟩
  | complete {h : Host} {taken : Nat} (clear : (h.transfers t).isSubmitted = false) :
      Sound c t ⟨h, taken, [], [.complete]⟩

variable {activity : Activity} {h' : Host}

theorem Pooled.congr (pooled : Pooled c t h) (same : h'.transfers = h.transfers) : Pooled c t h' := by
  rw [Pooled, same]
  exact pooled

theorem Pooled.elsewhere (pooled : Pooled c t h) (elsewhere : Elsewhere t h h') : Pooled c t h' :=
  ⟨pooled.1, elsewhere.1.trans pooled.2⟩

theorem Sound.refused {fromClass : Bool} {taken : Nat} {h h' : Host} (clear : (h'.transfers t).isSubmitted = false) :
    Sound c t (Exchange.refused ⟨h, taken, [], [activity]⟩ 0 fromClass h') := by
  cases fromClass with
  | true => exact .complete clear
  | false => exact .idle clear

theorem Sound.withdraw {call : HostM Unit} (takesBack : TakesBack t call) (sound : Sound c t x)
    (idle : x.activities = [] ∨ x.activities = [.complete]) : Sound c t (x.withdraw t call) := by
  cases sound with
  | @idle h taken clear =>
    rcases takesBack h with ⟨h', ran, cleared⟩ | ⟨e, h', ran, same⟩
    · simp only [Exchange.withdraw, ran, Exchange.submitted, clear]
      exact .idle cleared
    · simp only [Exchange.withdraw, ran]
      exact .idle (by rw [same]; exact clear)
  | @waiting h taken n pooled set =>
    rcases takesBack h with ⟨h', ran, cleared⟩ | ⟨e, h', ran, same⟩
    · simp only [Exchange.withdraw, ran, Exchange.submitted, set]
      exact .idle cleared
    · simp only [Exchange.withdraw, ran]
      exact .waiting (pooled.congr same) (by rw [same]; exact set)
  | @complete h taken clear =>
    rcases takesBack h with ⟨h', ran, cleared⟩ | ⟨e, h', ran, same⟩
    · simp only [Exchange.withdraw, ran, Exchange.submitted, clear]
      exact .complete cleared
    · simp only [Exchange.withdraw, ran]
      exact .complete (by rw [same]; exact clear)
  | submit | hand | mark | both | report => exact absurd idle (by simp)

theorem Sound.advance (sound : Sound c t x) (k : Nat) (turn : x.activities[k]? = some activity)
    (ordered : ∀ n event, activity = .report n event → .mark n ∉ x.activities) :
    Sound c t (x.advance c hcd t k activity) := by
  have only {a : Activity} (turn : [a][k]? = some activity) : k = 0 ∧ a = activity := by
    cases k with
    | zero => exact ⟨rfl, Option.some.inj turn⟩
    | succ k => cases turn
  cases sound with
  | idle | waiting => cases turn
  | @submit h taken fromClass clear =>
    obtain ⟨rfl, rfl⟩ := only turn
    rcases @submitChecks_run c t h with ⟨e, ran⟩ | ⟨ran, pooled, -⟩
    · simp only [Exchange.advance, ran]
      exact .refused clear
    · simp only [Exchange.advance, ran]
      exact .hand pooled clear
  | @hand h taken fromClass pooled clear =>
    obtain ⟨rfl, rfl⟩ := only turn
    have same := @submitHand_transfers hcd t h
    rcases ran : submitHand hcd t h with ⟨_ | _, h'⟩
    · simp only [Exchange.advance, ran]
      rw [ran] at same
      exact .refused (by rw [same]; exact clear)
    · simp only [Exchange.advance, ran]
      rw [ran] at same
      exact .mark (pooled.congr same)
  | @mark h taken n pooled =>
    obtain ⟨rfl, rfl⟩ := only turn
    exact .waiting ⟨pooled.1, by simpa [submitMark, updateTransfer] using pooled.2⟩
      (by simp [submitMark, updateTransfer])
  | @report h taken n event pooled =>
    obtain ⟨rfl, rfl⟩ := only turn
    simp only [Exchange.advance, if_pos pooled]
    exact .complete (by simp [reportClear, updateTransfer])
  | @complete h taken clear =>
    obtain ⟨rfl, rfl⟩ := only turn
    exact .complete clear
  | @both h taken n event pooled =>
    rcases k with _ | _ | k
    · obtain rfl := Option.some.inj turn
      exact .report ⟨pooled.1, by simpa [submitMark, updateTransfer] using pooled.2⟩
    · obtain rfl := Option.some.inj turn
      exact absurd List.mem_cons_self (ordered n event rfl)
    · cases turn

theorem Sound.move (sound : Sound c t x) {m : Move} (allowed : x.Allowed t m)
    (ordered : Ordered ((Exchange.machine c hcd t).take x m)) : Sound c t (x.move c hcd t m) := by
  cases m with
  | submit =>
    obtain ⟨idle, ended⟩ := allowed
    cases sound with
    | idle clear => exact .submit clear
    | waiting => cases ended
    | submit | hand | mark | both | report | complete => cases idle
  | step k =>
    rw [Exchange.move]
    split
    · next activity turn =>
      refine sound.advance k turn fun n event same => ordered n ?_
      subst same
      simp only [Exchange.machine, Machine.take, Exchange.reported, turn]
      rfl
    · exact sound
  | report n event =>
    have out : n ∈ x.outstanding := allowed
    cases sound with
    | @waiting h taken n' pooled set =>
      obtain rfl := List.mem_singleton.mp out
      simp only [Exchange.move, List.erase_cons_head]
      exact .report pooled
    | @mark h taken n' pooled =>
      obtain rfl := List.mem_singleton.mp out
      simp only [Exchange.move, List.erase_cons_head]
      exact .both pooled
    | idle | submit | hand | both | report | complete => cases out
  | complete k call =>
    have turn : x.activities[k]? = some .complete := allowed
    cases sound with
    | @complete h taken clear =>
      cases k with
      | succ k => cases turn
      | zero =>
        cases call with
        | resubmit => exact .submit clear
        | cancel => exact Sound.withdraw transferCancelIfSubmitted_takesBack (.complete clear) (.inr rfl)
        | release => exact Sound.withdraw transferRelease_takesBack (.complete clear) (.inr rfl)
        | leave => exact .idle clear
    | idle | waiting => cases turn
    | submit | hand | mark | report =>
      cases k with
      | zero => cases turn
      | succ k => cases turn
    | both =>
      rcases k with _ | _ | k
      · cases turn
      · cases turn
      · cases turn
  | cancel => exact sound.withdraw transferCancelIfSubmitted_takesBack (.inl allowed)
  | release => exact sound.withdraw transferRelease_takesBack (.inl allowed)
  | other h' =>
    have elsewhere : Elsewhere t x.host h' := allowed
    cases sound with
    | idle clear => exact .idle (elsewhere.2.trans clear)
    | waiting pooled set => exact .waiting (pooled.elsewhere elsewhere) (elsewhere.2.trans set)
    | submit clear => exact .submit (elsewhere.2.trans clear)
    | hand pooled clear => exact .hand (pooled.elsewhere elsewhere) (elsewhere.2.trans clear)
    | mark pooled => exact .mark (pooled.elsewhere elsewhere)
    | both pooled => exact .both (pooled.elsewhere elsewhere)
    | report pooled => exact .report (pooled.elsewhere elsewhere)
    | complete clear => exact .complete (elsewhere.2.trans clear)

theorem Sound.kept (sound : Sound c t x) (quiet : x.activities = []) : x.submitted t = true ↔ x.outstanding ≠ [] := by
  cases sound with
  | idle clear => simp [Exchange.submitted, clear]
  | waiting pooled set => simp [Exchange.submitted, set]
  | submit | hand | mark | both | report | complete => cases quiet

/-- Completions are kept in every run in which no report overtakes the submission that it ends. -/
theorem completion_kept (c : Config) (hcd : Hcd) (t : Nat) (h : Host) (trace : List (Transition Exchange Move Unit))
    (x : Exchange) (idle : (h.transfers t).isSubmitted = false)
    (run : (Exchange.machine c hcd t).Run (.start h) trace x) (ordered : ∀ tr ∈ trace, Ordered tr)
    (quiet : x.activities = []) : x.submitted t = true ↔ x.outstanding ≠ [] := by
  have sound : Sound c t x :=
    run.invariant_of ordered (.idle idle) fun x m sound allowed ordered => sound.move allowed ordered
  exact sound.kept quiet

end Exact

section Alone

variable {c : Config} {hcd : Hcd} {t : Nat}

def Exchange.submitAlone (c : Config) (hcd : Hcd) (t : Nat) (x : Exchange) : Exchange :=
  (Exchange.machine c hcd t).play x [.submit, .step 0, .step 0, .step 0]

end Alone

def sampleAllocated : Host := (transferAllocate sampleConfig sampleStarted).2

/-- The class submits the transfer again when it is told of its end. -/
def sampleResubmitted : List Move :=
  [.submit, .step 0, .step 0, .step 0, .report 0 .complete, .step 0, .complete 0 .resubmit, .step 0, .step 0, .step 0]

def sampleOvertaken : List Move :=
  [.submit, .step 0, .step 0, .report 0 .complete, .step 1, .complete 1 .leave, .step 0]

abbrev sampleExchange : Machine Exchange Move Unit := Exchange.machine sampleConfig sampleHcd 0

theorem completion_kept_sample :
    ((sampleExchange.play (.start sampleAllocated) sampleResubmitted).submitted 0 = true ↔
      (sampleExchange.play (.start sampleAllocated) sampleResubmitted).outstanding ≠ []) := by
  have legal : sampleExchange.Legal (.start sampleAllocated) sampleResubmitted :=
    ⟨⟨rfl, rfl⟩, trivial, trivial, trivial, List.mem_cons_self, trivial, rfl, trivial, trivial, trivial, trivial⟩
  exact completion_kept sampleConfig sampleHcd 0 sampleAllocated _ _ rfl (Machine.run_of_legal legal)
    (by decide +kernel) rfl

theorem completion_lost : ¬∀ (c : Config) (hcd : Hcd) (t : Nat) (h : Host) (trace : List (Transition Exchange Move Unit))
    (x : Exchange), (h.transfers t).isSubmitted = false → (Exchange.machine c hcd t).Run (.start h) trace x →
    x.activities = [] → (x.submitted t = true ↔ x.outstanding ≠ []) := by
  intro kept
  have legal : sampleExchange.Legal (.start sampleAllocated) sampleOvertaken :=
    ⟨⟨rfl, rfl⟩, trivial, trivial, List.mem_cons_self, trivial, rfl, trivial, trivial⟩
  have lost := kept sampleConfig sampleHcd 0 sampleAllocated _ _ rfl (Machine.run_of_legal legal) rfl
  exact absurd rfl (lost.mp rfl)

end XSDK.Usbh.Handover
