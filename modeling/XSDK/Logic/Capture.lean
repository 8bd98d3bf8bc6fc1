import XSDK.Logic.Core
import Mathlib.Data.List.Induction

/-! What is sent of each capture, over whole runs of the core and the PRU. -/
namespace XSDK.Logic

open Library
open Function (update update_self update_of_ne)

/-! ### The buffer turned round -/

theorem reverseLoop_apply (fuel : Nat) (data : Nat → UInt8) (left right k : Nat) (enough : right ≤ left + 2 * fuel) :
    reverseLoop fuel data left right k = if left ≤ k ∧ k ≤ right then data (left + right - k) else data k := by
  induction fuel generalizing data left right with
  | zero =>
    rw [reverseLoop]
    split
    · next inside =>
      have same : left + right - k = k := by omega
      rw [same]
    · rfl
  | succ fuel ih =>
    rw [reverseLoop]
    split
    · next more =>
      rw [ih _ _ _ (by omega)]
      by_cases first : k = left
      · subst first
        have last : k + right - k = right := by omega
        rw [if_neg (by omega), if_pos (by omega), swap, update_of_ne (by omega), update_self, last]
      · by_cases last : k = right
        · subst last
          have first : left + k - k = left := by omega
          rw [if_neg (by omega), if_pos (by omega), swap, update_self, first]
        · by_cases inside : left ≤ k ∧ k ≤ right
          · have inner : left + 1 + (right - 1) - k = left + right - k := by omega
            rw [if_pos (by omega), if_pos inside, inner, swap, update_of_ne (by omega), update_of_ne (by omega)]
          · rw [if_neg (by omega), if_neg inside, swap, update_of_ne last, update_of_ne first]
    · next done =>
      split
      · next inside =>
        have same : left + right - k = k := by omega
        rw [same]
      · rfl

@[simp] theorem length_bytesOf (data : Nat → UInt8) (length : Nat) : (bytesOf data length).length = length := by
  simp [bytesOf]

theorem bytesOf_congr {data other : Nat → UInt8} {length : Nat} (same : ∀ k < length, data k = other k) :
    bytesOf data length = bytesOf other length :=
  List.map_congr_left fun k mem => same k (List.mem_range.mp mem)

theorem bytesOf_reverse (data : Nat → UInt8) (length : Nat) :
    bytesOf (reverseBytes data length) length = (bytesOf data length).reverse := by
  apply List.ext_getElem
  · rw [length_bytesOf, List.length_reverse, length_bytesOf]
  · intro k inside _
    rw [length_bytesOf] at inside
    simp only [bytesOf, List.getElem_reverse, List.getElem_map, List.getElem_range, List.length_map, List.length_range]
    rw [reverseBytes]
    split
    · next few =>
      have same : length - 1 - k = k := by omega
      rw [same]
    · next some =>
      have last : 0 + (length - 1) - k = length - 1 - k := by omega
      rw [reverseLoop_apply _ _ _ _ _ (by omega), if_pos (by omega), last]

/-! ### The invariant -/

variable {s : System}

def System.captured (s : System) : Bytes := s.captures s.armings

def System.share (s : System) : Nat := min (min s.pru.control.samplesCaptured s.pru.ringBytes) s.core.sampleBufferBytes

/-- A list as it lies after so many turns. -/
def turned (turns : Nat) (bytes : Bytes) : Bytes := if turns % 2 = 0 then bytes else bytes.reverse

theorem turned_succ (turns : Nat) (bytes : Bytes) : turned (turns + 1) bytes = (turned turns bytes).reverse := by
  rw [turned, turned]
  split <;> split
  · omega
  · rw [List.reverse_reverse]
  · rfl
  · omega

def Waiting (state : State) : Prop := state = .armed ∨ state = .triggered ∨ state = .capturing

instance (state : State) : Decidable (Waiting state) := inferInstanceAs (Decidable (_ ∨ _ ∨ _))

/-- The capture is over, and the staging buffer is empty or holds its share, turned by each attempt. -/
structure Staged (s : System) : Prop where
  seen : s.seen = s.armings
  stopped : s.storing = false
  doneFor : s.doneFor = s.armings
  offset : s.pru.readOffset = s.core.samplesCaptured
  staging : s.core.samplesCaptured = 0 ∧ s.failed = 0 ∨ s.core.samplesCaptured = s.share ∧
    bytesOf s.core.sampleBuffer s.share = turned s.failed (s.captured.take s.share)
  unsent : s.sent = []

structure Inv (s : System) : Prop where
  seen : s.seen ≤ s.armings
  unseen : ∀ k, s.seen < k → s.captures k = []
  counted : s.seen = s.armings → s.pru.control.samplesCaptured = (s.captures s.seen).length
  stored : (s.captures s.seen).take s.pru.ringBytes =
    bytesOf s.pru.ring (min (s.captures s.seen).length s.pru.ringBytes)
  done : s.pru.control.status = .done → s.doneFor = s.seen ∧ s.storing = false
  waiting : Waiting s.core.state → s.pru.readOffset = 0 ∧ s.core.samplesCaptured = 0 ∧ s.failed = 0 ∧ s.sent = []
  staged : s.core.state = .done → Staged s

/-- No poll of an armed core finds a DONE that was set before the PRU saw CMD_ARM, and none sends
with success after an odd number of failures, unless the samples read the same both ways. -/
def Orderly (s : System) : Input → Prop
  | .poll tx =>
    (Waiting s.core.state → s.pru.control.status = .done → s.seen = s.armings) ∧
      (s.core.state = .done → tx = .ok () →
        s.failed % 2 = 0 ∨ (s.captured.take s.share).reverse = s.captured.take s.share)
  | _ => True

/-- A poll that brings the core from DONE to IDLE has sent the samples, newest first. -/
def Delivered (tr : Transition System Input (Except Error Unit)) : Prop :=
  tr.pre.core.state = .done → (∃ tx, tr.input = .poll tx) → tr.post.core.state = .idle →
    tr.post.sent = (tr.post.captured.take tr.post.share).reverse

namespace Inv

theorem init {config : Config} {ring : Nat → UInt8} {ringBytes : Nat} {buffer : Nat → UInt8} {bufferBytes : Nat} :
    Inv (System.init config ring ringBytes buffer bufferBytes) where
  seen := Nat.le_refl _
  unseen _ _ := rfl
  counted _ := rfl
  stored := by
    show List.take _ [] = bytesOf _ (min 0 _)
    rw [List.take_nil, Nat.zero_min]
    rfl
  done is := nomatch is
  waiting is := by
    rcases is with is | is | is <;> cases is
  staged is := nomatch is

variable (inv : Inv s)
include inv

theorem share_eq (latest : s.seen = s.armings) : bytesOf s.pru.ring s.share = s.captured.take s.share := by
  have count := inv.counted latest
  have stored := inv.stored
  have captured : s.captured = s.captures s.seen := by rw [System.captured, latest]
  have within : s.share ≤ min (s.captures s.seen).length s.pru.ringBytes := by
    rw [System.share, count]
    omega
  have longer := congrArg (List.take s.share) stored
  rw [List.take_take, Nat.min_eq_left (by omega)] at longer
  rw [captured, longer, bytesOf, bytesOf, ← List.map_take, List.take_range, Nat.min_eq_left within]

theorem rest {core : Core} (state : core.state = .idle ∨ core.state = .error)
    (cmd : PruCmd) (readOffset : Nat) (transport : Transport) (sent : Bytes) (failed : Nat) :
    Inv { s with
      core := core
      pru := { s.pru with readOffset := readOffset, control := { s.pru.control with cmd := cmd } }
      transport := transport
      sent := sent
      failed := failed } := by
  refine ⟨inv.seen, inv.unseen, inv.counted, inv.stored, inv.done, ?_, ?_⟩
  · intro waiting
    have other : Waiting core.state := waiting
    rcases state with state | state <;> rw [state] at other <;> exact absurd other (by decide)
  · intro is
    have other : core.state = .done := is
    rcases state with state | state <;> rw [state] at other <;> cases other

theorem drain_staged (staged : Staged s) :
    ∃ buffer, drain s = { s with
        pru := { s.pru with readOffset := s.share }
        core := { s.core with sampleBuffer := buffer, samplesCaptured := s.share } } ∧
      bytesOf buffer s.share = turned s.failed (s.captured.take s.share) := by
  have share : s.share = min (min s.pru.control.samplesCaptured s.pru.ringBytes) s.core.sampleBufferBytes := rfl
  have available : pruAvailableBytes s.pru = s.pru.control.samplesCaptured - s.core.samplesCaptured := by
    rw [pruAvailableBytes, staged.offset]
    split <;> omega
  have count : s.core.samplesCaptured + pruReadCount s.pru (s.core.sampleBufferBytes - s.core.samplesCaptured) = s.share := by
    rw [pruReadCount, available, staged.offset]
    rcases staged.staging with ⟨none, -⟩ | ⟨all, -⟩ <;> split <;> split <;> omega
  refine ⟨fun k => if s.core.samplesCaptured ≤ k ∧ k < s.share then
      s.pru.ring (s.core.samplesCaptured + (k - s.core.samplesCaptured)) else s.core.sampleBuffer k, ?_, ?_⟩
  · rw [drain, pruReadSamples]
    simp only [count, staged.offset]
  · rcases staged.staging with ⟨none, failed⟩ | ⟨all, held⟩
    · have ring := inv.share_eq staged.seen
      rw [failed, none, turned, if_pos rfl, ← ring]
      apply bytesOf_congr
      intro k inside
      rw [if_pos (by omega), Nat.zero_add, Nat.sub_zero]
    · rw [← held]
      apply bytesOf_congr
      intro k inside
      rw [if_neg (by omega)]

theorem pollDone_step (staged : Staged s) (state : s.core.state = .done) (tx : Except Error Unit)
    (even : tx = .ok () → s.failed % 2 = 0 ∨ (s.captured.take s.share).reverse = s.captured.take s.share) :
    Inv (pollDone s tx).2 ∧ ((pollDone s tx).2.core.state = .idle →
      (pollDone s tx).2.sent = ((pollDone s tx).2.captured.take (pollDone s tx).2.share).reverse) := by
  obtain ⟨buffer, drained, held⟩ := inv.drain_staged staged
  have reversed := bytesOf_reverse buffer s.share
  rw [held] at reversed
  by_cases none : s.share = 0
  · have run : (pollDone s tx).2 = { s with
        pru := { s.pru with readOffset := s.share }
        core := { s.core with sampleBuffer := buffer, state := .idle, samplesCaptured := 0 } } := by
      rw [pollDone, drained, transportSendSamples, if_pos none]
    rw [run]
    refine ⟨inv.rest (.inl rfl) s.pru.control.cmd s.share s.transport s.sent s.failed, fun _ => ?_⟩
    show s.sent = (s.captured.take s.share).reverse
    rw [none, staged.unsent]
    rfl
  · rcases tx with code | u
    · have run : (pollDone s (.error code)).2 = { s with
          pru := { s.pru with readOffset := s.share }
          core := { s.core with sampleBuffer := reverseBytes buffer s.share, samplesCaptured := s.share }
          failed := s.failed + 1 } := by
        rw [pollDone, drained, transportSendSamples, if_neg none]
      rw [run]
      refine ⟨⟨inv.seen, inv.unseen, inv.counted, inv.stored, inv.done, ?_, fun _ => ?_⟩, ?_⟩
      · intro waiting
        have other : Waiting s.core.state := waiting
        rw [state] at other
        exact absurd other (by decide)
      · exact ⟨staged.seen, staged.stopped, staged.doneFor, rfl, .inr ⟨rfl, reversed.trans (turned_succ _ _).symm⟩, staged.unsent⟩
      · intro idle
        have other : s.core.state = .idle := idle
        rw [state] at other
        cases other
    · have run : (pollDone s (.ok u)).2 = { s with
          pru := { s.pru with readOffset := s.share }
          core := { s.core with sampleBuffer := reverseBytes buffer s.share, state := .idle, samplesCaptured := 0 }
          sent := s.sent ++ bytesOf (reverseBytes buffer s.share) s.share } := by
        rw [pollDone, drained, transportSendSamples, if_neg none]
      rw [run]
      refine ⟨inv.rest (.inl rfl) s.pru.control.cmd s.share s.transport _ s.failed, fun _ => ?_⟩
      show s.sent ++ bytesOf (reverseBytes buffer s.share) s.share = (s.captured.take s.share).reverse
      rw [staged.unsent, List.nil_append, reversed, turned]
      rcases even rfl with same | same
      · rw [if_pos same]
      · split
        · rfl
        · rw [List.reverse_reverse, same]

theorem pollArmed_inv (waiting : Waiting s.core.state) (fresh : s.pru.control.status = .done → s.seen = s.armings) :
    Inv (pollArmed s).2 := by
  rw [pollArmed]
  split
  · exact inv.rest (.inr rfl) s.pru.control.cmd s.pru.readOffset s.transport s.sent s.failed
  · next status =>
    obtain ⟨offset, none, failed, unsent⟩ := inv.waiting waiting
    obtain ⟨doneFor, stopped⟩ := inv.done status
    have latest := fresh status
    refine ⟨inv.seen, inv.unseen, inv.counted, inv.stored, inv.done, ?_, fun _ => ?_⟩
    · intro still
      have other : Waiting .done := still
      exact absurd other (by decide)
    · exact ⟨latest, stopped, doneFor.trans latest, offset.trans none.symm, .inl ⟨none, failed⟩, unsent⟩
  · exact inv

theorem poll_step (tx : Except Error Unit) (orderly : Orderly s (.poll tx)) :
    Inv (poll s tx).2 ∧ Delivered (captureMachine.take s (.poll tx)) := by
  obtain ⟨fresh, even⟩ := orderly
  have other : s.core.state ≠ .done → Delivered (captureMachine.take s (.poll tx)) :=
    fun notDone is => absurd is notDone
  have waits : ∀ state, s.core.state = state → Waiting state → poll s tx = pollArmed s →
      Inv (poll s tx).2 ∧ Delivered (captureMachine.take s (.poll tx)) := by
    rintro state rfl waiting run
    rw [run]
    refine ⟨inv.pollArmed_inv waiting (fresh waiting), other fun is => ?_⟩
    rw [is] at waiting
    exact absurd waiting (by decide)
  cases state : s.core.state with
  | idle =>
    have run : poll s tx = (.ok (), s) := by
      rw [poll, state]
    rw [run]
    refine ⟨inv, other ?_⟩
    rw [state]
    decide
  | armed =>
    apply waits _ state (.inl rfl)
    rw [poll, state]
  | triggered =>
    apply waits _ state (.inr (.inl rfl))
    rw [poll, state]
  | capturing =>
    apply waits _ state (.inr (.inr rfl))
    rw [poll, state]
  | done =>
    have run : poll s tx = pollDone s tx := by
      rw [poll, state]
    obtain ⟨after, delivers⟩ := inv.pollDone_step (inv.staged state) state tx (even state)
    rw [← run] at after delivers
    exact ⟨after, fun _ _ idle => delivers idle⟩
  | error =>
    have run : poll s tx = (.error .invalidState, { s with pru := pruHalt s.pru }) := by
      rw [poll, state]
    rw [run]
    refine ⟨inv.rest (.inr state) .halt s.pru.readOffset s.transport s.sent s.failed, other ?_⟩
    rw [state]
    decide

theorem arm_inv (config : Config) : Inv (arm s config).2 := by
  rw [arm]
  split
  · exact inv
  · next idle =>
    have state : s.core.state = .idle := by
      by_contra busy
      exact idle busy
    by_cases channel : maxChannels ≤ (triggerOf config).1
    · have run : (arm s config).2 = { s with
          core := { s.core with
            config := { config with sampleRate := clampSampleRate config.sampleRate }
            samplesCaptured := 0 } } := by
        rw [arm, if_neg idle, pruArm, if_pos channel]
      rw [arm, if_neg idle] at run
      rw [run]
      have still : ({ s.core with
          config := { config with sampleRate := clampSampleRate config.sampleRate }
          samplesCaptured := 0 } : Core).state = .idle := state
      exact inv.rest (.inl still) s.pru.control.cmd s.pru.readOffset s.transport s.sent s.failed
    · rw [pruArm, if_neg channel]
      have before := inv.seen
      have stored : (s.captures s.seen).take s.pru.ringBytes =
          bytesOf s.pru.ring (min (s.captures s.seen).length s.pru.ringBytes) :=
        inv.stored
      refine ⟨Nat.le_succ_of_le before, inv.unseen, ?_, stored, inv.done, fun _ => ⟨rfl, rfl, rfl, rfl⟩, fun is => (nomatch is)⟩
      intro same
      have never : s.seen = s.armings + 1 := same
      omega

theorem pruSee_inv (allowed : s.allowed .pruSee) : Inv (s.step .pruSee).1 := by
  obtain ⟨-, notYet⟩ := allowed
  have before := inv.seen
  have none : s.captures s.armings = [] := inv.unseen s.armings (by omega)
  refine ⟨Nat.le_refl _, ?_, ?_, ?_, fun is => (nomatch is), inv.waiting, ?_⟩
  · intro k later
    have after : s.armings < k := later
    exact inv.unseen k (by omega)
  · intro _
    show 0 = (s.captures s.armings).length
    rw [none]
    rfl
  · show (s.captures s.armings).take s.pru.ringBytes =
      bytesOf s.pru.ring (min (s.captures s.armings).length s.pru.ringBytes)
    rw [none, List.take_nil, List.length_nil, Nat.zero_min]
    rfl
  · intro state
    exact absurd (inv.staged state).seen notYet

theorem store_inv (allowed : s.storing = true) (sample : UInt8) : Inv (s.store sample) := by
  have own : (s.store sample).captures s.seen = s.captures s.seen ++ [sample] := update_self ..
  have stored := inv.stored
  refine ⟨inv.seen, ?_, ?_, ?_, ?_, inv.waiting, ?_⟩
  · intro k later
    have after : s.seen < k := later
    exact (update_of_ne (by omega) ..).trans (inv.unseen k after)
  · intro _
    show (s.captures s.seen).length + 1 = ((s.store sample).captures s.seen).length
    rw [own, List.length_append]
    rfl
  · show ((s.store sample).captures s.seen).take s.pru.ringBytes =
      bytesOf (if (s.captures s.seen).length < s.pru.ringBytes then update s.pru.ring (s.captures s.seen).length sample else s.pru.ring)
        (min ((s.store sample).captures s.seen).length s.pru.ringBytes)
    rw [own, List.length_append, List.length_singleton]
    by_cases room : (s.captures s.seen).length < s.pru.ringBytes
    · rw [Nat.min_eq_left (Nat.le_of_lt room), List.take_of_length_le (Nat.le_of_lt room)] at stored
      have fits : ((s.captures s.seen) ++ [sample]).length ≤ s.pru.ringBytes := by
        rw [List.length_append, List.length_singleton]
        exact room
      rw [if_pos room, Nat.min_eq_left room, List.take_of_length_le fits, bytesOf, List.range_succ, List.map_append]
      congr 1
      · rw [← bytesOf]
        refine stored.trans (bytesOf_congr fun k inside => ?_)
        rw [update_of_ne (by omega)]
      · rw [List.map_singleton, update_self]
    · rw [if_neg room, List.take_append_of_le_length (by omega), stored]
      congr 1
      omega
  · intro is
    have stopped := (inv.done is).2
    rw [allowed] at stopped
    cases stopped
  · intro state
    have stopped := (inv.staged state).stopped
    rw [allowed] at stopped
    cases stopped

theorem step (i : Input) (allowed : s.allowed i) (orderly : Orderly s i) :
    Inv (s.step i).1 ∧ Delivered (captureMachine.take s i) := by
  have notDone : s.storing = true → s.core.state ≠ .done := by
    intro storing state
    have stopped := (inv.staged state).stopped
    rw [storing] at stopped
    cases stopped
  cases i with
  | arm config => exact ⟨inv.arm_inv config, fun _ ⟨_, poll⟩ => nomatch poll⟩
  | abort =>
    refine ⟨inv.rest (.inl rfl) .halt s.pru.readOffset _ s.sent s.failed, fun _ ⟨_, poll⟩ => nomatch poll⟩
  | poll tx => exact inv.poll_step tx orderly
  | pruSee => exact ⟨inv.pruSee_inv allowed, fun _ ⟨_, poll⟩ => nomatch poll⟩
  | pruStore sample => exact ⟨inv.store_inv allowed sample, fun _ ⟨_, poll⟩ => nomatch poll⟩
  | pruDone =>
    refine ⟨⟨inv.seen, inv.unseen, inv.counted, inv.stored, fun _ => ⟨rfl, rfl⟩, inv.waiting, ?_⟩, fun _ ⟨_, poll⟩ => nomatch poll⟩
    intro state
    exact absurd state (notDone allowed)
  | pruSet status =>
    refine ⟨⟨inv.seen, inv.unseen, inv.counted, inv.stored, ?_, inv.waiting, ?_⟩, fun _ ⟨_, poll⟩ => nomatch poll⟩
    · intro is
      exact absurd is allowed
    · intro state
      obtain ⟨h1, h2, h3, h4, h5, h6⟩ := inv.staged state
      exact ⟨h1, h2, h3, h4, h5, h6⟩

end Inv

/-- In every orderly run the core is done only with the capture that was armed last, and each
capture is sent once, newest sample first. -/
theorem captures_delivered {config : Config} {ring : Nat → UInt8} {ringBytes : Nat}
    {buffer : Nat → UInt8} {bufferBytes : Nat}
    {trace : List (Transition System Input (Except Error Unit))}
    (run : captureMachine.Run (.init config ring ringBytes buffer bufferBytes) trace s)
    (orderly : ∀ tr ∈ trace, Orderly tr.pre tr.input) :
    (s.core.state = .done → s.seen = s.armings ∧ s.doneFor = s.armings) ∧ ∀ tr ∈ trace, Delivered tr := by
  obtain ⟨inv, delivered⟩ : Inv s ∧ ∀ tr ∈ trace, Delivered tr :=
    run.throughout orderly .init fun _ i inv allowed ok => inv.step i allowed ok
  exact ⟨fun state => ⟨(inv.staged state).seen, (inv.staged state).doneFor⟩, delivered⟩

def sampleConfig : Config := ⟨1000000, 2, 255, .none, 0, 0, 0, 0⟩

def sampleSystem : System := .init sampleConfig (fun _ => 0) 4 (fun _ => 0) 4

def sampleInputs : List Input :=
  [.arm sampleConfig, .pruSee, .pruStore 1, .pruStore 2, .pruDone, .poll (.ok ()), .poll (.error .txFailed), .poll (.error .txFailed),
    .poll (.ok ())]

theorem captures_delivered_sample :
    ((captureMachine.play sampleSystem sampleInputs).core.state = .done →
        (captureMachine.play sampleSystem sampleInputs).seen = (captureMachine.play sampleSystem sampleInputs).armings ∧
          (captureMachine.play sampleSystem sampleInputs).doneFor = (captureMachine.play sampleSystem sampleInputs).armings) ∧
      ∀ tr ∈ captureMachine.transitions sampleSystem sampleInputs, Delivered tr := by
  apply captures_delivered
  · refine Machine.run_of_legal ⟨trivial, ⟨rfl, by decide⟩, rfl, rfl, rfl, trivial, trivial, trivial, trivial, trivial⟩
  · simp only [sampleInputs, Machine.transitions, List.forall_mem_cons, List.not_mem_nil, false_implies, implies_true, and_true]
    exact ⟨trivial, trivial, trivial, trivial, trivial, ⟨fun _ _ => rfl, by rintro ⟨⟩⟩, ⟨by decide, by decide⟩,
      ⟨by decide, by decide⟩, ⟨by decide, by decide⟩⟩

/-- A second capture is over before it began, and a failed attempt turns the samples round. -/
theorem captures_confused :
    (∃ trace s, captureMachine.Run sampleSystem trace s ∧ s.core.state = .done ∧ s.doneFor ≠ s.armings) ∧
      ∃ trace s, captureMachine.Run sampleSystem trace s ∧ ∃ tr ∈ trace, ¬Delivered tr := by
  constructor
  · have legal : captureMachine.Legal sampleSystem
        [.arm sampleConfig, .pruSee, .pruDone, .poll (.ok ()), .poll (.ok ()), .arm sampleConfig, .poll (.ok ())] :=
      ⟨trivial, ⟨rfl, by decide⟩, rfl, trivial, trivial, trivial, trivial, trivial⟩
    exact ⟨_, _, Machine.run_of_legal legal, by decide, by decide⟩
  · have legal : captureMachine.Legal sampleSystem
        [.arm sampleConfig, .pruSee, .pruStore 1, .pruStore 2, .pruDone, .poll (.ok ()), .poll (.error .txFailed), .poll (.ok ())] :=
      ⟨trivial, ⟨rfl, by decide⟩, rfl, rfl, rfl, trivial, trivial, trivial, trivial⟩
    refine ⟨_, _, Machine.run_of_legal legal, _, List.mem_of_getLast? rfl, fun delivered => ?_⟩
    exact absurd (delivered rfl ⟨_, rfl⟩ rfl) (by decide)

end XSDK.Logic
