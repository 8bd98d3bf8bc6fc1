import Mathlib.Algebra.Ring.Nat
import Mathlib.Data.List.Basic
import Mathlib.Logic.Function.Iterate

/-! The capture of a backtrace through the frame pointers of a stack that may be corrupt. -/
namespace XSDK.Fault

open Function (update)

/-- What the build fixes: the size of an address and, in words, where a frame keeps its two links.
The frame's words span `frameWordsToCheck` words from `frameLowest` bytes below the frame pointer. -/
structure Target where
  wordBytes : Nat
  nextFrameOffset : Int
  returnAddressOffset : Int
  frameLowest : Nat
  frameWordsToCheck : Nat
  maxBacktraceDepth : Nat
  positive : 0 < wordBytes
  fits : frameWordsToCheck * wordBytes < 2 ^ (8 * wordBytes)
  spans : frameLowest < frameWordsToCheck * wordBytes
  next_inside : 0 ≤ nextFrameOffset * wordBytes + frameLowest ∧
    nextFrameOffset * wordBytes + wordBytes + frameLowest ≤ (frameWordsToCheck * wordBytes : Nat)
  return_inside : 0 ≤ returnAddressOffset * wordBytes + frameLowest ∧
    returnAddressOffset * wordBytes + wordBytes + frameLowest ≤ (frameWordsToCheck * wordBytes : Nat)

def arm (maxBacktraceDepth : Nat) : Target where
  wordBytes := 4
  nextFrameOffset := -3
  returnAddressOffset := -1
  frameLowest := 12
  frameWordsToCheck := 4
  maxBacktraceDepth := maxBacktraceDepth
  positive := by decide
  fits := by decide
  spans := by decide
  next_inside := by decide
  return_inside := by decide

def generic (wordBytes maxBacktraceDepth : Nat) (positive : 0 < wordBytes) : Target where
  wordBytes := wordBytes
  nextFrameOffset := 0
  returnAddressOffset := 1
  frameLowest := 0
  frameWordsToCheck := 2
  maxBacktraceDepth := maxBacktraceDepth
  positive := positive
  fits := by
    have below : 2 * wordBytes < 2 * 2 ^ wordBytes := by
      have small : wordBytes < 2 ^ wordBytes := Nat.lt_two_pow_self
      omega
    have grows : 2 ^ (wordBytes + 1) ≤ 2 ^ (8 * wordBytes) := Nat.pow_le_pow_right (by decide) (by omega)
    rw [Nat.pow_succ] at grows
    omega
  spans := by omega
  next_inside := by omega
  return_inside := by omega

def defaultBacktraceDepth : Nat := 12

variable {t : Target}

abbrev Address (t : Target) : Type := BitVec (8 * t.wordBytes)

/-- One access of `read_frame_word`: the word `index` words from a frame pointer. -/
structure Read (t : Target) where
  frame : Address t
  index : Int

def Read.address (r : Read t) : Int := r.frame.toNat + r.index * t.wordBytes

structure Context (t : Target) where
  fp : Address t
  backtrace : Nat → Address t
  backtraceCount : Nat
  isValid : Bool

inductive Error
  | invalidArgument
  deriving DecidableEq, Repr

/-- The context, and the reads of the stack made so far. -/
structure Machine (t : Target) where
  context : Context t
  reads : List (Read t)

abbrev Memory (t : Target) : Type := Int → Address t

def stackBoundsAreValid (stackBase stackLimit : Address t) : Bool := decide (stackLimit < stackBase)

def addressIsAligned (address : Address t) : Bool := address.toNat % t.wordBytes == 0

def rangeIsInStack (address length stackBase stackLimit : Address t) : Bool :=
  if length = 0 then false
  else if address < stackLimit then false
  else if stackBase < length then false
  else if stackBase - length < address then false
  else true

def framePointsForward (current next : Address t) : Bool := decide (current < next)

def frameLowestAddress (fp : Address t) : Address t := fp - BitVec.ofNat _ t.frameLowest

def frameLength : Address t := BitVec.ofNat _ (t.wordBytes * t.frameWordsToCheck)

variable (memory : Memory t)

def readFrameWord (frame : Address t) (index : Int) (m : Machine t) :
    Address t × Machine t :=
  (memory (Read.address ⟨frame, index⟩), { m with reads := m.reads ++ [⟨frame, index⟩] })

def Machine.record (m : Machine t) (depth : Nat) (returnAddress : Address t) : Machine t :=
  { m with context := { m.context with
      backtrace := update m.context.backtrace depth returnAddress
      backtraceCount := m.context.backtraceCount + 1 } }

/-- The loop at `depth`, with the passes that `maxBacktraceDepth` leaves. -/
def captureLoop (memory : Memory t) (stackBase stackLimit : Address t) :
    Nat → Address t → Nat → Machine t → Machine t
  | 0, _, _, m => m
  | passes + 1, currentFrame, depth, m =>
    if currentFrame = 0 ∨ ¬ addressIsAligned currentFrame then m
    else if ¬ rangeIsInStack (frameLowestAddress currentFrame) frameLength stackBase stackLimit then m
    else
      let (nextFrame, m) := readFrameWord memory currentFrame t.nextFrameOffset m
      let (returnAddress, m) := readFrameWord memory currentFrame t.returnAddressOffset m
      let m := m.record depth returnAddress
      if nextFrame = 0 ∨ ¬ addressIsAligned nextFrame ∨ ¬ framePointsForward currentFrame nextFrame then m
      else captureLoop memory stackBase stackLimit passes nextFrame (depth + 1) m

def backtraceCapture (context : Context t) (stackBase stackLimit : Address t) :
    Except Error Unit × Machine t :=
  let context := { context with backtraceCount := 0 }
  if ¬ stackBoundsAreValid stackBase stackLimit then (.error .invalidArgument, ⟨context, []⟩)
  else
    let m := captureLoop memory stackBase stackLimit t.maxBacktraceDepth context.fp 0 ⟨context, []⟩
    (.ok (), { m with context := { m.context with isValid := true } })

/-! ### The chain of frames -/

/-- The word of memory at an offset, in words, from a frame. -/
def wordAt (frame : Address t) (index : Int) : Address t :=
  memory (Read.address ⟨frame, index⟩)

/-- The `k`-th frame that the links from `fp` lead to. -/
def chain (fp : Address t) (k : Nat) : Address t :=
  (fun frame => wordAt memory frame t.nextFrameOffset)^[k] fp

def Aligned (t : Target) (address : Int) : Prop := (t.wordBytes : Int) ∣ address

variable (stackBase stackLimit frame : Address t)

def InBounds : Prop :=
  stackLimit.toNat + t.frameLowest ≤ frame.toNat ∧
    frame.toNat + t.frameWordsToCheck * t.wordBytes ≤ stackBase.toNat + t.frameLowest

/-- The first `n` frames of a chain are all good, and each lies above the one before it. -/
structure GoodPrefix (good : Address t → Prop) (frames : Nat → Address t) (n : Nat) : Prop where
  each : ∀ k < n, good (frames k)
  increasing : ∀ k, k + 1 < n → frames k < frames (k + 1)

/-- `n` is the length of the longest good prefix of at most `most` frames. -/
structure LongestPrefix (good : Address t → Prop) (frames : Nat → Address t) (most n : Nat) : Prop where
  atMost : n ≤ most
  isGood : GoodPrefix good frames n
  longest : ∀ k ≤ most, GoodPrefix good frames k → k ≤ n

def InStack : Prop :=
  Aligned t frame.toNat ∧ InBounds stackBase stackLimit frame

/-- The frames the capture follows: a null frame pointer ends a chain. -/
def Followed : Prop := frame ≠ 0 ∧ InStack stackBase stackLimit frame

/-- What a capture of the `n` frames of a chain leaves in the context, and what it has read. -/
structure Recorded (memory : Memory t) (stackBase stackLimit : Address t) (frames : Nat → Address t)
    (before : Context t) (after : Machine t) (n : Nat) : Prop where
  count : after.context.backtraceCount = n
  valid : after.context.isValid = true
  pointer : after.context.fp = before.fp
  recorded : ∀ k < n, after.context.backtrace k = wordAt memory (frames k) t.returnAddressOffset
  kept : ∀ k, n ≤ k → after.context.backtrace k = before.backtrace k
  reads : after.reads = (List.range n).flatMap fun k =>
    [⟨frames k, t.nextFrameOffset⟩, ⟨frames k, t.returnAddressOffset⟩]
  once : ∀ i < n, ∀ j < n, frames i = frames j → i = j
  inside : ∀ r ∈ after.reads, Aligned t r.address ∧ (stackLimit.toNat : Int) ≤ r.address ∧
    r.address + t.wordBytes ≤ stackBase.toNat

variable {frames : Nat → Address t} {good : Address t → Prop} {n : Nat}

theorem GoodPrefix.cons
    (first : good (frames 0)) (above : frames 0 < frames 1) (h : GoodPrefix good (fun k => frames (k + 1)) n) :
    GoodPrefix good frames (n + 1) := by
  constructor
  · intro k below
    cases k with
    | zero => exact first
    | succ k => exact h.each k (by omega)
  · intro k below
    cases k with
    | zero => exact above
    | succ k => exact h.increasing k (by omega)

theorem GoodPrefix.tail
    (h : GoodPrefix good frames (n + 1)) : GoodPrefix good (fun k => frames (k + 1)) n :=
  ⟨fun k below => h.each (k + 1) (by omega), fun k below => h.increasing (k + 1) (by omega)⟩

theorem GoodPrefix.lt
    (h : GoodPrefix good frames n) {i j : Nat} (before : i < j) (below : j < n) : frames i < frames j := by
  induction j with
  | zero => omega
  | succ j ih =>
    have step := h.increasing j below
    rcases Nat.lt_or_ge i j with earlier | here
    · have rest := ih earlier (by omega)
      simp only [BitVec.lt_def] at step rest ⊢
      omega
    · have same : i = j := by omega
      rw [same]
      exact step

theorem GoodPrefix.once
    (h : GoodPrefix good frames n) : ∀ i < n, ∀ j < n, frames i = frames j → i = j := by
  intro i _ j _ same
  rcases Nat.lt_trichotomy i j with before | equal | after
  · have less := h.lt before (by omega)
    simp [same] at less
  · exact equal
  · have less := h.lt after (by omega)
    simp [same] at less

theorem LongestPrefix.none (bad : ¬ good (frames 0))
    (most : Nat) : LongestPrefix good frames most 0 := by
  refine ⟨Nat.zero_le _, ⟨fun k below => by omega, fun k below => by omega⟩, fun k _ prefixed => ?_⟩
  cases k with
  | zero => omega
  | succ k => exact absurd (prefixed.each 0 (by omega)) bad

theorem LongestPrefix.single (first : good (frames 0))
    (ends : ¬ (good (frames 1) ∧ frames 0 < frames 1)) (most : Nat) : LongestPrefix good frames (most + 1) 1 := by
  refine ⟨by omega, ⟨fun k below => ?_, fun k below => by omega⟩, fun k _ prefixed => ?_⟩
  · have here : k = 0 := by omega
    rw [here]
    exact first
  · by_contra longer
    exact ends ⟨prefixed.each 1 (by omega), prefixed.increasing 0 (by omega)⟩

theorem LongestPrefix.cons {most n : Nat} (first : good (frames 0)) (above : frames 0 < frames 1)
    (h : LongestPrefix good (fun k => frames (k + 1)) most n) : LongestPrefix good frames (most + 1) (n + 1) := by
  refine ⟨Nat.succ_le_succ h.atMost, h.isGood.cons first above, fun k small prefixed => ?_⟩
  cases k with
  | zero => omega
  | succ k =>
    have rest := h.longest k (by omega) prefixed.tail
    omega

/-! ### The checks of the source -/

theorem addressIsAligned_iff (address : Address t) : addressIsAligned address = true ↔ Aligned t address.toNat := by
  simp only [addressIsAligned, Aligned, beq_iff_eq, Int.natCast_dvd_natCast, Nat.dvd_iff_mod_eq_zero]

theorem rangeIsInStack_iff (address length stackBase stackLimit : Address t) :
    rangeIsInStack address length stackBase stackLimit = true ↔
      length.toNat ≠ 0 ∧ stackLimit.toNat ≤ address.toNat ∧ address.toNat + length.toNat ≤ stackBase.toNat := by
  have nonzero : length = 0 ↔ length.toNat = 0 := by
    rw [← BitVec.toNat_inj]
    simp
  simp only [rangeIsInStack, nonzero, BitVec.lt_def]
  by_cases short : stackBase.toNat < length.toNat
  · simp only [short, if_true]
    split_ifs <;> simp <;> omega
  · have apart : (stackBase - length).toNat = stackBase.toNat - length.toNat :=
      BitVec.toNat_sub_of_le (BitVec.le_def.mpr (by omega))
    simp only [short, if_false, apart]
    split_ifs <;> simp <;> omega

/-- The frame base wraps below the frame's lowest word, and a range that starts there ends above every
address of the stack. -/
theorem frame_in_stack_iff (frame stackBase stackLimit : Address t) :
    rangeIsInStack (frameLowestAddress frame) frameLength stackBase stackLimit = true ↔
      InBounds stackBase stackLimit frame := by
  have fits := t.fits
  have spans := t.spans
  have length : (frameLength : Address t).toNat = t.frameWordsToCheck * t.wordBytes := by
    rw [frameLength, BitVec.toNat_ofNat, Nat.mul_comm, Nat.mod_eq_of_lt fits]
  have lowest : (BitVec.ofNat (8 * t.wordBytes) t.frameLowest).toNat = t.frameLowest :=
    Nat.mod_eq_of_lt (by omega)
  have top := stackBase.isLt
  have below := frame.isLt
  rw [rangeIsInStack_iff, length, InBounds]
  by_cases wraps : frame.toNat < t.frameLowest
  · have wrapped : (frameLowestAddress frame).toNat = 2 ^ (8 * t.wordBytes) + frame.toNat - t.frameLowest := by
      rw [frameLowestAddress, BitVec.toNat_sub, lowest, Nat.mod_eq_of_lt (by omega)]
      omega
    rw [wrapped]
    omega
  · have apart : (frameLowestAddress frame).toNat = frame.toNat - t.frameLowest := by
      rw [frameLowestAddress, BitVec.toNat_sub_of_le (BitVec.le_def.mpr (by omega)), lowest]
    rw [apart]
    omega

theorem followed_iff (frame stackBase stackLimit : Address t) :
    Followed stackBase stackLimit frame ↔
      ¬ (frame = 0 ∨ ¬ addressIsAligned frame) ∧
        rangeIsInStack (frameLowestAddress frame) frameLength stackBase stackLimit = true := by
  rw [Followed, InStack, frame_in_stack_iff, ← addressIsAligned_iff]
  tauto

/-! ### The loop -/

/-- What the passes of the loop from `depth` on add, for `n` frames. -/
structure Walked (memory : Memory t) (frames : Nat → Address t) (depth : Nat) (before after : Machine t)
    (n : Nat) : Prop where
  count : after.context.backtraceCount = before.context.backtraceCount + n
  pointer : after.context.fp = before.context.fp
  recorded : ∀ k < n, after.context.backtrace (depth + k) = wordAt memory (frames k) t.returnAddressOffset
  kept : ∀ k, k < depth ∨ depth + n ≤ k → after.context.backtrace k = before.context.backtrace k
  reads : after.reads = before.reads ++ (List.range n).flatMap fun k =>
    [⟨frames k, t.nextFrameOffset⟩, ⟨frames k, t.returnAddressOffset⟩]

theorem Walked.stay (frames : Nat → Address t) (depth : Nat) (m : Machine t) : Walked memory frames depth m m 0 :=
  ⟨rfl, rfl, fun k below => by omega, fun _ _ => rfl, by simp⟩

def visit (frame : Address t) (depth : Nat) (m : Machine t) : Machine t :=
  (readFrameWord memory frame t.returnAddressOffset
    (readFrameWord memory frame t.nextFrameOffset m).2).2.record depth
      (wordAt memory frame t.returnAddressOffset)

theorem Walked.visit {memory : Memory t} {depth n : Nat} {m after : Machine t}
    (h : Walked memory (fun k => frames (k + 1)) (depth + 1) (visit memory (frames 0) depth m) after n) :
    Walked memory frames depth m after (n + 1) := by
  constructor
  · rw [h.count]
    simp only [Fault.visit, Machine.record, readFrameWord]
    omega
  · exact h.pointer
  · intro k below
    cases k with
    | zero =>
      rw [Nat.add_zero, h.kept depth (.inl (by omega))]
      simp [Fault.visit, Machine.record]
    | succ k =>
      have recorded := h.recorded k (by omega)
      rwa [show depth + (k + 1) = depth + 1 + k by omega]
  · intro k outside
    rw [h.kept k (by omega)]
    have other : k ≠ depth := by omega
    simp [Fault.visit, Machine.record, readFrameWord, other]
  · rw [h.reads, List.range_succ_eq_map]
    simp [Fault.visit, Machine.record, readFrameWord, List.flatMap_map]

theorem captureLoop_walks (stackBase stackLimit : Address t) (passes : Nat)
    (frame : Address t) (depth : Nat) (m : Machine t) :
    ∃ n, LongestPrefix (Followed stackBase stackLimit) (chain memory frame) passes n ∧
      Walked memory (chain memory frame) depth m
        (captureLoop memory stackBase stackLimit passes frame depth m) n := by
  induction passes generalizing frame depth m with
  | zero =>
    exact ⟨0, ⟨Nat.le_refl _, ⟨fun k below => by omega, fun k below => by omega⟩, fun k small _ => small⟩,
      Walked.stay ..⟩
  | succ passes ih =>
    rw [captureLoop]
    by_cases bad : frame = 0 ∨ ¬ addressIsAligned frame
    · rw [if_pos bad]
      exact ⟨0, .none (fun good => ((followed_iff ..).mp good).1 bad) _, Walked.stay ..⟩
    rw [if_neg bad]
    by_cases outside : ¬ rangeIsInStack (frameLowestAddress frame) frameLength stackBase stackLimit
    · rw [if_pos outside]
      exact ⟨0, .none (fun good => outside ((followed_iff ..).mp good).2) _, Walked.stay ..⟩
    rw [if_neg outside]
    have good : Followed stackBase stackLimit (chain memory frame 0) :=
      (followed_iff ..).mpr ⟨bad, not_not.mp outside⟩
    simp only
    by_cases last : wordAt memory frame t.nextFrameOffset = 0 ∨
        ¬ addressIsAligned (wordAt memory frame t.nextFrameOffset) ∨
        ¬ framePointsForward frame (wordAt memory frame t.nextFrameOffset)
    · refine ⟨1, .single good (fun next => ?_) _, ?_⟩
      · have followed := ((followed_iff ..).mp next.1).1
        have forward : framePointsForward frame (wordAt memory frame t.nextFrameOffset) = true :=
          decide_eq_true next.2
        rcases last with null | unaligned | back
        · exact followed (.inl null)
        · exact followed (.inr unaligned)
        · exact back forward
      · have stops := Walked.visit (m := m) (Walked.stay memory (fun k => chain memory frame (k + 1)) (depth + 1)
          (visit memory frame depth m))
        exact (if_pos last).symm ▸ stops
    · have forward : frame < wordAt memory frame t.nextFrameOffset := by
        simp only [framePointsForward, decide_eq_true_eq, not_or, not_not] at last
        exact last.2.2
      obtain ⟨n, longest, walked⟩ := ih (wordAt memory frame t.nextFrameOffset) (depth + 1)
        (visit memory frame depth m)
      refine ⟨n + 1, longest.cons good forward, ?_⟩
      exact (if_neg last).symm ▸ Walked.visit (m := m) walked

theorem read_inside {frame stackBase stackLimit : Address t} (good : Followed stackBase stackLimit frame)
    {index : Int} (within : 0 ≤ index * t.wordBytes + t.frameLowest ∧
      index * t.wordBytes + t.wordBytes + t.frameLowest ≤ (t.frameWordsToCheck * t.wordBytes : Nat)) :
    Aligned t (Read.address ⟨frame, index⟩) ∧ (stackLimit.toNat : Int) ≤ Read.address ⟨frame, index⟩ ∧
      Read.address ⟨frame, index⟩ + t.wordBytes ≤ stackBase.toNat := by
  obtain ⟨_, aligned, low, high⟩ := good
  refine ⟨Int.dvd_add aligned (Int.dvd_mul_left ..), ?_, ?_⟩
  · simp only [Read.address]
    omega
  · simp only [Read.address]
    omega

/-- The capture records the longest followed prefix of the chain, and reads nothing else. -/
theorem backtraceCapture_records (memory : Memory t) (context : Context t) (stackBase stackLimit : Address t)
    (bounds : stackLimit < stackBase) :
    (backtraceCapture memory context stackBase stackLimit).1 = .ok () ∧
      ∃ n, LongestPrefix (Followed stackBase stackLimit) (chain memory context.fp) t.maxBacktraceDepth n ∧
        Recorded memory stackBase stackLimit (chain memory context.fp) context
          (backtraceCapture memory context stackBase stackLimit).2 n := by
  have valid : ¬ ¬ stackBoundsAreValid stackBase stackLimit := by simpa [stackBoundsAreValid] using bounds
  simp only [backtraceCapture, if_neg valid]
  obtain ⟨n, longest, walked⟩ := captureLoop_walks memory stackBase stackLimit t.maxBacktraceDepth context.fp 0
    ⟨{ context with backtraceCount := 0 }, []⟩
  have reads := walked.reads
  rw [List.nil_append] at reads
  refine ⟨trivial, n, longest, ?_⟩
  constructor
  · exact walked.count.trans (Nat.zero_add n)
  · rfl
  · exact walked.pointer
  · intro k below
    have recorded := walked.recorded k below
    rwa [Nat.zero_add] at recorded
  · intro k above
    exact walked.kept k (.inr (by omega))
  · exact reads
  · exact longest.isGood.once
  · intro r member
    rw [reads, List.mem_flatMap] at member
    obtain ⟨k, below, here⟩ := member
    have good := longest.isGood.each k (List.mem_range.mp below)
    rcases List.mem_cons.mp here with next | here
    · rw [next]
      exact read_inside good t.next_inside
    · rw [List.mem_singleton.mp here]
      exact read_inside good t.return_inside

theorem backtraceCapture_records_arm :
    (4 : Address (arm defaultBacktraceDepth)) < 64 ∧
      (backtraceCapture (fun _ => 0) ⟨20, fun _ => 0, 0, false⟩ (64 : Address (arm defaultBacktraceDepth)) 4).1 =
        .ok () :=
  ⟨by decide, (backtraceCapture_records (t := arm defaultBacktraceDepth) (fun _ => 0) ⟨20, fun _ => 0, 0, false⟩
    64 4 (by decide)).1⟩

/-- A stack that starts at address zero: the frame there is aligned and in bounds, and is not recorded. -/
theorem backtraceCapture_misses_null :
    ¬ ∃ n, LongestPrefix (t := generic 8 12 (by decide)) (InStack 64 0) (chain (fun _ => 0) 0) 12 n ∧
      Recorded (fun _ => 0) 64 0 (chain (fun _ => 0) 0) ⟨0, fun _ => 0, 0, false⟩
        (backtraceCapture (t := generic 8 12 (by decide)) (fun _ => 0) ⟨0, fun _ => 0, 0, false⟩ 64 0).2 n := by
  rintro ⟨n, longest, recorded⟩
  have none : 0 = n := recorded.count
  have one : 1 ≤ n := by
    refine longest.longest 1 (by decide) ⟨fun k below => ?_, fun k below => by omega⟩
    have here : k = 0 := by omega
    rw [here]
    exact ⟨⟨0, rfl⟩, by decide, by decide⟩
  omega

end XSDK.Fault
