import XSDK.Trace.Calls

/-! What a stream is to tell: BOOT, then the recorded events in the order of their calls,
with a GAP wherever calls before an event were dropped. -/
namespace XSDK.Trace

open Library

inductive Item where
  | boot (ts hz : UInt32)
  | gap (ts : UInt32) (count : Nat)
  | event (ts : UInt32) (e : Event)

namespace Item

def ts : Item → UInt32
  | boot ts _ => ts
  | gap ts _ => ts
  | event ts _ => ts

/-- The record of an item after a record with the given timestamp. -/
def record (last : UInt32) : Item → RawRecord
  | boot ts hz => bootRecord ts hz
  | gap ts count => gapRecord (ts - last) (UInt32.ofNat count)
  | event ts e => e.record (ts - last)

def lost : Item → Nat
  | gap _ count => count
  | _ => 0

def isEvent : Item → Bool
  | event _ _ => true
  | _ => false

end Item

def records (last : UInt32) : List Item → List RawRecord
  | [] => []
  | item :: items => item.record last :: records item.ts items

def lastTs (last : UInt32) (items : List Item) : UInt32 := items.foldl (fun _ item => item.ts) last

def gapTotal (items : List Item) : Nat := (items.map Item.lost).sum

def told (pending : Nat) (ts : UInt32) (e : Event) : List Item :=
  if pending = 0 then [.event ts e] else [.gap ts pending, .event ts e]

def story (pending : Nat) : List Attempt → List Item
  | [] => []
  | a :: attempts =>
    if a.isRecorded then told pending a.ts a.event ++ story 0 attempts else story (pending + 1) attempts

def pendingDrops (pending : Nat) : List Attempt → Nat
  | [] => pending
  | a :: attempts => pendingDrops (if a.isRecorded then 0 else pending + 1) attempts

def timestamps (t : Nat) : List RawRecord → List Nat
  | [] => []
  | r :: rs => word32 (t + r.deltaTs) :: timestamps (word32 (t + r.deltaTs)) rs

variable {last : UInt32} {items more : List Item} {pending : Nat} {attempts : List Attempt} {a : Attempt}

theorem records_append : records last (items ++ more) = records last items ++ records (lastTs last items) more := by
  induction items generalizing last with
  | nil => rfl
  | cons item items ih =>
    rw [List.cons_append, records, ih, records]
    rfl

theorem lastTs_append : lastTs last (items ++ more) = lastTs (lastTs last items) more := List.foldl_append

theorem gapTotal_append : gapTotal (items ++ more) = gapTotal items + gapTotal more := by
  simp [gapTotal]

theorem story_recorded (recorded : a.isRecorded = true) :
    story pending (attempts ++ [a]) =
      story pending attempts ++ told (pendingDrops pending attempts) a.ts a.event := by
  induction attempts generalizing pending with
  | nil => simp [story, pendingDrops, recorded]
  | cons b attempts ih =>
    rw [List.cons_append, story, story, pendingDrops]
    split
    · rw [ih, List.append_assoc]
    · exact ih

theorem story_dropped (dropped : a.isRecorded = false) :
    story pending (attempts ++ [a]) = story pending attempts := by
  induction attempts generalizing pending with
  | nil => simp [story, dropped]
  | cons b attempts ih =>
    rw [List.cons_append, story, story]
    split
    · rw [ih]
    · exact ih

theorem pendingDrops_snoc :
    pendingDrops pending (attempts ++ [a]) = if a.isRecorded then 0 else pendingDrops pending attempts + 1 := by
  induction attempts generalizing pending with
  | nil => rfl
  | cons b attempts ih => exact ih

theorem gapTotal_told (pending : Nat) (ts : UInt32) (e : Event) : gapTotal (told pending ts e) = pending := by
  rw [told]
  split
  · next none => exact none.symm
  · simp [gapTotal, Item.lost]

theorem attempts_counted (pending : Nat) (attempts : List Attempt) :
    pending + attempts.length =
      attempts.countP (·.isRecorded) + gapTotal (story pending attempts) + pendingDrops pending attempts := by
  induction attempts generalizing pending with
  | nil => simp [story, gapTotal, pendingDrops]
  | cons b attempts ih =>
    rw [story, pendingDrops, List.countP_cons, List.length_cons]
    cases recorded : b.isRecorded with
    | true =>
      have rest := ih 0
      simp only [if_true, gapTotal_append, gapTotal_told]
      omega
    | false =>
      have rest := ih (pending + 1)
      simp only [Bool.false_eq_true, if_false]
      omega

theorem timestamp_step (last ts : UInt32) : word32 (last.toNat + (ts - last).toNat) = ts.toNat := by
  have sum : last + (ts - last) = ts := by rw [UInt32.add_comm, UInt32.sub_add_cancel]
  rw [word32, ← UInt32.toNat_add, sum]

theorem timestamps_records (last : UInt32)
    (relative : ∀ item ∈ items, ∀ last, (item.record last).deltaTs = (item.ts - last).toNat) :
    timestamps last.toNat (records last items) = items.map (·.ts.toNat) := by
  induction items generalizing last with
  | nil => rfl
  | cons item items ih =>
    have head := relative item List.mem_cons_self last
    have rest := ih item.ts fun i mem => relative i (List.mem_cons_of_mem _ mem)
    rw [records, timestamps, head, timestamp_step, rest]
    rfl

theorem told_relative {ts : UInt32} {e : Event} :
    ∀ item ∈ told pending ts e, ∀ last, (item.record last).deltaTs = (item.ts - last).toNat := by
  intro item mem last
  rw [told] at mem
  split at mem
  · rw [List.mem_singleton] at mem
    subst mem
    rfl
  · rcases List.mem_pair.mp mem with rfl | rfl
    · rfl
    · rfl

theorem story_relative (pending : Nat) (attempts : List Attempt) :
    ∀ item ∈ story pending attempts, ∀ last, (item.record last).deltaTs = (item.ts - last).toNat := by
  induction attempts generalizing pending with
  | nil =>
    intro item mem
    cases mem
  | cons a attempts ih =>
    intro item mem
    rw [story] at mem
    split at mem
    · rcases List.mem_append.mp mem with first | later
      · exact told_relative item first
      · exact ih 0 item later
    · exact ih (pending + 1) item mem

end XSDK.Trace
