import Mathlib.Tactic.FieldSimp
import Mathlib.Tactic.Linarith
import Mathlib.Tactic.Positivity
import Mathlib.Tactic.Ring
import XSDK.Trace.DropStream

/-! The host's decoder: times in microseconds from the tick counts of the records. -/
namespace XSDK.Trace

open List (length_map map_cons map_map map_nil sum_cons sum_nil take_succ_cons)

structure TraceRecord where
  eventId : Nat
  /-- Microseconds, or ticks as long as no clock rate is known. -/
  timestamp : Nat
  params : List Nat
  name : Option String
  eventType : Option String
  track : Option String
  argLabels : Option (List String)
  isGap : Bool

structure DictionaryEntry where
  name : Option String
  eventType : Option String
  track : Option String
  argLabels : Option (List String)

abbrev Dictionary := Nat → Option DictionaryEntry

/-- A field of an entry, unless it is missing or empty. -/
def orText (found old : Option String) : Option String := if found = some "" then old else found.or old

def orLabels (found old : Option (List String)) :
    Option (List String) := if found = some [] then old else found.or old

def enrich (dictionary : Dictionary) (record : TraceRecord) : TraceRecord :=
  match dictionary record.eventId with
  | none => record
  | some entry =>
    { record with
      name := orText entry.name record.name
      eventType := orText entry.eventType record.eventType
      track := orText entry.track record.track
      argLabels := orLabels entry.argLabels record.argLabels }

def evObjectName : Nat := 0x3B

def objTypeName : Nat → String
  | 0 => "TASK"
  | 1 => "SEM"
  | 2 => "MUTEX"
  | 3 => "QUEUE"
  | 4 => "EVENT"
  | 5 => "TIMER"
  | n => "OBJ" ++ toString n

/-- Type, id and name of an object; zeros and no name where the parameters are malformed. -/
def decodeNameParams : List Nat → Nat × Nat × String
  | objType :: objId :: strLen :: bytes =>
    let nameParams := bytes.take strLen
    if nameParams.length ≠ strLen then (0, 0, "")
    else if nameParams.any fun p => p < 0x20 || p > 0x7E then (0, 0, "")
    else (objType, objId, String.ofList (nameParams.map Char.ofNat))
  | _ => (0, 0, "")

structure DecodeState where
  absTs : Nat
  hz : Nat

def toMicros (hz ticks : Nat) : Nat := if 0 < hz then ticks * 1000000 / hz else ticks

def decodeStep (dictionary : Option Dictionary) (s : DecodeState) (raw : RawRecord) :
    DecodeState × Option TraceRecord :=
  if raw.eventId = evBoot.toNat then
    let bootHz := raw.params.headD 0
    let hz := if 0 < bootHz then bootHz else s.hz
    let absTs := toMicros hz raw.deltaTs
    (⟨absTs, hz⟩, some ⟨evBoot.toNat, absTs, raw.params, some "BOOT", some "instant", some "xTRACE/Session", none, false⟩)
  else if raw.eventId = evTimeSync.toNat then
    (⟨raw.params.getD 0 0 ||| raw.params.getD 1 0 <<< 32, s.hz⟩, none)
  else
    let absTs := s.absTs + toMicros s.hz raw.deltaTs
    let record :=
      if raw.eventId = evGap.toNat then
        ⟨evGap.toNat, absTs, raw.params, some ("GAP (" ++ toString (raw.params.headD 0) ++ " dropped)"), some "error",
          some "xTRACE/Gap", none, true⟩
      else if raw.eventId = evObjectName then
        let (objType, objId, name) := decodeNameParams raw.params
        ⟨raw.eventId, absTs, raw.params,
          some ("OBJECT_NAME [" ++ objTypeName objType ++ ":" ++ toString objId ++ "] \"" ++ name ++ "\""),
          some "instant", some "xRTOS/Names", none, false⟩
      else
        let plain : TraceRecord := ⟨raw.eventId, absTs, raw.params, none, none, none, none, false⟩
        match dictionary with
        | none => plain
        | some dictionary => enrich dictionary plain
    (⟨absTs, s.hz⟩, some record)

def decodeFrom (dictionary : Option Dictionary) (s : DecodeState) : List RawRecord → List TraceRecord
  | [] => []
  | raw :: raws =>
    let (s, record) := decodeStep dictionary s raw
    record.toList ++ decodeFrom dictionary s raws

def decodeAll (raws : List RawRecord) (timestampHz : Nat) (dictionary : Option Dictionary) : List TraceRecord :=
  decodeFrom dictionary ⟨0, timestampHz⟩ raws

def RawRecord.Timed (raw : RawRecord) : Prop := raw.eventId ≠ evBoot.toNat ∧ raw.eventId ≠ evTimeSync.toNat

/-- What the conversions of these tick counts round off, in parts of a microsecond. -/
def leftover (hz : Nat) (ticks : List Nat) : Nat := (ticks.map (· * 1000000 % hz)).sum

variable {config : Config} {bootTs last : UInt32} {items : List Item} {attempts : List Attempt} {pending : Nat}

def Event.Own (e : Event) : Prop := e.eventId ≠ evBoot ∧ e.eventId ≠ evTimeSync

def Item.Own : Item → Prop
  | boot _ _ => False
  | gap _ _ => True
  | event _ e => e.Own

variable {dictionary : Option Dictionary} {s : DecodeState} {raw : RawRecord} {raws : List RawRecord} {hz k : Nat}
  {ticks : List Nat}

theorem enrich_timestamp (dictionary : Dictionary) (record : TraceRecord) :
    (enrich dictionary record).timestamp = record.timestamp := by
  rw [enrich]
  split <;> rfl

theorem decodeStep_timed (timed : raw.Timed) :
    ∃ record, decodeStep dictionary s raw = (⟨s.absTs + toMicros s.hz raw.deltaTs, s.hz⟩, some record) ∧
      record.timestamp = s.absTs + toMicros s.hz raw.deltaTs := by
  rw [decodeStep, if_neg timed.1, if_neg timed.2]
  refine ⟨_, rfl, ?_⟩
  split
  · rfl
  · split
    · rfl
    · split
      · rfl
      · exact enrich_timestamp _ _

theorem decodeFrom_times (timed : ∀ r ∈ raws, r.Timed) :
    (decodeFrom dictionary s raws).map (·.timestamp) =
      (List.range raws.length).map fun k => s.absTs + ((raws.take (k + 1)).map fun r => toMicros s.hz r.deltaTs).sum := by
  induction raws generalizing s with
  | nil => rfl
  | cons raw raws ih =>
    obtain ⟨record, step, time⟩ := @decodeStep_timed dictionary s raw (timed raw List.mem_cons_self)
    have later := @ih ⟨s.absTs + toMicros s.hz raw.deltaTs, s.hz⟩ fun r mem => timed r (List.mem_cons_of_mem _ mem)
    rw [decodeFrom, step, List.length_cons, List.range_succ_eq_map]
    simp only [Option.toList_some, List.singleton_append, map_cons, later, time, map_map]
    refine congrArg₂ List.cons ?_ (List.map_congr_left fun k _ => ?_)
    · simp only [Nat.zero_add, take_succ_cons, List.take_zero, map_cons, map_nil, sum_cons, sum_nil, Nat.add_zero]
    · simp only [Function.comp_apply, take_succ_cons, map_cons, sum_cons, Nat.add_assoc]

theorem decodeAll_times {t0 fallback : Nat} {more : List Nat} (positive : 0 < hz) (timed : ∀ r ∈ raws, r.Timed) :
    (decodeAll (⟨evBoot.toNat, t0, hz :: more⟩ :: raws) fallback dictionary).map (·.timestamp) =
      (List.range (raws.length + 1)).map fun k =>
        (((t0 :: raws.map (·.deltaTs)).take (k + 1)).map (toMicros hz)).sum := by
  have later := @decodeFrom_times dictionary ⟨toMicros hz t0, hz⟩ raws timed
  rw [decodeAll, decodeFrom, decodeStep, if_pos rfl]
  simp only [List.headD_cons, positive, if_true, Option.toList_some, List.singleton_append, map_cons, later]
  rw [List.range_succ_eq_map, map_cons, map_map]
  refine congrArg₂ List.cons ?_ (List.map_congr_left fun k _ => ?_)
  · simp only [Nat.zero_add, take_succ_cons, List.take_zero, map_cons, map_nil, sum_cons, sum_nil, Nat.add_zero]
  · simp only [Function.comp_apply, Nat.succ_eq_add_one, take_succ_cons, map_cons, sum_cons,
      ← List.map_take, map_map, Function.comp_def]

theorem micros_add_leftover (positive : 0 < hz) (ticks : List Nat) :
    hz * (ticks.map (toMicros hz)).sum + leftover hz ticks = ticks.sum * 1000000 := by
  induction ticks with
  | nil => simp only [leftover, map_nil, sum_nil, Nat.mul_zero, Nat.zero_mul, Nat.add_zero]
  | cons t ticks ih =>
    have split : hz * toMicros hz t + t * 1000000 % hz = t * 1000000 := by
      rw [toMicros, if_pos positive]
      exact Nat.div_add_mod _ _
    have rest : leftover hz (t :: ticks) = t * 1000000 % hz + leftover hz ticks := by
      rw [leftover, map_cons, sum_cons, leftover]
    rw [rest, map_cons, sum_cons, sum_cons, Nat.mul_add, Nat.add_mul, Nat.add_add_add_comm, split, ih]

theorem leftover_take_le (hz : Nat) (ticks : List Nat) (k : Nat) :
    leftover hz (ticks.take k) ≤ leftover hz ticks := by
  conv => rhs; rw [← List.take_append_drop k ticks]
  rw [leftover, leftover, List.map_append, List.sum_append]
  exact Nat.le_add_right _ _

theorem error_le_one_iff (positive : 0 < hz) (ticks : List Nat) :
    |((ticks.map (toMicros hz)).sum : ℚ) - (ticks.sum : ℚ) * 1000000 / hz| ≤ 1 ↔ leftover hz ticks ≤ hz := by
  have exact_sum : (hz : ℚ) * ((ticks.map (toMicros hz)).sum : ℕ) + (leftover hz ticks : ℕ) =
      (ticks.sum : ℕ) * 1000000 := by
    exact_mod_cast micros_add_leftover positive ticks
  have hz_pos : (0 : ℚ) < hz := by exact_mod_cast positive
  have error : (((ticks.map (toMicros hz)).sum : ℕ) : ℚ) - (ticks.sum : ℕ) * 1000000 / hz = -(leftover hz ticks / hz) := by
    rw [← exact_sum]
    field_simp
    ring
  rw [error, abs_neg, abs_of_nonneg (by positivity), div_le_one hz_pos]
  exact_mod_cast Iff.rfl

section Stream

variable {t0 fallback : Nat} {more : List Nat}

theorem length_decodeAll (positive : 0 < hz) (timed : ∀ r ∈ raws, r.Timed) :
    (decodeAll (⟨evBoot.toNat, t0, hz :: more⟩ :: raws) fallback dictionary).length = raws.length + 1 := by
  have lengths := congrArg List.length (@decodeAll_times dictionary raws hz t0 fallback more positive timed)
  rwa [length_map, length_map, List.length_range] at lengths

theorem timestamp_getElem {record : TraceRecord} (positive : 0 < hz) (timed : ∀ r ∈ raws, r.Timed)
    (here : (decodeAll (⟨evBoot.toNat, t0, hz :: more⟩ :: raws) fallback dictionary)[k]? = some record) :
    record.timestamp = (((t0 :: raws.map (·.deltaTs)).take (k + 1)).map (toMicros hz)).sum := by
  have lt := (List.getElem?_eq_some_iff.mp here).1
  have time := congrArg (fun l => l[k]?) (@decodeAll_times dictionary raws hz t0 fallback more positive timed)
  rw [length_decodeAll positive timed] at lt
  simp only [List.getElem?_map, here, Option.map_some, List.getElem?_range lt, Option.some.injEq] at time
  exact time

theorem timestamps_sorted (positive : 0 < hz) (timed : ∀ r ∈ raws, r.Timed) :
    ((decodeAll (⟨evBoot.toNat, t0, hz :: more⟩ :: raws) fallback dictionary).map (·.timestamp)).Pairwise (· ≤ ·) := by
  rw [decodeAll_times positive timed, List.pairwise_map]
  apply List.pairwise_lt_range.imp
  intro a b lt
  generalize t0 :: raws.map (·.deltaTs) = ticks
  have front : ticks.take (b + 1) = ticks.take (a + 1) ++ (ticks.take (b + 1)).drop (a + 1) := by
    conv => lhs; rw [← List.take_append_drop (a + 1) (ticks.take (b + 1)), List.take_take]
    rw [Nat.min_eq_left (by omega)]
  rw [front, List.map_append, List.sum_append]
  exact Nat.le_add_right _ _

theorem timestamps_close_iff (positive : 0 < hz) (timed : ∀ r ∈ raws, r.Timed) :
    (∀ k record, (decodeAll (⟨evBoot.toNat, t0, hz :: more⟩ :: raws) fallback dictionary)[k]? = some record →
      |(record.timestamp : ℚ) - (((t0 :: raws.map (·.deltaTs)).take (k + 1)).sum : ℚ) * 1000000 / hz| ≤ 1) ↔
      leftover hz (t0 :: raws.map (·.deltaTs)) ≤ hz := by
  constructor
  · intro close
    have length := @length_decodeAll dictionary raws hz t0 fallback more positive timed
    have last : raws.length < (decodeAll (⟨evBoot.toNat, t0, hz :: more⟩ :: raws) fallback dictionary).length := by omega
    have here := List.getElem?_eq_getElem last
    have bound := close raws.length _ here
    have whole : (t0 :: raws.map (·.deltaTs)).take (raws.length + 1) = t0 :: raws.map (·.deltaTs) :=
      List.take_of_length_le (by rw [List.length_cons, length_map])
    rwa [timestamp_getElem positive timed here, whole, error_le_one_iff positive] at bound
  · intro small k record here
    rw [timestamp_getElem positive timed here, error_le_one_iff positive]
    exact Nat.le_trans (leftover_take_le hz _ (k + 1)) small

end Stream

/-- A stream's times never go back; they stay within a microsecond of the exact times just as
long as the conversions have together rounded off no more than one. -/
theorem timestamps_drift_iff (t0 hz fallback : Nat) (more : List Nat) (raws : List RawRecord)
    (dictionary : Option Dictionary) (positive : 0 < hz) (timed : ∀ r ∈ raws, r.Timed) :
    let out := decodeAll (⟨evBoot.toNat, t0, hz :: more⟩ :: raws) fallback dictionary
    let ticks := t0 :: raws.map (·.deltaTs)
    out.length = raws.length + 1 ∧
    (out.map (·.timestamp)).Pairwise (· ≤ ·) ∧
    ((∀ k record, out[k]? = some record →
      |(record.timestamp : ℚ) - ((ticks.take (k + 1)).sum : ℚ) * 1000000 / hz| ≤ 1) ↔ leftover hz ticks ≤ hz) :=
  ⟨length_decodeAll positive timed, timestamps_sorted positive timed, timestamps_close_iff positive timed⟩

theorem timestamps_drift_thousand :
    let raws := [⟨0x20, 7, []⟩, ⟨0x20, 5, []⟩]
    let out := decodeAll (⟨evBoot.toNat, 3, [1000]⟩ :: raws) 0 none
    out.length = 3 ∧ (out.map (·.timestamp)).Pairwise (· ≤ ·) ∧
    ((∀ k record, out[k]? = some record →
      |(record.timestamp : ℚ) - (((3 :: raws.map (·.deltaTs)).take (k + 1)).sum : ℚ) * 1000000 / (1000 : ℕ)| ≤ 1) ↔
      leftover 1000 [3, 7, 5] ≤ 1000) :=
  timestamps_drift_iff 3 1000 0 [] [⟨0x20, 7, []⟩, ⟨0x20, 5, []⟩] none (by decide) (by
    intro r mem
    rcases List.mem_pair.mp mem with rfl | rfl
    · exact ⟨by decide, by decide⟩
    · exact ⟨by decide, by decide⟩)

/-- At three ticks a second, four ticks in four records lose more than a microsecond. -/
theorem timestamps_drift :
    ¬∀ (t0 hz fallback : Nat) (raws : List RawRecord) (dictionary : Option Dictionary), 0 < hz →
      (∀ r ∈ raws, r.Timed) → ∀ k record,
      (decodeAll (⟨evBoot.toNat, t0, [hz]⟩ :: raws) fallback dictionary)[k]? = some record →
      |(record.timestamp : ℚ) - (((t0 :: raws.map (·.deltaTs)).take (k + 1)).sum : ℚ) * 1000000 / hz| ≤ 1 := by
  intro close
  have timed : ∀ r ∈ List.replicate 4 (⟨0x20, 1, []⟩ : RawRecord), r.Timed := by
    intro r mem
    rw [List.eq_of_mem_replicate mem]
    exact ⟨by decide, by decide⟩
  have small := (@timestamps_close_iff none _ 3 0 3 [] (by decide) timed).mp fun k record => close 0 3 3 _ none (by decide) timed k record
  exact absurd small (by decide)

end XSDK.Trace
