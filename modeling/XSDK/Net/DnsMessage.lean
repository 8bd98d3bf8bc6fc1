import XSDK.Net.Dns

/-! The sections of a DNS message as relations between the places where they start and end,
and the parsers that walk through them. -/
namespace XSDK.Net

open Library Prog

variable {bytes : List UInt8} {i j k left : Nat}

/- A message. -/

def shortAt (bytes : List UInt8) (k : Nat) : Nat := be16 (fun j => bytes.getD j 0) k

/-- A name of so many labels, up to what is behind its end or behind a pointer. -/
inductive NameAt (bytes : List UInt8) : Nat → Nat → Nat → Prop
  | root {i : Nat} (inside : i < bytes.length) (zero : bytes.getD i 0 = 0) : NameAt bytes 0 i (i + 1)
  | pointer {i : Nat} (inside : i + 2 ≤ bytes.length) (bits : bytes.getD i 0 &&& 0xC0 = 0xC0) : NameAt bytes 0 i (i + 2)
  | label {n i j : Nat} (inside : i < bytes.length) (some : bytes.getD i 0 ≠ 0) (bits : bytes.getD i 0 &&& 0xC0 ≠ 0xC0)
      (rest : NameAt bytes n (i + 1 + (bytes.getD i 0).toNat) j) : NameAt bytes (n + 1) i j

/-- A name of 128 labels at most. -/
def NameEnds (bytes : List UInt8) (i j : Nat) : Prop := ∃ n ≤ 128, NameAt bytes n i j

/-- So many questions. -/
inductive QuestionsAt (bytes : List UInt8) : Nat → Nat → Nat → Prop
  | done {i : Nat} : QuestionsAt bytes 0 i i
  | next {left i j k : Nat} (name : NameEnds bytes i k) (inside : k + 4 ≤ bytes.length)
      (rest : QuestionsAt bytes left (k + 4) j) : QuestionsAt bytes (left + 1) i j

/-- A resource record, with the place of its data. -/
structure Record where
  type : Nat
  cls : Nat
  start : Nat
  length : Nat

structure RecordAt (bytes : List UInt8) (i : Nat) (r : Record) : Prop where
  fields : ∃ k, NameEnds bytes i k ∧ r = ⟨shortAt bytes k, shortAt bytes (k + 2), k + 10, shortAt bytes (k + 8)⟩
  inside : r.start + r.length ≤ bytes.length

def Record.IsA (r : Record) : Prop := r.type = 1 ∧ r.cls = 1

def Record.HasAddress (r : Record) : Prop := r.type = 1 ∧ r.cls = 1 ∧ r.length = 4

/-- The first of so many records that is of a kind. -/
inductive FirstOf (kind : Record → Prop) (bytes : List UInt8) : Nat → Nat → Record → Prop
  | here {left i : Nat} {r : Record} (record : RecordAt bytes i r) (found : kind r) : FirstOf kind bytes (left + 1) i r
  | later {left i : Nat} {r first : Record} (record : RecordAt bytes i r) (other : ¬kind r)
      (rest : FirstOf kind bytes left (r.start + r.length) first) : FirstOf kind bytes (left + 1) i first

def questionsOf (bytes : List UInt8) : Nat := shortAt bytes 4
def answersOf (bytes : List UInt8) : Nat := shortAt bytes 6
def rcodeOf (bytes : List UInt8) : UInt8 := bytes.getD 3 0 &&& 0x0F

def Answered (kind : Record → Prop) (bytes : List UInt8) (r : Record) : Prop :=
  ∃ j, QuestionsAt bytes (questionsOf bytes) 12 j ∧ FirstOf kind bytes (answersOf bytes) j r

def addressOf (bytes : List UInt8) (r : Record) : Addr := addrAt (fun k => bytes.getD k 0) r.start

/-- The address in the first A record of the answer section. -/
def FirstAddress (bytes : List UInt8) (ipAddr : Addr) : Prop :=
  ∃ r, Answered Record.IsA bytes r ∧ r.length = 4 ∧ ipAddr = addressOf bytes r

theorem NameAt.inside {n : Nat} (name : NameAt bytes n i j) : i < bytes.length ∧ i < j ∧ j ≤ bytes.length := by
  induction name with
  | root inside zero => omega
  | pointer inside bits => omega
  | label inside some bits rest ih => omega

theorem NameAt.unique {n n' j' : Nat} (name : NameAt bytes n i j) (name' : NameAt bytes n' i j') : j = j' := by
  induction name generalizing n' with
  | root inside zero =>
    cases name' with
    | root _ _ => rfl
    | pointer _ bits =>
      rw [zero] at bits
      cases bits
    | label _ some _ _ => exact absurd zero some
  | pointer inside bits =>
    cases name' with
    | root _ zero =>
      rw [zero] at bits
      cases bits
    | pointer _ _ => rfl
    | label _ _ plain _ => exact absurd bits plain
  | label inside some bits rest ih =>
    cases name' with
    | root _ zero => exact absurd zero some
    | pointer _ pointer => exact absurd pointer bits
    | label _ _ _ rest' => exact ih rest'

theorem NameEnds.unique {j' : Nat} (name : NameEnds bytes i j) (name' : NameEnds bytes i j') : j = j' := by
  obtain ⟨_, _, name⟩ := name
  obtain ⟨_, _, name'⟩ := name'
  exact name.unique name'

theorem QuestionsAt.unique {j' : Nat} (questions : QuestionsAt bytes left i j)
    (questions' : QuestionsAt bytes left i j') :
    j = j' := by
  induction questions with
  | done =>
    cases questions'
    rfl
  | next name inside rest ih =>
    cases questions' with
    | next name' _ rest' =>
      cases name.unique name'
      exact ih rest'

theorem RecordAt.unique {r r' : Record} (record : RecordAt bytes i r) (record' : RecordAt bytes i r') : r = r' := by
  obtain ⟨k, name, rfl⟩ := record.fields
  obtain ⟨k', name', rfl⟩ := record'.fields
  rw [name.unique name']

theorem FirstOf.record {kind : Record → Prop} {r : Record} (first : FirstOf kind bytes left i r) :
    ∃ r', RecordAt bytes i r' := by
  cases first with
  | here record _ => exact ⟨_, record⟩
  | later record _ _ => exact ⟨_, record⟩

theorem FirstOf.unique {kind : Record → Prop} {r r' : Record} (first : FirstOf kind bytes left i r)
    (first' : FirstOf kind bytes left i r') : r = r' := by
  induction first with
  | here record found =>
    cases first' with
    | here record' _ => exact record.unique record'
    | later record' other _ =>
      cases record.unique record'
      exact absurd found other
  | later record other rest ih =>
    cases first' with
    | here record' found =>
      cases record.unique record'
      exact absurd found other
    | later record' _ rest' =>
      cases record.unique record'
      exact ih rest'

theorem FirstOf.kind {kind : Record → Prop} {r : Record} (first : FirstOf kind bytes left i r) : kind r := by
  induction first with
  | here record found => exact found
  | later record other rest ih => exact ih

theorem FirstOf.hasAddress {r : Record} (first : FirstOf Record.IsA bytes left i r) (size : r.length = 4) :
    FirstOf Record.HasAddress bytes left i r := by
  induction first with
  | here record found => exact .here record ⟨found.1, found.2, size⟩
  | later record other rest ih => exact .later record (fun found => other ⟨found.1, found.2.1⟩) (ih size)

theorem Answered.unique {kind : Record → Prop} {r r' : Record} (answered : Answered kind bytes r)
    (answered' : Answered kind bytes r') : r = r' := by
  obtain ⟨j, questions, first⟩ := answered
  obtain ⟨j', questions', first'⟩ := answered'
  cases questions.unique questions'
  exact first.unique first'

/- The parsers. -/

def Reads {α : Type} (m : HostM α) (a : α) : Prop := ∀ h, ∃ t, m h = some (.ok a, { h with touched := t })

theorem Reads.pure {α : Type} (a : α) : Reads (pure a) a := fun h => ⟨h.touched, rfl⟩

theorem Reads.bind {α β : Type} {m : HostM α} {f : α → HostM β} {a : α} {b : β}
    (first : Reads m a) (rest : Reads (f a) b) :
    Reads (m >>= f) b := by
  intro h
  obtain ⟨t, run⟩ := first h
  obtain ⟨t', run'⟩ := rest { h with touched := t }
  exact ⟨t', (bind_ok _ run).trans run'⟩

theorem peek_reads (bytes : List UInt8) (k : Nat) : Reads (peek bytes k) (bytes.getD k 0) := fun _ => ⟨_, rfl⟩
theorem peek16_reads (bytes : List UInt8) (k : Nat) : Reads (peek16 bytes k) (shortAt bytes k) := fun _ => ⟨_, rfl⟩
theorem peekAddr_reads (bytes : List UInt8) (k : Nat) :
    Reads (peekAddr bytes k) (addrAt (fun j => bytes.getD j 0) k) := fun _ => ⟨_, rfl⟩

theorem offset_reads {value : Nat} (small : value < 4294967296) : Reads (offset value) value := by
  intro h
  refine ⟨.sum value :: h.touched, ?_⟩
  have same : u32 value = value := Nat.mod_eq_of_lt small
  change some (Except.ok (u32 value), _) = _
  rw [same]

theorem shortAt_lt (bytes : List UInt8) (k : Nat) : shortAt bytes k < 65536 := by
  rw [shortAt, be16]
  have high := (bytes.getD k 0).toNat_lt
  have low := (bytes.getD (k + 1) 0).toNat_lt
  omega

section Small

/- A payload's length comes with the datagram's, in 16 bits. -/
variable (small : bytes.length < 65536)
include small

theorem dnsSkipName_reads :
    (∃ n j, n < left ∧ NameAt bytes n i j ∧ Reads (dnsSkipName bytes left i) j) ∨
      (∀ n j, n < left → ¬NameAt bytes n i j) ∧ Reads (dnsSkipName bytes left i) 0 := by
  induction left generalizing i with
  | zero => exact .inr ⟨fun n _ less => absurd less (Nat.not_lt_zero n), .pure 0⟩
  | succ left ih =>
    rw [dnsSkipName]
    by_cases outside : bytes.length ≤ i
    · rw [if_pos outside]
      refine .inr ⟨fun n j _ name => ?_, .pure 0⟩
      have inside := name.inside
      omega
    · rw [if_neg outside]
      have inside : i < bytes.length := Nat.lt_of_not_le outside
      have byte := (bytes.getD i 0).toNat_lt
      by_cases zero : bytes.getD i 0 = 0
      · refine .inl ⟨0, i + 1, Nat.succ_pos left, .root inside zero, (peek_reads bytes i).bind ?_⟩
        rw [if_pos zero]
        exact offset_reads (by omega)
      · by_cases bits : bytes.getD i 0 &&& 0xC0 = 0xC0
        · by_cases fits : i + 2 ≤ bytes.length
          · refine .inl ⟨0, i + 2, Nat.succ_pos left, .pointer fits bits, (peek_reads bytes i).bind ?_⟩
            rw [if_neg zero, if_pos bits]
            refine (offset_reads (by omega)).bind ?_
            rw [if_neg (by omega)]
            exact .pure _
          · refine .inr ⟨fun n j _ name => ?_, (peek_reads bytes i).bind ?_⟩
            · cases name with
              | root _ is_zero => exact zero is_zero
              | pointer fits' _ => exact fits fits'
              | label _ _ plain _ => exact plain bits
            · rw [if_neg zero, if_pos bits]
              refine (offset_reads (by omega)).bind ?_
              rw [if_pos (by omega)]
              exact .pure _
        · by_cases past : bytes.length < i + 1 + (bytes.getD i 0).toNat
          · refine .inr ⟨fun n j _ name => ?_, (peek_reads bytes i).bind ?_⟩
            · cases name with
              | root _ is_zero => exact zero is_zero
              | pointer _ pointer => exact bits pointer
              | label _ _ _ rest =>
                have inside := rest.inside
                omega
            · rw [if_neg zero, if_neg bits]
              refine (offset_reads (by omega)).bind ?_
              rw [if_pos past]
              exact .pure _
          · have step : ∀ j, Reads (dnsSkipName bytes left (i + 1 + (bytes.getD i 0).toNat)) j →
                Reads (do
                  let len ← peek bytes i
                  if len = 0 then offset (i + 1)
                  else if len &&& 0xC0 = 0xC0 then
                    let past ← offset (i + 2)
                    if bytes.length < past then return 0 else return past
                  else
                    let next ← offset (i + 1 + len.toNat)
                    if bytes.length < next then return 0 else dnsSkipName bytes left next) j := by
              intro j rest
              refine (peek_reads bytes i).bind ?_
              rw [if_neg zero, if_neg bits]
              refine (offset_reads (by omega)).bind ?_
              rw [if_neg past]
              exact rest
            rcases @ih (i + 1 + (bytes.getD i 0).toNat) with ⟨n, j, less, name, rest⟩ | ⟨none, rest⟩
            · exact .inl ⟨n + 1, j, Nat.succ_lt_succ less, .label inside zero bits name, step j rest⟩
            · refine .inr ⟨fun n j less name => ?_, step 0 rest⟩
              cases name with
              | root _ is_zero => exact zero is_zero
              | pointer _ pointer => exact bits pointer
              | label _ _ _ rest => exact none _ j (Nat.lt_of_succ_lt_succ less) rest

theorem dnsSkipName_ends :
    (∃ j, NameEnds bytes i j ∧ Reads (dnsSkipName bytes dnsLabels i) j ∧ 0 < j ∧ j ≤ bytes.length) ∨
      (∀ j, ¬NameEnds bytes i j) ∧ Reads (dnsSkipName bytes dnsLabels i) 0 := by
  rcases @dnsSkipName_reads bytes i dnsLabels small with ⟨n, j, less, name, run⟩ | ⟨none, run⟩
  · have inside := name.inside
    exact .inl ⟨j, ⟨n, Nat.le_of_lt_succ less, name⟩, run, by omega, inside.2.2⟩
  · exact .inr ⟨fun j ⟨n, most, name⟩ => none n j (Nat.lt_succ_of_le most) name, run⟩

theorem dnsParseQuestions_reads (low : 0 < i) :
    (∃ j, QuestionsAt bytes left i j ∧ Reads (dnsParseQuestions bytes left i) j ∧ 0 < j) ∨
      (∀ j, ¬QuestionsAt bytes left i j) ∧ Reads (dnsParseQuestions bytes left i) 0 := by
  induction left generalizing i with
  | zero => exact .inl ⟨i, .done, .pure i, low⟩
  | succ left ih =>
    rw [dnsParseQuestions]
    rcases @dnsSkipName_ends bytes i small with ⟨k, name, run, pos, inside⟩ | ⟨none, run⟩
    · by_cases fits : k + 4 ≤ bytes.length
      · have step : ∀ j, Reads (dnsParseQuestions bytes left (k + 4)) j → Reads (do
            let curr ← dnsSkipName bytes dnsLabels i
            if curr = 0 then return 0
            else
              let past ← offset (curr + 4)
              if bytes.length < past then return 0 else dnsParseQuestions bytes left past) j := by
          intro j rest
          refine run.bind ?_
          rw [if_neg (Nat.ne_of_gt pos)]
          refine (offset_reads (by omega)).bind ?_
          rw [if_neg (by omega)]
          exact rest
        rcases @ih (k + 4) (by omega) with ⟨j, rest, more, last⟩ | ⟨none, more⟩
        · exact .inl ⟨j, .next name fits rest, step j more, last⟩
        · refine .inr ⟨fun j questions => ?_, step 0 more⟩
          cases questions with
          | next name' _ rest =>
            cases name.unique name'
            exact none j rest
      · refine .inr ⟨fun j questions => ?_, run.bind ?_⟩
        · cases questions with
          | next name' fits' _ =>
            cases name.unique name'
            exact fits fits'
        · rw [if_neg (Nat.ne_of_gt pos)]
          refine (offset_reads (by omega)).bind ?_
          rw [if_pos (by omega)]
          exact .pure _
    · refine .inr ⟨fun j questions => ?_, run.bind ?_⟩
      · cases questions with
        | next name _ _ => exact none _ name
      · rw [if_pos rfl]
        exact .pure _

theorem dnsParseAnswers_reads :
    (∃ r, FirstOf Record.HasAddress bytes left i r ∧
        Reads (dnsParseAnswers bytes left i) (some (addressOf bytes r))) ∨
      (∀ r, ¬FirstOf Record.HasAddress bytes left i r) ∧ Reads (dnsParseAnswers bytes left i) none := by
  induction left generalizing i with
  | zero =>
    refine .inr ⟨fun r first => ?_, .pure none⟩
    cases first
  | succ left ih =>
    rcases @dnsSkipName_ends bytes i small with ⟨k, name, run, pos, inside⟩ | ⟨none, run⟩
    · have only : ∀ {r}, RecordAt bytes i r →
          r = ⟨shortAt bytes k, shortAt bytes (k + 2), k + 10, shortAt bytes (k + 8)⟩ := by
        intro r record
        obtain ⟨k', name', rfl⟩ := record.fields
        rw [name.unique name']
      by_cases fits : k + 10 ≤ bytes.length
      · have size := shortAt_lt bytes (k + 8)
        have header : ∀ {v}, Reads (if bytes.length < k + 10 + shortAt bytes (k + 8) then pure none
            else if shortAt bytes k = 1 ∧ shortAt bytes (k + 2) = 1 ∧ shortAt bytes (k + 8) = 4 then do
              let resolvedIp ← peekAddr bytes (k + 10)
              return some resolvedIp
            else dnsParseAnswers bytes left (k + 10 + shortAt bytes (k + 8))) v →
            Reads (dnsParseAnswers bytes (left + 1) i) v := by
          intro v rest
          rw [dnsParseAnswers]
          refine run.bind ?_
          rw [if_neg (Nat.ne_of_gt pos)]
          refine (offset_reads (by omega)).bind ?_
          rw [if_neg (by omega)]
          refine (peek16_reads bytes k).bind ((peek16_reads bytes (k + 2)).bind ((peek16_reads bytes (k + 8)).bind ?_))
          exact (offset_reads (by omega)).bind rest
        by_cases whole : k + 10 + shortAt bytes (k + 8) ≤ bytes.length
        · have record : RecordAt bytes i ⟨shortAt bytes k, shortAt bytes (k + 2), k + 10, shortAt bytes (k + 8)⟩ :=
            ⟨⟨k, name, rfl⟩, whole⟩
          rw [if_neg (Nat.not_lt.mpr whole)] at header
          by_cases found : shortAt bytes k = 1 ∧ shortAt bytes (k + 2) = 1 ∧ shortAt bytes (k + 8) = 4
          · rw [if_pos found] at header
            exact .inl ⟨_, .here record found, header ((peekAddr_reads bytes (k + 10)).bind (.pure _))⟩
          · rw [if_neg found] at header
            rcases @ih (k + 10 + shortAt bytes (k + 8)) with ⟨first, rest, more⟩ | ⟨none, more⟩
            · exact .inl ⟨first, .later record found rest, header more⟩
            · refine .inr ⟨fun r first => ?_, header more⟩
              cases first with
              | here record' found' =>
                cases only record'
                exact found found'
              | later record' _ rest =>
                cases only record'
                exact none r rest
        · rw [if_pos (Nat.lt_of_not_le whole)] at header
          refine .inr ⟨fun r first => ?_, header (.pure _)⟩
          obtain ⟨r, record⟩ := first.record
          cases only record
          exact whole record.inside
      · refine .inr ⟨fun r first => ?_, ?_⟩
        · obtain ⟨r, record⟩ := first.record
          cases only record
          exact fits (Nat.le_trans (Nat.le_add_right _ _) record.inside)
        · rw [dnsParseAnswers]
          refine run.bind ?_
          rw [if_neg (Nat.ne_of_gt pos)]
          refine (offset_reads (by omega)).bind ?_
          rw [if_pos (by omega)]
          exact .pure _
    · refine .inr ⟨fun r first => ?_, ?_⟩
      · obtain ⟨r, record⟩ := first.record
        obtain ⟨k, name, -⟩ := record.fields
        exact none k name
      · rw [dnsParseAnswers]
        refine run.bind ?_
        rw [if_pos rfl]
        exact .pure _

end Small

end XSDK.Net
