import XSDK.Library.Runs
import XSDK.Usbip.Urb

/-! The URB table under a server that follows its protocol: what is in it, over whole runs. -/
namespace XSDK.Usbip

open Library
open Function (update update_self update_of_ne)
open List (mem_append mem_singleton)

variable {n : Nat} {table : UrbTable n}

/-! ### The calls on a table -/

theorem firstSlot_eq_none {p : Fin n → Bool} : firstSlot p = none ↔ ∀ i, p i = false := by
  simp [firstSlot]

variable {i : Fin n} {now : UInt32}

theorem firstSlot_some {p : Fin n → Bool} (found : firstSlot p = some i) :
    p i = true := List.find?_some found

def UrbTable.Pending (table : UrbTable n) (i : Fin n) : Prop := (table i).state ≠ .free

instance (i : Fin n) : Decidable (table.Pending i) := inferInstanceAs (Decidable (_ ≠ _))

def UrbTable.Distinct (table : UrbTable n) : Prop :=
  ∀ i j, table.Pending i → table.Pending j → (table i).seqnum = (table j).seqnum → i = j

theorem urbSubmit_fails_iff {submit : CmdSubmit} :
    (∃ code, (urbSubmit table submit now).1 = .error code) ↔ ∀ i, table.Pending i := by
  rw [urbSubmit]
  split
  · next i found =>
    have isFree := of_decide_eq_true (firstSlot_some found)
    constructor
    · rintro ⟨code, fails⟩
      cases fails
    · intro all
      exact absurd isFree (all i)
  · next none =>
    constructor
    · intro _ i
      exact of_decide_eq_false (firstSlot_eq_none.mp none i)
    · intro _
      exact ⟨_, rfl⟩

theorem urbFindBySeqnum_ok_iff (distinct : table.Distinct) {seqnum : UInt32} :
    urbFindBySeqnum table seqnum = .ok i ↔ table.Pending i ∧ (table i).seqnum = seqnum := by
  rw [urbFindBySeqnum]
  split
  · next j found =>
    obtain ⟨pending, number⟩ := of_decide_eq_true (firstSlot_some found)
    constructor
    · intro same
      cases same
      exact ⟨pending, number⟩
    · rintro ⟨pending', number'⟩
      rw [distinct j i pending pending' (number.trans number'.symm)]
  · next none =>
    have absent := of_decide_eq_false (firstSlot_eq_none.mp none i)
    exact ⟨fun same => (nomatch same), fun found => absurd found absent⟩

theorem urbRequestUnlink_eq (distinct : table.Distinct) {seqnum : UInt32} (submitted : (table i).state = .submitted)
    (number : (table i).seqnum = seqnum) :
    urbRequestUnlink table seqnum = (.ok (), update table i { table i with state := .pendingUnlink }) := by
  have waits : ∀ {j : Fin n}, (table j).state = .submitted → table.Pending j := by
    intro j is free
    rw [is] at free
    cases free
  rw [urbRequestUnlink]
  split
  · next j found =>
    obtain ⟨submitted', number'⟩ := of_decide_eq_true (firstSlot_some found)
    rw [distinct j i (waits submitted') (waits submitted) (number'.trans number.symm)]
  · next none => exact absurd ⟨submitted, number⟩ (of_decide_eq_false (firstSlot_eq_none.mp none i))

theorem urbRequestUnlink_missing {seqnum : UInt32}
    (absent : ∀ i, (table i).state = .submitted → (table i).seqnum ≠ seqnum) :
    urbRequestUnlink table seqnum = (.error .urbNotFound, table) := by
  rw [urbRequestUnlink]
  split
  · next j found =>
    obtain ⟨submitted, number⟩ := of_decide_eq_true (firstSlot_some found)
    exact absurd number (absent j submitted)
  · rfl

/-- A pending URB whose timeout, when it has one, has passed. -/
def UrbTable.Expired (table : UrbTable n) (nowMs : UInt32) (i : Fin n) : Prop :=
  table.Pending i ∧ (table i).timeoutMs ≠ 0 ∧ (table i).timeoutMs ≤ (table i).age nowMs

def OldestOf (table : UrbTable n) (nowMs : UInt32) (seen : List (Fin n)) : Option (Fin n × UInt32) → Prop
  | none => ∀ i ∈ seen, ¬table.Expired nowMs i
  | some (slot, age) => table.Expired nowMs slot ∧ age = (table slot).age nowMs ∧
      ∀ i ∈ seen, table.Expired nowMs i → (table i).age nowMs ≤ age

theorem OldestOf.skip {seen : List (Fin n)} {found : Option (Fin n × UInt32)}
    (oldest : OldestOf table now seen found) (fresh : ¬table.Expired now i) :
    OldestOf table now (seen ++ [i]) found := by
  rcases found with _ | ⟨slot, age⟩
  · intro j mem
    rcases mem_append.mp mem with mem | mem
    · exact oldest j mem
    · rw [mem_singleton.mp mem]
      exact fresh
  · obtain ⟨expired, is, most⟩ := oldest
    refine ⟨expired, is, fun j mem expired' => ?_⟩
    rcases mem_append.mp mem with mem | mem
    · exact most j mem expired'
    · rw [mem_singleton.mp mem] at expired'
      exact absurd expired' fresh

theorem OldestOf.round {seen : List (Fin n)} {found : Option (Fin n × UInt32)}
    (oldest : OldestOf table now seen found) : OldestOf table now (seen ++ [i]) (expiredRound table now found i) := by
  unfold expiredRound
  split
  · next free => exact oldest.skip fun expired => expired.1 free
  · next pending =>
    split
    · next none => exact oldest.skip fun expired => expired.2.1 none
    · next some =>
      split
      · next passed =>
        have expired : table.Expired now i := ⟨pending, some, passed⟩
        rcases found with _ | ⟨slot, age⟩
        · refine ⟨expired, rfl, fun j mem expired' => ?_⟩
          rcases mem_append.mp mem with mem | mem
          · exact absurd expired' (oldest j mem)
          · rw [mem_singleton.mp mem]
            exact UInt32.le_refl _
        · obtain ⟨expired', is, most⟩ := oldest
          dsimp only
          split
          · next older =>
            refine ⟨expired, rfl, fun j mem expired' => ?_⟩
            rcases mem_append.mp mem with mem | mem
            · exact UInt32.le_of_lt (UInt32.lt_of_le_of_lt (most j mem expired') older)
            · rw [mem_singleton.mp mem]
              exact UInt32.le_refl _
          · next younger =>
            refine ⟨expired', is, fun j mem expired' => ?_⟩
            rcases mem_append.mp mem with mem | mem
            · exact most j mem expired'
            · rw [mem_singleton.mp mem]
              exact UInt32.not_lt.mp younger
      · next early => exact oldest.skip fun expired => early expired.2.2

theorem expiredRounds (table : UrbTable n) (now : UInt32) (more seen : List (Fin n)) (found : Option (Fin n × UInt32))
    (oldest : OldestOf table now seen found) :
    OldestOf table now (seen ++ more) (more.foldl (expiredRound table now) found) := by
  induction more generalizing seen found with
  | nil => rwa [List.append_nil]
  | cons i more ih =>
    have next := ih _ _ (oldest.round (i := i))
    rwa [List.append_assoc] at next

theorem urbFindExpired_oldest (table : UrbTable n) (now : UInt32) :
    OldestOf table now (List.finRange n) ((List.finRange n).foldl (expiredRound table now) none) :=
  expiredRounds table now (List.finRange n) [] none fun _ mem => absurd mem List.not_mem_nil

theorem urbFindExpired_ok (found : urbFindExpired table now = .ok i) :
    table.Expired now i ∧ ∀ j, table.Expired now j → (table j).age now ≤ (table i).age now := by
  have oldest := urbFindExpired_oldest table now
  rw [urbFindExpired] at found
  split at found
  · next slot age run =>
    cases found
    rw [run] at oldest
    obtain ⟨expired, is, most⟩ := oldest
    subst is
    exact ⟨expired, fun j => most j (List.mem_finRange j)⟩
  · cases found

theorem urbFindExpired_ok_iff : (∃ i, urbFindExpired table now = .ok i) ↔ ∃ i, table.Expired now i := by
  constructor
  · rintro ⟨i, found⟩
    exact ⟨i, (urbFindExpired_ok found).1⟩
  · rintro ⟨i, expired⟩
    have oldest := urbFindExpired_oldest table now
    rw [urbFindExpired]
    split
    · exact ⟨_, rfl⟩
    · next run =>
      rw [run] at oldest
      exact absurd expired (oldest i (List.mem_finRange i))

/-! ### The server -/

/-- What the server knows of a URB that it submitted and has not freed. -/
structure Ticket where
  submit : CmdSubmit
  submitTimeMs : UInt32
  slot : Nat
  completed : Bool

structure Server (n : Nat) where
  table : UrbTable n
  issued : Nat
  tickets : Nat → Option Ticket

def Server.start : Server n := ⟨urbTableInit, 0, fun _ => none⟩

/-- A URB is freed after its RET message was sent. -/
inductive ServerEvent
  | submit (submit : CmdSubmit) (nowMs : UInt32)
  | unlink (seqnum : UInt32)
  | complete (urb : Nat)
  | free (urb : Nat)

def Server.step (s : Server n) : ServerEvent → Server n
  | .submit submit nowMs =>
    match urbSubmit s.table submit nowMs with
    | (.ok slot, table) => { table, issued := s.issued + 1, tickets := update s.tickets s.issued (some ⟨submit, nowMs, slot, false⟩) }
    | (.error _, table) => { s with table }
  | .unlink seqnum => { s with table := (urbRequestUnlink s.table seqnum).2 }
  | .complete urb =>
    match s.tickets urb with
    | some ticket => { s with
        table := (urbComplete s.table ticket.slot).2
        tickets := update s.tickets urb (some { ticket with completed := true }) }
    | none => s
  | .free urb =>
    match s.tickets urb with
    | some ticket => { s with
        table := (urbFree s.table ticket.slot).2
        tickets := update s.tickets urb none }
    | none => s

def Server.allowed (s : Server n) : ServerEvent → Bool
  | .submit _ _ => true
  | .unlink _ => true
  | .complete urb => (s.tickets urb).any fun ticket => !ticket.completed
  | .free urb => (s.tickets urb).isSome

def serverMachine (n : Nat) : Machine (Server n) ServerEvent Unit where
  allowed s i := s.allowed i = true
  step s i := (s.step i, ())

/-- A submitted URB that was neither completed nor freed. -/
def Server.Waits (s : Server n) (urb : Nat) (ticket : Ticket) :
    Prop := s.tickets urb = some ticket ∧ ticket.completed = false

def UrbTable.Holds (table : UrbTable n) (i : Fin n) (ticket : Ticket) : Prop :=
  table.Pending i ∧ ∃ state, table i = { ticket.submit.entry ticket.submitTimeMs with state }

/-- No URB is lost and none is confused with another, and each call finds what it is asked for. -/
structure Served (s : Server n) : Prop where
  kept : ∀ urb ticket, s.Waits urb ticket → ∃ h : ticket.slot < n, s.table.Holds ⟨ticket.slot, h⟩ ticket
  owned : ∀ i, s.table.Pending i → ∃ urb ticket, s.Waits urb ticket ∧ ticket.slot = i
  distinct : s.table.Distinct
  find : ∀ seqnum i, urbFindBySeqnum s.table seqnum = .ok i ↔ s.table.Pending i ∧ (s.table i).seqnum = seqnum
  unlink : ∀ seqnum i, (s.table i).state = .submitted → (s.table i).seqnum = seqnum →
    urbRequestUnlink s.table seqnum = (.ok (), update s.table i { s.table i with state := .pendingUnlink })
  noUnlink : ∀ seqnum, (∀ i, (s.table i).state = .submitted → (s.table i).seqnum ≠ seqnum) →
    urbRequestUnlink s.table seqnum = (.error .urbNotFound, s.table)
  submit : ∀ submit now, (∃ code, (urbSubmit s.table submit now).1 = .error code) ↔ ∀ i, s.table.Pending i
  oldest : ∀ now i, urbFindExpired s.table now = .ok i →
    s.table.Expired now i ∧ ∀ j, s.table.Expired now j → (s.table j).age now ≤ (s.table i).age now
  expired : ∀ now, (∃ i, urbFindExpired s.table now = .ok i) ↔ ∃ i, s.table.Expired now i

/-- No number is submitted again while it is pending, and no completed URB is freed after its slot
was taken. -/
def Orderly (s : Server n) : ServerEvent → Prop
  | .submit submit _ => (∃ i, ¬s.table.Pending i) → ∀ i, s.table.Pending i → (s.table i).seqnum ≠ submit.seqnum
  | .free urb => ∀ ticket ∈ s.tickets urb, ticket.completed = true → ∀ i : Fin n, i = ticket.slot → ¬s.table.Pending i
  | _ => True

instance (s : Server n) : ∀ i, Decidable (Orderly s i)
  | .submit submit _ =>
    inferInstanceAs (Decidable ((∃ i, ¬s.table.Pending i) → ∀ i, s.table.Pending i → (s.table i).seqnum ≠ submit.seqnum))
  | .free urb =>
    inferInstanceAs (Decidable (∀ ticket ∈ s.tickets urb, ticket.completed = true → ∀ i : Fin n, i = ticket.slot → ¬s.table.Pending i))
  | .unlink _ => isTrue trivial
  | .complete _ => isTrue trivial

structure Matched (s : Server n) : Prop where
  inside : ∀ urb ticket, s.tickets urb = some ticket → ticket.slot < n
  kept : ∀ urb ticket, s.Waits urb ticket → ∃ h : ticket.slot < n, s.table.Holds ⟨ticket.slot, h⟩ ticket
  owned : ∀ i, s.table.Pending i → ∃ urb ticket, s.Waits urb ticket ∧ ticket.slot = i
  apart : ∀ urb urb' ticket ticket', s.Waits urb ticket → s.Waits urb' ticket' → ticket.slot = ticket'.slot → urb = urb'
  fresh : ∀ urb, s.issued ≤ urb → s.tickets urb = none
  distinct : s.table.Distinct

namespace Matched

variable {s : Server n}

theorem start : Matched (Server.start : Server n) where
  inside _ _ same := nomatch same
  kept _ _ waits := nomatch waits.1
  owned _ pending := absurd rfl pending
  apart _ _ _ _ waits := nomatch waits.1
  fresh _ _ := rfl
  distinct _ _ pending := absurd rfl pending

variable (m : Matched s)
include m

theorem served : Served s where
  kept := m.kept
  owned := m.owned
  distinct := m.distinct
  find _ _ := urbFindBySeqnum_ok_iff m.distinct
  unlink _ _ := urbRequestUnlink_eq m.distinct
  noUnlink _ := urbRequestUnlink_missing
  submit _ _ := urbSubmit_fails_iff
  oldest _ _ := urbFindExpired_ok
  expired _ := urbFindExpired_ok_iff

theorem cleared {entry : UrbEntry} {tickets : Nat → Option Ticket} (free : entry.state = .free)
    (inside : ∀ urb ticket, tickets urb = some ticket → ticket.slot < n)
    (waits : ∀ urb ticket, tickets urb = some ticket ∧ ticket.completed = false ↔ s.Waits urb ticket ∧ ticket.slot ≠ i)
    (fresh : ∀ urb, s.issued ≤ urb → tickets urb = none) :
    Matched { s with table := update s.table i entry, tickets } := by
  -- what is pending now was pending before, in another slot
  have pending : ∀ {j}, (update s.table i entry j).state ≠ .free → j ≠ i ∧ s.table.Pending j := by
    intro j pending
    by_cases own : j = i
    · subst own
      rw [update_self] at pending
      exact absurd free pending
    · rw [update_of_ne own] at pending
      exact ⟨own, pending⟩
  refine ⟨inside, ?_, ?_, ?_, fresh, ?_⟩
  · intro urb ticket waiting
    obtain ⟨before, other⟩ := (waits urb ticket).mp waiting
    obtain ⟨h, holds⟩ := m.kept urb ticket before
    have away : (⟨ticket.slot, h⟩ : Fin n) ≠ i := fun same => other (congrArg Fin.val same)
    refine ⟨h, ?_⟩
    show (update s.table i entry _).state ≠ .free ∧ ∃ state, update s.table i entry _ = _
    rw [update_of_ne away]
    exact holds
  · intro j is
    obtain ⟨other, before⟩ := pending is
    obtain ⟨urb, ticket, waiting, slot⟩ := m.owned j before
    refine ⟨urb, ticket, (waits urb ticket).mpr ⟨waiting, ?_⟩, slot⟩
    intro same
    exact other (Fin.ext (slot.symm.trans same))
  · intro urb urb' ticket ticket' waiting waiting'
    exact m.apart urb urb' ticket ticket' ((waits urb ticket).mp waiting).1 ((waits urb' ticket').mp waiting').1
  · intro j k isJ isK number
    obtain ⟨otherJ, beforeJ⟩ := pending isJ
    obtain ⟨otherK, beforeK⟩ := pending isK
    have numbers : (update s.table i entry j).seqnum = (update s.table i entry k).seqnum := number
    rw [update_of_ne otherJ, update_of_ne otherK] at numbers
    exact m.distinct j k beforeJ beforeK numbers

theorem left {urb : Nat} {ticket : Ticket} (known : s.tickets urb = some ticket)
    (alone : ticket.completed = true → ∀ i : Fin n, i = ticket.slot → ¬s.table.Pending i) {record : Option Ticket}
    (done : ∀ after ∈ record, after.completed = true ∧ after.slot = ticket.slot) {entry : UrbEntry}
    (free : entry.state = .free) :
    Matched { s with
      table := update s.table ⟨ticket.slot, m.inside urb ticket known⟩ entry
      tickets := update s.tickets urb record } := by
  have slot := m.inside urb ticket known
  apply m.cleared free
  · intro other after same
    by_cases own : other = urb
    · subst own
      rw [update_self] at same
      rw [(done after same).2]
      exact slot
    · rw [update_of_ne own] at same
      exact m.inside other after same
  · intro other after
    by_cases own : other = urb
    · subst own
      rw [update_self]
      constructor
      · rintro ⟨same, waiting⟩
        rw [(done after same).1] at waiting
        cases waiting
      · rintro ⟨⟨same, -⟩, away⟩
        rw [known] at same
        cases same
        exact absurd rfl away
    · rw [update_of_ne own]
      refine ⟨fun waiting => ⟨waiting, ?_⟩, fun waiting => waiting.1⟩
      intro same
      obtain ⟨h, pending, -⟩ := m.kept other after waiting
      cases completed : ticket.completed with
      | true => exact alone completed ⟨after.slot, h⟩ same pending
      | false => exact own (m.apart other urb after ticket waiting ⟨known, completed⟩ same)
  · intro other later
    have unknown := m.fresh other later
    have own : other ≠ urb := by
      rintro rfl
      rw [known] at unknown
      cases unknown
    rw [update_of_ne own]
    exact unknown

theorem submit {submit : CmdSubmit} (orderly : Orderly s (.submit submit now)) :
    Matched (s.step (.submit submit now)) := by
  rw [Server.step, urbSubmit]
  rcases found : firstSlot fun i => decide ((s.table i).state = .free) with _ | i
  · exact m
  have isFree := of_decide_eq_true (firstSlot_some found)
  have unused := orderly ⟨i, fun pending => pending isFree⟩
  have unknown := m.fresh s.issued (Nat.le_refl _)
  have known : ∀ {urb ticket}, s.tickets urb = some ticket → urb ≠ s.issued := by
    rintro urb ticket same rfl
    rw [unknown] at same
    cases same
  -- the new URB, or one that waited before in another slot
  have waits : ∀ {urb ticket}, update s.tickets s.issued (some ⟨submit, now, i, false⟩) urb = some ticket ∧
      ticket.completed = false →
      urb = s.issued ∧ ticket = ⟨submit, now, i, false⟩ ∨ s.Waits urb ticket ∧ ticket.slot ≠ i := by
    rintro urb ticket ⟨same, waiting⟩
    by_cases own : urb = s.issued
    · subst own
      rw [update_self] at same
      exact .inl ⟨rfl, (Option.some.inj same).symm⟩
    · rw [update_of_ne own] at same
      refine .inr ⟨⟨same, waiting⟩, fun slot => ?_⟩
      obtain ⟨h, pending, -⟩ := m.kept urb ticket ⟨same, waiting⟩
      have here : (⟨ticket.slot, h⟩ : Fin n) = i := Fin.ext slot
      rw [here] at pending
      exact pending isFree
  suffices step : Matched { s with
      table := update s.table i (submit.entry now)
      issued := s.issued + 1
      tickets := update s.tickets s.issued (some ⟨submit, now, i, false⟩) } from step
  refine ⟨?_, ?_, ?_, ?_, ?_, ?_⟩
  · intro urb ticket known
    have same : update s.tickets s.issued (some ⟨submit, now, i, false⟩) urb = some ticket := known
    by_cases own : urb = s.issued
    · subst own
      rw [update_self] at same
      cases same
      exact i.isLt
    · rw [update_of_ne own] at same
      exact m.inside urb ticket same
  · intro urb ticket waiting
    rcases waits waiting with ⟨-, rfl⟩ | ⟨before, other⟩
    · refine ⟨i.isLt, ?_⟩
      show (update s.table i _ i).state ≠ .free ∧ ∃ state, update s.table i _ i = _
      rw [update_self]
      exact ⟨by simp [CmdSubmit.entry], .submitted, rfl⟩
    · obtain ⟨h, holds⟩ := m.kept urb ticket before
      have away : (⟨ticket.slot, h⟩ : Fin n) ≠ i := fun same => other (congrArg Fin.val same)
      refine ⟨h, ?_⟩
      show (update s.table i _ _).state ≠ .free ∧ ∃ state, update s.table i _ _ = _
      rw [update_of_ne away]
      exact holds
  · intro j pending
    by_cases own : j = i
    · subst own
      exact ⟨s.issued, _, ⟨update_self .., rfl⟩, rfl⟩
    · have before : (update s.table i (submit.entry now) j).state ≠ .free := pending
      rw [update_of_ne own] at before
      obtain ⟨urb, ticket, waiting, slot⟩ := m.owned j before
      refine ⟨urb, ticket, ⟨?_, waiting.2⟩, slot⟩
      exact (update_of_ne (known waiting.1) ..).trans waiting.1
  · intro urb urb' ticket ticket' waiting waiting' slot
    rcases waits waiting with ⟨is, rfl⟩ | ⟨before, other⟩
    · rcases waits waiting' with ⟨is', -⟩ | ⟨-, other'⟩
      · rw [is, is']
      · exact absurd slot.symm other'
    · rcases waits waiting' with ⟨-, rfl⟩ | ⟨before', -⟩
      · exact absurd slot other
      · exact m.apart urb urb' ticket ticket' before before' slot
  · intro urb later
    have after : s.issued + 1 ≤ urb := later
    have own : urb ≠ s.issued := by omega
    exact (update_of_ne own ..).trans (m.fresh urb (by omega))
  · intro j k pendingJ pendingK number
    have isJ : (update s.table i (submit.entry now) j).state ≠ .free := pendingJ
    have isK : (update s.table i (submit.entry now) k).state ≠ .free := pendingK
    have numbers : (update s.table i (submit.entry now) j).seqnum =
        (update s.table i (submit.entry now) k).seqnum := number
    by_cases ownJ : j = i
    · by_cases ownK : k = i
      · rw [ownJ, ownK]
      · subst ownJ
        rw [update_of_ne ownK] at isK numbers
        rw [update_self] at numbers
        exact absurd numbers.symm (unused k isK)
    · rw [update_of_ne ownJ] at isJ numbers
      by_cases ownK : k = i
      · subst ownK
        rw [update_self] at numbers
        exact absurd numbers (unused j isJ)
      · rw [update_of_ne ownK] at isK numbers
        exact m.distinct j k isJ isK numbers

theorem marked {state : UrbState} (pending : s.table.Pending i) (still : state ≠ .free) :
    Matched { s with table := update s.table i { s.table i with state } } := by
  have same : ∀ j, ((update s.table i { s.table i with state } j).state ≠ .free ↔ s.table.Pending j) ∧
      (update s.table i { s.table i with state } j).seqnum = (s.table j).seqnum := by
    intro j
    by_cases own : j = i
    · subst own
      rw [update_self]
      exact ⟨⟨fun _ => pending, fun _ => still⟩, rfl⟩
    · rw [update_of_ne own]
      exact ⟨Iff.rfl, rfl⟩
  refine ⟨m.inside, ?_, ?_, m.apart, m.fresh, ?_⟩
  · intro urb ticket waiting
    obtain ⟨h, waits, state', is⟩ := m.kept urb ticket waiting
    refine ⟨h, (same _).1.mpr waits, ?_⟩
    by_cases own : (⟨ticket.slot, h⟩ : Fin n) = i
    · refine ⟨state, ?_⟩
      subst own
      show update s.table _ _ _ = _
      rw [update_self, is]
    · refine ⟨state', ?_⟩
      show update s.table _ _ _ = _
      rw [update_of_ne own, is]
  · intro j is
    exact m.owned j ((same j).1.mp is)
  · intro j k isJ isK number
    have before : (s.table j).seqnum = (s.table k).seqnum := (same j).2.symm.trans (number.trans (same k).2)
    exact m.distinct j k ((same j).1.mp isJ) ((same k).1.mp isK) before

theorem unlink (seqnum : UInt32) : Matched (s.step (.unlink seqnum)) := by
  rw [Server.step, urbRequestUnlink]
  rcases found : firstSlot fun i => decide ((s.table i).state = .submitted ∧ (s.table i).seqnum = seqnum) with _ | i
  · exact m
  · obtain ⟨submitted, -⟩ := of_decide_eq_true (firstSlot_some found)
    apply m.marked
    · intro free
      rw [submitted] at free
      cases free
    · decide

theorem complete {urb : Nat} (allowed : s.allowed (.complete urb) = true) : Matched (s.step (.complete urb)) := by
  have any : (s.tickets urb).any (fun ticket => !ticket.completed) = true := allowed
  obtain ⟨ticket, known, waiting⟩ : ∃ ticket, s.tickets urb = some ticket ∧ ticket.completed = false := by
    simpa [Option.any_eq_true] using any
  obtain ⟨h, pending, -⟩ := m.kept urb ticket ⟨known, waiting⟩
  have step : s.step (.complete urb) = { s with
      table := update s.table ⟨ticket.slot, h⟩ { s.table ⟨ticket.slot, h⟩ with state := .free }
      tickets := update s.tickets urb (some { ticket with completed := true }) } := by
    rw [Server.step, known]
    dsimp only
    rw [urbComplete, dif_pos h, if_neg pending]
  rw [step]
  apply m.left known
  · intro completed
    rw [waiting] at completed
    cases completed
  · intro after same
    cases same
    exact ⟨rfl, rfl⟩
  · rfl

theorem free {urb : Nat} (orderly : Orderly s (.free urb)) : Matched (s.step (.free urb)) := by
  rcases known : s.tickets urb with _ | ticket
  · have step : s.step (.free urb) = s := by
      rw [Server.step, known]
    rw [step]
    exact m
  · have h := m.inside urb ticket known
    have step : s.step (.free urb) = { s with
        table := update s.table ⟨ticket.slot, h⟩ .zero
        tickets := update s.tickets urb none } := by
      rw [Server.step, known]
      dsimp only
      rw [urbFree, dif_pos h]
    rw [step]
    apply m.left known (orderly ticket known)
    · intro after same
      cases same
    · rfl

theorem step {i : ServerEvent} (allowed : s.allowed i = true) (orderly : Orderly s i) : Matched (s.step i) := by
  cases i with
  | submit submit now => exact m.submit orderly
  | unlink seqnum => exact m.unlink seqnum
  | complete urb => exact m.complete allowed
  | free urb => exact m.free orderly

end Matched

/-- In every orderly run each URB keeps its slot until its own completion or free. -/
theorem urbs_served {s : Server n} {trace : List (Transition (Server n) ServerEvent Unit)}
    (run : (serverMachine n).Run Server.start trace s) (orderly : ∀ tr ∈ trace, Orderly tr.pre tr.input) :
    Served s := by
  have matched : Matched s := run.invariant_of orderly .start fun _ _ m allowed ok => m.step allowed ok
  exact matched.served

def sampleSubmit (seqnum : UInt32) : CmdSubmit := ⟨seqnum, 1, 0, 0, 0, 8, 0, .replicate 8 0⟩

def sampleEvents : List ServerEvent :=
  [.submit (sampleSubmit 1) 4294967290, .submit (sampleSubmit 2) 3, .unlink 2, .complete 0, .free 0, .submit (sampleSubmit 1) 9,
    .complete 1, .free 1]

theorem urbs_served_sample : Served ((serverMachine 2).play Server.start sampleEvents) := by
  apply urbs_served
  · exact Machine.run_of_legal ⟨rfl, rfl, rfl, rfl, rfl, rfl, rfl, rfl, trivial⟩
  · decide

/-- A URB is wiped when one that was completed before is freed, and one number is pending twice. -/
theorem urbs_confused :
    (∃ trace s, (serverMachine 1).Run Server.start trace s ∧ ¬Served s) ∧
      ∃ trace s, (serverMachine 2).Run Server.start trace s ∧ ¬s.table.Distinct := by
  constructor
  · have legal : (serverMachine 1).Legal Server.start
        [.submit (sampleSubmit 1) 0, .complete 0, .submit (sampleSubmit 2) 0, .free 0] := ⟨rfl, rfl, rfl, rfl, trivial⟩
    refine ⟨_, _, Machine.run_of_legal legal, ?_⟩
    intro served
    obtain ⟨h, pending, -⟩ := served.kept 1 ⟨sampleSubmit 2, 0, 0, false⟩ ⟨rfl, rfl⟩
    exact pending rfl
  · have legal : (serverMachine 2).Legal Server.start [.submit (sampleSubmit 1) 0, .submit (sampleSubmit 1) 0] := ⟨rfl, rfl, trivial⟩
    refine ⟨_, _, Machine.run_of_legal legal, ?_⟩
    intro distinct
    exact absurd (distinct 0 1 (by decide) (by decide) rfl) (by decide)

end XSDK.Usbip
