import XSDK.Shell.Session
import Mathlib.Data.List.Induction
import Mathlib.Data.List.TakeWhile

/-! The line discipline: the session against a reference editor without limits. -/
namespace XSDK.Shell

open Library Library.Call
open List (append_assoc append_nil filterMap_cons foldl_concat length_append length_dropLast length_set
  length_singleton)

/-! ### The reference editor -/

/-- A stream cut at its terminators: the lines that are complete, the bytes of the next one, and
whether the last byte was a CR. -/
structure Cut where
  lines : List Text
  current : Text
  afterCr : Bool

def Cut.byte (cut : Cut) (b : UInt8) : Cut :=
  if b = carriageReturn then ⟨cut.lines ++ [cut.current], [], true⟩
  else if b = lineFeed then
    if cut.afterCr then { cut with afterCr := false } else ⟨cut.lines ++ [cut.current], [], false⟩
  else ⟨cut.lines, cut.current ++ [b], false⟩

def cut (stream : Text) : Cut := stream.foldl Cut.byte ⟨[], [], false⟩

def isErase (b : UInt8) : Bool := b = backspace || b = delete

/-- What is left of a line's keys: BS and DEL take back the last character. -/
def editKey (content : Text) (b : UInt8) : Text := if isErase b then content.dropLast else content ++ [b]

variable (keys : Text)

def edited : Text := keys.foldl editKey []

def maxContent : Nat := maxLineLength - 1

/-- The line to be run, unless it is still too long at its end. -/
def referenceLine : Option Text := if maxContent < (edited keys).length then none else some (edited keys)

def referenceLines (stream : Text) : List Text := (cut stream).lines.filterMap referenceLine

/-! ### When the session agrees -/

/-- The content went past the limit, and was not emptied since. -/
def Overran : Prop :=
  ∃ first more, keys = first ++ more ∧ maxContent < (edited first).length ∧ ∀ next, next <+: more →
    edited (first ++ next) ≠ []

/-- A count of characters that stops at the limit, and goes down with each character taken back. -/
def filledKey (count : Nat) (b : UInt8) : Nat := if isErase b then count - 1 else min (count + 1) maxContent

def filled : Nat := keys.foldl filledKey 0

/-- The last key is a character for which there was no room. -/
def EndsFull : Prop := ∃ before b, keys = before ++ [b] ∧ isErase b = false ∧ filled before = maxContent

/-- A line that went past the limit ends with a character beyond it, and another has no NUL. -/
def CleanLine : Prop := (Overran keys → EndsFull keys) ∧ (¬Overran keys → (0 : UInt8) ∉ edited keys)

def Clean (stream : Text) : Prop := ∀ keys ∈ (cut stream).lines, CleanLine keys

/-! ### A line in the line buffer -/

structure Keyed where
  kept : Text
  overflow : Bool

def Keyed.key (k : Keyed) (b : UInt8) : Keyed :=
  if isErase b then
    if k.kept = [] then k else ⟨k.kept.dropLast, if k.kept.length - 1 < maxContent then false else k.overflow⟩
  else if maxContent ≤ k.kept.length then { k with overflow := true }
  else { k with kept := k.kept ++ [b] }

def keyed : Keyed := keys.foldl Keyed.key ⟨[], false⟩

/-- The line that is handed on, unless the overflow flag is set. -/
def sessionLine : Option Text := if (keyed keys).overflow then none else some (cString (keyed keys).kept)

theorem edited_snoc (b : UInt8) : edited (keys ++ [b]) = editKey (edited keys) b := foldl_concat ..
theorem filled_snoc (b : UInt8) : filled (keys ++ [b]) = filledKey (filled keys) b := foldl_concat ..
theorem keyed_snoc (b : UInt8) : keyed (keys ++ [b]) = (keyed keys).key b := foldl_concat ..

theorem filled_eq : (keyed keys).kept.length = filled keys ∧ filled keys ≤ maxContent := by
  induction keys using List.reverseRecOn with
  | nil => exact ⟨rfl, Nat.zero_le _⟩
  | append_singleton keys b ih =>
    obtain ⟨same, most⟩ := ih
    rw [keyed_snoc, filled_snoc, filledKey, Keyed.key]
    split
    · split
      · next empty =>
        rw [empty] at same
        have zero : filled keys = 0 := same.symm
        rw [empty, zero]
        exact ⟨rfl, Nat.zero_le _⟩
      · refine ⟨?_, by omega⟩
        rw [length_dropLast, same]
    · split
      · next full =>
        refine ⟨?_, Nat.min_le_right ..⟩
        show (keyed keys).kept.length = _
        omega
      · next room =>
        refine ⟨?_, Nat.min_le_right ..⟩
        show ((keyed keys).kept ++ [b]).length = _
        rw [length_append, length_singleton]
        omega

theorem overflow_iff : (keyed keys).overflow = true ↔ EndsFull keys := by
  have snoc : ∀ keys b, EndsFull (keys ++ [b]) ↔ isErase b = false ∧ filled keys = maxContent := by
    intro keys b
    constructor
    · rintro ⟨before, last, same, char, full⟩
      obtain ⟨rfl, tail⟩ := List.append_inj' same rfl
      cases tail
      exact ⟨char, full⟩
    · rintro ⟨char, full⟩
      exact ⟨keys, b, rfl, char, full⟩
  -- a flag that is set finds the buffer full
  have full : ∀ keys, (keyed keys).overflow = true → filled keys = maxContent := by
    intro keys
    induction keys using List.reverseRecOn with
    | nil => exact nofun
    | append_singleton keys b ih =>
      obtain ⟨same, most⟩ := filled_eq keys
      obtain ⟨same', most'⟩ := filled_eq (keys ++ [b])
      rw [keyed_snoc] at same' ⊢
      intro set
      unfold Keyed.key at same' set
      split at set
      · next erase =>
        rw [if_pos erase] at same'
        split at set
        · next empty =>
          rw [empty] at same
          have zero := ih set
          rw [← same] at zero
          exact absurd zero (by decide)
        · split at set
          · cases set
          · next still =>
            rw [same] at still
            omega
      · next char =>
        rw [if_neg char] at same'
        split at set
        · next no =>
          rw [filled_snoc, filledKey, if_neg char]
          omega
        · next room =>
          have was := ih set
          rw [same, was] at room
          exact absurd (Nat.le_refl _) room
  induction keys using List.reverseRecOn with
  | nil =>
    constructor
    · intro set
      cases set
    · rintro ⟨before, b, same, -⟩
      exact absurd (congrArg List.length same) (by simp)
  | append_singleton keys b ih =>
    obtain ⟨same, most⟩ := filled_eq keys
    rw [snoc, keyed_snoc, Keyed.key]
    split
    · next erase =>
      refine ⟨fun set => ?_, fun ends => ?_⟩
      · exfalso
        split at set
        · next empty =>
          have was := full keys set
          rw [← same, empty] at was
          exact absurd was (by decide)
        · split at set
          · cases set
          · next still =>
            have was : maxContent = 127 := rfl
            omega
      · rw [erase] at ends
        cases ends.1
    · next char =>
      split
      · next no => exact ⟨fun _ => ⟨Bool.eq_false_iff.mpr char, by omega⟩, fun _ => rfl⟩
      · next room =>
        refine ⟨fun set => ?_, fun ends => ?_⟩
        · have was := full keys set
          omega
        · have was := ends.2
          omega

theorem overran_nil : ¬Overran [] := by
  rintro ⟨first, more, same, past, -⟩
  rw [List.append_eq_nil_iff.mp same.symm |>.1] at past
  exact absurd past (by decide)

theorem overran_snoc (b : UInt8) :
    Overran (keys ++ [b]) ↔ Overran keys ∧ edited (keys ++ [b]) ≠ [] ∨ maxContent < (edited (keys ++ [b])).length := by
  constructor
  · rintro ⟨first, more, same, past, filled⟩
    rcases List.eq_nil_or_concat more with rfl | ⟨more, last, rfl⟩
    · rw [append_nil] at same
      exact .inr (same ▸ past)
    · rw [List.concat_eq_append] at same filled
      rw [← append_assoc] at same
      obtain ⟨rfl, tail⟩ := List.append_inj' same rfl
      cases tail
      refine .inl ⟨⟨first, more, rfl, past, fun next start => filled next (start.trans (List.prefix_append ..))⟩, ?_⟩
      rw [append_assoc]
      exact filled _ (List.prefix_refl _)
  · rintro (⟨⟨first, more, rfl, past, filled⟩, still⟩ | past)
    · refine ⟨first, more ++ [b], append_assoc .., past, fun next start => ?_⟩
      rcases List.prefix_concat_iff.mp start with whole | start
      · rw [whole, ← append_assoc]
        exact still
      · exact filled next start
    · refine ⟨keys ++ [b], [], (append_nil _).symm, past, fun next start => ?_⟩
      rw [List.prefix_nil.mp start, append_nil]
      intro empty
      rw [empty] at past
      exact absurd past (by decide)

theorem keyed_compared :
    (¬Overran keys → (keyed keys).kept = edited keys ∧ (edited keys).length ≤ maxContent) ∧
      (Overran keys → (keyed keys).kept.length < (edited keys).length) := by
  induction keys using List.reverseRecOn with
  | nil => exact ⟨fun _ => ⟨rfl, Nat.zero_le _⟩, fun past => absurd past overran_nil⟩
  | append_singleton keys b ih =>
    obtain ⟨agree, less⟩ := ih
    rw [overran_snoc, keyed_snoc, edited_snoc, editKey, Keyed.key]
    by_cases erase : isErase b = true
    · rw [if_pos erase, if_pos erase]
      by_cases past : Overran keys
      · have short := less past
        refine ⟨fun overran => ?_, fun overran => ?_⟩
        · have empty : (edited keys).dropLast = [] := by
            by_contra still
            exact overran (.inl ⟨past, still⟩)
          have few := congrArg List.length empty
          rw [length_dropLast, List.length_nil] at few
          have none : (keyed keys).kept = [] := List.eq_nil_of_length_eq_zero (by omega)
          rw [if_pos none, empty, none]
          exact ⟨rfl, Nat.zero_le _⟩
        · have some : 0 < (edited keys).dropLast.length := by
            rcases overran with ⟨-, still⟩ | long
            · exact List.length_pos_iff.mpr still
            · omega
          split
          · next none => rwa [none]
          · show (keyed keys).kept.dropLast.length < _
            rw [length_dropLast] at some ⊢
            rw [length_dropLast]
            omega
      · obtain ⟨same, fits⟩ := agree past
        have shorter : (edited keys).dropLast.length ≤ maxContent := by
          rw [length_dropLast]
          omega
        refine ⟨fun _ => ⟨?_, shorter⟩, fun overran => ?_⟩
        · rw [same]
          split
          · next none =>
            rw [same, none]
            rfl
          · rfl
        · rcases overran with ⟨overran, -⟩ | long
          · exact absurd overran past
          · omega
    · rw [if_neg erase, if_neg erase]
      by_cases past : Overran keys
      · have short := less past
        refine ⟨fun overran => absurd (.inl ⟨past, by simp⟩) overran, fun _ => ?_⟩
        rw [length_append, length_singleton]
        split
        · show (keyed keys).kept.length < _
          omega
        · show ((keyed keys).kept ++ [b]).length < _
          rw [length_append, length_singleton]
          omega
      · obtain ⟨same, fits⟩ := agree past
        rw [same, length_append, length_singleton]
        split
        · next full =>
          refine ⟨fun overran => ?_, fun _ => ?_⟩
          · exact absurd (.inr (by omega)) overran
          · show (edited keys).length < _
            omega
        · next room =>
          refine ⟨fun _ => ⟨rfl, by omega⟩, fun overran => ?_⟩
          rcases overran with ⟨overran, -⟩ | long
          · exact absurd overran past
          · omega

variable (bytes : Text)

theorem cString_eq_iff : cString bytes = bytes ↔ (0 : UInt8) ∉ bytes := by
  rw [cString, List.takeWhile_eq_self_iff]
  constructor
  · intro all zero
    exact absurd (all 0 zero) (by decide)
  · intro none b mem
    apply decide_eq_true
    rintro rfl
    exact none mem

theorem cString_length_le : (cString bytes).length ≤ bytes.length := (List.takeWhile_prefix _).length_le

theorem sessionLine_eq_iff :
    (sessionLine keys = referenceLine keys ↔ CleanLine keys) ∧
    (sessionLine keys = none → referenceLine keys = none) := by
  obtain ⟨agree, less⟩ := keyed_compared keys
  have ends := overflow_iff keys
  obtain ⟨count, -⟩ := filled_eq keys
  rw [sessionLine, referenceLine, CleanLine]
  by_cases past : Overran keys
  · have short := less past
    by_cases full : EndsFull keys
    · have set := ends.mpr full
      obtain ⟨before, b, rfl, char, room⟩ := full
      have long : maxContent < (edited (before ++ [b])).length := by
        rw [filled_snoc, filledKey, if_neg (by rw [char]; decide), room] at count
        omega
      rw [if_pos set, if_pos long]
      exact ⟨⟨fun _ => ⟨fun _ => ⟨before, b, rfl, char, room⟩, fun no => absurd past no⟩, fun _ => rfl⟩, fun _ => rfl⟩
    · rw [if_neg fun set => full (ends.mp set)]
      refine ⟨⟨fun same => ?_, fun clean => absurd (clean.1 past) full⟩, nofun⟩
      exfalso
      split at same
      · cases same
      · have lengths := congrArg List.length (Option.some.inj same)
        have cut := cString_length_le (keyed keys).kept
        omega
  · obtain ⟨same, fits⟩ := agree past
    have clear : (keyed keys).overflow = false := by
      cases set : (keyed keys).overflow with
      | false => rfl
      | true =>
        obtain ⟨before, b, rfl, char, room⟩ := ends.mp set
        exfalso
        apply past
        rw [overran_snoc]
        refine .inr ?_
        have was := (keyed_compared before).1
        by_cases overran : Overran before
        · have more := (keyed_compared before).2 overran
          rw [(filled_eq before).1, room] at more
          rw [edited_snoc, editKey, if_neg (by rw [char]; decide), length_append, length_singleton]
          omega
        · rw [edited_snoc, editKey, if_neg (by rw [char]; decide), length_append, length_singleton, ← (was overran).1,
            (filled_eq before).1, room]
          omega
    have few : ¬maxContent < (edited keys).length := by omega
    rw [clear, if_neg Bool.false_ne_true, if_neg few, same]
    refine ⟨⟨fun equal => ⟨fun overran => absurd overran past, fun _ => ?_⟩, fun clean => ?_⟩, nofun⟩
    · exact (cString_eq_iff _).mp (Option.some.inj equal)
    · rw [(cString_eq_iff _).mpr (clean.2 past)]

/-- Two selections from one list, the first of which takes more, are equal where they agree on
each element. -/
theorem filterMap_eq_iff {α β : Type} {f g : α → Option β} (l : List α) (more : ∀ x, f x = none → g x = none) :
    l.filterMap f = l.filterMap g ↔ ∀ x ∈ l, f x = g x := by
  have counts : ∀ l : List α, (l.filterMap g).length ≤ (l.filterMap f).length := by
    intro l
    induction l with
    | nil => exact Nat.le_refl _
    | cons x rest ih =>
      cases first : f x with
      | none => simpa [filterMap_cons, first, more x first] using ih
      | some a =>
        cases second : g x with
        | none =>
          simp only [filterMap_cons, first, second, List.length_cons]
          omega
        | some b => simpa [filterMap_cons, first, second] using ih
  constructor
  · intro same
    induction l with
    | nil => exact fun x mem => absurd mem List.not_mem_nil
    | cons x rest ih =>
      have here : f x = g x ∧ rest.filterMap f = rest.filterMap g := by
        cases first : f x with
        | none =>
          have second := more x first
          simp only [filterMap_cons, first, second] at same
          exact ⟨second.symm, same⟩
        | some a =>
          cases second : g x with
          | none =>
            exfalso
            simp only [filterMap_cons, first, second] at same
            have lengths := congrArg List.length same
            have fewer := counts rest
            rw [List.length_cons] at lengths
            omega
          | some b =>
            simp only [filterMap_cons, first, second] at same
            obtain ⟨equal, tails⟩ := List.cons.inj same
            exact ⟨congrArg some equal, tails⟩
      intro y mem
      rcases List.mem_cons.mp mem with rfl | mem
      · exact here.1
      · exact ih here.2 y mem
  · intro same
    exact List.filterMap_congr same

/-! ### The session -/

variable {σ : Type} {e : Env σ} {s : System σ}

structure Edits (seen : Text) (s : System σ) : Prop where
  memory : s.shell.lineBuffer.length = maxLineLength
  kept : s.shell.lineBuffer.take s.shell.lineLength = (keyed (cut seen).current).kept
  count : s.shell.lineLength = (keyed (cut seen).current).kept.length
  overflow : s.shell.isOverflow = (keyed (cut seen).current).overflow
  skip : s.shell.skipNextLf = (cut seen).afterCr
  executed : s.executed = (cut seen).lines.filterMap sessionLine
  stores : ∀ i ∈ s.stores, i < maxLineLength

theorem cut_snoc (seen : Text) (b : UInt8) : cut (seen ++ [b]) = (cut seen).byte b := foldl_concat ..

structure Apart (s s' : System σ) : Prop where
  shell : { s'.shell with state := s.shell.state } = s.shell
  received : s'.received = s.received
  executed : s'.executed = s.executed
  stores : s'.stores = s.stores

variable {seen : Text}

theorem Edits.apart {s' : System σ} (edits : Edits seen s) (apart : Apart s s') : Edits seen s' := by
  have buffer : s'.shell.lineBuffer = s.shell.lineBuffer := by
    have field := congrArg Context.lineBuffer apart.shell
    exact field
  have length : s'.shell.lineLength = s.shell.lineLength := by
    have field := congrArg Context.lineLength apart.shell
    exact field
  have overflow : s'.shell.isOverflow = s.shell.isOverflow := by
    have field := congrArg Context.isOverflow apart.shell
    exact field
  have skip : s'.shell.skipNextLf = s.shell.skipNextLf := by
    have field := congrArg Context.skipNextLf apart.shell
    exact field
  obtain ⟨h1, h2, h3, h4, h5, h6, h7⟩ := edits
  exact ⟨by rw [buffer, h1], by rw [buffer, length, h2], by rw [length, h3], by rw [overflow, h4], by rw [skip, h5],
    by rw [apart.executed, h6], by rw [apart.stores]; exact h7⟩

theorem write_apart (data : Text) : Apart s (write e data s).2 := ⟨rfl, rfl, rfl, rfl⟩

theorem writePrompt_apart : Apart s (writePrompt e s).2 := by
  rw [writePrompt, read_bind, onlyIf]
  split
  · exact write_apart _
  · exact ⟨rfl, rfl, rfl, rfl⟩

theorem Edits.line (edits : Edits seen s) {afterCr : Bool} {b : UInt8}
    (ends : cut (seen ++ [b]) = ⟨(cut seen).lines ++ [(cut seen).current], [], afterCr⟩) :
    Edits (seen ++ [b]) (dispatchLine e { s with shell := { s.shell with skipNextLf := afterCr } }).2 := by
  obtain ⟨count, most⟩ := filled_eq (cut seen).current
  have room : s.shell.lineLength < maxLineLength := by
    have limit : maxContent + 1 = maxLineLength := rfl
    have is := edits.count
    omega
  rw [dispatchLine, ignore_bind]
  generalize written : (write e [carriageReturn, lineFeed] { s with shell := { s.shell with skipNextLf := afterCr } }).2 = t
  have shell : t.shell = { s.shell with skipNextLf := afterCr } := by
    rw [← written]
    rfl
  have executed : t.executed = s.executed := by
    rw [← written]
    rfl
  have stores : t.stores = s.stores := by
    rw [← written]
    rfl
  rw [read_bind]
  by_cases set : s.shell.isOverflow = true
  · have overflow : t.shell.isOverflow = true := by
      rw [shell]
      exact set
    rw [if_pos overflow]
    show Edits (seen ++ [b]) (writePrompt e { t with shell := { t.shell with isOverflow := false, lineLength := 0 } }).2
    apply Edits.apart _ writePrompt_apart
    have none : sessionLine (cut seen).current = none := by
      rw [sessionLine, if_pos (edits.overflow.symm.trans set)]
    refine ⟨?_, ?_, ?_, ?_, ?_, ?_, ?_⟩
    · rw [shell]
      exact edits.memory
    · rw [ends]
      rfl
    · rw [ends]
      rfl
    · rw [ends]
      rfl
    · rw [ends, shell]
    · show t.executed = _
      rw [executed, edits.executed, ends, List.filterMap_append]
      simp [none]
    · show ∀ i ∈ t.stores, _
      rw [stores]
      exact edits.stores
  · have clear : ¬t.shell.isOverflow = true := by
      rw [shell]
      exact set
    rw [if_neg clear]
    have ran : ∃ state o, (do
        store t.shell.lineLength 0
        onShell fun s => { s with lineLength := 0 }
        ignore (executeLine e)
        writePrompt e : Session σ Unit) t = writePrompt e {
          shell := { t.shell with lineBuffer := t.shell.lineBuffer.set t.shell.lineLength 0, lineLength := 0, state := state }
          outside := o
          received := t.received
          executed := t.executed ++ [cString (t.shell.lineBuffer.set t.shell.lineLength 0)]
          stores := t.stores ++ [t.shell.lineLength] } :=
      ⟨(cliExecuteLine e (cString (t.shell.lineBuffer.set t.shell.lineLength 0)) (t.shell.state, t.outside)).2.1,
        (cliExecuteLine e (cString (t.shell.lineBuffer.set t.shell.lineLength 0)) (t.shell.state, t.outside)).2.2, rfl⟩
    obtain ⟨state, o, run⟩ := ran
    rw [run]
    apply Edits.apart _ writePrompt_apart
    have handed : cString (t.shell.lineBuffer.set t.shell.lineLength 0) = cString (keyed (cut seen).current).kept := by
      rw [shell, ← edits.kept]
      have inside : s.shell.lineLength < s.shell.lineBuffer.length := by
        rw [edits.memory]
        exact room
      show cString (s.shell.lineBuffer.set s.shell.lineLength 0) = cString (s.shell.lineBuffer.take s.shell.lineLength)
      rw [List.set_eq_take_append_cons_drop, if_pos inside, cString, cString, List.takeWhile_append]
      split
      · next whole =>
        rw [List.takeWhile_cons_of_neg (by decide), append_nil]
        exact (List.takeWhile_prefix _).eq_of_length whole |>.symm
      · rfl
    have some : sessionLine (cut seen).current = some (cString (keyed (cut seen).current).kept) := by
      rw [sessionLine, if_neg fun flag => set (edits.overflow.trans flag)]
    refine ⟨?_, ?_, ?_, ?_, ?_, ?_, ?_⟩
    · show (t.shell.lineBuffer.set t.shell.lineLength 0).length = _
      rw [length_set, shell]
      exact edits.memory
    · rw [ends]
      rfl
    · rw [ends]
      rfl
    · show t.shell.isOverflow = _
      rw [ends]
      exact Bool.eq_false_iff.mpr clear
    · show t.shell.skipNextLf = _
      rw [ends, shell]
    · show t.executed ++ _ = _
      rw [executed, edits.executed, ends, List.filterMap_append, handed]
      simp [some]
    · show ∀ i ∈ t.stores ++ [t.shell.lineLength], _
      intro i mem
      rcases List.mem_append.mp mem with mem | mem
      · rw [stores] at mem
        exact edits.stores i mem
      · rw [List.mem_singleton.mp mem, shell]
        exact room

theorem Edits.key (edits : Edits seen s) {b : UInt8}
    (inside : cut (seen ++ [b]) = ⟨(cut seen).lines, (cut seen).current ++ [b], false⟩) {buffer : Text} {length : Nat} {overflow : Bool}
    {stores : List Nat} (memory : buffer.length = maxLineLength)
    (kept : buffer.take length = ((keyed (cut seen).current).key b).kept)
    (count : length = ((keyed (cut seen).current).key b).kept.length)
    (flag : overflow = ((keyed (cut seen).current).key b).overflow) (bounded : ∀ i ∈ stores, i < maxLineLength) :
    Edits (seen ++ [b]) { s with
      shell := { s.shell with lineBuffer := buffer, lineLength := length, isOverflow := overflow, skipNextLf := false }
      stores := stores } := by
  refine ⟨memory, ?_, ?_, ?_, ?_, ?_, bounded⟩
  · rw [inside, keyed_snoc]
    exact kept
  · rw [inside, keyed_snoc]
    exact count
  · rw [inside, keyed_snoc]
    exact flag
  · rw [inside]
  · rw [inside]
    exact edits.executed

theorem processByte_edits (edits : Edits seen s) (b : UInt8) : Edits (seen ++ [b]) (processByte e b s).2 := by
  obtain ⟨count, most⟩ := filled_eq (cut seen).current
  rw [processByte, read_bind]
  by_cases second : s.shell.skipNextLf = true ∧ b = lineFeed
  · rw [if_pos second]
    obtain ⟨after, rfl⟩ := second
    have same : cut (seen ++ [lineFeed]) = { cut seen with afterCr := false } := by
      rw [cut_snoc, Cut.byte, if_neg (by decide), if_pos rfl, if_pos (edits.skip.symm.trans after)]
    obtain ⟨memory, kept, length, overflow, -, executed, stores⟩ := edits
    exact ⟨memory, by rw [same]; exact kept, by rw [same]; exact length, by rw [same]; exact overflow, by rw [same]; rfl,
      by rw [same]; exact executed, stores⟩
  rw [if_neg second]
  by_cases ends : b = carriageReturn ∨ b = lineFeed
  · have same : cut (seen ++ [b]) = ⟨(cut seen).lines ++ [(cut seen).current], [], decide (b = carriageReturn)⟩ := by
      rw [cut_snoc, Cut.byte]
      by_cases cr : b = carriageReturn
      · rw [if_pos cr, decide_eq_true cr]
      · have lf := ends.resolve_left cr
        have alone : ¬(cut seen).afterCr = true := fun after => second ⟨edits.skip.trans after, lf⟩
        rw [if_neg cr, if_pos lf, if_neg alone, decide_eq_false cr]
    have run := edits.line (e := e) same
    rw [onShell, modify_bind, if_pos ends]
    exact run
  obtain ⟨notCr, notLf⟩ := not_or.mp ends
  have same : cut (seen ++ [b]) = ⟨(cut seen).lines, (cut seen).current ++ [b], false⟩ := by
    rw [cut_snoc, Cut.byte, if_neg notCr, if_neg notLf]
  have limit : maxContent + 1 = maxLineLength := rfl
  have length := edits.count
  rw [onShell, modify_bind, if_neg ends]
  by_cases erase : b = backspace ∨ b = delete
  · have erases : isErase b = true := by simpa [isErase] using erase
    rw [if_pos erase, onlyIf]
    by_cases some : 0 < s.shell.lineLength
    · rw [if_pos some]
      have held : (keyed (cut seen).current).kept ≠ [] := by
        rw [← List.length_pos_iff, ← length]
        exact some
      apply edits.key same edits.memory
      · rw [Keyed.key, if_pos erases, if_neg held]
        show s.shell.lineBuffer.take (s.shell.lineLength - 1) = (keyed (cut seen).current).kept.dropLast
        rw [← edits.kept, List.dropLast_take]
        rw [edits.memory]
        omega
      · rw [Keyed.key, if_pos erases, if_neg held]
        show s.shell.lineLength - 1 = (keyed (cut seen).current).kept.dropLast.length
        rw [length_dropLast, length]
      · rw [Keyed.key, if_pos erases, if_neg held]
        show (if s.shell.lineLength - 1 < maxContent then false else s.shell.isOverflow) = _
        rw [length, edits.overflow]
      · exact edits.stores
    · rw [if_neg some]
      have none : (keyed (cut seen).current).kept = [] := List.eq_nil_of_length_eq_zero (by omega)
      have still : (keyed (cut seen).current).key b = keyed (cut seen).current := by
        rw [Keyed.key, if_pos erases, if_pos none]
      apply edits.key same edits.memory <;> try rw [still]
      · exact edits.kept
      · exact edits.count
      · exact edits.overflow
      · exact edits.stores
  have char : ¬isErase b = true := by simpa [isErase] using erase
  rw [if_neg erase]
  by_cases full : maxLineLength - 1 ≤ s.shell.lineLength
  · rw [if_pos full]
    have no : maxContent ≤ (keyed (cut seen).current).kept.length := by
      rw [← length]
      exact full
    apply edits.key same edits.memory
    · rw [Keyed.key, if_neg char, if_pos no]
      exact edits.kept
    · rw [Keyed.key, if_neg char, if_pos no]
      exact edits.count
    · rw [Keyed.key, if_neg char, if_pos no]
    · exact edits.stores
  · rw [if_neg full]
    have room : ¬maxContent ≤ (keyed (cut seen).current).kept.length := by
      rw [← length]
      exact full
    have inside : s.shell.lineLength < s.shell.lineBuffer.length := by
      rw [edits.memory]
      omega
    apply edits.key same
    · rw [length_set, edits.memory]
    · rw [Keyed.key, if_neg char, if_neg room]
      show (s.shell.lineBuffer.set s.shell.lineLength b).take (s.shell.lineLength + 1) =
        (keyed (cut seen).current).kept ++ [b]
      rw [← edits.kept, List.take_succ_eq_append_getElem (by rwa [length_set]), List.take_set_of_le (Nat.le_refl _),
        List.getElem_set_self]
    · rw [Keyed.key, if_neg char, if_neg room]
      show s.shell.lineLength + 1 = ((keyed (cut seen).current).kept ++ [b]).length
      rw [length_append, length]
      rfl
    · rw [Keyed.key, if_neg char, if_neg room]
      exact edits.overflow
    · intro i mem
      rcases List.mem_append.mp mem with mem | mem
      · exact edits.stores i mem
      · rw [List.mem_singleton.mp mem]
        omega

theorem onShell_received (f : Context → Context) : Keeps (fun s : System σ => s.received = seen) (onShell f) :=
  .modify fun _ same => same

theorem store_received (i : Nat) (c : UInt8) : Keeps (fun s : System σ => s.received = seen) (store i c) :=
  .modify fun _ same => same

theorem write_received (data : Text) : Keeps (fun s : System σ => s.received = seen) (write e data) :=
  .intro fun _ same => same

theorem writePrompt_received : Keeps (fun s : System σ => s.received = seen) (writePrompt e) :=
  Keeps.bind .read fun prompt => .onlyIf (write_received prompt)

theorem executeLine_received : Keeps (fun s : System σ => s.received = seen) (executeLine e) :=
  .intro fun _ same => same

theorem dispatchLine_received : Keeps (fun s : System σ => s.received = seen) (dispatchLine e) := by
  apply Keeps.bind (write_received _).ignore
  intro _
  apply Keeps.bind .read
  intro shell
  apply Keeps.ite
  · exact fun _ => (onShell_received _).bind fun _ => writePrompt_received
  · intro _
    apply (store_received _ _).bind
    intro _
    apply (onShell_received _).bind
    intro _
    exact executeLine_received.ignore.bind fun _ => writePrompt_received

theorem processByte_received (b : UInt8) : Keeps (fun s : System σ => s.received = seen) (processByte e b) := by
  apply Keeps.bind .read
  intro shell
  apply Keeps.ite fun _ => onShell_received _
  intro _
  apply (onShell_received _).bind
  intro _
  apply Keeps.ite fun _ => (onShell_received _).bind fun _ => dispatchLine_received
  intro _
  apply Keeps.ite fun _ => .onlyIf (onShell_received _)
  intro _
  exact .ite (fun _ => (onShell_received _).bind fun _ => .fail) fun _ => (store_received _ _).bind
    fun _ => onShell_received _

theorem processBytes_edits (edits : Edits seen s) : Edits (seen ++ bytes) (processBytes e bytes s).2 := by
  induction bytes generalizing seen s with
  | nil =>
    rw [append_nil]
    exact edits
  | cons b rest ih =>
    have next := ih (processByte_edits (e := e) edits b)
    rw [append_assoc] at next
    exact next

theorem processBytes_received : Keeps (fun s : System σ => s.received = seen) (processBytes e bytes) := by
  induction bytes with
  | nil => exact .pure
  | cons b rest ih => exact Keeps.bind (processByte_received b).ignore fun _ => ih

theorem process_edits (edits : Edits s.received s) : Edits (process e s).2.received (process e s).2 := by
  rw [process, read_bind]
  by_cases running : s.shell.state ≠ .running
  · rw [reject_bind_pos _ running]
    exact edits
  · rw [reject_bind_neg _ running, bind_run, receive, bind_run]
    rcases arrived : zoom System.outside (fun o s => { s with outside := o }) e.read s with ⟨code | chunk, s'⟩
    · obtain rfl : { s with outside := (e.read s.outside).2 } = s' := congrArg Prod.snd arrived
      exact edits.apart ⟨rfl, rfl, rfl, rfl⟩
    · obtain rfl : { s with outside := (e.read s.outside).2 } = s' := congrArg Prod.snd arrived
      have got : Edits s.received { s with outside := (e.read s.outside).2, received := s.received ++ chunk.val } := by
        obtain ⟨h1, h2, h3, h4, h5, h6, h7⟩ := edits
        exact ⟨h1, h2, h3, h4, h5, h6, h7⟩
      have after := processBytes_edits (e := e) chunk.val got
      have whole : (processBytes e chunk.val { s with
          outside := (e.read s.outside).2
          received := s.received ++ chunk.val }).2.received = s.received ++ chunk.val :=
        (processBytes_received chunk.val).after rfl
      show Edits (processBytes e chunk.val { s with
        outside := (e.read s.outside).2
        received := s.received ++ chunk.val }).2.received _
      rw [whole]
      exact after

theorem start_edits (prompt : Text) (memory : Vector UInt8 maxLineLength) (o : σ) :
    Edits (start e (.init prompt memory o)).2.received (start e (.init prompt memory o)).2 := by
  have fresh : Edits [] { (System.init prompt memory o) with shell := { Context.init prompt memory with state := .running } } := by
    refine ⟨memory.length_toList, rfl, rfl, rfl, rfl, rfl, ?_⟩
    exact fun i mem => absurd mem List.not_mem_nil
  have run : start e (.init prompt memory o) =
      writePrompt e { (System.init prompt memory o) with shell := { Context.init prompt memory with state := .running } } := rfl
  rw [run]
  have apart : Apart _ (writePrompt e { (System.init prompt memory o) with
    shell := { Context.init prompt memory with state := .running } }).2 := writePrompt_apart
  rw [apart.received]
  exact fresh.apart apart

theorem session_edits (prompt : Text) (memory : Vector UInt8 maxLineLength) (o : σ) (n : Nat) :
    Edits (session e prompt memory o n).received (session e prompt memory o n) := by
  induction n with
  | zero => exact start_edits prompt memory o
  | succ n ih =>
    rw [session, Function.iterate_succ_apply']
    exact process_edits ih

/-- The lines run are the reference editor's exactly on clean streams, and no store leaves the line
buffer. -/
theorem lines_as_edited (e : Env σ) (prompt : Text) (memory : Vector UInt8 maxLineLength) (o : σ) (n : Nat) :
    ((session e prompt memory o n).executed = referenceLines (session e prompt memory o n).received ↔
        Clean (session e prompt memory o n).received) ∧
      ∀ i ∈ (session e prompt memory o n).stores, i < maxLineLength := by
  have edits := session_edits (e := e) prompt memory o n
  refine ⟨?_, edits.stores⟩
  rw [edits.executed, referenceLines, filterMap_eq_iff _ fun keys => (sessionLine_eq_iff keys).2]
  exact forall₂_congr fun keys _ => (sessionLine_eq_iff keys).1

/-- A transport with these bytes to read, and no commands. -/
def sampleEnv : Env Text where
  read := fun bytes => (.ok ⟨bytes.take readChunkSize, List.length_take_le ..⟩, bytes.drop readChunkSize)
  write _ := pure ()
  commands _ := []

/-- One character too many, taken back again: the line is run without its last character. -/
theorem line_shortened :
    ∃ n, (session sampleEnv [] (.replicate _ 0) (List.replicate 128 0x61 ++ [backspace, carriageReturn]) n).executed ≠
      referenceLines (session sampleEnv [] (.replicate _ 0) (List.replicate 128 0x61 ++ [backspace, carriageReturn]) n).received := by
  refine ⟨9, ?_⟩
  decide +kernel

end XSDK.Shell
