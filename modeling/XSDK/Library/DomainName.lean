import Mathlib.Data.List.Basic
import Mathlib.Data.List.TakeWhile

/-! Domain names as lists of labels, in text and on the wire: dots between the labels, or a
length before each of them and a zero at the end. -/
namespace XSDK.Library.DomainName

open List (length_append length_cons)

def dot : UInt8 := 0x2E

variable {text label bytes : List UInt8} {labels : List (List UInt8)}

/-- Labels that a length byte can announce. -/
def Valid (labels : List (List UInt8)) : Prop := ∀ label ∈ labels, 1 ≤ label.length ∧ label.length ≤ 63

/-- The parts between the dots, but for the empty one behind a dot at the end. -/
def labelsOf (text : List UInt8) : List (List UInt8) :=
  (if text.getLast? = some dot then text.dropLast else text).splitOn dot

def wire : List (List UInt8) → List UInt8
  | [] => [0]
  | label :: labels => UInt8.ofNat label.length :: (label ++ wire labels)

/-- The labels in front of a list of bytes, with what is behind them. Each takes two bytes at least. -/
def decode : Nat → List UInt8 → Option (List (List UInt8) × List UInt8)
  | _, [] => none
  | 0, _ :: _ => none
  | fuel + 1, len :: rest =>
    if len = 0 then some ([], rest)
    else if 63 < len.toNat ∨ rest.length < len.toNat then none
    else (decode fuel (rest.drop len.toNat)).map fun found => (rest.take len.toNat :: found.1, found.2)

theorem decode_wire (valid : Valid labels) {fuel : Nat} (enough : labels.length < fuel) :
    decode fuel (wire labels ++ bytes) = some (labels, bytes) := by
  induction labels generalizing fuel with
  | nil =>
    obtain ⟨fuel, rfl⟩ := Nat.exists_eq_succ_of_ne_zero (Nat.ne_of_gt enough)
    rfl
  | cons label labels ih =>
    obtain ⟨fuel, rfl⟩ := Nat.exists_eq_succ_of_ne_zero (Nat.ne_of_gt (Nat.zero_lt_of_lt enough))
    have sizes := valid label List.mem_cons_self
    have length : (UInt8.ofNat label.length).toNat = label.length := by
      rw [UInt8.toNat_ofNat']
      exact Nat.mod_eq_of_lt (by omega)
    have not_end : UInt8.ofNat label.length ≠ 0 := by
      intro zero
      rw [zero] at length
      have none_there : label.length = 0 := length.symm
      omega
    have fits : ¬(63 < label.length ∨ (label ++ (wire labels ++ bytes)).length < label.length) := by
      rw [length_append]
      omega
    rw [wire, List.cons_append, List.append_assoc, decode, if_neg not_end, length, if_neg fits, List.drop_left,
      ih (fun other mem => valid other (List.mem_cons_of_mem _ mem)) (Nat.lt_of_succ_lt_succ enough), List.take_left]
    rfl

theorem length_le_wire (labels : List (List UInt8)) : labels.length < (wire labels).length := by
  induction labels with
  | nil => exact Nat.one_pos
  | cons label labels ih =>
    rw [wire, length_cons, length_cons, length_append]
    omega

/- The text. -/

theorem length_wire_modifyHead (c : UInt8) (some_label : labels ≠ []) :
    (wire (labels.modifyHead (List.cons c))).length = (wire labels).length + 1 := by
  cases labels with
  | nil => exact absurd rfl some_label
  | cons label labels =>
    rw [List.modifyHead_cons, wire, wire, length_cons, length_cons, length_append, length_append, length_cons]
    omega

theorem length_wire_splitOn (text : List UInt8) : (wire (text.splitOn dot)).length = text.length + 2 := by
  induction text with
  | nil => rfl
  | cons c text ih =>
    rw [List.splitOn, List.splitOnP_cons_eq_if_modifyHead]
    split
    · change (wire (text.splitOn dot)).length + 1 = _
      rw [ih, length_cons]
    · rw [length_wire_modifyHead c (List.splitOnP_ne_nil _ _)]
      change (wire (text.splitOn dot)).length + 1 = _
      rw [ih, length_cons]

/-- A name takes two bytes more on the wire than in text, or one when the text ends with a dot. -/
theorem length_wire_labelsOf (text : List UInt8) :
    (wire (labelsOf text)).length = text.length + if text.getLast? = some dot then 1 else 2 := by
  rw [labelsOf, length_wire_splitOn]
  by_cases ends : text.getLast? = some dot
  · have some_text : text ≠ [] := by
      rintro rfl
      cases ends
    rw [if_pos ends, if_pos ends, List.length_dropLast]
    have pos := List.length_pos_iff.mpr some_text
    omega
  · rw [if_neg ends, if_neg ends]

theorem labelsOf_single (plain : ∀ c ∈ text, c ≠ dot) : labelsOf text = [text] := by
  have no_end : text.getLast? ≠ some dot := fun ends => plain dot (List.mem_of_getLast? ends) rfl
  rw [labelsOf, if_neg no_end]
  apply List.splitOnP_eq_singleton
  intro c mem
  exact beq_eq_false_iff_ne.mpr (plain c mem)

theorem labelsOf_cons (plain : ∀ c ∈ label, c ≠ dot) (text : List UInt8) :
    labelsOf (label ++ dot :: text) = label :: if text = [] then [] else labelsOf text := by
  have apart : ∀ c ∈ label, (c == dot) = false := fun c mem => beq_eq_false_iff_ne.mpr (plain c mem)
  have first (rest : List UInt8) : (label ++ dot :: rest).splitOn dot = label :: rest.splitOn dot :=
    List.splitOnP_append_cons_of_forall_mem apart dot (beq_self_eq_true dot) rest
  by_cases last : text = []
  · subst last
    have ends : (label ++ [dot]).getLast? = some dot := by rw [List.getLast?_append]; rfl
    rw [labelsOf, if_pos ends, if_pos rfl, List.dropLast_concat]
    exact List.splitOnP_eq_singleton apart
  · have same_end : (label ++ dot :: text).getLast? = text.getLast? := by
      rw [List.getLast?_append, List.getLast?_cons_of_ne_nil last]
      cases ends : text.getLast? with
      | none => exact absurd (List.getLast?_eq_none_iff.mp ends) last
      | some c => rfl
    rw [labelsOf, labelsOf, if_neg last, same_end]
    split
    · rw [List.dropLast_append_of_ne_nil (List.cons_ne_nil _ _), List.dropLast_cons_of_ne_nil last, first]
    · exact first text

theorem labelsOf_step (label rest : List UInt8) (first : label = text.takeWhile (· ≠ dot))
    (behind : rest = (text.drop label.length).drop 1) :
    labelsOf text = label :: (if rest = [] then [] else labelsOf rest) ∧
      (rest ≠ [] → text.length = label.length + 1 + rest.length) := by
  have plain : ∀ c ∈ label, c ≠ dot := by
    intro c mem
    rw [first] at mem
    exact of_decide_eq_true (List.mem_takeWhile_imp (p := fun c => decide (c ≠ dot)) mem)
  have split_text : text = label ++ text.dropWhile (· ≠ dot) := by
    rw [first, List.takeWhile_append_dropWhile]
  have tail : text.drop label.length = text.dropWhile (· ≠ dot) := by
    conv => lhs; rw [split_text, List.drop_left]
  rw [tail] at behind
  cases after : text.dropWhile (· ≠ dot) with
  | nil =>
    rw [after, List.append_nil] at split_text
    rw [after, List.drop_nil] at behind
    rw [if_pos behind, split_text]
    exact ⟨labelsOf_single plain, fun more => absurd behind more⟩
  | cons c more =>
    have at_dot : c = dot := by
      have head := List.head_dropWhile_not (l := text) (fun c => decide (c ≠ dot))
        (by rw [after]; exact List.cons_ne_nil _ _)
      simp only [after, List.head_cons] at head
      exact not_not.mp (of_decide_eq_false head)
    rw [after, at_dot] at split_text
    rw [after, List.drop_succ_cons, List.drop_zero] at behind
    rw [split_text, behind]
    refine ⟨labelsOf_cons plain more, fun _ => ?_⟩
    rw [length_append, length_cons]
    omega

end XSDK.Library.DomainName
