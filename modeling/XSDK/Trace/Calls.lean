import XSDK.Trace.Emit

/-! Every call is an event for the common prologue, or changes at most the filter. -/
namespace XSDK.Trace

open Library
open List (append_nil flatMap_cons flatMap_nil length_append)

variable {ctx ctx' : Context} {ts : UInt32} {c : Call}

theorem encode_printable {byte : UInt8} (printable : isPrintable byte = true) :
    Leb128.encode byte.toNat = [byte] := by
  have le : byte ≤ 0x7E := by
    simp only [isPrintable, Bool.not_eq_true', Bool.or_eq_false_iff, decide_eq_false_iff_not] at printable
    exact UInt8.not_lt.mp printable.2
  have small : byte.toNat ≤ 126 := UInt8.le_iff_toNat_le.mp le
  rw [Leb128.encode_of_lt (by omega), UInt8.ofNat_toNat]

variable {e : Event} {name : List UInt8}

theorem flatMap_printable (printable : name.all isPrintable = true) :
    (name.map (·.toNat)).flatMap Leb128.encode = name := by
  induction name with
  | nil => rfl
  | cons byte name ih =>
    rw [List.all_cons, Bool.and_eq_true] at printable
    rw [List.map_cons, flatMap_cons, encode_printable printable.1, ih printable.2]
    rfl

theorem extraBytes_eq (event : c.event = some e) : c.extraBytes = word32 e.paramBytes.length := by
  cases c with
  | emit0 eventId =>
    cases event
    rfl
  | emit1 eventId a =>
    cases event
    have size := leb128Size_word a
    simp only [leb128Size] at size
    simp only [Call.extraBytes, Event.paramBytes, flatMap_cons, flatMap_nil, append_nil,
      Leb128.length_encode, leb128Size]
    exact (word32_of_lt (by omega)).symm
  | emit2 eventId a b =>
    cases event
    have size_a := leb128Size_word a
    have size_b := leb128Size_word b
    simp only [leb128Size] at size_a size_b
    simp only [Call.extraBytes, Event.paramBytes, flatMap_cons, flatMap_nil, append_nil,
      length_append, Leb128.length_encode, leb128Size]
    exact (word32_of_lt (by omega)).symm
  | emit3 eventId a b c =>
    cases event
    have size_a := leb128Size_word a
    have size_b := leb128Size_word b
    have size_c := leb128Size_word c
    simp only [leb128Size] at size_a size_b size_c
    simp only [Call.extraBytes, Event.paramBytes, flatMap_cons, flatMap_nil, append_nil,
      length_append, Leb128.length_encode, leb128Size, ← Nat.add_assoc]
    exact (word32_of_lt (by omega)).symm
  | emitName eventId objType objId name =>
    simp only [Call.event] at event
    split at event
    · next printable =>
      cases event
      simp only [Call.extraBytes, nameExtra, Event.paramBytes, List.flatMap_append, flatMap_printable printable,
        flatMap_cons, flatMap_nil, append_nil, length_append, Leb128.length_encode,
        leb128Size, ← Nat.add_assoc]
    · cases event
  | _ => cases event

def Call.nameLength : Call → Nat
  | .emitName _ _ _ name => (cString name).length
  | _ => 0

theorem take_printable (printable : name.all isPrintable = true) (n : Nat) :
    (name.take n).all isPrintable = true := by
  rw [List.all_eq_true] at printable ⊢
  exact fun byte mem => printable byte (List.mem_of_mem_take mem)

theorem run_eq (event : c.event = some e) (short : c.nameLength < 2 ^ 32) :
    c.run ctx ts =
      (emitStart ctx ts e.eventId c.extraBytes).map (onStarted fun ctx => ringPutAll ctx e.paramBytes) := by
  cases c with
  | emit0 eventId =>
    cases event
    rfl
  | emit1 eventId a =>
    cases event
    simp only [Event.paramBytes, flatMap_cons, flatMap_nil, append_nil]
    rfl
  | emit2 eventId a b =>
    cases event
    simp only [Event.paramBytes, flatMap_cons, flatMap_nil, append_nil, ringPutAll_append]
    rfl
  | emit3 eventId a b c =>
    cases event
    simp only [Event.paramBytes, flatMap_cons, flatMap_nil, append_nil, ringPutAll_append]
    rfl
  | emitName eventId objType objId name =>
    simp only [Call.event] at event
    split at event
    · next printable =>
      cases event
      have bytes : Event.paramBytes ⟨eventId, [objType.toNat, objId.toNat, (cString name).length] ++
          (cString name).map (·.toNat)⟩ = Leb128.encode objType.toNat ++ (Leb128.encode objId.toNat ++
            (Leb128.encode (cString name).length ++ cString name)) := by
        simp [Event.paramBytes, flatMap_printable printable]
      have long : ¬ (cString name).length ≥ 2 ^ 32 := Nat.not_le_of_lt short
      simp only [Call.run, emitName]
      rw [take_printable printable, if_neg (by decide), if_neg long, bytes]
      simp only [ringPutAll_append, ringPutLeb128]
      rfl
    · cases event
  | _ => cases event

/-- The search for the end of a name that is too long never comes to an end. -/
theorem short_of_run (event : c.event = some e) (run : c.run ctx ts = some ctx') : c.nameLength < 2 ^ 32 := by
  cases c with
  | emitName eventId objType objId name =>
    simp only [Call.event] at event
    split at event
    · next printable =>
      simp only [Call.run, emitName] at run
      rw [take_printable printable, if_neg (by decide)] at run
      split at run
      · cases run
      · next short => exact Nat.lt_of_not_le short
    · cases event
  | _ => exact Nat.two_pow_pos 32

theorem run_event (event : c.event = some e) (run : c.run ctx ts = some ctx') :
    (emitStart ctx ts e.eventId c.extraBytes).map (onStarted fun ctx => ringPutAll ctx e.paramBytes) = some ctx' := by
  rw [← run_eq event (short_of_run event run)]
  exact run

theorem run_quiet (quiet : c.event = none) (run : c.run ctx ts = some ctx') :
    ctx' = { ctx with enabledEventsMask := ctx'.enabledEventsMask } := by
  cases c with
  | emitName eventId objType objId name =>
    simp only [Call.event] at quiet
    split at quiet
    · cases quiet
    · next unprintable =>
      simp only [Call.run, emitName] at run
      split at run
      · cases run
        rfl
      · next printable =>
        split at run
        · cases run
        · next short =>
          rw [List.take_of_length_le (by omega)] at printable
          simp only [Bool.not_eq_true', Bool.not_eq_false] at printable
          exact absurd printable unprintable
  | filterEnableEvent eventId =>
    cases run
    rw [filterEnableEvent]
    split <;> rfl
  | filterDisableEvent eventId =>
    cases run
    rw [filterDisableEvent]
    split <;> rfl
  | filterEnableAll =>
    cases run
    rfl
  | filterDisableAll =>
    cases run
    rfl
  | filterEnableModule moduleBase =>
    cases run
    rw [filterEnableModule]
    split <;> rfl
  | filterDisableModule moduleBase =>
    cases run
    rw [filterDisableModule]
    split <;> rfl
  | _ => cases quiet

end XSDK.Trace
