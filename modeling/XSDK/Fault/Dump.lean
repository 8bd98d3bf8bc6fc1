import XSDK.Library.Call

/-! The text of a dump on its way through an output that takes what it likes of a buffer. -/
namespace XSDK.Fault

open Library Call
open List (append_assoc append_nil length_append length_cons length_drop)

def writeRetryLimit : Nat := 4

inductive DumpError
  | outputFailed
  | output (code : Nat)

/-- What the output answers, given the buffers it was offered so far, the last first. -/
structure Output where
  write : List (List UInt8) → Except Nat Nat
  flush : Option (List (List UInt8) → Except Nat Unit)

structure Port where
  offered : List (List UInt8)
  taken : List UInt8

variable (out : Output)

def outputWriteAll (text : List UInt8) (retryCount : Nat) (port : Port) : Except DumpError Unit × Port :=
  if text = [] then (.ok (), port)
  else
    let asked := { port with offered := text :: port.offered }
    match out.write asked.offered with
    | .error code => (.error (.output code), asked)
    | .ok bytesWritten =>
      if text.length < bytesWritten then (.error .outputFailed, asked)
      else if bytesWritten = 0 then
        if writeRetryLimit ≤ retryCount + 1 then (.error .outputFailed, asked)
        else outputWriteAll text (retryCount + 1) asked
      else outputWriteAll (text.drop bytesWritten) 0 { asked with taken := port.taken ++ text.take bytesWritten }
termination_by (text.length, writeRetryLimit - retryCount)
decreasing_by
  · exact Prod.Lex.right _ (by omega)
  · apply Prod.Lex.left
    rw [length_drop]
    exact Nat.sub_lt (List.length_pos_iff.mpr ‹_›) (Nat.pos_of_ne_zero ‹_›)

/-- The lines of a dump, up to the first that fails. -/
def dumpLines : List (List UInt8) → Call Port DumpError Unit
  | [] => pure ()
  | line :: rest => (outputWriteAll out line 0 : Call Port DumpError Unit) >>= fun _ => dumpLines rest

def dumpText (lines : List (List UInt8)) : Call Port DumpError Unit := do
  dumpLines out lines
  match out.flush with
  | none => pure ()
  | some flush => fun port => ((flush port.offered).mapError .output, port)

/-- A part of the text was taken from its start, all of it if the call ended well, in a bounded number of calls. -/
def Delivered (text : List UInt8) (retryCount : Nat) (port : Port) (ended : Except DumpError Unit × Port) : Prop :=
  ∃ sent rest, text = sent ++ rest ∧ ended.2.taken = port.taken ++ sent ∧ (ended.1 = .ok () ↔ rest = []) ∧
    ended.2.offered.length + (if text = [] then 0 else retryCount) ≤ port.offered.length + writeRetryLimit * text.length

theorem Delivered.refused {text : List UInt8} {retryCount : Nat} {port : Port} (nonempty : text ≠ [])
    (few : retryCount < writeRetryLimit) (e : DumpError) :
    Delivered text retryCount port (.error e, { port with offered := text :: port.offered }) := by
  have positive := List.length_pos_iff.mpr nonempty
  refine ⟨[], text, rfl, (append_nil _).symm, ⟨fun ok => ?_, fun none => absurd none nonempty⟩, ?_⟩
  · cases ok
  · simp only [if_neg nonempty, length_cons, writeRetryLimit] at few ⊢
    omega

theorem outputWriteAll_delivered (text : List UInt8) (retryCount : Nat) (port : Port) (few : retryCount < writeRetryLimit) :
    Delivered text retryCount port (outputWriteAll out text retryCount port) := by
  fun_induction outputWriteAll out text retryCount port with
  | case1 => exact ⟨[], [], rfl, (append_nil _).symm, ⟨fun _ => rfl, fun _ => rfl⟩, Nat.le_add_right ..⟩
  | case2 _ _ _ nonempty => exact .refused nonempty few _
  | case3 _ _ _ nonempty => exact .refused nonempty few _
  | case4 _ _ _ nonempty => exact .refused nonempty few _
  | case5 text retryCount port nonempty asked again _ _ ih =>
    obtain ⟨sent, rest, split, taken, whole, bound⟩ := ih (Nat.lt_of_not_le again)
    refine ⟨sent, rest, split, taken, whole, ?_⟩
    simp only [if_neg nonempty, asked, length_cons] at bound ⊢
    omega
  | case6 text retryCount port nonempty asked bytesWritten answer fits some ih =>
    obtain ⟨sent, rest, split, taken, whole, bound⟩ := ih (Nat.succ_pos 3)
    refine ⟨text.take bytesWritten ++ sent, rest, ?_, ?_, whole, ?_⟩
    · rw [append_assoc, ← split, List.take_append_drop]
    · rw [taken, append_assoc]
    · simp only [if_neg nonempty, asked, length_cons, length_drop, ite_self, writeRetryLimit] at bound few ⊢
      omega

theorem dumpLines_delivered (lines : List (List UInt8)) (port : Port) :
    Delivered lines.flatten 0 port (dumpLines out lines port) := by
  induction lines generalizing port with
  | nil => exact ⟨[], [], rfl, (append_nil _).symm, ⟨fun _ => rfl, fun _ => rfl⟩, Nat.le_add_right ..⟩
  | cons line lines ih =>
    obtain ⟨sent, rest, split, taken, whole, bound⟩ := outputWriteAll_delivered out line 0 port (Nat.succ_pos 3)
    rw [List.flatten_cons, dumpLines]
    rcases run : outputWriteAll out line 0 port with ⟨e | _, after⟩
    · rw [run] at taken whole bound
      have more : rest ≠ [] := fun none => (by cases whole.mpr none)
      rw [bind_error _ run]
      refine ⟨sent, rest ++ lines.flatten, ?_, taken, ⟨fun ok => (by cases ok), fun none => ?_⟩, ?_⟩
      · rw [split, append_assoc]
      · exact absurd (List.append_eq_nil_iff.mp none).1 more
      · simp only [ite_self, length_append, writeRetryLimit] at bound ⊢
        omega
    · rw [run] at taken whole bound
      obtain ⟨sent', rest', split', taken', whole', bound'⟩ := ih after
      cases whole.mp rfl
      rw [bind_ok _ run]
      refine ⟨line ++ sent', rest', ?_, ?_, whole', ?_⟩
      · rw [split', append_assoc]
      · rw [taken', taken, split, append_nil, append_assoc]
      · simp only [ite_self, length_append, writeRetryLimit] at bound bound' ⊢
        omega

/-- Whatever the output takes of each buffer, the dump arrives in order and without gaps. -/
theorem dump_delivered (lines : List (List UInt8)) (port : Port) :
    ∃ sent rest, lines.flatten = sent ++ rest ∧ (dumpText out lines port).2.taken = port.taken ++ sent ∧
      ((dumpText out lines port).1 = .ok () ↔
        rest = [] ∧ ∀ flush, out.flush = some flush → flush (dumpText out lines port).2.offered = .ok ()) ∧
      (dumpText out lines port).2.offered.length ≤ port.offered.length + writeRetryLimit * lines.flatten.length := by
  obtain ⟨sent, rest, split, taken, whole, bound⟩ := dumpLines_delivered out lines port
  rw [ite_self, Nat.add_zero] at bound
  refine ⟨sent, rest, split, ?_⟩
  rw [dumpText]
  rcases run : dumpLines out lines port with ⟨e | _, after⟩
  · rw [run] at taken whole bound
    rw [bind_error _ run]
    refine ⟨taken, ⟨fun ok => (by cases ok), fun all => ?_⟩, bound⟩
    cases whole.mpr all.1
  · rw [run] at taken whole bound
    rw [bind_ok _ run]
    cases out.flush with
    | none => exact ⟨taken, ⟨fun _ => ⟨whole.mp rfl, fun _ none => by cases none⟩, fun _ => rfl⟩, bound⟩
    | some flush =>
      refine ⟨taken, ⟨fun ok => ⟨whole.mp rfl, fun _ same => ?_⟩, fun all => ?_⟩, bound⟩
      · cases same
        cases answer : flush after.offered with
        | ok _ => rfl
        | error e =>
          dsimp only at ok
          rw [answer] at ok
          cases ok
      · have answer := all.2 flush rfl
        dsimp only at answer ⊢
        rw [answer]
        rfl

end XSDK.Fault
