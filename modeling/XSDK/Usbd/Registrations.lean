import XSDK.Usbd.ClassList

/-! Registration over whole runs: all or nothing, and consistent routing maps. -/
namespace XSDK.Usbd

open Library Library.Call
open Function (update)

variable {s s' t : Stack} {c : ClassRef} {l : List ClassRef}

/-! ### Names are not read -/

/-- The same state, but for the interface strings. -/
structure Alike (s t : Stack) : Prop where
  device : s.device = t.device
  granted : s.granted = t.granted
  contexts : ∀ x, { s.contexts x with interfaceString := none } = { t.contexts x with interfaceString := none }

section

variable (alike : Alike s t)
include alike

theorem Alike.index (x : ClassRef) : (s.contexts x).interfaceStringIndex = (t.contexts x).interfaceStringIndex := by
  have field := congrArg ClassContext.interfaceStringIndex (alike.contexts x)
  exact field

theorem Alike.hasDevice (x : ClassRef) : (s.contexts x).hasDevice = (t.contexts x).hasDevice := by
  have field := congrArg ClassContext.hasDevice (alike.contexts x)
  exact field

theorem Alike.setContext {x y : ClassContext}
    (same : { x with interfaceString := none } = { y with interfaceString := none }) (c : ClassRef) :
    Alike (s.setContext c x) (t.setContext c y) where
  device := alike.device
  granted := alike.granted
  contexts z := by
    by_cases own : z = c
    · subst own
      simpa [Stack.setContext] using same
    · simpa [Stack.setContext, own] using alike.contexts z

theorem Alike.change (c : ClassRef) (f : ClassContext → ClassContext)
    (blind : ∀ x y, ({ x with interfaceString := none } : ClassContext) = { y with interfaceString := none } →
      ({ f x with interfaceString := none } : ClassContext) = { f y with interfaceString := none }) :
    Alike (s.setContext c (f (s.contexts c))) (t.setContext c (f (t.contexts c))) :=
  alike.setContext (blind _ _ (alike.contexts c)) c

theorem Alike.device_change (f : Registry → Registry) :
    Alike { s with device := f s.device } { t with device := f t.device } :=
  ⟨congrArg f alike.device, alike.granted, alike.contexts⟩

end

theorem nonNull_respects (ctx : Option ClassRef) : Respects Alike (nonNull ctx) := by
  cases ctx with
  | none => exact .fail
  | some c => exact .pure

theorem registering_respects : Respects Alike registering := by
  apply Respects.readThen
  · intro s t alike
    rw [alike.device]
  · rintro (_ | c)
    · exact .fail
    · exact .pure

variable {ctx : Option ClassRef}

theorem allocate_respects {next : Registry → Nat} {exhausted : Nat → Bool}
    {hand : Nat → ClassRef → Stack → Stack} (handed : ∀ n c s t, Alike s t → Alike (hand n c s) (hand n c t)) :
    Respects Alike (allocate ctx next exhausted hand) := by
  apply (nonNull_respects ctx).bind
  intro c
  apply Respects.readThen fun s t alike => alike.hasDevice c
  intro hasDevice
  apply Respects.reject.bind
  intro _
  apply registering_respects.bind
  intro owner
  apply Respects.readThen
  · intro s t alike
    rw [alike.device]
  intro n
  apply Respects.reject.bind
  intro _
  exact (Respects.modify fun s t alike => handed n owner s t alike).bind fun _ => .pure

theorem handInterface_alike (n : Nat) (c : ClassRef) (s t : Stack) (alike : Alike s t) :
    Alike (s.handInterface n c) (t.handInterface n c) := by
  obtain ⟨device, granted, contexts⟩ := alike
  constructor
  · rw [Stack.handInterface, Stack.handInterface, device]
  · rw [Stack.handInterface, Stack.handInterface, granted]
  · exact contexts

theorem handInEp_alike (a : Nat) (c : ClassRef) (s t : Stack) (alike : Alike s t) :
    Alike (s.handInEp a c) (t.handInEp a c) := by
  obtain ⟨device, granted, contexts⟩ := alike
  constructor
  · rw [Stack.handInEp, Stack.handInEp, device]
  · rw [Stack.handInEp, Stack.handInEp, granted]
  · exact contexts

theorem handOutEp_alike (a : Nat) (c : ClassRef) (s t : Stack) (alike : Alike s t) :
    Alike (s.handOutEp a c) (t.handOutEp a c) := by
  obtain ⟨device, granted, contexts⟩ := alike
  constructor
  · rw [Stack.handOutEp, Stack.handOutEp, device]
  · rw [Stack.handOutEp, Stack.handOutEp, granted]
  · exact contexts

theorem handString_alike (n : Nat) (c : ClassRef) (s t : Stack) (alike : Alike s t) :
    Alike (s.handString n c) (t.handString n c) := by
  obtain ⟨device, granted, contexts⟩ := alike
  constructor
  · rw [Stack.handString, Stack.handString, device]
  · rw [Stack.handString, Stack.handString, granted]
  · exact contexts

theorem classSetInterfaceString_respects (ctx : Option ClassRef) (name : Option Text) :
    Respects Alike (classSetInterfaceString ctx name) := by
  apply (nonNull_respects ctx).bind
  intro c
  apply (Respects.modify fun s t alike => ?_).bind
  · intro _
    apply Respects.readThen fun s t alike => alike.index c
    intro index
    apply Respects.onlyIf
    apply Respects.readThen fun s t alike => alike.hasDevice c
    intro hasDevice
    apply Respects.readThen fun s t alike => alike.device
    intro d
    apply Respects.reject.bind
    intro _
    apply Respects.reject.bind
    intro _
    apply (Respects.modify fun s t alike => handString_alike _ _ _ _ alike).bind
    intro _
    apply Respects.modify
    intro s t alike
    apply alike.change c fun x => { x with interfaceStringIndex := d.nextStringIndex }
    intro x y same
    simp only [ClassContext.mk.injEq] at same ⊢
    simp only [same, and_self]
  · apply alike.change c fun x => { x with interfaceString := name }
    intro x y same
    exact same

theorem perform_respects (op : ClassCall) : Respects Alike op.perform := by
  cases op with
  | allocateInterface ctx => exact allocate_respects handInterface_alike
  | allocateString ctx => exact allocate_respects handString_alike
  | setInterfaceString ctx name => exact (classSetInterfaceString_respects ctx name).bind fun _ => .pure
  | allocateEndpoint ctx direction =>
    exact Respects.ite (allocate_respects handInEp_alike) (allocate_respects handOutEp_alike)

theorem Init.run_respects {α : Type} (init : Init α) : Respects Alike init.run := by
  induction init with
  | done result => exact .finish
  | call op next ih => exact (perform_respects op).attempt.bind ih

theorem prepare_alike (c : ClassRef) (driver : Driver) (s t : Stack) (alike : Alike s t) :
    Alike (s.classContextPrepareForRegistration c driver) (t.classContextPrepareForRegistration c driver) := by
  rw [Stack.classContextPrepareForRegistration, Stack.classContextPrepareForRegistration, alike.device]
  apply alike.change c fun x =>
    { x with driver := some driver, hasDevice := true, next := none, firstInterface := t.device.nextInterface }
  intro x y same
  simp only [ClassContext.mk.injEq] at same ⊢
  simp only [same, and_self]

theorem clearFailed_alike (c : ClassRef) (s t : Stack) (alike : Alike s t) :
    Alike (s.classContextClearFailedRegistration c) (t.classContextClearFailedRegistration c) := by
  apply alike.change c fun x => { x with driver := none, hasDevice := false, next := none, firstInterface := 0 }
  intro x y same
  simp only [ClassContext.mk.injEq] at same ⊢
  simp only [same, and_self]

theorem rollback_alike (start : Snapshot) (granted : List (Number × ClassRef)) (s t : Stack) (alike : Alike s t) :
    Alike (s.rollback start granted) (t.rollback start granted) :=
  ⟨congrArg (classResourceRollback start) alike.device, rfl, alike.contexts⟩

theorem listAppend_alike (c : ClassRef) (s t : Stack) (alike : Alike s t) :
    Alike (s.classRegisterListAppend c) (t.classRegisterListAppend c) := by
  rw [Stack.classRegisterListAppend, Stack.classRegisterListAppend, alike.device]
  split
  · exact ⟨rfl, alike.granted, alike.contexts⟩
  · next tail last =>
    have linked : Alike (s.setContext tail { s.contexts tail with next := some c })
        (t.setContext tail { t.contexts tail with next := some c }) := by
      apply alike.change tail fun x => { x with next := some c }
      intro x y same
      simp only [ClassContext.mk.injEq] at same ⊢
      simp only [same, and_self]
    exact ⟨rfl, linked.granted, linked.contexts⟩

theorem lifecycleMark_alike (s t : Stack) (alike : Alike s t) :
    Alike s.classRegisterLifecycleMark t.classRegisterLifecycleMark := by
  rw [Stack.classRegisterLifecycleMark, Stack.classRegisterLifecycleMark, alike.device]
  split
  · exact ⟨rfl, alike.granted, alike.contexts⟩
  · exact alike

theorem classRegisterConfigValidate_respects (ctx : Option ClassRef) (driver : Option Driver) :
    Respects Alike (classRegisterConfigValidate ctx driver) := by
  rcases ctx with _ | c
  · exact .fail
  rcases driver with _ | ⟨_ | init, complete⟩
  · exact .fail
  all_goals
    apply Respects.readThen
    · intro s t alike
      rw [alike.device]
    intro isStarted
    apply Respects.reject.bind
    intro _
  · exact .fail
  · cases complete with
    | false => exact .fail
    | true => exact .pure

theorem classRegister_respects (ctx : Option ClassRef) (driver : Option Driver) :
    Respects Alike (classRegister ctx driver) := by
  apply (classRegisterConfigValidate_respects ctx driver).bind
  rintro ⟨c, own, init⟩
  apply Respects.readThen
  · intro s t alike
    rw [alike.device]
  intro start
  apply Respects.readThen fun s t alike => alike.granted
  intro granted
  apply (Respects.modify (prepare_alike c own)).bind
  intro _
  apply (Respects.modify fun s t alike => alike.device_change fun d => { d with registeringClass := some c }).bind
  intro _
  apply (Init.run_respects (init c)).attempt.bind
  intro status
  apply (Respects.modify fun s t alike => alike.device_change fun d => { d with registeringClass := none }).bind
  intro _
  rcases status with e | _
  · apply (Respects.modify (rollback_alike start granted)).bind
    intro _
    exact (Respects.modify (clearFailed_alike c)).bind fun _ => .fail
  · apply (Respects.modify (listAppend_alike c)).bind
    exact fun _ => .modify lifecycleMark_alike

/-! ### Runs -/

inductive RegistrationInput
  | register (ctx : Option ClassRef) (driver : Option Driver)
  | call (op : ClassCall)

/-- Calls of xUSBD_Class_Register and, between them, of the string setter and the allocators. -/
def registrationMachine : Machine Stack RegistrationInput (Except Error Unit) where
  allowed _ _ := True
  step s
    | .register ctx driver => ((classRegister ctx driver s).2, (classRegister ctx driver s).1)
    | .call op => ((op.perform s).2, (op.perform s).1.map fun _ => ())

/-- The maps are defined exactly on the numbers handed out, each to one listed class, and the
list is acyclic and ends with its tail. -/
def Consistent (s : Stack) : Prop :=
  ∃ l, Chain s.next s.device.classListHead l ∧ l.Nodup ∧ s.device.classListTail = l.getLast? ∧ Routed (· ∈ l) s

/-- Another registration of the context goes as it would with a new one. -/
def RetriedAsFresh (c : ClassRef) (s : Stack) : Prop :=
  ∀ driver, (classRegister (some c) driver s).1 = (classRegister (some c) driver (s.setContext c .zero)).1 ∧
    Alike (classRegister (some c) driver s).2 (classRegister (some c) driver (s.setContext c .zero)).2

def AllOrNothing (tr : Transition Stack RegistrationInput (Except Error Unit)) : Prop :=
  ∀ ctx driver e, tr.input = .register ctx driver → tr.output = .error e →
    tr.post.device = tr.pre.device ∧
    (∀ l, Chain tr.pre.next tr.pre.device.classListHead l → Chain tr.post.next tr.post.device.classListHead l) ∧
    ∀ c, ctx = some c → RetriedAsFresh c tr.post

/-- No listed context is registered again, and a registration that fails gave no class its
string number. -/
def Orderly (s : Stack) : RegistrationInput → Prop
  | .call _ => True
  | .register none _ => True
  | .register (some c) driver =>
    (∀ l, Chain s.next s.device.classListHead l → c ∉ l) ∧
    ∀ own init e after, Accepted s (some c) driver c init own → (init c).run (s.prepared c own) = (.error e, after) →
      ∀ x, (after.contexts x).interfaceStringIndex = (s.contexts x).interfaceStringIndex

namespace Sound

theorem consistent (sound : Sound l s) : Consistent s := ⟨l, sound.chain, sound.chain.nodup, sound.tail, sound.routed⟩

theorem retriedAsFresh (sound : Sound l s) (fresh : c ∉ l) : RetriedAsFresh c s := by
  intro driver
  have blank := sound.unlisted c fresh
  apply classRegister_respects (some c) driver
  refine ⟨rfl, rfl, fun x => ?_⟩
  by_cases own : x = c
  · subst own
    rw [blank]
    simp [Stack.setContext, ClassContext.zero]
  · simp [Stack.setContext, own]

/-- One registration. -/
theorem register {driver : Option Driver} (sound : Sound l s) (orderly : Orderly s (.register ctx driver)) :
    (∃ l, Sound l (classRegister ctx driver s).2) ∧
    AllOrNothing (registrationMachine.take s (.register ctx driver)) := by
  rcases classRegister_cases s ctx driver with ⟨e, run⟩ | ⟨c, own, init, accepted, ends⟩
  · rw [run]
    refine ⟨⟨l, sound⟩, ?_⟩
    intro ctx' driver' e' input output
    cases input
    have post : (registrationMachine.take s (.register ctx driver)).post = s := by
      show (classRegister ctx driver s).2 = s
      rw [run]
    rw [post]
    refine ⟨rfl, fun l chain => chain, ?_⟩
    rintro c rfl
    exact sound.retriedAsFresh (orderly.1 l sound.chain)
  · obtain ⟨rfl, rfl, -, -, -⟩ := id accepted
    obtain ⟨unlisted, unnamed⟩ := orderly
    have fresh := unlisted l sound.chain
    have grown : Grown (fun x => x ∈ l ∨ x = c) (s.prepared c own) ((init c).run (s.prepared c own)).2 :=
      sound.grown (init c)
    rcases ends with ⟨e, after, ran, run⟩ | ⟨after, ran, run⟩
    · rw [ran] at grown
      have named := unnamed own init e after accepted ran
      have still := sound.withdrawn fresh grown named
      rw [run]
      refine ⟨⟨l, still⟩, ?_⟩
      intro ctx' driver' e' input output
      cases input
      have post : (registrationMachine.take s (.register (some c) (some own))).post = s.withdrawn c after := by
        show (classRegister (some c) (some own) s).2 = _
        rw [run]
      rw [post]
      refine ⟨sound.withdrawn_device grown, ?_, ?_⟩
      · intro l' chain
        have same := chain.unique sound.chain
        rw [same]
        exact still.chain
      · intro c' same
        cases same
        exact still.retriedAsFresh fresh
    · rw [ran] at grown
      rw [run]
      refine ⟨⟨l ++ [c], sound.listed fresh grown⟩, ?_⟩
      intro ctx' driver' e' input output
      cases input
      have ok : (registrationMachine.take s (.register (some c) (some own))).output = .ok () := by
        show (classRegister (some c) (some own) s).1 = _
        rw [run]
      rw [ok] at output
      cases output

end Sound

/-- In every orderly run the maps and the list are consistent in every state, and every failed
registration leaves no trace. -/
theorem registration_consistent {trace : List (Transition Stack RegistrationInput (Except Error Unit))}
    (run : registrationMachine.Run Stack.init trace s) (orderly : ∀ tr ∈ trace, Orderly tr.pre tr.input) :
    Consistent s ∧ ∀ tr ∈ trace, AllOrNothing tr := by
  have sound : (∃ l, Sound l s) ∧ ∀ tr ∈ trace, AllOrNothing tr := by
    induction run with
    | nil => exact ⟨⟨[], .start⟩, fun _ mem => absurd mem List.not_mem_nil⟩
    | @snoc trace s i run allowed ih =>
      obtain ⟨⟨l, sound⟩, earlier⟩ := ih fun tr mem => orderly tr (List.mem_append_left _ mem)
      have own : Orderly s i := orderly _ (List.mem_append_right _ List.mem_cons_self)
      have last : (∃ l, Sound l (registrationMachine.step s i).1) ∧ AllOrNothing (registrationMachine.take s i) := by
        cases i with
        | register ctx driver => exact sound.register own
        | call op => exact ⟨⟨l, sound.perform op⟩, fun _ _ _ input _ => nomatch input⟩
      refine ⟨last.1, fun tr mem => ?_⟩
      rcases List.mem_append.mp mem with mem | mem
      · exact earlier tr mem
      · rw [List.mem_singleton.mp mem]
        exact last.2
  obtain ⟨⟨l, sound⟩, all⟩ := sound
  exact ⟨sound.consistent, all⟩

variable (result : Except Error Unit)

/-- A class with an interface and an endpoint each way, whose init_instance ends as told. -/
def sampleDriver : Driver where
  initInstance := some fun c =>
    .call (.allocateInterface (some c)) fun _ =>
      .call (.allocateEndpoint (some c) 0x80) fun _ => .call (.allocateEndpoint (some c) 0x00) fun _ => .done result
  hasBuildDescriptor := true

def namingDriver : Driver where
  initInstance := some fun c => .call (.setInterfaceString (some c) (some [])) fun _ => .done result
  hasBuildDescriptor := true

def sampleInputs : List RegistrationInput :=
  [.register (some 0) (some (sampleDriver (.ok ()))), .register (some 1) (some (sampleDriver (.error .invalidConfiguration))),
    .register (some 1) (some (sampleDriver (.ok ())))]

theorem registration_consistent_sample :
    Consistent (registrationMachine.play Stack.init sampleInputs) ∧
      ∀ tr ∈ registrationMachine.transitions Stack.init sampleInputs, AllOrNothing tr := by
  apply registration_consistent
  · exact Machine.run_of_legal ⟨trivial, trivial, trivial, trivial⟩
  · have one : ∀ s : Stack, s.device.classListHead = some 0 → s.next 0 = none →
        ∀ l, Chain s.next s.device.classListHead l →
        1 ∉ l := by
      intro s head last l chain
      have listed : Chain s.next s.device.classListHead [0] := ⟨head, last⟩
      rw [chain.unique listed]
      decide
    simp only [sampleInputs, Machine.transitions, List.forall_mem_cons, List.not_mem_nil, false_implies, implies_true,
      and_true]
    refine ⟨⟨?_, ?_⟩, ⟨one _ rfl rfl, ?_⟩, ⟨one _ rfl rfl, ?_⟩⟩
    · intro l chain
      have empty : Chain Stack.init.next none [] := rfl
      rw [empty.unique chain |>.symm]
      exact List.not_mem_nil
    all_goals
      rintro own init e after ⟨-, driver, init, -, -⟩ ran x
      cases driver
      cases init
      cases ran
    by_cases own : x = 1
    · subst own
      rfl
    · exact congrArg ClassContext.interfaceStringIndex (Sound.prepared_contexts _ 1 (sampleDriver _) own)

theorem registration_broken :
    (∃ trace s, registrationMachine.Run Stack.init trace s ∧ ¬Consistent s) ∧
      ∃ trace s, registrationMachine.Run Stack.init trace s ∧ ∃ tr ∈ trace, ¬AllOrNothing tr := by
  constructor
  · let twice := [RegistrationInput.register (some 0) (some (sampleDriver (.ok ()))),
      .register (some 0) (some (sampleDriver (.ok ())))]
    refine ⟨_, registrationMachine.play Stack.init twice, Machine.run_of_legal ⟨trivial, trivial, trivial⟩, ?_⟩
    -- the context leads to itself
    rintro ⟨l, chain, nodup, -, -⟩
    have head : (registrationMachine.play Stack.init twice).device.classListHead = some 0 := rfl
    have next : (registrationMachine.play Stack.init twice).next 0 = some 0 := rfl
    rw [head] at chain
    rcases l with _ | ⟨a, _ | ⟨b, l⟩⟩
    · cases chain
    · obtain ⟨first, last⟩ := chain
      cases first
      rw [next] at last
      cases last
    · obtain ⟨first, second, -⟩ := chain
      cases first
      rw [next] at second
      cases second
      simp at nodup
  · let named := [RegistrationInput.register (some 0) (some (namingDriver (.error .invalidConfiguration)))]
    refine ⟨_, registrationMachine.play Stack.init named, Machine.run_of_legal ⟨trivial, trivial⟩, _, List.mem_cons_self, ?_⟩
    intro allOrNothing
    have retried := (allOrNothing _ _ _ rfl rfl).2.2 0 rfl (some (namingDriver (.ok ())))
    have counter := congrArg Registry.nextStringIndex retried.2.device
    exact absurd counter (by decide)

end XSDK.Usbd
