import XSDK.Usbd.Registered

/-! Runs of registrations: what a call leaves, and that the maps and the class list stay
consistent in every run that registers no listed class again and whose failed registrations
took no interface string. -/
namespace XSDK.Usbd

open Library Library.Call
open Function (update update_self update_of_ne)

variable {s s' t : Stack} {c : ClassRef} {driver : Driver} {init : ClassRef → Init Unit} {l : List ClassRef}

def Blank (x : ClassContext) : Prop := { x with interfaceString := none } = ClassContext.zero

def Stack.prepared (s : Stack) (c : ClassRef) (driver : Driver) : Stack :=
  (s.classContextPrepareForRegistration c driver).setRegistering (some c)

def Stack.withdrawn (s : Stack) (c : ClassRef) (after : Stack) : Stack :=
  ((after.setRegistering none).rollback (classResourceSnapshotGet s.device) s.granted).classContextClearFailedRegistration c

def Stack.listed (after : Stack) (c : ClassRef) : Stack :=
  ((after.setRegistering none).classRegisterListAppend c).classRegisterLifecycleMark

/-- A registration that is let through to the driver. -/
structure Accepted (s : Stack) (ctx : Option ClassRef) (driver : Option Driver) (c : ClassRef)
    (init : ClassRef → Init Unit)
    (own : Driver) : Prop where
  ctx : ctx = some c
  driver : driver = some own
  init : own.initInstance = some init
  complete : own.hasBuildDescriptor = true
  early : s.device.isStarted = false

theorem classRegisterConfigValidate_cases (s : Stack) (ctx : Option ClassRef) (driver : Option Driver) :
    (∃ e, classRegisterConfigValidate ctx driver s = (.error e, s)) ∨
    ∃ c own init, Accepted s ctx driver c init own ∧
    classRegisterConfigValidate ctx driver s = (.ok (c, own, init), s) := by
  cases ctx with
  | none => exact .inl ⟨_, rfl⟩
  | some c =>
    cases driver with
    | none => exact .inl ⟨_, rfl⟩
    | some own =>
      rw [classRegisterConfigValidate, read_bind]
      by_cases late : s.device.isStarted = true
      · rw [reject_bind_pos _ late]
        exact .inl ⟨_, rfl⟩
      rw [reject_bind_neg _ late]
      have early := Bool.eq_false_iff.mpr late
      obtain ⟨init, complete⟩ := own
      cases init with
      | none => exact .inl ⟨_, rfl⟩
      | some init =>
        cases complete with
        | false => exact .inl ⟨_, rfl⟩
        | true => exact .inr ⟨c, ⟨some init, true⟩, init, ⟨rfl, rfl, rfl, rfl, early⟩, rfl⟩

theorem classRegister_cases (s : Stack) (ctx : Option ClassRef) (driver : Option Driver) :
    (∃ e, classRegister ctx driver s = (.error e, s)) ∨
    ∃ c own init, Accepted s ctx driver c init own ∧
      ((∃ e after, (init c).run (s.prepared c own) = (.error e, after) ∧
          classRegister ctx driver s = (.error e, s.withdrawn c after)) ∨
        ∃ after, (init c).run (s.prepared c own) = (.ok (), after) ∧
          classRegister ctx driver s = (.ok (), after.listed c)) := by
  rcases classRegisterConfigValidate_cases s ctx driver with ⟨e, run⟩ | ⟨c, own, init, accepted, run⟩
  · exact .inl ⟨e, bind_error _ run⟩
  · refine .inr ⟨c, own, init, accepted, ?_⟩
    rw [classRegister, bind_ok _ run]
    dsimp only
    rw [read_bind, read_bind, modify_bind, modify_bind, attempt_bind, modify_bind]
    rcases ran : (init c).run (s.prepared c own) with ⟨e | u, after⟩
    · left
      refine ⟨e, after, rfl, ?_⟩
      rw [Stack.prepared] at ran
      rw [ran]
      rfl
    · right
      refine ⟨after, rfl, ?_⟩
      rw [Stack.prepared] at ran
      rw [ran]
      rfl

/-! ### The class list -/

structure Sound (l : List ClassRef) (s : Stack) : Prop where
  chain : Chain s.next s.device.classListHead l
  tail : s.device.classListTail = l.getLast?
  routed : Routed (· ∈ l) s
  idle : s.device.registeringClass = none
  attached : ∀ c, (s.contexts c).hasDevice = true ↔ c ∈ l
  unlisted : ∀ c, c ∉ l → Blank (s.contexts c)

theorem Registry.unhanded_init (n : Number) : ¬ Registry.init.Handed n := by
  intro handed
  cases n with
  | interface n => exact Nat.not_lt_zero n handed
  | endpoint a =>
    rcases handed with ⟨low, high⟩ | ⟨low, high⟩
    · exact absurd low (Nat.not_lt.mpr (Nat.le_of_lt_succ high))
    · exact absurd low (Nat.not_lt.mpr (Nat.le_of_lt_succ high))
  | string n =>
    obtain ⟨low, high⟩ := handed
    exact absurd low (Nat.not_lt.mpr (Nat.le_of_lt_succ high))

theorem Sound.start : Sound [] Stack.init where
  chain := rfl
  tail := rfl
  routed := by
    constructor
    · constructor <;> decide
    · intro n
      constructor
      · intro handed
        exact absurd handed (Registry.unhanded_init n)
      · rintro ⟨_, mem⟩
        exact absurd mem List.not_mem_nil
    · exact List.nodup_nil
    · intro slot c
      cases slot <;> simp [Registry.entry, Stack.init, Registry.init]
    · exact fun _ _ mem => absurd mem List.not_mem_nil
  idle := rfl
  attached c := by simp [Stack.init, ClassContext.zero]
  unlisted _ _ := rfl

theorem Routed.congr {P : ClassRef → Prop} (routed : Routed P s) (entry : s'.device.entry = s.device.entry)
    (counters : classResourceSnapshotGet s'.device = classResourceSnapshotGet s.device)
    (granted : s'.granted = s.granted) : Routed P s' := by
  simp only [classResourceSnapshotGet, Snapshot.mk.injEq] at counters
  obtain ⟨interface, inEp, outEp, string⟩ := counters
  have handed : ∀ n, s'.device.Handed n ↔ s.device.Handed n := by
    intro n
    cases n with
    | interface n => rw [Registry.Handed, Registry.Handed, interface]
    | endpoint a => rw [Registry.Handed, Registry.Handed, inEp, outEp]
    | string n => rw [Registry.Handed, Registry.Handed, string]
  have bounded := routed.bounded
  constructor
  · constructor
    · rw [interface]
      exact bounded.interface
    · rw [inEp]
      exact bounded.inLow
    · rw [inEp]
      exact bounded.inHigh
    · rw [outEp]
      exact bounded.outLow
    · rw [outEp]
      exact bounded.outHigh
    · rw [string]
      exact bounded.stringLow
    · rw [string]
      exact bounded.stringHigh
  · intro n
    rw [handed, granted]
    exact routed.handed n
  · rw [granted]
    exact routed.once
  · rw [entry, granted]
    exact routed.entries
  · rw [granted]
    exact routed.owners

variable {x y : ClassContext}

theorem core_next (same : x.core = y.core) : x.next = y.next := by
  have field := congrArg ClassContext.next same
  exact field

theorem Blank.congr (blank : Blank y) (same : x.core = y.core)
    (index : x.interfaceStringIndex = y.interfaceStringIndex) : Blank x := by
  obtain ⟨next, driver, hasDevice, firstInterface, epMps, name, i⟩ := x
  obtain ⟨next', driver', hasDevice', firstInterface', epMps', name', i'⟩ := y
  simp only [ClassContext.core, ClassContext.mk.injEq] at same
  simp only [Blank, ClassContext.zero, ClassContext.mk.injEq] at blank ⊢
  simp_all

namespace Sound

theorem perform (sound : Sound l s) (op : ClassCall) : Sound l (op.perform s).2 := by
  rcases perform_cases op sound.routed.bounded with renamed | ⟨n, c, hands, owner⟩
  · constructor
    · rw [renamed.device]
      exact sound.chain.congr fun x _ => core_next (renamed.contexts x)
    · rw [renamed.device]
      exact sound.tail
    · exact sound.routed.renamed renamed
    · rw [renamed.device]
      exact sound.idle
    · exact fun x => by rw [core_hasDevice (renamed.contexts x), sound.attached]
    · exact fun x absent => (sound.unlisted x absent).congr (renamed.contexts x) (renamed.index x)
  · have mem : c ∈ l := by
      rcases owner with registering | hasDevice
      · rw [sound.idle] at registering
        cases registering
      · exact (sound.attached c).mp hasDevice
    constructor
    · rw [hands.same.classListHead]
      exact sound.chain.congr fun x _ => core_next (hands.contexts x)
    · rw [hands.same.classListTail]
      exact sound.tail
    · exact sound.routed.hands hands mem
    · rw [hands.registering]
      exact sound.idle
    · exact fun x => by rw [core_hasDevice (hands.contexts x), sound.attached]
    · intro x absent
      have noDevice : (s.contexts x).hasDevice = false := by
        rw [← Bool.not_eq_true, sound.attached]
        exact absent
      exact (sound.unlisted x absent).congr (hands.contexts x) (hands.index x noDevice)

theorem prepared_contexts (s : Stack) (c : ClassRef) (driver : Driver) {x : ClassRef} (other : x ≠ c) :
    (s.prepared c driver).contexts x = s.contexts x := update_of_ne other _ _

theorem prepared_own (s : Stack) (c : ClassRef) (driver : Driver) :
    (s.prepared c driver).contexts c = { s.contexts c with
      driver := some driver
      hasDevice := true
      next := none
      firstInterface := s.device.nextInterface } := update_self _ _ _

theorem grown (sound : Sound l s) {α : Type} (init : Init α) :
    Grown (fun x => x ∈ l ∨ x = c) (s.prepared c driver) (init.run (s.prepared c driver)).2 := by
  apply Init.run_grown
  · rintro x (registering | hasDevice)
    · exact .inr (Option.some.inj registering).symm
    · by_cases own : x = c
      · exact .inr own
      · rw [prepared_contexts s c driver own] at hasDevice
        exact .inl ((sound.attached x).mp hasDevice)
  · apply Grown.refl
    have routed : Routed (· ∈ l) (s.prepared c driver) := sound.routed.congr rfl rfl rfl
    exact routed.mono fun x mem => .inl mem

variable {after : Stack}

theorem withdrawn_device (sound : Sound l s) (grown : Grown (fun x => x ∈ l ∨ x = c) (s.prepared c driver) after) :
    (s.withdrawn c after).device = s.device := by
  have routed : Routed (fun x => x ∈ l ∨ x = c) (after.setRegistering none) := grown.routed.congr rfl rfl rfl
  apply classResourceRollback_eq sound.routed routed.bounded
  · exact ⟨grown.spread.more, grown.spread.entry, ⟨grown.spread.same.isStarted, grown.spread.same.lifecycleState,
      grown.spread.same.classListHead, grown.spread.same.classListTail⟩⟩
  · exact sound.idle.symm

theorem withdrawn_other {x : ClassRef} (other : x ≠ c) : (s.withdrawn c after).contexts x = after.contexts x :=
  update_of_ne other _ _

theorem withdrawn_contexts (sound : Sound l s) (fresh : c ∉ l)
    (grown : Grown (fun x => x ∈ l ∨ x = c) (s.prepared c driver) after)
    (unnamed : ∀ x, (after.contexts x).interfaceStringIndex = (s.contexts x).interfaceStringIndex) (x : ClassRef) :
    ((s.withdrawn c after).contexts x).core = (s.contexts x).core ∧
      ((s.withdrawn c after).contexts x).interfaceStringIndex = (s.contexts x).interfaceStringIndex := by
  by_cases own : x = c
  · subst own
    have blank := sound.unlisted x fresh
    have core := grown.contexts x
    rw [prepared_own] at core
    have index := unnamed x
    have cleared : (s.withdrawn x after).contexts x =
        { after.contexts x with driver := none, hasDevice := false, next := none, firstInterface := 0 } :=
      update_self _ _ _
    rw [cleared]
    simp only [ClassContext.core, ClassContext.mk.injEq] at core
    simp only [Blank, ClassContext.zero, ClassContext.mk.injEq] at blank
    simp only [ClassContext.core, ClassContext.mk.injEq]
    simp_all
  · rw [withdrawn_other own]
    have core := grown.contexts x
    rw [prepared_contexts s c driver own] at core
    exact ⟨core, unnamed x⟩

theorem withdrawn (sound : Sound l s) (fresh : c ∉ l)
    (grown : Grown (fun x => x ∈ l ∨ x = c) (s.prepared c driver) after)
    (unnamed : ∀ x, (after.contexts x).interfaceStringIndex = (s.contexts x).interfaceStringIndex) :
    Sound l (s.withdrawn c after) := by
  have device := sound.withdrawn_device grown
  have contexts := sound.withdrawn_contexts fresh grown unnamed
  constructor
  · rw [device]
    exact sound.chain.congr fun x _ => core_next (contexts x).1
  · rw [device]
    exact sound.tail
  · apply sound.routed.congr
    · rw [device]
    · rw [device]
    · rfl
  · rw [device]
    exact sound.idle
  · exact fun x => by rw [core_hasDevice (contexts x).1, sound.attached]
  · exact fun x absent => (sound.unlisted x absent).congr (contexts x).1 (contexts x).2

theorem listed_contexts (x : ClassRef) : ∃ next, (after.listed c).contexts x = { after.contexts x with next := next } ∧
    (after.device.classListTail ≠ some x → next = (after.contexts x).next) := by
  have mark : (after.listed c).contexts = ((after.setRegistering none).classRegisterListAppend c).contexts := by
    rw [Stack.listed, Stack.classRegisterLifecycleMark]
    split <;> rfl
  rw [mark, Stack.classRegisterListAppend]
  split
  · exact ⟨_, rfl, fun _ => rfl⟩
  · next tail last =>
    by_cases own : x = tail
    · subst own
      exact ⟨some c, update_self _ _ _, fun other => absurd last other⟩
    · exact ⟨_, update_of_ne own _ _, fun _ => rfl⟩

theorem listed (sound : Sound l s) (fresh : c ∉ l)
    (grown : Grown (fun x => x ∈ l ∨ x = c) (s.prepared c driver) after) : Sound (l ++ [c]) (after.listed c) := by
  have core : ∀ x, x ≠ c → (after.contexts x).core = (s.contexts x).core := by
    intro x other
    have core := grown.contexts x
    rwa [prepared_contexts s c driver other] at core
  have head : after.device.classListHead = s.device.classListHead := grown.spread.same.classListHead
  have tail : after.device.classListTail = l.getLast? := grown.spread.same.classListTail.trans sound.tail
  have chain : Chain after.next after.device.classListHead l := by
    rw [head]
    exact sound.chain.congr fun x mem => core_next (core x fun same => fresh (same ▸ mem))
  have last : after.next c = none := by
    have own := grown.contexts c
    rw [prepared_own] at own
    exact core_next own
  have mark : (after.listed c).device.classListHead =
      ((after.setRegistering none).classRegisterListAppend c).device.classListHead ∧
      (after.listed c).device.classListTail = ((after.setRegistering none).classRegisterListAppend c).device.classListTail ∧
      (after.listed c).next = ((after.setRegistering none).classRegisterListAppend c).next := by
    rw [Stack.listed, Stack.classRegisterLifecycleMark]
    split
    · exact ⟨rfl, rfl, rfl⟩
    · exact ⟨rfl, rfl, rfl⟩
  have linked : Chain (after.listed c).next (after.listed c).device.classListHead (l ++ [c]) ∧
      (after.listed c).device.classListTail = some c := by
    rw [mark.1, mark.2.1, mark.2.2]
    rcases List.eq_nil_or_concat l with rfl | ⟨xs, p, rfl⟩
    · have empty : (after.setRegistering none).device.classListTail = none := tail
      rw [Stack.classRegisterListAppend, empty]
      exact ⟨Chain.single last, rfl⟩
    · rw [List.concat_eq_append] at chain tail fresh ⊢
      have end_ : (after.setRegistering none).device.classListTail = some p := by
        rw [List.getLast?_concat] at tail
        exact tail
      rw [Stack.classRegisterListAppend, end_]
      refine ⟨?_, rfl⟩
      have next : ((after.setRegistering none).setContext p { after.contexts p with next := some c }).next =
          update after.next p (some c) := by
        funext x
        by_cases own : x = p
        · subst own
          simp [Stack.next, Stack.setContext]
        · simp [Stack.next, Stack.setContext, Stack.setRegistering, own]
      have grownChain := chain.snoc fresh last
      rw [← next] at grownChain
      exact grownChain
  constructor
  · exact linked.1
  · rw [linked.2, List.getLast?_concat]
  · have routed : Routed (· ∈ l ++ [c]) after := by
      apply grown.routed.mono
      intro x mem
      rcases mem with mem | rfl
      · exact List.mem_append_left _ mem
      · exact List.mem_append_right _ List.mem_cons_self
    apply routed.congr <;>
    · rw [Stack.listed, Stack.classRegisterLifecycleMark, Stack.classRegisterListAppend]
      split <;> split <;> rfl
  · rw [Stack.listed, Stack.classRegisterLifecycleMark, Stack.classRegisterListAppend]
    split <;> split <;> rfl
  · intro x
    obtain ⟨next, same, -⟩ := listed_contexts x
    rw [same]
    show (after.contexts x).hasDevice = true ↔ _
    by_cases own : x = c
    · subst own
      have core := grown.contexts x
      rw [prepared_own] at core
      rw [core_hasDevice core]
      simp
    · rw [core_hasDevice (core x own), sound.attached]
      simp [own]
  · intro x absent
    have absent' : x ∉ l := fun mem => absent (List.mem_append_left _ mem)
    have other : x ≠ c := fun same => absent (same ▸ List.mem_append_right _ List.mem_cons_self)
    have notLast : after.device.classListTail ≠ some x := by
      intro same
      rw [tail] at same
      exact absent' (List.mem_of_getLast? same)
    obtain ⟨next, same, keep⟩ := listed_contexts x
    have unchanged : (after.listed c).contexts x = after.contexts x := by
      rw [same, keep notLast]
    have noDevice : (s.contexts x).hasDevice = false := by
      rw [← Bool.not_eq_true, sound.attached]
      exact absent'
    have index := grown.index x
    rw [prepared_contexts s c driver other] at index
    rw [unchanged]
    exact (sound.unlisted x absent').congr (core x other) (index noDevice)

end Sound

end XSDK.Usbd
