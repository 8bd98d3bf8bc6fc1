import XSDK.Usbd.Registration

/-! What an allocator call and a whole init_instance can do to the routing maps, and that the
roll-back undoes it. -/
namespace XSDK.Usbd

open Library Library.Call
open Function (update update_self update_of_ne)

/-- An entry of one of the three maps. -/
inductive Slot
  | interface (i : Nat)
  | endpoint (i : Nat)
  | string (i : Nat)
  deriving DecidableEq

def Number.slot : Number → Slot
  | .interface n => .interface n
  | .endpoint a => .endpoint (endpointMapIndex a)
  | .string n => .string n

namespace Registry

def entry (d : Registry) : Slot → Option ClassRef
  | .interface i => d.interfaceToClass i
  | .endpoint i => d.endpointToClass i
  | .string i => d.stringToClass i

def Handed (d : Registry) : Number → Prop
  | .interface n => n < d.nextInterface
  | .endpoint a => 0x80 < a ∧ a < d.nextInEp ∨ 0 < a ∧ a < d.nextOutEp
  | .string n => serialStringIndex < n ∧ n < d.nextStringIndex

structure Bounded (d : Registry) : Prop where
  interface : d.nextInterface ≤ 16
  inLow : 0x81 ≤ d.nextInEp
  inHigh : d.nextInEp ≤ 0x90
  outLow : 0x01 ≤ d.nextOutEp
  outHigh : d.nextOutEp ≤ 0x10
  stringLow : 4 ≤ d.nextStringIndex
  stringHigh : d.nextStringIndex ≤ 32

structure Same (d d' : Registry) : Prop where
  isStarted : d'.isStarted = d.isStarted
  lifecycleState : d'.lifecycleState = d.lifecycleState
  classListHead : d'.classListHead = d.classListHead
  classListTail : d'.classListTail = d.classListTail

theorem Same.refl (d : Registry) : Same d d := ⟨rfl, rfl, rfl, rfl⟩

theorem Same.trans {d d' d'' : Registry} (h : Same d d') (h' : Same d' d'') : Same d d'' :=
  ⟨h'.isStarted.trans h.isStarted, h'.lifecycleState.trans h.lifecycleState, h'.classListHead.trans h.classListHead,
    h'.classListTail.trans h.classListTail⟩

end Registry

namespace Registry

variable {d d' : Registry} {i : Nat} {v : Option ClassRef}

theorem entry_interface (own : d'.interfaceToClass = update d.interfaceToClass i v)
    (endpoints : d'.endpointToClass = d.endpointToClass) (strings : d'.stringToClass = d.stringToClass) :
    d'.entry = update d.entry (.interface i) v := by
  funext slot
  cases slot with
  | interface j => by_cases same : j = i <;> simp [entry, own, same, Function.update]
  | endpoint j => simp [entry, endpoints, Function.update]
  | string j => simp [entry, strings, Function.update]

theorem entry_endpoint (own : d'.endpointToClass = update d.endpointToClass i v)
    (interfaces : d'.interfaceToClass = d.interfaceToClass) (strings : d'.stringToClass = d.stringToClass) :
    d'.entry = update d.entry (.endpoint i) v := by
  funext slot
  cases slot with
  | interface j => simp [entry, interfaces, Function.update]
  | endpoint j => by_cases same : j = i <;> simp [entry, own, same, Function.update]
  | string j => simp [entry, strings, Function.update]

theorem entry_string (own : d'.stringToClass = update d.stringToClass i v)
    (interfaces : d'.interfaceToClass = d.interfaceToClass) (endpoints : d'.endpointToClass = d.endpointToClass) :
    d'.entry = update d.entry (.string i) v := by
  funext slot
  cases slot with
  | interface j => simp [entry, interfaces, Function.update]
  | endpoint j => simp [entry, endpoints, Function.update]
  | string j => by_cases same : j = i <;> simp [entry, own, same, Function.update]

end Registry

variable {s s' t : Stack} {c : ClassRef} {n m : Number} {P : ClassRef → Prop}

theorem slot_injective {d : Registry} (bounded : d.Bounded) (hn : d.Handed n) (hm : d.Handed m)
    (same : n.slot = m.slot) :
    n = m := by
  cases n with
  | interface n =>
    cases m with
    | interface m =>
      injection same with same
      rw [same]
    | endpoint _ => cases same
    | string _ => cases same
  | string n =>
    cases m with
    | string m =>
      injection same with same
      rw [same]
    | endpoint _ => cases same
    | interface _ => cases same
  | endpoint a =>
    cases m with
    | interface _ => cases same
    | string _ => cases same
    | endpoint b =>
      injection same with same
      have inHigh := bounded.inHigh
      have outHigh := bounded.outHigh
      have index : ∀ x, d.Handed (.endpoint x) → endpointMapIndex x = (if 0x80 < x then x - 0x70 else x) := by
        rintro x (⟨low, high⟩ | ⟨low, high⟩)
        · have split : x = 0x80 + (x - 0x80) := by omega
          rw [if_pos low, split, endpointMapIndex_in _ (by omega)]
          omega
        · rw [if_neg (by omega), endpointMapIndex_out _ (by omega)]
          omega
      rw [index a hn, index b hm] at same
      have limits : ∀ x, d.Handed (.endpoint x) → 0x80 < x ∧ x < 0x90 ∨ 0 < x ∧ x < 0x10 := by
        rintro x (⟨low, high⟩ | ⟨low, high⟩)
        · exact .inl ⟨low, by omega⟩
        · exact .inr ⟨low, by omega⟩
      have la := limits a hn
      have lb := limits b hm
      congr 1
      split at same <;> split at same <;> omega

structure Hands (s s' : Stack) (n : Number) (c : ClassRef) : Prop where
  fresh : ¬s.device.Handed n
  handed : ∀ m, s'.device.Handed m ↔ s.device.Handed m ∨ m = n
  entry : s'.device.entry = update s.device.entry n.slot (some c)
  granted : s'.granted = (n, c) :: s.granted
  bounded : s'.device.Bounded
  same : s.device.Same s'.device
  registering : s'.device.registeringClass = s.device.registeringClass
  contexts : ∀ x, (s'.contexts x).core = (s.contexts x).core
  index : ∀ x, (s.contexts x).hasDevice = false →
    (s'.contexts x).interfaceStringIndex = (s.contexts x).interfaceStringIndex

structure Renamed (s s' : Stack) : Prop where
  device : s'.device = s.device
  granted : s'.granted = s.granted
  contexts : ∀ x, (s'.contexts x).core = (s.contexts x).core
  index : ∀ x, (s'.contexts x).interfaceStringIndex = (s.contexts x).interfaceStringIndex

theorem Renamed.refl (s : Stack) : Renamed s s := ⟨rfl, rfl, fun _ => rfl, fun _ => rfl⟩

theorem handInterface_hands (bounded : s.device.Bounded) (room : s.device.nextInterface < 16) :
    Hands s (s.handInterface s.device.nextInterface c) (.interface s.device.nextInterface) c where
  fresh := Nat.lt_irrefl _
  handed m := by
    cases m with
    | interface m =>
      have next : (s.device.nextInterface + 1) % 256 = s.device.nextInterface + 1 := by omega
      simp only [Registry.Handed, Stack.handInterface, next, Number.interface.injEq]
      omega
    | endpoint a => simp [Registry.Handed, Stack.handInterface]
    | string m => simp [Registry.Handed, Stack.handInterface]
  entry := Registry.entry_interface rfl rfl rfl
  granted := rfl
  bounded := by
    have next : (s.device.nextInterface + 1) % 256 ≤ 16 := by omega
    exact { bounded with interface := next }
  same := ⟨rfl, rfl, rfl, rfl⟩
  registering := rfl
  contexts _ := rfl
  index _ _ := rfl

theorem endpoint_room {a : Nat} (free : endpointExhausted a = false) : a ≠ 0x90 ∧ a ≠ 0x10 := by
  constructor
  · rintro rfl
    revert free
    decide
  · rintro rfl
    revert free
    decide

theorem handInEp_hands (bounded : s.device.Bounded) (room : endpointExhausted s.device.nextInEp = false) :
    Hands s (s.handInEp s.device.nextInEp c) (.endpoint s.device.nextInEp) c := by
  have inLow := bounded.inLow
  have inHigh := bounded.inHigh
  have outHigh := bounded.outHigh
  have last := (endpoint_room room).1
  have next : (s.device.nextInEp + 1) % 256 = s.device.nextInEp + 1 := by omega
  constructor
  case fresh =>
    simp only [Registry.Handed]
    omega
  case handed =>
    intro m
    cases m with
    | interface m => simp [Registry.Handed, Stack.handInEp]
    | string m => simp [Registry.Handed, Stack.handInEp]
    | endpoint a =>
      simp only [Registry.Handed, Stack.handInEp, next, Number.endpoint.injEq]
      omega
  case entry => exact Registry.entry_endpoint rfl rfl rfl
  case granted => rfl
  case bounded =>
    have low : 0x81 ≤ (s.device.nextInEp + 1) % 256 := by omega
    have high : (s.device.nextInEp + 1) % 256 ≤ 0x90 := by omega
    exact { bounded with inLow := low, inHigh := high }
  case same => exact ⟨rfl, rfl, rfl, rfl⟩
  case registering => rfl
  case contexts => exact fun _ => rfl
  case index => exact fun _ _ => rfl

theorem handOutEp_hands (bounded : s.device.Bounded) (room : endpointExhausted s.device.nextOutEp = false) :
    Hands s (s.handOutEp s.device.nextOutEp c) (.endpoint s.device.nextOutEp) c := by
  have inLow := bounded.inLow
  have outLow := bounded.outLow
  have outHigh := bounded.outHigh
  have last := (endpoint_room room).2
  have next : (s.device.nextOutEp + 1) % 256 = s.device.nextOutEp + 1 := by omega
  constructor
  case fresh =>
    simp only [Registry.Handed]
    omega
  case handed =>
    intro m
    cases m with
    | interface m => simp [Registry.Handed, Stack.handOutEp]
    | string m => simp [Registry.Handed, Stack.handOutEp]
    | endpoint a =>
      simp only [Registry.Handed, Stack.handOutEp, next, Number.endpoint.injEq]
      omega
  case entry => exact Registry.entry_endpoint rfl rfl rfl
  case granted => rfl
  case bounded =>
    have low : 0x01 ≤ (s.device.nextOutEp + 1) % 256 := by omega
    have high : (s.device.nextOutEp + 1) % 256 ≤ 0x10 := by omega
    exact { bounded with outLow := low, outHigh := high }
  case same => exact ⟨rfl, rfl, rfl, rfl⟩
  case registering => rfl
  case contexts => exact fun _ => rfl
  case index => exact fun _ _ => rfl

theorem handString_hands (bounded : s.device.Bounded) (room : s.device.nextStringIndex < 32) :
    Hands s (s.handString s.device.nextStringIndex c) (.string s.device.nextStringIndex) c := by
  have low := bounded.stringLow
  have next : (s.device.nextStringIndex + 1) % 256 = s.device.nextStringIndex + 1 := by omega
  constructor
  case fresh =>
    simp only [Registry.Handed]
    omega
  case handed =>
    intro m
    cases m with
    | interface m => simp [Registry.Handed, Stack.handString]
    | endpoint a => simp [Registry.Handed, Stack.handString]
    | string m =>
      simp only [Registry.Handed, Stack.handString, next, Number.string.injEq, serialStringIndex]
      omega
  case entry => exact Registry.entry_string rfl rfl rfl
  case granted => rfl
  case bounded =>
    have stringLow : 4 ≤ (s.device.nextStringIndex + 1) % 256 := by omega
    have stringHigh : (s.device.nextStringIndex + 1) % 256 ≤ 32 := by omega
    exact { bounded with stringLow, stringHigh }
  case same => exact ⟨rfl, rfl, rfl, rfl⟩
  case registering => rfl
  case contexts => exact fun _ => rfl
  case index => exact fun _ _ => rfl

theorem registering_some (owner : s.device.registeringClass = some c) : registering s = (.ok c, s) := by
  rw [registering, read_bind, owner]
  rfl

theorem registering_none (owner : s.device.registeringClass = none) :
    registering s = (.error .invalidConfiguration, s) := by
  rw [registering, read_bind, owner]
  rfl

variable {ctx : Option ClassRef}

theorem allocate_cases {next : Registry → Nat} {exhausted : Nat → Bool} {hand : Nat → ClassRef → Stack → Stack} :
    (∃ e, allocate ctx next exhausted hand s = (.error e, s)) ∨
    ∃ owner, s.device.registeringClass = some owner ∧ exhausted (next s.device) = false ∧
      allocate ctx next exhausted hand s = (.ok (next s.device), hand (next s.device) owner s) := by
  cases ctx with
  | none => exact .inl ⟨_, rfl⟩
  | some c =>
    rw [allocate, nonNull, pure_bind, read_bind]
    by_cases noDevice : (s.contexts c).hasDevice = false
    · rw [reject_bind_pos _ noDevice]
      exact .inl ⟨_, rfl⟩
    rw [reject_bind_neg _ noDevice]
    cases owned : s.device.registeringClass with
    | none =>
      rw [bind_error _ (registering_none owned)]
      exact .inl ⟨_, rfl⟩
    | some owner =>
      rw [bind_ok _ (registering_some owned), read_bind]
      by_cases full : exhausted (next s.device) = true
      · rw [reject_bind_pos _ full]
        exact .inl ⟨_, rfl⟩
      · rw [reject_bind_neg _ full]
        exact .inr ⟨owner, rfl, Bool.eq_false_iff.mpr full, rfl⟩

theorem setContext_core {x : ClassContext} (same : x.core = (s.contexts c).core) (y : ClassRef) :
    ((s.setContext c x).contexts y).core = (s.contexts y).core := by
  by_cases own : y = c
  · subst own
    simpa [Stack.setContext] using same
  · simp [Stack.setContext, own]

theorem Renamed.rename (s : Stack) (c : ClassRef) (name : Option Text) : Renamed s (s.rename c name) where
  device := rfl
  granted := rfl
  contexts := setContext_core rfl
  index y := by
    by_cases own : y = c
    · subst own
      simp [Stack.rename, Stack.setContext]
    · simp [Stack.rename, Stack.setContext, own]

theorem classSetInterfaceString_cases {name : Option Text} (bounded : s.device.Bounded) :
    Renamed s (classSetInterfaceString ctx name s).2 ∨
    ∃ c, Hands s (classSetInterfaceString ctx name s).2 (.string s.device.nextStringIndex) c ∧
      (s.contexts c).hasDevice = true := by
  cases ctx with
  | none => exact .inl (.refl s)
  | some c =>
    rw [classSetInterfaceString, nonNull, pure_bind, modify_bind, read_bind]
    have renamed := Renamed.rename s c name
    by_cases wanted : name ≠ none ∧ ((s.rename c name).contexts c).interfaceStringIndex = 0
    · rw [onlyIf, if_pos wanted, read_bind, read_bind]
      by_cases invalid : ((s.rename c name).contexts c).hasDevice = false ∨ (s.rename c name).device.isStarted = true
      · rw [reject_bind_pos _ invalid]
        exact .inl renamed
      rw [reject_bind_neg _ invalid]
      by_cases full : maxStringMapEntries ≤ (s.rename c name).device.nextStringIndex
      · rw [reject_bind_pos _ full]
        exact .inl renamed
      rw [reject_bind_neg _ full]
      have hasDevice : (s.contexts c).hasDevice = true := by
        have own : ((s.rename c name).contexts c).hasDevice = (s.contexts c).hasDevice := by
          simp [Stack.rename, Stack.setContext]
        rw [← own]
        simpa using fun no => invalid (.inl no)
      have hands : Hands (s.rename c name) ((s.rename c name).handString s.device.nextStringIndex c)
          (.string s.device.nextStringIndex) c :=
        handString_hands bounded (by simpa [maxStringMapEntries] using full)
      refine .inr ⟨c, ?_, hasDevice⟩
      rw [modify_bind, modify_run]
      refine ⟨hands.fresh, hands.handed, hands.entry, hands.granted, hands.bounded, hands.same, rfl, fun y => ?_, ?_⟩
      · refine (setContext_core ?_ y).trans ((hands.contexts y).trans (renamed.contexts y))
        rfl
      · intro y noDevice
        have other : y ≠ c := by
          rintro rfl
          rw [hasDevice] at noDevice
          cases noDevice
        exact (congrArg ClassContext.interfaceStringIndex (update_of_ne other _ _)).trans (renamed.index y)
    · rw [onlyIf, if_neg wanted]
      exact .inl renamed

/-- A call hands a number to the class being registered or to one that has the device, or it
renames. -/
theorem perform_cases (op : ClassCall) (bounded : s.device.Bounded) :
    Renamed s (op.perform s).2 ∨
    ∃ n c, Hands s (op.perform s).2 n c ∧ (s.device.registeringClass = some c ∨ (s.contexts c).hasDevice = true) := by
  cases op with
  | allocateInterface ctx =>
    rcases allocate_cases (s := s) with ⟨e, run⟩ | ⟨owner, owned, room, run⟩
    · rw [ClassCall.perform, classAllocateInterface, run]
      exact .inl (.refl s)
    · rw [ClassCall.perform, classAllocateInterface, run]
      exact .inr ⟨_, owner, handInterface_hands bounded (Nat.lt_of_not_le (of_decide_eq_false room)), .inl owned⟩
  | allocateString ctx =>
    rcases allocate_cases (s := s) with ⟨e, run⟩ | ⟨owner, owned, room, run⟩
    · rw [ClassCall.perform, classAllocateString, run]
      exact .inl (.refl s)
    · rw [ClassCall.perform, classAllocateString, run]
      exact .inr ⟨_, owner, handString_hands bounded (Nat.lt_of_not_le (of_decide_eq_false room)), .inl owned⟩
  | allocateEndpoint ctx direction =>
    rw [ClassCall.perform, classAllocateEndpoint]
    split
    · rcases allocate_cases (s := s) with ⟨e, run⟩ | ⟨owner, owned, room, run⟩
      · rw [run]
        exact .inl (.refl s)
      · rw [run]
        exact .inr ⟨_, owner, handInEp_hands bounded room, .inl owned⟩
    · rcases allocate_cases (s := s) with ⟨e, run⟩ | ⟨owner, owned, room, run⟩
      · rw [run]
        exact .inl (.refl s)
      · rw [run]
        exact .inr ⟨_, owner, handOutEp_hands bounded room, .inl owned⟩
  | setInterfaceString ctx name =>
    have after : (ClassCall.perform (.setInterfaceString ctx name) s).2 = (classSetInterfaceString ctx name s).2 := by
      rw [ClassCall.perform, bind_run]
      rcases classSetInterfaceString ctx name s with ⟨e | u, s'⟩ <;> rfl
    rw [after]
    rcases classSetInterfaceString_cases bounded with renamed | ⟨c, hands, hasDevice⟩
    · exact .inl renamed
    · exact .inr ⟨_, c, hands, .inr hasDevice⟩

/-! ### Consistent maps -/

/-- The maps are defined exactly on the numbers handed out, each once, to classes with P. -/
structure Routed (P : ClassRef → Prop) (s : Stack) : Prop where
  bounded : s.device.Bounded
  handed : ∀ n, s.device.Handed n ↔ ∃ c, (n, c) ∈ s.granted
  once : (s.granted.map Prod.fst).Nodup
  entries : ∀ slot c, s.device.entry slot = some c ↔ ∃ n, n.slot = slot ∧ (n, c) ∈ s.granted
  owners : ∀ n c, (n, c) ∈ s.granted → P c

theorem Routed.mono {Q : ClassRef → Prop} (routed : Routed P s) (more : ∀ c, P c → Q c) : Routed Q s :=
  { routed with owners := fun n c mem => more c (routed.owners n c mem) }

theorem Routed.renamed (routed : Routed P s) (renamed : Renamed s s') : Routed P s' := by
  obtain ⟨device, granted, -, -⟩ := renamed
  constructor
  · rw [device]
    exact routed.bounded
  · rw [device, granted]
    exact routed.handed
  · rw [granted]
    exact routed.once
  · rw [device, granted]
    exact routed.entries
  · rw [granted]
    exact routed.owners

theorem Routed.hands (routed : Routed P s) (hands : Hands s s' n c) (owner : P c) : Routed P s' where
  bounded := hands.bounded
  handed m := by
    rw [hands.handed, hands.granted, routed.handed]
    simp only [List.mem_cons, Prod.mk.injEq]
    constructor
    · rintro (⟨c', mem⟩ | rfl)
      · exact ⟨c', .inr mem⟩
      · exact ⟨c, .inl ⟨rfl, rfl⟩⟩
    · rintro ⟨c', ⟨same, -⟩ | mem⟩
      · exact .inr same
      · exact .inl ⟨c', mem⟩
  once := by
    rw [hands.granted, List.map_cons, List.nodup_cons]
    refine ⟨?_, routed.once⟩
    intro again
    obtain ⟨⟨m, c'⟩, mem, same⟩ := List.mem_map.mp again
    dsimp only at same
    subst same
    exact hands.fresh ((routed.handed m).mpr ⟨c', mem⟩)
  entries slot c' := by
    rw [hands.entry, hands.granted]
    by_cases own : slot = n.slot
    · subst own
      rw [update_self]
      constructor
      · intro same
        cases same
        exact ⟨n, rfl, List.mem_cons_self⟩
      · rintro ⟨m, slot, mem⟩
        rcases List.mem_cons.mp mem with same | mem
        · cases same
          rfl
        · -- an older number with the same entry would be this one
          have older := (routed.handed m).mpr ⟨c', mem⟩
          have same := slot_injective hands.bounded ((hands.handed m).mpr (.inl older))
            ((hands.handed n).mpr (.inr rfl)) slot
          exact absurd (same ▸ older) hands.fresh
    · rw [update_of_ne own, routed.entries]
      constructor
      · rintro ⟨m, slot, mem⟩
        exact ⟨m, slot, List.mem_cons_of_mem _ mem⟩
      · rintro ⟨m, slot, mem⟩
        rcases List.mem_cons.mp mem with same | mem
        · cases same
          exact absurd slot.symm own
        · exact ⟨m, slot, mem⟩
  owners m c' mem := by
    rw [hands.granted] at mem
    rcases List.mem_cons.mp mem with same | mem
    · cases same
      exact owner
    · exact routed.owners m c' mem

/-! ### A whole init_instance -/

structure Spread (d d' : Registry) : Prop where
  more : ∀ n, d.Handed n → d'.Handed n
  entry : ∀ slot, d'.entry slot = d.entry slot ∨ ∃ n, n.slot = slot ∧ d'.Handed n ∧ ¬d.Handed n
  same : d.Same d'

theorem Spread.refl (d : Registry) : Spread d d := ⟨fun _ h => h, fun _ => .inl rfl, .refl d⟩

theorem Spread.hands {d : Registry} (spread : Spread d s.device) (hands : Hands s t n c) : Spread d t.device where
  more m h := (hands.handed m).mpr (.inl (spread.more m h))
  entry slot := by
    rw [hands.entry]
    by_cases own : slot = n.slot
    · right
      exact ⟨n, own.symm, (hands.handed n).mpr (.inr rfl), fun h => hands.fresh (spread.more n h)⟩
    · rw [update_of_ne own]
      rcases spread.entry slot with same | ⟨m, at_slot, now, before⟩
      · exact .inl same
      · exact .inr ⟨m, at_slot, (hands.handed m).mpr (.inl now), before⟩
  same := spread.same.trans hands.same

theorem core_hasDevice {x y : ClassContext} (same : x.core = y.core) : x.hasDevice = y.hasDevice := by
  have field := congrArg ClassContext.hasDevice same
  exact field

structure Grown (P : ClassRef → Prop) (s s' : Stack) : Prop where
  routed : Routed P s'
  spread : Spread s.device s'.device
  registering : s'.device.registeringClass = s.device.registeringClass
  contexts : ∀ x, (s'.contexts x).core = (s.contexts x).core
  index : ∀ x, (s.contexts x).hasDevice = false →
    (s'.contexts x).interfaceStringIndex = (s.contexts x).interfaceStringIndex

theorem Grown.refl (routed : Routed P s) : Grown P s s := ⟨routed, .refl _, rfl, fun _ => rfl, fun _ _ => rfl⟩

theorem Grown.renamed (grown : Grown P s s') (renamed : Renamed s' t) : Grown P s t where
  routed := grown.routed.renamed renamed
  spread := by
    rw [renamed.device]
    exact grown.spread
  registering := by
    rw [renamed.device]
    exact grown.registering
  contexts x := (renamed.contexts x).trans (grown.contexts x)
  index x noDevice := (renamed.index x).trans (grown.index x noDevice)

theorem Grown.hands (grown : Grown P s s') (hands : Hands s' t n c) (owner : P c) : Grown P s t where
  routed := grown.routed.hands hands owner
  spread := grown.spread.hands hands
  registering := hands.registering.trans grown.registering
  contexts x := (hands.contexts x).trans (grown.contexts x)
  index x noDevice := (hands.index x ((core_hasDevice (grown.contexts x)).trans noDevice)).trans
    (grown.index x noDevice)

theorem Init.run_grown {α : Type} (init : Init α) (owners : ∀ c, s.device.registeringClass = some c ∨
    (s.contexts c).hasDevice = true → P c) (grown : Grown P s s') : Grown P s (init.run s').2 := by
  induction init generalizing s' with
  | done result => exact grown
  | call op next ih =>
    rw [Init.run, attempt_bind]
    apply ih
    rcases perform_cases op grown.routed.bounded with renamed | ⟨n, c, hands, owner⟩
    · exact grown.renamed renamed
    · rw [grown.registering, core_hasDevice (grown.contexts c)] at owner
      exact grown.hands hands (owners c owner)

/-! ### The roll-back -/

theorem clear_eq {map : Nat → Option ClassRef} {entries : List Nat} {i : Nat} :
    clear map entries i = if i ∈ entries then none else map i := by
  induction entries generalizing map with
  | nil => rfl
  | cons j entries ih =>
    rw [clear, List.foldl_cons, ← clear, ih]
    by_cases later : i ∈ entries
    · rw [if_pos later, if_pos (List.mem_cons_of_mem j later)]
    rw [if_neg later]
    by_cases own : i = j
    · subst own
      rw [update_self, if_pos List.mem_cons_self]
    · have absent : i ∉ j :: entries := fun mem => (List.mem_cons.mp mem).elim own later
      rw [update_of_ne own, if_neg absent]

theorem mem_loop {first bound i : Nat} : i ∈ loop first bound ↔ first ≤ i ∧ i < bound := by
  rw [loop, List.mem_range'_1]
  omega

theorem mem_endpointEntries {first bound i : Nat} :
    i ∈ endpointEntries first bound ↔ ∃ a, first ≤ a ∧ a < bound ∧ endpointMapIndex a = i := by
  rw [endpointEntries, List.mem_filter, List.mem_map]
  constructor
  · rintro ⟨⟨a, mem, same⟩, -⟩
    have range := mem_loop.mp mem
    exact ⟨a, range.1, range.2, same⟩
  · rintro ⟨a, low, high, rfl⟩
    exact ⟨⟨a, mem_loop.mpr ⟨low, high⟩, rfl⟩, decide_eq_true (endpointMapIndex_small a)⟩

section Rollback

variable {d d₀ : Registry} {slot : Slot}

/-- An entry of a number handed out since the snapshot. -/
def Younger (d₀ d : Registry) (slot : Slot) : Prop := ∃ n, Number.slot n = slot ∧ d.Handed n ∧ ¬d₀.Handed n

theorem classResourceRollback_entry (bounded₀ : d₀.Bounded) (bounded : d.Bounded) [Decidable (Younger d₀ d slot)] :
    (classResourceRollback (classResourceSnapshotGet d₀) d).entry slot =
      if Younger d₀ d slot then none else d.entry slot := by
  cases slot with
  | interface i =>
    have high := bounded.interface
    have range : i ∈ loop d₀.nextInterface (min d.nextInterface maxInterfaceCount) ↔ Younger d₀ d (.interface i) := by
      rw [mem_loop, maxInterfaceCount]
      constructor
      · intro range
        refine ⟨.interface i, rfl, ?_, ?_⟩
        · show i < d.nextInterface
          omega
        · show ¬i < d₀.nextInterface
          omega
      · rintro ⟨n, slot, now, before⟩
        cases n <;> cases slot
        have now' : i < d.nextInterface := now
        have before' : ¬i < d₀.nextInterface := before
        omega
    simp only [Registry.entry, classResourceRollback, classResourceSnapshotGet, clear_eq, range]
  | string i =>
    have high := bounded.stringHigh
    have low := bounded₀.stringLow
    have range : i ∈ loop d₀.nextStringIndex (min d.nextStringIndex maxStringMapEntries) ↔
        Younger d₀ d (.string i) := by
      rw [mem_loop, maxStringMapEntries]
      constructor
      · intro range
        refine ⟨.string i, rfl, ?_, ?_⟩
        · show 3 < i ∧ i < d.nextStringIndex
          omega
        · show ¬(3 < i ∧ i < d₀.nextStringIndex)
          omega
      · rintro ⟨n, slot, now, before⟩
        cases n <;> cases slot
        have now' : 3 < i ∧ i < d.nextStringIndex := now
        have before' : ¬(3 < i ∧ i < d₀.nextStringIndex) := before
        omega
    simp only [Registry.entry, classResourceRollback, classResourceSnapshotGet, clear_eq, range]
  | endpoint i =>
    have inLow := bounded₀.inLow
    have inLow' := bounded.inLow
    have inHigh := bounded.inHigh
    have outLow := bounded₀.outLow
    have outHigh := bounded.outHigh
    have outHigh₀ := bounded₀.outHigh
    have range : (i ∈ endpointEntries d₀.nextInEp d.nextInEp ∨ i ∈ endpointEntries d₀.nextOutEp d.nextOutEp) ↔
        Younger d₀ d (.endpoint i) := by
      rw [mem_endpointEntries, mem_endpointEntries]
      constructor
      · rintro (⟨a, low, high, rfl⟩ | ⟨a, low, high, rfl⟩)
        all_goals
          refine ⟨.endpoint a, rfl, ?_, ?_⟩
          · show 0x80 < a ∧ a < d.nextInEp ∨ 0 < a ∧ a < d.nextOutEp
            omega
          · show ¬(0x80 < a ∧ a < d₀.nextInEp ∨ 0 < a ∧ a < d₀.nextOutEp)
            omega
      · rintro ⟨n, slot, now, before⟩
        cases n with
        | interface _ => cases slot
        | string _ => cases slot
        | endpoint a =>
          injection slot with same
          have now' : 0x80 < a ∧ a < d.nextInEp ∨ 0 < a ∧ a < d.nextOutEp := now
          have before' : ¬(0x80 < a ∧ a < d₀.nextInEp ∨ 0 < a ∧ a < d₀.nextOutEp) := before
          rcases now' with ⟨low, high⟩ | ⟨low, high⟩
          · exact .inl ⟨a, by omega, high, same⟩
          · exact .inr ⟨a, by omega, high, same⟩
    simp only [Registry.entry, classResourceRollback, classResourceSnapshotGet, clear_eq, ← range]
    by_cases inside : i ∈ endpointEntries d₀.nextInEp d.nextInEp <;>
      by_cases outside : i ∈ endpointEntries d₀.nextOutEp d.nextOutEp <;> simp [inside, outside]

theorem Registry.ext_entry (same : d.Same d₀) (registering : d₀.registeringClass = d.registeringClass)
    (entry : d₀.entry = d.entry) (counters : classResourceSnapshotGet d₀ = classResourceSnapshotGet d) : d₀ = d := by
  simp only [classResourceSnapshotGet, Snapshot.mk.injEq] at counters
  obtain ⟨interface, inEp, outEp, string⟩ := counters
  have interfaces : d₀.interfaceToClass = d.interfaceToClass := funext fun i => congrFun entry (.interface i)
  have endpoints : d₀.endpointToClass = d.endpointToClass := funext fun i => congrFun entry (.endpoint i)
  have strings : d₀.stringToClass = d.stringToClass := funext fun i => congrFun entry (.string i)
  exact Registry.ext same.isStarted same.lifecycleState same.classListHead same.classListTail registering
    interfaces endpoints strings interface inEp outEp string

theorem classResourceRollback_eq (routed : Routed P s) (bounded : d.Bounded) (spread : Spread s.device d)
    (registering : d.registeringClass = s.device.registeringClass) :
    classResourceRollback (classResourceSnapshotGet s.device) d = s.device := by
  classical
  have same := spread.same
  apply Registry.ext_entry
  · exact ⟨same.isStarted, same.lifecycleState, same.classListHead, same.classListTail⟩
  · exact registering
  · funext slot
    rw [classResourceRollback_entry routed.bounded bounded]
    by_cases younger : Younger s.device d slot
    · rw [if_pos younger]
      obtain ⟨n, at_slot, now, before⟩ := younger
      cases old : s.device.entry slot with
      | none => rfl
      | some c =>
        -- an older number in the entry would be the younger one
        obtain ⟨m, there, mem⟩ := (routed.entries slot c).mp old
        have handed := (routed.handed m).mpr ⟨c, mem⟩
        have twice := slot_injective bounded now (spread.more m handed) (at_slot.trans there.symm)
        exact absurd (twice ▸ handed) before
    · rw [if_neg younger]
      rcases spread.entry slot with same | younger'
      · exact same
      · exact absurd younger' younger
  · rfl

end Rollback

end XSDK.Usbd
