import XSDK.Usbh.System

/-! What the calls on slots leave behind, said once for everything that calls them. -/
namespace XSDK.Usbh

open Library Library.Call
open Function (update update_self update_of_ne)

variable {c : Config} {hcd : Hcd} {n : Nat} {h : Host}

def OnlyTransfers (h h' : Host) : Prop := h' = { h with transfers := h'.transfers, log := h'.log }

theorem upTo_next {t j : Nat} {P : Prop} (other : ¬t = j) : (t < j ∧ P) ↔ (t < j + 1 ∧ P) :=
  ⟨fun both => ⟨by omega, both.2⟩, fun both => ⟨by omega, both.2⟩⟩

variable {allocated : Nat → Bool} {p : Nat → Bool} {size i : Nat}

theorem firstFree_some (found : firstFree size allocated = some i) : i < size ∧ allocated i = false := by
  have member := List.mem_of_find?_eq_some found
  have free := List.find?_some found
  exact ⟨List.mem_range.mp member, by simpa using free⟩

theorem firstFree_none {size : Nat} (full : firstFree size allocated = none) : ∀ i < size, allocated i = true := by
  intro i small
  have taken := List.find?_eq_none.mp full i (List.mem_range.mpr small)
  simpa using taken

theorem firstWith_some (found : firstWith size p = some i) : i < size ∧ p i = true :=
  ⟨List.mem_range.mp (List.mem_of_find?_eq_some found), List.find?_some found⟩

theorem firstWith_none {size : Nat} (missing : firstWith size p = none) : ∀ i < size, p i = false := by
  intro i small
  have fails := List.find?_eq_none.mp missing i (List.mem_range.mpr small)
  simpa using fails

/- Transfers. -/

theorem ask_effect {α : Type} (r : Record) (answer : List Record → Except Error α) (h : Host) :
    ask r answer h = (.error .hcdNullPointer, h) ∨ ask r answer h = (answer h.log, { h with log := r :: h.log }) := by
  simp only [ask, note, read_bind, id_eq]
  by_cases missing : h.hasHcd = false
  · rw [reject_bind_pos _ missing]
    exact .inl rfl
  · rw [reject_bind_neg _ missing]
    exact .inr rfl

theorem ask_up {α : Type} {r : Record} {answer : List Record → Except Error α} (up : Up n h) :
    ask r answer h = (answer h.log, { h with log := r :: h.log }) := by
  simp only [ask, note, read_bind, id_eq]
  rw [reject_bind_neg _ (by simp [up.hcd])]
  rfl

theorem ready_up (up : Up n h) : contextReadyForRuntimeSlots h = (.ok (), h) := by
  simp only [contextReadyForRuntimeSlots, read_bind, id_eq]
  rw [reject_neg (by simp [up.initialized])]
  rfl

theorem transferCancel_effect (hcd : Hcd) (up : Up n h) (t : Nat) :
    (∃ log, transferCancelIfSubmitted hcd t h =
      (.ok (), { h with transfers := update h.transfers t { h.transfers t with isSubmitted := false }, log := log })) ∨
    ∃ e log, transferCancelIfSubmitted hcd t h = (.error e, { h with log := log }) ∧
      hcd.cancelTransfer h.log t = .error e ∧
      (h.transfers t).isSubmitted = true := by
  rw [transferCancelIfSubmitted, read_bind]
  by_cases idle : (h.transfers t).isSubmitted = false
  · rw [if_pos idle]
    refine .inl ⟨h.log, ?_⟩
    have same : { h.transfers t with isSubmitted := false } = h.transfers t := by rw [← idle]
    rw [same, Function.update_eq_self]
    rfl
  · rw [if_neg idle]
    rcases answer : hcd.cancelTransfer h.log t with e | u
    · refine .inr ⟨e, .cancel t :: h.log, ?_, rfl, by simpa using idle⟩
      rw [bind_error (e := e) _ (by rw [ask_up up, answer])]
    · refine .inl ⟨.cancel t :: h.log, ?_⟩
      rw [bind_ok (a := u) _ (by rw [ask_up up, answer])]
      rfl

theorem transferRelease_effect (c : Config) (hcd : Hcd) (up : Up n h) (t : Nat) :
    (∃ log, transferRelease c hcd t h = (.ok (), { h with transfers := update h.transfers t .zero, log := log }) ∧
      t < c.maxTransfers ∧ (h.transfers t).isAllocated = true) ∨
    ∃ e log, transferRelease c hcd t h = (.error e, { h with log := log }) ∧
      (t < c.maxTransfers → (h.transfers t).isAllocated = true →
        hcd.cancelTransfer h.log t = .error e ∧ (h.transfers t).isSubmitted = true) := by
  rw [transferRelease, bind_ok _ (ready_up up), read_bind]
  by_cases bad : c.maxTransfers ≤ t ∨ (h.transfers t).isAllocated = false
  · rw [reject_bind_pos _ bad]
    refine .inr ⟨_, h.log, rfl, fun small allocated => ?_⟩
    rcases bad with large | free
    · omega
    · simp [free] at allocated
  · rw [reject_bind_neg _ bad]
    have good : t < c.maxTransfers ∧ (h.transfers t).isAllocated = true := by
      simpa [not_or] using bad
    rcases transferCancel_effect hcd up t with ⟨log, run⟩ | ⟨e, log, run, refused, submitted⟩
    · refine .inl ⟨log, ?_, good⟩
      rw [bind_ok _ run, updateTransfer, modify_run]
      simp only [Function.update_idem]
    · exact .inr ⟨e, log, bind_error _ run, fun _ _ => ⟨refused, submitted⟩⟩

theorem transferAllocate_effect (c : Config) (up : Up n h) :
    (∃ t, t < c.maxTransfers ∧ (h.transfers t).isAllocated = false ∧
      transferAllocate c h = (.ok t, { h with transfers := update h.transfers t { Transfer.zero with isAllocated := true } })) ∨
    transferAllocate c h = (.error .resourceExhausted, h) ∧ ∀ t < c.maxTransfers,
      (h.transfers t).isAllocated = true := by
  rw [transferAllocate, bind_ok _ (ready_up up), read_bind, id_eq]
  rcases found : firstFree c.maxTransfers fun t => (h.transfers t).isAllocated with _ | t
  · exact .inr ⟨rfl, firstFree_none found⟩
  · obtain ⟨small, free⟩ := firstFree_some found
    exact .inl ⟨t, small, free, rfl⟩

theorem transferRelease_idle (c : Config) (hcd : Hcd) (up : Up n h) {t : Nat} (small : t < c.maxTransfers)
    (allocated : (h.transfers t).isAllocated = true) (idle : (h.transfers t).isSubmitted = false) :
    transferRelease c hcd t h = (.ok (), { h with transfers := update h.transfers t .zero }) := by
  rw [transferRelease, bind_ok _ (ready_up up), read_bind, reject_bind_neg _ (by simp [allocated, small])]
  have cancelled : transferCancelIfSubmitted hcd t h = (.ok (), h) := by
    rw [transferCancelIfSubmitted, read_bind, if_pos idle]
    rfl
  rw [bind_ok _ cancelled]
  rfl

theorem transferSubmit_effect (c : Config) (hcd : Hcd) (up : Up n h) (t : Nat) :
    (transferSubmit c hcd t h =
      (.ok (), { h with
        transfers := update h.transfers t { h.transfers t with isSubmitted := true },
        log := .submit t (h.transfers t) :: h.log }) ∧
      t < c.maxTransfers ∧ (h.transfers t).isAllocated = true) ∨
    ∃ e log, transferSubmit c hcd t h = (.error e, { h with log := log }) := by
  simp only [transferSubmit, read_bind, id_eq]
  rw [reject_bind_neg _ (by simp [up.initialized]), reject_bind_neg _ (by simp [up.started])]
  by_cases bad : c.maxTransfers ≤ t ∨ (h.transfers t).isAllocated = false
  · rw [reject_bind_pos _ bad]
    exact .inr ⟨_, h.log, rfl⟩
  · have good : t < c.maxTransfers ∧ (h.transfers t).isAllocated = true := by
      simpa [not_or] using bad
    rw [reject_bind_neg _ bad]
    by_cases submitted : (h.transfers t).isSubmitted = true
    · rw [reject_bind_pos _ submitted]
      exact .inr ⟨_, h.log, rfl⟩
    · rw [reject_bind_neg _ submitted]
      rcases answer : hcd.submitTransfer h.log t (h.transfers t) with e | u
      · exact .inr ⟨e, _, bind_error (e := e) _ (by rw [ask_up up, answer])⟩
      · refine .inl ⟨?_, good⟩
        rw [bind_ok (a := u) _ (by rw [ask_up up, answer])]
        rfl

theorem releaseTransfers_effect (c : Config) (hcd : Hcd) (up : Up n h) (a : Nat) :
    ∃ log, releaseTransfersForDevice c hcd a h =
      (.ok (), { h with
        transfers := fun t =>
          if t < c.maxTransfers ∧ (h.transfers t).isAllocated = true ∧ (h.transfers t).deviceAddress = a then .zero
          else h.transfers t,
        log := log }) := by
  let freed (j : Nat) (l : List Record) : Host :=
    { h with
      transfers := fun t =>
        if t < j ∧ (h.transfers t).isAllocated = true ∧ (h.transfers t).deviceAddress = a then .zero else h.transfers t,
      log := l }
  have rounds : Triple (fun h' => ∃ l, h' = freed 0 l) (releaseTransfersForDevice c hcd a)
      (fun _ h' => ∃ l, h' = freed (0 + c.maxTransfers) l) fun _ _ => False := by
    refine Triple.forEach (I := fun j h' => ∃ l, h' = freed j l) fun j _ _ => ?_
    rintro _ ⟨l, rfl⟩
    have here : (freed j l).transfers j = h.transfers j := if_neg (by simp)
    have upHere : Up n (freed j l) := up.frame rfl
    have next : ∀ l', { freed j l with
        transfers := if (h.transfers j).isAllocated = true ∧ (h.transfers j).deviceAddress = a then
          update (freed j l).transfers j .zero else (freed j l).transfers,
        log := l' } = freed (j + 1) l' := by
      intro l'
      simp only [freed, Host.mk.injEq, true_and, and_true]
      funext t
      by_cases chosen : (h.transfers j).isAllocated = true ∧ (h.transfers j).deviceAddress = a
      · rw [if_pos chosen]
        by_cases same : t = j
        · rw [same, update_self, if_pos ⟨by omega, chosen⟩]
        · rw [update_of_ne same]
          exact if_congr (upTo_next same) rfl rfl
      · rw [if_neg chosen]
        by_cases same : t = j
        · rw [same, if_neg (by simp), if_neg fun both => chosen both.2]
        · exact if_congr (upTo_next same) rfl rfl
    simp only [read_bind, here]
    by_cases chosen : (h.transfers j).isAllocated = true ∧ (h.transfers j).deviceAddress = a
    · have step : ∀ l', { freed j l with transfers := update (freed j l).transfers j .zero, log := l' } =
          freed (j + 1) l' := by
        intro l'
        rw [← next l', if_pos chosen]
      simp only [onlyIf, if_pos chosen, ignore_bind]
      rcases transferCancel_effect hcd upHere j with ⟨l', run⟩ | ⟨e, l', run, -⟩
      · simp only [run, updateTransfer, modify_run, Function.update_idem]
        exact ⟨l', step l'⟩
      · simp only [run, updateTransfer, modify_run]
        exact ⟨l', step l'⟩
    · simp only [onlyIf, if_neg chosen]
      refine ⟨l, ?_⟩
      have kept := next l
      rwa [if_neg chosen] at kept
  have start : ∃ l, h = freed 0 l := ⟨h.log, by simp [freed]⟩
  have done := rounds h start
  rcases run : releaseTransfersForDevice c hcd a h with ⟨e | u, h'⟩
  · rw [run] at done
    exact done.elim
  · rw [run] at done
    obtain ⟨l, rfl⟩ := done
    exact ⟨l, by simp only [freed, Nat.zero_add]⟩

/- Interfaces and endpoints. -/

theorem releaseEndpoints_effect (i : Nat) (h : Host) :
    releaseEndpointsForInterface c i h =
      (.ok (), { h with endpoints := fun e =>
        if e < c.maxEndpoints ∧ (h.endpoints e).isAllocated = true ∧ (h.endpoints e).interfaceIndex = i then .zero
        else h.endpoints e }) := by
  let freed (j : Nat) : Host :=
    { h with endpoints := fun e =>
        if e < j ∧ (h.endpoints e).isAllocated = true ∧ (h.endpoints e).interfaceIndex = i then .zero else h.endpoints e }
  have rounds : Triple (fun h' => h' = freed 0) (releaseEndpointsForInterface c i)
      (fun _ h' => h' = freed (0 + c.maxEndpoints)) fun _ _ => False := by
    refine Triple.forEach (I := fun j h' => h' = freed j) fun j _ _ => ?_
    rintro _ rfl
    have here : (freed j).endpoints j = h.endpoints j := if_neg (by simp)
    simp only [read_bind, here]
    by_cases chosen : (h.endpoints j).isAllocated = true ∧ (h.endpoints j).interfaceIndex = i
    · simp only [onlyIf, if_pos chosen, updateEndpoint, modify_run]
      simp only [freed, Host.mk.injEq, true_and, and_true]
      funext e
      by_cases same : e = j
      · rw [same, update_self, if_pos ⟨by omega, chosen⟩]
      · rw [update_of_ne same]
        exact if_congr (upTo_next same) rfl rfl
    · simp only [onlyIf, if_neg chosen, pure_run]
      simp only [freed, Host.mk.injEq, true_and, and_true]
      funext e
      by_cases same : e = j
      · rw [same, if_neg (by simp), if_neg fun both => chosen both.2]
      · exact if_congr (upTo_next same) rfl rfl
  have done := rounds h (by simp [freed])
  rcases run : releaseEndpointsForInterface c i h with ⟨e | u, h'⟩
  · rw [run] at done
    exact done.elim
  · rw [run] at done
    rw [done]
    simp only [freed, Nat.zero_add]

def Host.InterfaceOf (c : Config) (h : Host) (d i : Nat) : Prop :=
  i < c.maxInterfaces ∧ (h.interfaces i).isAllocated = true ∧ (h.interfaces i).deviceIndex = d

def Host.EndpointOf (c : Config) (h : Host) (d e : Nat) : Prop :=
  e < c.maxEndpoints ∧ (h.endpoints e).isAllocated = true ∧ h.InterfaceOf c d (h.endpoints e).interfaceIndex

instance (d i : Nat) : Decidable (h.InterfaceOf c d i) := inferInstanceAs (Decidable (_ ∧ _))
instance (d e : Nat) : Decidable (h.EndpointOf c d e) := inferInstanceAs (Decidable (_ ∧ _))

theorem releaseInterfaces_effect (d : Nat) (h : Host) :
    releaseInterfacesForDevice c d h =
      (.ok (), { h with
        interfaces := fun i => if h.InterfaceOf c d i then .zero else h.interfaces i,
        endpoints := fun e => if h.EndpointOf c d e then .zero else h.endpoints e }) := by
  let freed (j : Nat) : Host :=
    { h with
      interfaces := fun i => if i < j ∧ h.InterfaceOf c d i then .zero else h.interfaces i,
      endpoints := fun e => if (h.endpoints e).interfaceIndex < j ∧ h.EndpointOf c d e then .zero else h.endpoints e }
  have rounds : Triple (fun h' => h' = freed 0) (releaseInterfacesForDevice c d)
      (fun _ h' => h' = freed (0 + c.maxInterfaces)) fun _ _ => False := by
    refine Triple.forEach (I := fun j h' => h' = freed j) fun j _ small => ?_
    rintro _ rfl
    have here : (freed j).interfaces j = h.interfaces j := if_neg (by simp)
    simp only [read_bind, here]
    by_cases chosen : (h.interfaces j).isAllocated = true ∧ (h.interfaces j).deviceIndex = d
    · have mine : h.InterfaceOf c d j := ⟨by omega, chosen⟩
      simp only [onlyIf, if_pos chosen]
      rw [bind_ok _ (releaseEndpoints_effect j _)]
      simp only [updateInterface, modify_run, freed, Host.mk.injEq, true_and, and_true]
      constructor
      · funext i
        by_cases same : i = j
        · rw [same, update_self, if_pos ⟨by omega, mine⟩]
        · rw [update_of_ne same]
          exact if_congr (upTo_next same) rfl rfl
      · funext e
        by_cases early : (h.endpoints e).interfaceIndex < j ∧ h.EndpointOf c d e
        · have later : (h.endpoints e).interfaceIndex < j + 1 ∧ h.EndpointOf c d e := ⟨by omega, early.2⟩
          simp only [if_pos early, if_pos later, ite_self]
        · simp only [if_neg early]
          by_cases same : (h.endpoints e).interfaceIndex = j
          · refine if_congr ⟨fun all => ⟨by omega, all.1, all.2.1, same ▸ mine⟩, fun all => ⟨all.2.1, all.2.2.1, same⟩⟩ rfl rfl
          · rw [if_neg fun all => same all.2.2, if_neg]
            rintro ⟨low, of⟩
            exact early ⟨by omega, of⟩
    · have other : ¬h.InterfaceOf c d j := fun of => chosen of.2
      simp only [onlyIf, if_neg chosen, pure_run, freed, Host.mk.injEq, true_and, and_true]
      constructor
      · funext i
        by_cases same : i = j
        · rw [same, if_neg (by simp), if_neg fun both => other both.2]
        · exact if_congr (upTo_next same) rfl rfl
      · funext e
        refine if_congr ⟨fun all => ⟨by omega, all.2⟩, fun all => ⟨?_, all.2⟩⟩ rfl rfl
        have apart : (h.endpoints e).interfaceIndex ≠ j := fun same => other (same ▸ all.2.2.2)
        omega
  have done := rounds h (by simp [freed])
  rcases run : releaseInterfacesForDevice c d h with ⟨e | u, h'⟩
  · rw [run] at done
    exact done.elim
  · rw [run] at done
    rw [done]
    simp only [freed, Nat.zero_add]
    have within : ∀ i, (i < c.maxInterfaces ∧ h.InterfaceOf c d i) ↔ h.InterfaceOf c d i := fun i =>
      ⟨fun both => both.2, fun of => ⟨of.1, of⟩⟩
    have withinEndpoints : ∀ e, ((h.endpoints e).interfaceIndex < c.maxInterfaces ∧ h.EndpointOf c d e) ↔
        h.EndpointOf c d e := fun e =>
      ⟨fun both => both.2, fun of => ⟨of.2.2.1, of⟩⟩
    simp only [within, withinEndpoints]

end XSDK.Usbh
