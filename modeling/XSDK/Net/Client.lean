import XSDK.Net.Sent

/-! The DHCP client as a function: what a message and the time do to the interface, and which
messages it sends. The calls of the stack do just that. -/
namespace XSDK.Net

open Library Prog
open List (mem_singleton)

variable {cfg : Config} (env : Env) {i : Nat} {x : Interface} {P : List UInt8 → Prop} {before : List Frame}

def Interface.withDhcp (x : Interface) (f : DhcpContext → DhcpContext) : Interface := { x with dhcp := f x.dhcp }

def Interface.unconfigured (x : Interface) : Interface :=
  { x with ipAddr := zeroAddr, netmask := zeroAddr, gateway := zeroAddr }

abbrev Reaction := Interface × List (List UInt8)

def Interface.sends (x : Interface) (msgType : Nat) : Reaction := (x, [dhcpPayload x msgType])

/- The time. -/

def Interface.giveUp (x : Interface) : Reaction :=
  match x.dhcp.state with
  | .selecting => (x.withDhcp fun dhcp => { dhcp with isActive := false, state := .failed }, [])
  | .requesting =>
    (x.withDhcp fun dhcp =>
      { dhcp with xid := u32 (dhcp.xid + 1), retryCount := 0, currentRetryTimeout := 4000, state := .selecting }).sends
      dhcpDiscover
  | .renewing =>
    (x.withDhcp fun dhcp => { dhcp with state := .rebinding, retryCount := 0, currentRetryTimeout := 4000 }).sends
      dhcpRequest
  | _ =>
    (x.unconfigured.withDhcp fun dhcp =>
      { dhcp with state := .selecting, xid := u32 (dhcp.xid + 1), retryCount := 0, currentRetryTimeout := 4000 }).sends
      dhcpDiscover

def DhcpContext.awaits (dhcp : DhcpContext) : Prop :=
  dhcp.state = .selecting ∨ dhcp.state = .requesting ∨ dhcp.state = .renewing ∨ dhcp.state = .rebinding

instance (dhcp : DhcpContext) : Decidable dhcp.awaits := inferInstanceAs (Decidable (_ ∨ _))

def DhcpContext.leases (dhcp : DhcpContext) : Prop :=
  dhcp.state = .bound ∨ dhcp.state = .renewing ∨ dhcp.state = .rebinding

instance (dhcp : DhcpContext) : Decidable dhcp.leases := inferInstanceAs (Decidable (_ ∨ _))

def Interface.retried (x : Interface) (elapsedMs : Nat) : Reaction :=
  if x.dhcp.awaits then
    if x.dhcp.currentRetryTimeout ≤ u32 (x.dhcp.retryElapsedMs + elapsedMs) then
      if x.dhcp.retryCount < 4 then
        (x.withDhcp fun dhcp =>
          { dhcp with
            retryElapsedMs := 0, retryCount := dhcp.retryCount + 1,
            currentRetryTimeout := u32 (dhcp.currentRetryTimeout * 2) }).sends
          (if x.dhcp.state = .selecting then dhcpDiscover else dhcpRequest)
      else (x.withDhcp fun dhcp => { dhcp with retryElapsedMs := 0 }).giveUp
    else (x.withDhcp fun dhcp => { dhcp with retryElapsedMs := u32 (dhcp.retryElapsedMs + elapsedMs) }, [])
  else (x, [])

def Interface.expired (x : Interface) : Reaction :=
  (x.unconfigured.withDhcp fun dhcp => { dhcp.restart .selecting with xid := u32 (dhcp.xid + 1) }).sends dhcpDiscover

def DhcpContext.aged (dhcp : DhcpContext) (elapsedMs : Nat) : DhcpContext :=
  { dhcp with
    leaseElapsedTotalMs := u32 (dhcp.leaseElapsedTotalMs + elapsedMs),
      t1ElapsedMs := u32 (dhcp.t1ElapsedMs + elapsedMs),
    t2ElapsedMs := u32 (dhcp.t2ElapsedMs + elapsedMs) }

def Interface.leaseTicked (x : Interface) (elapsedMs : Nat) : Reaction :=
  if x.dhcp.leases then
    let aged := x.withDhcp fun dhcp => dhcp.aged elapsedMs
    if u32 (x.dhcp.leaseTime * 1000) ≤ u32 (x.dhcp.leaseElapsedTotalMs + elapsedMs) then aged.expired
    else if x.dhcp.state = .bound ∧ u32 (x.dhcp.t1 * 1000) ≤ u32 (x.dhcp.t1ElapsedMs + elapsedMs) then
      (aged.withDhcp fun dhcp => dhcp.restart .renewing).sends dhcpRequest
    else if x.dhcp.state = .renewing ∧ u32 (x.dhcp.t2 * 1000) ≤ u32 (x.dhcp.t2ElapsedMs + elapsedMs) then
      (aged.withDhcp fun dhcp => dhcp.restart .rebinding).sends dhcpRequest
    else (aged, [])
  else (x, [])

def Interface.ticked (x : Interface) (elapsedMs : Nat) : Reaction :=
  if x.dhcp.isActive = false then (x, [])
  else
    let retried := x.retried elapsedMs
    let leased := retried.1.leaseTicked elapsedMs
    (leased.1, retried.2 ++ leased.2)

/- A message. -/

def bytesOf (payload : List UInt8) (k : Nat) : UInt8 := payload.getD k 0

/-- The context with the options of a message in it, and the rest of what they say. -/
def DhcpContext.parsed (dhcp : DhcpContext) (payload : List UInt8) : DhcpContext × DhcpReply :=
  dhcpParseOptions (bytesOf payload) payload.length payload.length 240 dhcp ⟨0, 0, 0, 0⟩

def Interface.reads (x : Interface) (payload : List UInt8) : Bool :=
  x.dhcp.isActive && dhcpValidateRxPacket x (bytesOf payload) payload.length

def Interface.offered (x : Interface) (payload : List UInt8) : Reaction :=
  (x.withDhcp fun dhcp => { dhcp.restart .requesting with offeredIp := addrAt (bytesOf payload) 16 }).sends dhcpRequest

def Interface.acknowledged (x : Interface) (reply : DhcpReply) (payload : List UInt8) : Interface :=
  let leaseTime := if reply.leaseTime ≠ 0 then reply.leaseTime else 3600
  { x with
    ipAddr := addrAt (bytesOf payload) 16, netmask := x.dhcp.netmask, gateway := x.dhcp.gateway,
    dnsPrimary := x.dhcp.dnsPrimary, dnsSecondary := x.dhcp.dnsSecondary
    dhcp :=
      { x.dhcp with
        leaseTime := leaseTime, t1 := if reply.t1 ≠ 0 then reply.t1 else leaseTime / 2,
        t2 := if reply.t2 ≠ 0 then reply.t2 else u32 (leaseTime * 7) / 8, state := .bound,
        leaseElapsedTotalMs := 0, t1ElapsedMs := 0, t2ElapsedMs := 0 } }

def Interface.answered (x : Interface) (reply : DhcpReply) (payload : List UInt8) : Reaction :=
  if reply.msgType = dhcpAck then (x.acknowledged reply payload, [])
  else if reply.msgType = dhcpNak then x.expired
  else (x, [])

def Interface.taken (x : Interface) (state : DhcpState) (reply : DhcpReply) (payload : List UInt8) : Reaction :=
  match state with
  | .selecting => if reply.msgType = dhcpOffer then x.offered payload else (x, [])
  | .requesting | .renewing | .rebinding => x.answered reply payload
  | .init | .bound | .failed => (x, [])

def Interface.received (x : Interface) (payload : List UInt8) : Reaction :=
  if x.reads payload = false then (x, [])
  else
    let parsed := x.dhcp.parsed payload
    (x.withDhcp fun _ => parsed.1).taken x.dhcp.state parsed.2 payload

/- The calls do that. -/

def leftBy {α : Type} (m : StackM α) (net : Stack) : Stack :=
  match m net with
  | none => net
  | some (_, net') => net'

theorem leftBy_run {α : Type} {m : StackM α} {net net' : Stack} {r : Except Error α} (run : m net = some (r, net')) :
    leftBy m net = net' := by
  rw [leftBy, run]

theorem leftBy_eq {α : Type} {m : StackM α} {net : Stack} (ends : (m net).isSome = true) :
    ∃ result, m net = some (result, leftBy m net) := by
  obtain ⟨⟨result, net'⟩, run⟩ := Option.isSome_iff_exists.mp ends
  exact ⟨result, by rw [leftBy_run run, run]⟩

def Shows (i : Nat) (x : Interface) (P : List UInt8 → Prop) (before : List Frame) (net : Stack) : Prop :=
  net.face i = x ∧ Carved net ∧ Handed P before net.transmitted

section Calls

variable {E : Error → Stack → Prop}

theorem modify_shows {f : Stack → Stack} {y : Interface} (face : ∀ net : Stack, net.face i = x → (f net).face i = y)
    (pool : ∀ net, (f net).packetPool = net.packetPool) (sent : ∀ net, (f net).transmitted = net.transmitted) :
    Triple (Shows i x P before) (modify f) (fun _ => Shows i y P before) E := by
  refine .modify fun net h => ⟨face net h.1, fun b => ?_, ?_⟩
  · rw [pool]
    exact h.2.1 b
  · rw [sent]
    exact h.2.2

theorem updateInterface_shows {f : Interface → Interface} (g : Interface → Interface)
    (bare : ∀ y : Interface, (f y).bare = g y.bare) :
    Triple (Shows i x P before) (updateInterface i f) (fun _ => Shows i (g x) P before) E := by
  refine modify_shows (fun net h => ?_) (fun _ => rfl) fun _ => rfl
  rw [face_setInterface, if_pos rfl, bare, ← h]
  rfl

theorem updateDhcp_shows {f : DhcpContext → DhcpContext} :
    Triple (Shows i x P before) (updateDhcp i f) (fun _ => Shows i (x.withDhcp f) P before) E :=
  updateInterface_shows (fun y => y.withDhcp f) fun _ => rfl

theorem arpCacheInit_shows : Triple (Shows i x P before) (arpCacheInit cfg i) (fun _ => Shows i x P before) E := by
  refine .bind (R := fun _ => Shows i x P before) (modify_shows (fun _ h => h) (fun _ => rfl) fun _ => rfl) fun _ => ?_
  exact updateInterface_shows id fun _ => rfl

theorem clearIpConfig_shows :
    Triple (Shows i x P before) (clearIpConfig cfg i) (fun _ => Shows i x.unconfigured P before) E :=
  .bind (updateInterface_shows Interface.unconfigured fun _ => rfl) fun _ => arpCacheInit_shows

theorem length_dhcpPayload (x : Interface) (msgType : Nat) : (dhcpPayload x msgType).length = 300 := by
  have short : (dhcpOptions x.dhcp msgType).length ≤ 60 := by
    rw [dhcpOptions]
    split <;> simp
  simp only [dhcpPayload, be32Bytes, List.length_append, List.length_replicate, List.length_ofFn, length_be16Bytes,
    List.length_cons, List.length_nil]
  omega

variable {payload : List UInt8}

theorem udpSendTo_shows {s : SocketId} {remoteAddr : Addr} {remotePort : Nat}
    (long : 18 ≤ payload.length) (short : payload.length ≤ 1472) (wanted : P payload) :
    Keeps (Shows i x P before) (udpSendTo cfg env s remoteAddr remotePort payload) := by
  have face : Keeps (fun net => net.face i = x) (udpSendTo cfg env s remoteAddr remotePort payload) :=
    (udpSendTo_steady env (apart_face i (· = x))).keeps
  have carved : Keeps Carved (udpSendTo cfg env s remoteAddr remotePort payload) :=
    (udpSendTo_steady env unaffected_carved.apart).keeps
  exact (face.both (carved.both (udpSendTo_handed env long short wanted))).weaken (fun _ h => ⟨h.1, h.2.1, h.2⟩)
    (fun _ _ h => h) fun _ _ h => h

theorem dhcpSendMessage_shows {msgType : Nat} (wanted : P (dhcpPayload x msgType)) :
    Keeps (Shows i x P before) (dhcpSendMessage cfg env i msgType) := by
  have length := length_dhcpPayload x msgType
  refine Triple.bind (R := fun interface net => interface.bare = x ∧ Shows i x P before net)
    (.read fun net h => ⟨h.1, h⟩)
    fun interface => .assuming fun same => ?_
  have payload : dhcpPayload interface msgType = dhcpPayload x msgType := by
    rw [← same]
    rfl
  rw [payload]
  exact udpSendTo_shows env (by omega) (by omega) wanted

theorem dhcpSendMessage_ignored {msgType : Nat} (wanted : P (dhcpPayload x msgType)) :
    Triple (Shows i x P before) (ignore (dhcpSendMessage cfg env i msgType)) (fun _ => Shows i x P before) E :=
  (dhcpSendMessage_shows env wanted).ignore

theorem portless_shows : Portless (Shows i x P before) := ⟨fun _ _ _ h => h, fun _ _ h => h, fun _ _ h => h⟩

theorem readDhcp_shows {α : Type} {g : DhcpContext → StackM α} {Q : α → Stack → Prop}
    (rest : Triple (Shows i x P before) (g x.dhcp) Q E) :
    Triple (Shows i x P before) (Prog.read (fun net : Stack => (net.interfaces i).dhcp) >>= g) Q E := by
  refine .bind (R := fun dhcp net => dhcp = x.dhcp ∧ Shows i x P before net) (.read fun net h => ⟨?_, h⟩)
    fun dhcp => .assuming fun same => ?_
  · rw [← h.1]
    rfl
  · rwa [same]

theorem dhcpStop_shows (active : x.dhcp.isActive = true) :
    Triple (Shows i x P before) (ignore (dhcpStop cfg i))
      (fun _ => Shows i (x.withDhcp fun dhcp => { dhcp with isActive := false, state := .failed }) P before) E := by
  refine Triple.ignore (Q := fun _ => Shows i (x.withDhcp fun dhcp => { dhcp with isActive := false, state := .failed }) P before)
    (E := fun _ => Shows i (x.withDhcp fun dhcp => { dhcp with isActive := false, state := .failed }) P before)
    (readDhcp_shows ?_) (fun _ _ h => h) fun _ _ h => h
  rw [if_pos active]
  exact .bind updateDhcp_shows fun _ => (udpClose_portless portless_shows).ignore

theorem dhcpHandleRetryExhausted_shows (active : x.dhcp.isActive = true) (wanted : ∀ bytes ∈ x.giveUp.2, P bytes) :
    Triple (Shows i x P before) (dhcpHandleRetryExhausted cfg env i) (fun _ => Shows i x.giveUp.1 P before) E := by
  apply readDhcp_shows
  rw [Interface.giveUp] at wanted ⊢
  revert wanted
  have cleared : ∀ {y : Interface} {f : DhcpContext → DhcpContext},
      P (dhcpPayload (y.unconfigured.withDhcp f) dhcpDiscover) →
      Triple (Shows i y P before)
        (clearIpConfig cfg i >>= fun _ => updateDhcp i f >>= fun _ => ignore (dhcpSendMessage cfg env i dhcpDiscover))
        (fun _ => Shows i (y.unconfigured.withDhcp f) P before) E := fun wanted =>
    .bind clearIpConfig_shows fun _ => .bind updateDhcp_shows fun _ => dhcpSendMessage_ignored env wanted
  cases state : x.dhcp.state with
  | selecting =>
    intro _
    refine .bind updateDhcp_shows fun _ => ?_
    exact dhcpStop_shows active
  | requesting =>
    intro wanted
    exact .bind updateDhcp_shows fun _ => dhcpSendMessage_ignored env (wanted _ (mem_singleton.mpr rfl))
  | renewing =>
    intro wanted
    exact .bind updateDhcp_shows fun _ => dhcpSendMessage_ignored env (wanted _ (mem_singleton.mpr rfl))
  | _ =>
    intro wanted
    exact .bind updateDhcp_shows fun _ => cleared (wanted _ (mem_singleton.mpr rfl))

theorem dhcpTickRetries_shows {elapsedMs : Nat} (active : x.dhcp.isActive = true)
    (wanted : ∀ bytes ∈ (x.retried elapsedMs).2, P bytes) :
    Triple (Shows i x P before) (dhcpTickRetries cfg env i elapsedMs)
      (fun _ => Shows i (x.retried elapsedMs).1 P before) E := by
  apply readDhcp_shows
  rw [Interface.retried] at wanted ⊢
  refine .ite (fun awaits => ?_) fun rests => ?_
  · have awaits : x.dhcp.awaits := awaits
    rw [if_pos awaits] at wanted ⊢
    refine .ite (fun overdue => .bind updateDhcp_shows fun _ => ?_) fun early => ?_
    · rw [if_pos overdue] at wanted ⊢
      refine .ite (fun left => .bind updateDhcp_shows fun _ => ?_) fun spent => ?_
      · rw [if_pos left] at wanted ⊢
        exact dhcpSendMessage_ignored env (wanted _ (mem_singleton.mpr rfl))
      · rw [if_neg spent] at wanted ⊢
        exact dhcpHandleRetryExhausted_shows env active wanted
    · rw [if_neg early]
      exact updateDhcp_shows
  · have rests : ¬x.dhcp.awaits := rests
    rw [if_neg rests]
    exact .pure fun _ h => h

theorem dhcpHandleLeaseExpired_shows (wanted : ∀ bytes ∈ x.expired.2, P bytes) :
    Triple (Shows i x P before) (dhcpHandleLeaseExpired cfg env i) (fun _ => Shows i x.expired.1 P before) E :=
  .bind clearIpConfig_shows fun _ => .bind updateDhcp_shows fun _ =>
    dhcpSendMessage_ignored env (wanted _ (mem_singleton.mpr rfl))

theorem dhcpTickLease_shows {elapsedMs : Nat} (wanted : ∀ bytes ∈ (x.leaseTicked elapsedMs).2, P bytes) :
    Triple (Shows i x P before) (dhcpTickLease cfg env i elapsedMs)
      (fun _ => Shows i (x.leaseTicked elapsedMs).1 P before) E := by
  apply readDhcp_shows
  rw [Interface.leaseTicked] at wanted ⊢
  refine .ite (fun leases => ?_) fun free => ?_
  · have leases : x.dhcp.leases := leases
    rw [if_pos leases] at wanted ⊢
    refine .bind updateDhcp_shows fun _ => .ite (fun lapsed => ?_) fun runs => ?_
    · rw [if_pos lapsed] at wanted ⊢
      exact dhcpHandleLeaseExpired_shows env wanted
    · rw [if_neg runs] at wanted ⊢
      refine .ite (fun renews => ?_) fun no => ?_
      · rw [if_pos renews] at wanted ⊢
        exact .bind updateDhcp_shows fun _ => dhcpSendMessage_ignored env (wanted _ (mem_singleton.mpr rfl))
      · rw [if_neg no] at wanted ⊢
        refine .ite (fun rebinds => ?_) fun no => ?_
        · rw [if_pos rebinds] at wanted ⊢
          exact .bind updateDhcp_shows fun _ => dhcpSendMessage_ignored env (wanted _ (mem_singleton.mpr rfl))
        · rw [if_neg no]
          exact .pure fun _ h => h
  · have free : ¬x.dhcp.leases := free
    rw [if_neg free]
    exact .pure fun _ h => h

theorem dhcpTick_shows {elapsedMs : Nat} (wanted : ∀ bytes ∈ (x.ticked elapsedMs).2, P bytes) :
    Triple (Shows i x P before) (dhcpTick cfg env i elapsedMs)
      (fun _ => Shows i (x.ticked elapsedMs).1 P before) E := by
  apply readDhcp_shows
  rw [Interface.ticked] at wanted ⊢
  refine .ite (fun idle => ?_) fun active => ?_
  · rw [if_pos idle]
    exact .pure fun _ h => h
  · rw [if_neg active] at wanted ⊢
    have first : ∀ bytes ∈ (x.retried elapsedMs).2, P bytes :=
      fun bytes mem => wanted bytes (List.mem_append_left _ mem)
    refine .bind (dhcpTickRetries_shows env (by simpa using active) first) fun _ => ?_
    exact dhcpTickLease_shows env fun bytes mem => wanted bytes (List.mem_append_right _ mem)

/- A message. -/

theorem dhcpHandleActiveState_shows {reply : DhcpReply} (wanted : ∀ bytes ∈ (x.answered reply payload).2, P bytes) :
    Triple (Shows i x P before) (dhcpHandleActiveState cfg env i reply (bytesOf payload))
      (fun _ => Shows i (x.answered reply payload).1 P before) E := by
  rw [Interface.answered] at wanted ⊢
  refine .ite (fun ack => ?_) fun other => ?_
  · rw [if_pos ack]
    refine .bind (updateInterface_shows (fun y =>
      { y with
        ipAddr := addrAt (bytesOf payload) 16, netmask := y.dhcp.netmask, gateway := y.dhcp.gateway,
        dnsPrimary := y.dhcp.dnsPrimary, dnsSecondary := y.dhcp.dnsSecondary }) fun _ => rfl) fun _ => ?_
    exact .bind arpCacheInit_shows fun _ => updateDhcp_shows
  · rw [if_neg other] at wanted ⊢
    refine .ite (fun nak => ?_) fun other => ?_
    · rw [if_pos nak] at wanted ⊢
      exact dhcpHandleLeaseExpired_shows env wanted
    · rw [if_neg other]
      exact .pure fun _ h => h

theorem taken_shows {state : DhcpState} {interface : Interface} {reply : DhcpReply}
    (same : interface.dhcp.state = state) (wanted : ∀ bytes ∈ (x.taken state reply payload).2, P bytes) :
    Triple (Shows i x P before)
      (match interface.dhcp.state with
        | .selecting => dhcpHandleSelectingState cfg env i reply.msgType (bytesOf payload)
        | .requesting | .renewing | .rebinding => dhcpHandleActiveState cfg env i reply (bytesOf payload)
        | .init | .bound | .failed => pure ())
      (fun _ => Shows i (x.taken state reply payload).1 P before) E := by
  rw [same]
  cases state with
  | selecting =>
    rw [Interface.taken] at wanted ⊢
    refine .ite (fun offer => .bind updateDhcp_shows fun _ => ?_) fun other => ?_
    · rw [if_pos offer] at wanted ⊢
      exact dhcpSendMessage_ignored env (wanted _ (mem_singleton.mpr rfl))
    · rw [if_neg other]
      exact .pure fun _ h => h
  | requesting => exact dhcpHandleActiveState_shows env wanted
  | renewing => exact dhcpHandleActiveState_shows env wanted
  | rebinding => exact dhcpHandleActiveState_shows env wanted
  | _ => exact .pure fun _ h => h

theorem dhcpRxCallback_shows (wanted : ∀ bytes ∈ (x.received payload).2, P bytes) :
    Triple (Shows i x P before) (dhcpRxCallback cfg env i payload)
      (fun _ => Shows i (x.received payload).1 P before) E := by
  refine .bind (R := fun interface net => interface.bare = x ∧ Shows i x P before net) (.read fun net h => ⟨h.1, h⟩)
    fun interface => .assuming fun same => ?_
  have dhcp : interface.dhcp = x.dhcp := by
    rw [← same]
    rfl
  have looks : x.reads payload = false ↔ interface.dhcp.isActive = false ∨
      dhcpValidateRxPacket interface (bytesOf payload) payload.length = false := by
    rw [Interface.reads, ← same, Bool.and_eq_false_iff]
    exact Iff.rfl
  rw [Interface.received] at wanted ⊢
  refine .ite (fun ignored => ?_) fun read => ?_
  · rw [if_pos (looks.mpr ignored)]
    exact .pure fun _ h => h
  · rw [if_neg fun skipped => read (looks.mp skipped)] at wanted ⊢
    refine .bind updateDhcp_shows fun _ => ?_
    have parsed : dhcpParseOptions (fun k => payload.getD k 0) payload.length payload.length 240 interface.dhcp
        ⟨0, 0, 0, 0⟩ = x.dhcp.parsed payload := by
      rw [dhcp]
      rfl
    rw [parsed]
    exact taken_shows env (congrArg DhcpContext.state dhcp) wanted

end Calls

end XSDK.Net
