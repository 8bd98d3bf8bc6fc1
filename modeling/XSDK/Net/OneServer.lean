import XSDK.Net.Lease

/-! Whose answers the DHCP client uses: what it asks for, what it applies, and what messages
that it does not take leave behind. -/
namespace XSDK.Net

open Library Prog

variable {cfg : Config} {env : Env} {i : Nat} {x : Interface} {payload bytes : List UInt8} {elapsedMs : Nat}

/- What a message asks for. -/

def IsRequest (payload : List UInt8) : Prop := (payload.drop 240).take 3 = [53, 1, 3]

def AsksFor (address server : Addr) (payload : List UInt8) : Prop :=
  (payload.drop 240).take 15 = [53, 1, 3, 50, 4] ++ List.ofFn address ++ [54, 4] ++ List.ofFn server

theorem dhcpPayload_options (x : Interface) (msgType : Nat) :
    (dhcpPayload x msgType).drop 240 =
      dhcpOptions x.dhcp msgType ++ List.replicate (60 - (dhcpOptions x.dhcp msgType).length) 0 := by
  rw [dhcpPayload]
  rw [List.append_assoc _ (dhcpOptions x.dhcp msgType)]
  apply List.drop_left'
  simp only [be32Bytes, List.length_append, List.length_replicate, List.length_ofFn, length_be16Bytes, List.length_cons,
    List.length_nil]

theorem discover_not_request (x : Interface) : ¬IsRequest (dhcpPayload x dhcpDiscover) := by
  rw [IsRequest, dhcpPayload_options, dhcpOptions]
  intro h
  cases h

theorem request_asks (state : x.dhcp.state = .requesting) :
    AsksFor x.dhcp.offeredIp x.dhcp.serverIp (dhcpPayload x dhcpRequest) := by
  rw [AsksFor, dhcpPayload_options, dhcpOptions, if_pos ⟨rfl, .inr state⟩]
  simp [List.ofFn_succ, dhcpRequest]

theorem short_not_request (short : bytes.length ≤ 18) : ¬IsRequest bytes := by
  rw [IsRequest, List.drop_eq_nil_of_le (by omega)]
  intro h
  cases h

/- The client without a lease. -/

def Interface.accepts (x : Interface) (payload : List UInt8) : Prop :=
  x.reads payload = true ∧ x.dhcp.state = .selecting ∧ (x.dhcp.parsed payload).2.msgType = dhcpOffer

/-- The client takes the message: an offer, or a consent or a refusal that it waits for. -/
def Interface.takes (x : Interface) (payload : List UInt8) : Prop :=
  (x.dhcp.state = .selecting ∧ (x.dhcp.parsed payload).2.msgType = dhcpOffer) ∨
    ((x.dhcp.state = .requesting ∨ x.dhcp.state = .renewing ∨ x.dhcp.state = .rebinding) ∧
      ((x.dhcp.parsed payload).2.msgType = dhcpAck ∨ (x.dhcp.parsed payload).2.msgType = dhcpNak))

instance (x : Interface) (payload : List UInt8) : Decidable (x.accepts payload) := inferInstanceAs (Decidable (_ ∧ _))
instance (x : Interface) (payload : List UInt8) : Decidable (x.takes payload) := inferInstanceAs (Decidable (_ ∨ _))

theorem offered_requesting (accepts : x.accepts payload) :
    x.received payload = (x.withDhcp fun _ => (x.dhcp.parsed payload).1).offered payload := by
  obtain ⟨read, state, offer⟩ := accepts
  have looks : ¬x.reads payload = false := by
    rw [read]
    decide
  rw [Interface.received, if_neg looks, state]
  dsimp only [Interface.taken]
  rw [if_pos offer]

theorem untaken_parsed (read : x.reads payload = true) (untaken : ¬x.takes payload) :
    x.received payload = (x.withDhcp fun _ => (x.dhcp.parsed payload).1, []) := by
  have looks : ¬x.reads payload = false := by
    rw [read]
    decide
  rw [Interface.received, if_neg looks]
  have answered : ∀ state, (state = .requesting ∨ state = .renewing ∨ state = .rebinding) → x.dhcp.state = state →
      (x.withDhcp fun _ => (x.dhcp.parsed payload).1).answered (x.dhcp.parsed payload).2 payload =
        (x.withDhcp fun _ => (x.dhcp.parsed payload).1, []) := by
    rintro state which rfl
    rw [Interface.answered, if_neg fun ack => untaken (.inr ⟨which, .inl ack⟩),
      if_neg fun nak => untaken (.inr ⟨which, .inr nak⟩)]
  cases state : x.dhcp.state with
  | selecting =>
    dsimp only [Interface.taken]
    rw [if_neg fun offer => untaken (.inl ⟨state, offer⟩)]
  | requesting => exact answered .requesting (.inl rfl) state
  | renewing => exact answered .renewing (.inr (.inl rfl)) state
  | rebinding => exact answered .rebinding (.inr (.inr rfl)) state
  | _ => rfl

theorem received_requests (free : ¬x.dhcp.leases) (mem : bytes ∈ (x.received payload).2) (request : IsRequest bytes) :
    x.accepts payload ∧ bytes = dhcpPayload (x.received payload).1 dhcpRequest := by
  by_cases read : x.reads payload = true
  · by_cases accepts : x.accepts payload
    · rw [offered_requesting accepts] at mem ⊢
      exact ⟨accepts, List.mem_singleton.mp mem⟩
    · have looks : ¬x.reads payload = false := by
        rw [read]
        decide
      rw [Interface.received, if_neg looks] at mem
      cases state : x.dhcp.state with
      | selecting =>
        rw [state] at mem
        dsimp only [Interface.taken] at mem
        rw [if_neg fun offer => accepts ⟨read, state, offer⟩] at mem
        cases mem
      | requesting =>
        rw [state] at mem
        dsimp only [Interface.taken] at mem
        rw [Interface.answered] at mem
        split at mem
        · cases mem
        · split at mem
          · rw [List.mem_singleton.mp mem] at request
            exact absurd request (discover_not_request _)
          · cases mem
      | renewing => exact absurd (.inr (.inl state)) free
      | rebinding => exact absurd (.inr (.inr state)) free
      | bound => exact absurd (.inl state) free
      | _ =>
        rw [state] at mem
        cases mem
  · rw [Interface.received, if_pos (by simpa using read)] at mem
    cases mem

/- The time. -/

structure Unanswered (x y : Interface) : Prop where
  offeredIp : y.dhcp.offeredIp = x.dhcp.offeredIp
  held : ∀ s : Setting, s.held y.dhcp = s.held x.dhcp
  requesting : y.dhcp.state = .requesting → x.dhcp.state = .requesting

theorem Unanswered.refl : Unanswered x x := ⟨rfl, fun _ => rfl, id⟩

theorem Unanswered.trans {y z : Interface} (first : Unanswered x y) (second : Unanswered y z) : Unanswered x z :=
  ⟨second.offeredIp.trans first.offeredIp, fun s => (second.held s).trans (first.held s),
    fun state => first.requesting (second.requesting state)⟩

theorem giveUp_unanswered (x : Interface) : Unanswered x x.giveUp.1 := by
  rw [Interface.giveUp]
  split
  all_goals exact ⟨rfl, fun s => by cases s <;> rfl, by rintro ⟨⟩⟩

theorem retried_unanswered (x : Interface) (elapsedMs : Nat) : Unanswered x (x.retried elapsedMs).1 := by
  rw [Interface.retried]
  split
  · split
    · split
      · exact ⟨rfl, fun s => by cases s <;> rfl, id⟩
      · have reset : Unanswered x (x.withDhcp fun dhcp => { dhcp with retryElapsedMs := 0 }) :=
          ⟨rfl, fun s => by cases s <;> rfl, id⟩
        exact reset.trans (giveUp_unanswered _)
    · exact ⟨rfl, fun s => by cases s <;> rfl, id⟩
  · exact .refl

theorem leaseTicked_unanswered (x : Interface) (elapsedMs : Nat) : Unanswered x (x.leaseTicked elapsedMs).1 := by
  rw [Interface.leaseTicked]
  split
  · next leases =>
    have aged : Unanswered x (x.withDhcp fun dhcp => dhcp.aged elapsedMs) := ⟨rfl, fun s => by cases s <;> rfl, id⟩
    dsimp only
    split
    · exact ⟨rfl, fun s => by cases s <;> rfl, by rintro ⟨⟩⟩
    · split
      · exact ⟨rfl, fun s => by cases s <;> rfl, by rintro ⟨⟩⟩
      · split
        · exact ⟨rfl, fun s => by cases s <;> rfl, by rintro ⟨⟩⟩
        · exact aged
  · exact .refl

theorem ticked_unanswered (x : Interface) (elapsedMs : Nat) : Unanswered x (x.ticked elapsedMs).1 := by
  rw [Interface.ticked]
  split
  · exact .refl
  · exact (retried_unanswered x elapsedMs).trans (leaseTicked_unanswered _ elapsedMs)

theorem retried_requests (free : ¬x.dhcp.leases) (mem : bytes ∈ (x.retried elapsedMs).2) (request : IsRequest bytes) :
    (x.retried elapsedMs).1.dhcp.state = .requesting ∧ bytes = dhcpPayload (x.retried elapsedMs).1 dhcpRequest := by
  rw [Interface.retried] at mem ⊢
  by_cases awaits : x.dhcp.awaits
  · rw [if_pos awaits] at mem ⊢
    have two : x.dhcp.state = .selecting ∨ x.dhcp.state = .requesting := by
      rcases awaits with state | state | state | state
      · exact .inl state
      · exact .inr state
      · exact absurd (.inr (.inl state)) free
      · exact absurd (.inr (.inr state)) free
    split at mem
    · next overdue =>
      rw [if_pos overdue]
      split at mem
      · next left =>
        rw [if_pos left]
        have sent := List.mem_singleton.mp mem
        rcases two with state | state
        · rw [sent, if_pos state] at request
          exact absurd request (discover_not_request _)
        · rw [if_neg (by rw [state]; decide)] at sent
          exact ⟨state, sent⟩
      · rw [Interface.giveUp] at mem
        rcases two with state | state
        · have selecting : (x.withDhcp fun dhcp => { dhcp with retryElapsedMs := 0 }).dhcp.state = .selecting := state
          rw [selecting] at mem
          cases mem
        · have requesting : (x.withDhcp fun dhcp => { dhcp with retryElapsedMs := 0 }).dhcp.state = .requesting := state
          rw [requesting] at mem
          rw [List.mem_singleton.mp mem] at request
          exact absurd request (discover_not_request _)
    · cases mem
  · rw [if_neg awaits] at mem
    cases mem

theorem retried_free (free : ¬x.dhcp.leases) : ¬(x.retried elapsedMs).1.dhcp.leases := by
  rw [Interface.retried]
  split
  · next awaits =>
    split
    · split
      · exact free
      · rcases awaits with state | state | state | state
        · have selecting : (x.withDhcp fun dhcp => { dhcp with retryElapsedMs := 0 }).dhcp.state = .selecting := state
          rw [Interface.giveUp, selecting]
          rintro (leases | leases | leases) <;> cases leases
        · have requesting : (x.withDhcp fun dhcp => { dhcp with retryElapsedMs := 0 }).dhcp.state = .requesting := state
          rw [Interface.giveUp, requesting]
          rintro (leases | leases | leases) <;> cases leases
        · exact absurd (.inr (.inl state)) free
        · exact absurd (.inr (.inr state)) free
    · exact free
  · exact free

theorem ticked_requests (free : ¬x.dhcp.leases) (mem : bytes ∈ (x.ticked elapsedMs).2) (request : IsRequest bytes) :
    (x.ticked elapsedMs).1.dhcp.state = .requesting ∧ bytes = dhcpPayload (x.ticked elapsedMs).1 dhcpRequest := by
  rw [Interface.ticked] at mem ⊢
  split at mem
  · cases mem
  · next active =>
    rw [if_neg active]
    have still : (x.retried elapsedMs).1.leaseTicked elapsedMs = ((x.retried elapsedMs).1, []) := by
      rw [Interface.leaseTicked, if_neg (retried_free free)]
    dsimp only at mem ⊢
    rw [still, List.append_nil] at mem
    rw [still]
    exact retried_requests free mem request

/- Runs. -/

inductive DhcpEvent where
  | received (payload : List UInt8)
  | ticked (elapsedMs : Nat)

def DhcpEvent.call (cfg : Config) (env : Env) (i : Nat) : DhcpEvent → StackM Unit
  | .received payload => dhcpRxCallback cfg env i payload
  | .ticked elapsedMs => dhcpTick cfg env i elapsedMs

def DhcpEvent.react (x : Interface) : DhcpEvent → Reaction
  | .received payload => x.received payload
  | .ticked elapsedMs => x.ticked elapsedMs

/-- The stack, and the offer that the client accepted last. -/
structure Exchange where
  net : Stack
  offer : Option (List UInt8)

def Exchange.client (s : Exchange) (i : Nat) : Interface := s.net.face i

def Exchange.accepted (s : Exchange) (i : Nat) : DhcpEvent → Option (List UInt8)
  | .received payload => if (s.client i).accepts payload then some payload else s.offer
  | .ticked _ => s.offer

def exchange (cfg : Config) (env : Env) (i : Nat) : Machine Exchange DhcpEvent Unit where
  allowed s e := (e.call cfg env i s.net).isSome = true
  step s e := (⟨leftBy (e.call cfg env i) s.net, s.accepted i e⟩, ())

namespace Setting

def inUse (x : Interface) : Setting → Addr
  | .netmask => x.netmask
  | .gateway => x.gateway
  | .dnsPrimary => x.dnsPrimary
  | .dnsSecondary => x.dnsSecondary
  | .server => x.dhcp.serverIp

/-- What a consent says, or else the accepted offer when it is from the same server; the zero
address where neither says anything. -/
def chosen (s : Setting) (payload : List UInt8) (offer : Option (List UInt8)) : Addr :=
  match s.carried payload with
  | some a => a
  | none =>
    match offer with
    | none => zeroAddr
    | some offer =>
      if Setting.server.carried offer = Setting.server.carried payload then
        (s.carried offer).getD zeroAddr
      else zeroAddr

end Setting

/-- In a step, a client without a lease requests what one offer said, a consent is applied
with nobody else's settings, and a message that is not taken changes nothing. -/
structure Exclusive (i : Nat) (s : Exchange) (e : DhcpEvent) (s' : Exchange) : Prop where
  request : ¬(s.client i).dhcp.leases → ∀ new, s'.net.transmitted = new ++ s.net.transmitted →
    ∀ frame ∈ new, IsRequest frame.payload → ∃ offer server, s'.offer = some offer ∧
      Setting.server.carried offer = some server ∧ AsksFor (addrAt (bytesOf offer) 16) server frame.payload
  applied : ∀ payload, e = .received payload → (s.client i).bindsBy payload →
    (s'.client i).ipAddr = addrAt (bytesOf payload) 16 ∧
      ∀ setting : Setting, setting ≠ .server → setting.inUse (s'.client i) = setting.chosen payload s.offer
  ignored : ∀ payload, e = .received payload → (s.client i).reads payload = true → ¬(s.client i).takes payload →
    (s'.client i).dhcp = (s.client i).dhcp

/-- No message mixes into what another one said: one that is not taken says nothing new, an
accepted offer names its server and leaves nothing out that the client holds from before, a
consent is from the server of the offer or leaves nothing out that the client holds, and when
it renews a lease it leaves out only what still stands as in the offer. -/
structure Unmixed (i : Nat) (s : Exchange) (e : DhcpEvent) : Prop where
  ignored : ∀ payload, e = .received payload → (s.client i).reads payload = true → ¬(s.client i).takes payload →
    ∀ (setting : Setting) a, setting.carried payload = some a → setting.held (s.client i).dhcp = a
  offer : ∀ payload, e = .received payload → (s.client i).accepts payload →
    (Setting.server.carried payload).isSome = true ∧ ∀ setting : Setting, setting ≠ .server →
      setting.carried payload = none → setting.held (s.client i).dhcp = zeroAddr
  consent : ∀ payload, e = .received payload → (s.client i).bindsBy payload → (s.client i).dhcp.state = .requesting →
    Setting.server.carried payload = some (s.client i).dhcp.serverIp ∨ ∀ setting : Setting, setting ≠ .server →
      setting.carried payload = none → setting.held (s.client i).dhcp = zeroAddr
  renewal : ∀ payload, e = .received payload → (s.client i).bindsBy payload → (s.client i).dhcp.state ≠ .requesting →
    ∀ setting : Setting, setting ≠ .server → setting.carried payload = none →
      setting.held (s.client i).dhcp = setting.chosen payload s.offer

def Faithful (i : Nat) (s : Exchange) : Prop :=
  (s.client i).dhcp.state = .requesting → ∃ offer server, s.offer = some offer ∧
    Setting.server.carried offer = some server ∧ (s.client i).dhcp.offeredIp = addrAt (bytesOf offer) 16 ∧
    (s.client i).dhcp.serverIp = server ∧ ∀ setting : Setting, setting ≠ .server →
      setting.held (s.client i).dhcp = (setting.carried offer).getD zeroAddr

theorem parsed_same {dhcp : DhcpContext}
    (said : ∀ (setting : Setting) a, setting.carried payload = some a → setting.held dhcp = a) :
    (dhcp.parsed payload).1 = dhcp := by
  have held : ∀ setting : Setting, (setting.carried payload).getD (setting.held dhcp) = setting.held dhcp := by
    intro setting
    cases carried : setting.carried payload with
    | none => rfl
    | some a => exact (said setting a carried).symm
  rw [parsed_eq]
  simp only [held]
  rfl

theorem held_parsed (dhcp : DhcpContext) (payload : List UInt8) (setting : Setting) :
    setting.held (dhcp.parsed payload).1 = (setting.carried payload).getD (setting.held dhcp) := by
  rw [parsed_eq]
  cases setting <;> rfl

theorem inUse_acknowledged (reply : DhcpReply) (setting : Setting) :
    setting.inUse ((x.withDhcp fun _ => (x.dhcp.parsed payload).1).acknowledged reply payload) =
      (setting.carried payload).getD (setting.held x.dhcp) := by
  rw [← held_parsed]
  cases setting <;> rfl

variable {s : Exchange} {e : DhcpEvent}

theorem step_reaction (carved : Carved s.net) (allowed : (exchange cfg env i).allowed s e) :
    ((exchange cfg env i).step s e).1.client i = (e.react (s.client i)).1 ∧
      Carved ((exchange cfg env i).step s e).1.net ∧
      Handed (· ∈ (e.react (s.client i)).2) s.net.transmitted ((exchange cfg env i).step s e).1.net.transmitted := by
  obtain ⟨result, run⟩ := leftBy_eq allowed
  have start : ∀ P, Shows i (s.client i) P s.net.transmitted s.net := fun _ => ⟨rfl, carved, .refl⟩
  cases e with
  | received payload =>
    have call : Triple (Shows i (s.client i) (· ∈ ((s.client i).received payload).2) s.net.transmitted)
        (dhcpRxCallback cfg env i payload)
        (fun _ => Shows i ((s.client i).received payload).1 (· ∈ ((s.client i).received payload).2) s.net.transmitted)
        (fun _ => Shows i ((s.client i).received payload).1 (· ∈ ((s.client i).received payload).2) s.net.transmitted) :=
      dhcpRxCallback_shows env fun _ h => h
    exact call.always (start _) run
  | ticked elapsedMs =>
    have call : Triple (Shows i (s.client i) (· ∈ ((s.client i).ticked elapsedMs).2) s.net.transmitted)
        (dhcpTick cfg env i elapsedMs)
        (fun _ => Shows i ((s.client i).ticked elapsedMs).1 (· ∈ ((s.client i).ticked elapsedMs).2) s.net.transmitted)
        (fun _ => Shows i ((s.client i).ticked elapsedMs).1 (· ∈ ((s.client i).ticked elapsedMs).2) s.net.transmitted) :=
      dhcpTick_shows env fun _ h => h
    exact call.always (start _) run

theorem taken_settled (read : x.reads payload = true) (takes : x.takes payload) (other : ¬x.accepts payload) :
    (x.received payload).1.dhcp.state ≠ .requesting := by
  have looks : ¬x.reads payload = false := by
    rw [read]
    decide
  rcases takes with ⟨selecting, offer⟩ | ⟨state, ack | nak⟩
  · exact absurd ⟨read, selecting, offer⟩ other
  · rw [bound_by ⟨read, state, ack⟩]
    rintro ⟨⟩
  · have refused : ¬(x.dhcp.parsed payload).2.msgType = dhcpAck := by
      rw [nak]
      decide
    rw [Interface.received, if_neg looks]
    rcases state with state | state | state <;> rw [state] <;> dsimp only [Interface.taken] <;>
      rw [Interface.answered, if_neg refused, if_pos nak] <;> rintro ⟨⟩

theorem step_faithful {s s' : Exchange} (faithful : Faithful i s) (unmixed : Unmixed i s e)
    (offer : s'.offer = s.accepted i e)
    (client : s'.client i = (e.react (s.client i)).1) : Faithful i s' := by
  intro requesting
  cases e with
  | ticked elapsedMs =>
    have same := ticked_unanswered (s.client i) elapsedMs
    rw [DhcpEvent.react] at client
    rw [← client] at same
    obtain ⟨offer', server, accepted, named, address, from_server, held⟩ := faithful (same.requesting requesting)
    refine ⟨offer', server, offer.trans accepted, named, same.offeredIp.trans address,
      (same.held .server).trans from_server, fun setting other => ?_⟩
    exact (same.held setting).trans (held setting other)
  | received payload =>
    rw [DhcpEvent.react] at client
    rw [Exchange.accepted] at offer
    by_cases accepts : (s.client i).accepts payload
    · rw [if_pos accepts] at offer
      rw [offered_requesting accepts] at client
      obtain ⟨named, fresh⟩ := unmixed.offer payload rfl accepts
      obtain ⟨server, named⟩ := Option.isSome_iff_exists.mp named
      refine ⟨payload, server, offer, named, ?_, ?_, fun setting other => ?_⟩
      · rw [client]
        rfl
      · have held := held_parsed (s.client i).dhcp payload .server
        rw [named] at held
        rw [client]
        exact held
      · have held := held_parsed (s.client i).dhcp payload setting
        rw [client]
        have moved : setting.held ((((s.client i).withDhcp fun _ => ((s.client i).dhcp.parsed payload).1).offered payload).1).dhcp =
            setting.held ((s.client i).dhcp.parsed payload).1 := by cases setting <;> rfl
        rw [moved, held]
        cases carried : setting.carried payload with
        | none => exact fresh setting other carried
        | some a => rfl
    · rw [if_neg accepts] at offer
      have same : s'.client i = s.client i := by
        rw [client]
        by_cases read : (s.client i).reads payload = true
        · by_cases takes : (s.client i).takes payload
          · exact absurd (client ▸ requesting) (taken_settled read takes accepts)
          · rw [untaken_parsed read takes, parsed_same (unmixed.ignored payload rfl read takes)]
            rfl
        · rw [Interface.received, if_pos (by simpa using read)]
      rw [same] at requesting ⊢
      obtain ⟨offer', server, accepted, rest⟩ := faithful requesting
      exact ⟨offer', server, offer.trans accepted, rest⟩

theorem chosen_held {setting : Setting} (faithful : Faithful i s) (unmixed : Unmixed i s (.received payload))
    (binds : (s.client i).bindsBy payload) (other : setting ≠ .server) :
    (setting.carried payload).getD (setting.held (s.client i).dhcp) = setting.chosen payload s.offer := by
  cases carried : setting.carried payload with
  | some a => simp only [Setting.chosen, carried, Option.getD_some]
  | none =>
    rw [Option.getD_none]
    by_cases state : (s.client i).dhcp.state = .requesting
    · obtain ⟨offer, server, accepted, named, -, from_server, held⟩ := faithful state
      simp only [Setting.chosen, carried, accepted]
      rcases unmixed.consent payload rfl binds state with same | nothing
      · rw [if_pos (by rw [named, same, from_server])]
        exact held setting other
      · split
        · exact held setting other
        · exact nothing setting other carried
    · exact unmixed.renewal payload rfl binds state setting other carried

theorem step_exclusive (carved : Carved s.net) (faithful : Faithful i s)
    (unmixed : Unmixed i s e) (allowed : (exchange cfg env i).allowed s e) :
    Carved ((exchange cfg env i).step s e).1.net ∧ Faithful i ((exchange cfg env i).step s e).1 ∧
      Exclusive i s e ((exchange cfg env i).step s e).1 := by
  obtain ⟨client, carved', handed⟩ := step_reaction carved allowed
  have faithful' : Faithful i ((exchange cfg env i).step s e).1 :=
    step_faithful faithful unmixed rfl client
  refine ⟨carved', faithful', ?_, ?_, ?_⟩
  · intro free new sent frame mem request
    obtain ⟨new', sent', all⟩ := handed
    have same : new = new' := List.append_cancel_right (sent.symm.trans sent')
    rcases all frame (same ▸ mem) with short | wanted
    · refine absurd request (short_not_request ?_)
      rw [Frame.payload, List.length_drop]
      omega
    · have asked : (e.react (s.client i)).1.dhcp.state = .requesting ∧
          frame.payload = dhcpPayload (e.react (s.client i)).1 dhcpRequest := by
        cases e with
        | received payload =>
          obtain ⟨accepts, payload_eq⟩ := received_requests free wanted request
          refine ⟨?_, payload_eq⟩
          rw [DhcpEvent.react, offered_requesting accepts]
          rfl
        | ticked elapsedMs => exact ticked_requests free wanted request
      have state : (((exchange cfg env i).step s e).1.client i).dhcp.state = .requesting := by
        rw [client]
        exact asked.1
      obtain ⟨offer, server, accepted, named, address, from_server, -⟩ := faithful' state
      rw [client] at address from_server
      refine ⟨offer, server, accepted, named, ?_⟩
      rw [asked.2, ← address, ← from_server]
      exact request_asks asked.1
  · rintro payload rfl binds
    rw [client, DhcpEvent.react, bound_by binds]
    refine ⟨rfl, fun setting other => ?_⟩
    rw [inUse_acknowledged]
    exact chosen_held faithful unmixed binds other
  · rintro payload rfl read untaken
    rw [client, DhcpEvent.react, untaken_parsed read untaken]
    exact parsed_same (unmixed.ignored payload rfl read untaken)

theorem dhcpStart_faithful {net net' : Stack} {result : Except Error Unit} (carved : Carved net)
    (start : dhcpStart cfg env i net = some (result, net')) : Carved net' ∧ Faithful i ⟨net', none⟩ := by
  have carved' : Carved net' := (dhcpStart_carved env).always carved start
  have quiet : Triple (fun _ => True) (dhcpStart cfg env i) (fun _ s => (s.face i).dhcp.state ≠ .requesting)
      (fun _ s => (s.face i).dhcp.state ≠ .requesting) := by
    have idle : Portless fun s => (s.face i).dhcp.state ≠ .requesting :=
      ⟨fun _ _ _ h => h, fun _ _ h => h, fun _ _ h => h⟩
    have still : ∀ {f : DhcpContext → DhcpContext}, (∀ dhcp, dhcp.state ≠ .requesting → (f dhcp).state ≠ .requesting) →
        Keeps (fun s => (s.face i).dhcp.state ≠ .requesting) (updateDhcp i f) := by
      intro f kept
      refine .modify fun s h => ?_
      rw [face_setInterface, if_pos rfl]
      exact kept _ h
    refine .readThen fun ticks => .bind (R := fun _ s => (s.face i).dhcp.state ≠ .requesting)
      (.modify fun s _ => ?_) fun _ => ?_
    · rw [face_setInterface, if_pos rfl]
      exact nofun
    · refine .bind (R := fun _ s => (s.face i).dhcp.state ≠ .requesting) (.modify fun _ h => h) fun _ => ?_
      refine .bind (.onError (udpOpen_portless idle) fun _ => still fun _ h => h) fun _ => ?_
      have cleared : Keeps (fun s => (s.face i).dhcp.state ≠ .requesting) (clearIpConfig cfg i) := by
        refine .bind (.modify fun s h => ?_) fun _ => .bind (.modify fun _ h => h) fun _ => .modify fun s h => ?_
        · rw [face_setInterface, if_pos rfl]
          exact h
        · rw [face_setInterface, if_pos rfl]
          exact h
      refine .bind cleared fun _ => .bind (still fun _ _ => nofun) fun _ => ?_
      exact (dhcpSendMessage_steady env (apart_face i fun y => y.dhcp.state ≠ .requesting)).keeps
  have state := quiet.always trivial start
  exact ⟨carved', fun requesting => absurd requesting state⟩

theorem exchange_carved {net : Stack} {offer : Option (List UInt8)}
    {trace : List (Transition Exchange DhcpEvent Unit)} (carved : Carved net)
    (run : (exchange cfg env i).Run ⟨net, offer⟩ trace s) : Carved s.net :=
  run.invariant (P := fun s => Carved s.net) carved fun _ _ carved allowed => (step_reaction carved allowed).2.1

/-- In every run of messages and ticks from a start of the client in which no message mixes
into what another one said, every step uses the answers of one server. -/
theorem one_server {net net' : Stack} {result : Except Error Unit} {s : Exchange}
    {trace : List (Transition Exchange DhcpEvent Unit)} (carved : Carved net)
    (start : dhcpStart cfg env i net = some (result, net')) (run : (exchange cfg env i).Run ⟨net', none⟩ trace s)
    (unmixed : ∀ tr ∈ trace, Unmixed i tr.pre tr.input) : ∀ tr ∈ trace, Exclusive i tr.pre tr.input tr.post := by
  have all : (Carved s.net ∧ Faithful i s) ∧ ∀ tr ∈ trace, Exclusive i tr.pre tr.input tr.post := by
    refine run.history (P := fun trace s => (∀ tr ∈ trace, Unmixed i tr.pre tr.input) →
      (Carved s.net ∧ Faithful i s) ∧ ∀ tr ∈ trace, Exclusive i tr.pre tr.input tr.post) ?_ ?_ unmixed
    · exact fun _ => ⟨dhcpStart_faithful carved start, nofun⟩
    · intro earlier s e before allowed meets
      obtain ⟨⟨carved, faithful⟩, exclusive⟩ := before fun tr mem => meets tr (List.mem_append_left _ mem)
      have unmixed : Unmixed i s e := meets _ (List.mem_append_right _ List.mem_cons_self)
      obtain ⟨carved', faithful', last⟩ := step_exclusive carved faithful unmixed allowed
      refine ⟨⟨carved', faithful'⟩, fun tr mem => ?_⟩
      rcases List.mem_append.mp mem with mem | mem
      · exact exclusive tr mem
      · rw [List.mem_singleton.mp mem]
        exact last
  exact all.2

section Sample

def sampleUp : List Op := [.interfaceAdd sampleInterface, .linkSet 0 true]
def sampleIdle : Stack := (machine sampleConfig sampleEnv).play sampleStart sampleUp
def sampleStarted : Stack := leftBy (dhcpStart sampleConfig sampleEnv 0) sampleIdle

theorem sampleUp_legal : (machine sampleConfig sampleEnv).Legal sampleStart sampleUp := by
  decide +kernel

def sampleRival : List UInt8 := serverMessage 0x3F82A000 2 ![192, 168, 1, 60] [54, 4, 192, 168, 1, 9]

instance (s : Exchange) (e : DhcpEvent) : Decidable ((exchange cfg env i).allowed s e) :=
  inferInstanceAs (Decidable (_ = _))

def sampleRivalry : List DhcpEvent := [.received sampleOffer, .received sampleRival, .ticked 4000]

abbrev sampleExchange : Machine Exchange DhcpEvent Unit := exchange sampleConfig sampleEnv 0

theorem sampleRivalry_legal : sampleExchange.Legal ⟨sampleStarted, none⟩ sampleRivalry := by
  decide +kernel

def sampleAsked : Exchange := sampleExchange.play ⟨sampleStarted, none⟩ (sampleRivalry.take 2)

theorem sampleAsked_carved : Carved sampleAsked.net := by
  have start : Carved sampleStarted := by
    obtain ⟨result, run⟩ : ∃ result, dhcpStart sampleConfig sampleEnv 0 sampleIdle = some (result, sampleStarted) :=
      leftBy_eq (by decide +kernel)
    exact (dhcpStart_carved sampleEnv).always (run_carved sampleEnv (Machine.run_of_legal sampleUp_legal)) run
  have legal : sampleExchange.Legal ⟨sampleStarted, none⟩ (sampleRivalry.take 2) := by decide +kernel
  have run : sampleExchange.Run ⟨sampleStarted, none⟩ _ sampleAsked := Machine.run_of_legal legal
  exact exchange_carved start run

/-- The client asks the rival for what the first server offered. -/
theorem servers_mixed : ∃ (net net' : Stack) (result : Except Error Unit) (s : Exchange)
    (trace : List (Transition Exchange DhcpEvent Unit)), Carved net ∧
    dhcpStart sampleConfig sampleEnv 0 net = some (result, net') ∧ sampleExchange.Run ⟨net', none⟩ trace s ∧
    ¬∀ tr ∈ trace, Exclusive 0 tr.pre tr.input tr.post := by
  obtain ⟨result, start⟩ : ∃ result, dhcpStart sampleConfig sampleEnv 0 sampleIdle = some (result, sampleStarted) :=
    leftBy_eq (by decide +kernel)
  have carved : Carved sampleIdle := run_carved sampleEnv (Machine.run_of_legal sampleUp_legal)
  refine ⟨sampleIdle, sampleStarted, result, _, _, carved, start, Machine.run_of_legal sampleRivalry_legal, fun all => ?_⟩
  have last : Exclusive 0 sampleAsked (.ticked 4000) (sampleExchange.step sampleAsked (.ticked 4000)).1 :=
    all (sampleExchange.take sampleAsked (.ticked 4000)) (.tail _ (.tail _ (.head _)))
  have ends : sampleExchange.allowed sampleAsked (.ticked 4000) := by decide +kernel
  obtain ⟨-, -, new, sent, -⟩ := step_reaction sampleAsked_carved ends
  have one : new.length = 1 := by
    have before : sampleAsked.net.transmitted.length = 2 := by decide +kernel
    have after : (sampleExchange.step sampleAsked (.ticked 4000)).1.net.transmitted.length = 3 := by decide +kernel
    have total := congrArg List.length sent
    rw [List.length_append, before] at total
    exact Nat.add_right_cancel (total.symm.trans after)
  obtain ⟨frame, rfl⟩ := List.length_eq_one_iff.mp one
  have first : (sampleExchange.step sampleAsked (.ticked 4000)).1.net.transmitted.head? = some frame := by
    rw [sent]
    rfl
  have asks : (((sampleExchange.step sampleAsked (.ticked 4000)).1.net.transmitted.head?.map fun frame =>
      (frame.payload.drop 240).take 15) = some [53, 1, 3, 50, 4, 192, 168, 1, 50, 54, 4, 192, 168, 1, 9]) := by
    decide +kernel
  rw [first] at asks
  have bytes : (frame.payload.drop 240).take 15 = [53, 1, 3, 50, 4, 192, 168, 1, 50, 54, 4, 192, 168, 1, 9] :=
    Option.some.inj asks
  have request : IsRequest frame.payload := by
    have three := congrArg (List.take 3) bytes
    rw [List.take_take] at three
    exact three
  obtain ⟨offer, server, accepted, named, asked⟩ :=
    last.request (by decide +kernel) [frame] sent frame (List.mem_singleton.mpr rfl) request
  have kept : (sampleExchange.step sampleAsked (.ticked 4000)).1.offer = some sampleOffer := by decide +kernel
  rw [kept] at accepted
  cases accepted
  have own : Setting.server.carried sampleOffer = some ![192, 168, 1, 1] := by decide +kernel
  rw [own] at named
  cases named
  rw [AsksFor, bytes] at asked
  exact absurd asked (by decide +kernel)

theorem unmixed_ticked (s : Exchange) (elapsedMs : Nat) : Unmixed i s (.ticked elapsedMs) :=
  ⟨nofun, nofun, nofun, nofun⟩

instance : Fintype Setting :=
  ⟨{.netmask, .gateway, .dnsPrimary, .dnsSecondary, .server}, fun s => by cases s <;> decide⟩

theorem unmixed_received (s : Exchange) (payload : List UInt8)
    (ignored : (s.client i).reads payload = true → ¬(s.client i).takes payload → ∀ setting : Setting,
      (setting.carried payload).all (fun a => decide (setting.held (s.client i).dhcp = a)) = true)
    (offer : (s.client i).accepts payload → (Setting.server.carried payload).isSome = true ∧ ∀ setting : Setting,
      setting ≠ .server → setting.carried payload = none → setting.held (s.client i).dhcp = zeroAddr)
    (consent : (s.client i).bindsBy payload →
      (s.client i).dhcp.state = .requesting ∧ Setting.server.carried payload = some (s.client i).dhcp.serverIp) :
    Unmixed i s (.received payload) where
  ignored := by
    rintro _ ⟨⟩ read untaken setting a carried
    have same := ignored read untaken setting
    rw [carried] at same
    simpa using same
  offer := by
    rintro _ ⟨⟩ accepts
    exact offer accepts
  consent := by
    rintro _ ⟨⟩ binds _
    exact .inl (consent binds).2
  renewal := by
    rintro _ ⟨⟩ binds state
    exact absurd (consent binds).1 state

/-- One server, whose offer the client takes, whose silence it waits through and whose
consent comes late. -/
def sampleTalk : List DhcpEvent := [.received sampleOffer, .ticked 4000, .received sampleAck]

theorem sampleTalk_legal : sampleExchange.Legal ⟨sampleStarted, none⟩ sampleTalk := by
  decide +kernel

theorem one_server_sample : (sampleExchange.transitions ⟨sampleStarted, none⟩ sampleTalk).Forall
    fun tr => Exclusive 0 tr.pre tr.input tr.post := by
  rw [List.forall_iff_forall_mem]
  obtain ⟨result, start⟩ : ∃ result, dhcpStart sampleConfig sampleEnv 0 sampleIdle = some (result, sampleStarted) :=
    leftBy_eq (by decide +kernel)
  refine one_server (run_carved sampleEnv (Machine.run_of_legal sampleUp_legal)) start
    (Machine.run_of_legal sampleTalk_legal) fun tr mem => ?_
  rcases List.mem_cons.mp mem with rfl | mem
  · exact unmixed_received _ _ (by decide +kernel) (by decide +kernel) (by decide +kernel)
  · rcases List.mem_cons.mp mem with rfl | mem
    · exact unmixed_ticked _ _
    · rw [List.mem_singleton.mp mem]
      exact unmixed_received _ _ (by decide +kernel) (by decide +kernel) (by decide +kernel)

end Sample

end XSDK.Net
