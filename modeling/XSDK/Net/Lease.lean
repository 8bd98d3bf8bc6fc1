import XSDK.Net.Options

/-! How long an address is held: the clock of the lease and the back-off of the messages
drive one state, tick by tick. -/
namespace XSDK.Net

open Library Prog

/-- The message is the server's consent and the client takes it. -/
def Interface.bindsBy (x : Interface) (payload : List UInt8) : Prop :=
  x.reads payload = true ∧ (x.dhcp.state = .requesting ∨ x.dhcp.state = .renewing ∨ x.dhcp.state = .rebinding) ∧
    (x.dhcp.parsed payload).2.msgType = dhcpAck

/- What an answer says, in seconds; an hour and parts of the lease where it says nothing. -/

def DhcpReply.lease (reply : DhcpReply) : Nat := if reply.leaseTime ≠ 0 then reply.leaseTime else 3600
def DhcpReply.renewal (reply : DhcpReply) : Nat := if reply.t1 ≠ 0 then reply.t1 else reply.lease / 2
def DhcpReply.rebinding (reply : DhcpReply) : Nat := if reply.t2 ≠ 0 then reply.t2 else reply.lease * 7 / 8

variable {cfg : Config} {env : Env} {i elapsed now lease t1 t2 : Nat} {leased : Addr} {x : Interface}

/-- What is promised so many milliseconds after the answer. -/
structure Honoured (leased : Addr) (lease t1 t2 elapsed : Nat) (x : Interface) : Prop where
  kept : elapsed < lease * 1000 → x.ipAddr = leased
  lost : lease * 1000 ≤ elapsed → x.ipAddr = zeroAddr
  bound : elapsed < t1 * 1000 → x.dhcp.state = .bound
  renewing : elapsed < t2 * 1000 → x.dhcp.state ≠ .rebinding
  leasing : elapsed < lease * 1000 → x.dhcp.leases

/-- The message went unanswered as often as it is sent, and its time is up. -/
def DhcpContext.spent (dhcp : DhcpContext) (elapsedMs : Nat) : Prop :=
  4 ≤ dhcp.retryCount ∧ dhcp.currentRetryTimeout ≤ u32 (dhcp.retryElapsedMs + elapsedMs)

/-- No clock wraps in the tick, and no message is given up before the clock of the lease
would end its state. -/
def DhcpContext.Timely (dhcp : DhcpContext) (elapsedMs : Nat) : Prop :=
  dhcp.leases →
    (dhcp.state = .rebinding ∧ dhcp.spent elapsedMs → dhcp.leaseTime * 1000 ≤ dhcp.leaseElapsedTotalMs + elapsedMs) ∧
    (¬(dhcp.state = .rebinding ∧ dhcp.spent elapsedMs) → dhcp.leaseElapsedTotalMs + elapsedMs < 2 ^ 32) ∧
    (dhcp.state = .renewing ∧ dhcp.spent elapsedMs → dhcp.t2 * 1000 ≤ dhcp.t2ElapsedMs + elapsedMs)

structure Running (leased : Addr) (lease t1 t2 clock now : Nat) (x : Interface) : Prop where
  active : x.dhcp.isActive = true
  address : x.ipAddr = leased
  terms : x.dhcp.leaseTime = lease ∧ x.dhcp.t1 = t1 ∧ x.dhcp.t2 = t2
  clocks : x.dhcp.leaseElapsedTotalMs = clock ∧ x.dhcp.t1ElapsedMs = clock ∧ x.dhcp.t2ElapsedMs = clock
  state : x.dhcp.state = .bound ∨ (x.dhcp.state = .renewing ∧ t1 * 1000 ≤ now) ∨
    (x.dhcp.state = .rebinding ∧ t1 * 1000 ≤ now ∧ t2 * 1000 ≤ now)

structure Ended (x : Interface) : Prop where
  address : x.ipAddr = zeroAddr
  state : x.dhcp.state = .selecting ∨ x.dhcp.state = .failed

theorem Running.later (running : Running leased lease t1 t2 elapsed now x) {later : Nat} (le : now ≤ later) :
    Running leased lease t1 t2 elapsed later x := by
  refine ⟨running.active, running.address, running.terms, running.clocks, ?_⟩
  rcases running.state with bound | ⟨renewing, first⟩ | ⟨rebinding, first, second⟩
  · exact .inl bound
  · exact .inr (.inl ⟨renewing, Nat.le_trans first le⟩)
  · exact .inr (.inr ⟨rebinding, Nat.le_trans first le, Nat.le_trans second le⟩)

theorem Running.leases (running : Running leased lease t1 t2 elapsed now x) : x.dhcp.leases := by
  rcases running.state with bound | ⟨renewing, -⟩ | ⟨rebinding, -, -⟩
  · exact .inl bound
  · exact .inr (.inl renewing)
  · exact .inr (.inr rebinding)

variable {elapsedMs : Nat}

theorem retried_running (running : Running leased lease t1 t2 elapsed elapsed x) (timely : x.dhcp.Timely elapsedMs) :
    Running leased lease t1 t2 elapsed (elapsed + elapsedMs) (x.retried elapsedMs).1 ∧
        elapsed + elapsedMs < 2 ^ 32 ∨
      Ended (x.retried elapsedMs).1 ∧ lease * 1000 ≤ elapsed + elapsedMs := by
  obtain ⟨lapsed, room, due⟩ := timely running.leases
  have later := running.later (Nat.le_add_right elapsed elapsedMs)
  rw [running.clocks.1, running.terms.1] at lapsed
  rw [running.clocks.1] at room
  rw [running.clocks.2.2, running.terms.2.2] at due
  rw [Interface.retried]
  by_cases awaits : x.dhcp.awaits
  · rw [if_pos awaits]
    by_cases overdue : x.dhcp.currentRetryTimeout ≤ u32 (x.dhcp.retryElapsedMs + elapsedMs)
    · rw [if_pos overdue]
      by_cases left : x.dhcp.retryCount < 4
      · rw [if_pos left]
        have unspent : ¬x.dhcp.spent elapsedMs := fun spent => absurd spent.1 (by omega)
        exact .inl ⟨⟨later.active, later.address, later.terms, later.clocks, later.state⟩, room fun h => unspent h.2⟩
      · rw [if_neg left]
        have spent : x.dhcp.spent elapsedMs := ⟨by omega, overdue⟩
        rcases running.state with bound | ⟨renewing, first⟩ | ⟨rebinding, -, -⟩
        · rcases awaits with state | state | state | state <;> rw [bound] at state <;> cases state
        · have second := due ⟨renewing, spent⟩
          have given : ((x.withDhcp fun dhcp => { dhcp with retryElapsedMs := 0 }).giveUp).1 = x.withDhcp fun dhcp =>
              { dhcp with retryElapsedMs := 0, state := .rebinding, retryCount := 0, currentRetryTimeout := 4000 } := by
            have state : (x.withDhcp fun dhcp => { dhcp with retryElapsedMs := 0 }).dhcp.state = .renewing := renewing
            rw [Interface.giveUp, state]
            rfl
          rw [given]
          refine .inl ⟨⟨later.active, later.address, later.terms, later.clocks, ?_⟩, room fun h => ?_⟩
          · exact .inr (.inr ⟨rfl, Nat.le_trans first (Nat.le_add_right _ _), second⟩)
          · rw [renewing] at h
            cases h.1
        · refine .inr ⟨?_, lapsed ⟨rebinding, spent⟩⟩
          have state : (x.withDhcp fun dhcp => { dhcp with retryElapsedMs := 0 }).dhcp.state = .rebinding := rebinding
          rw [Interface.giveUp, state]
          exact ⟨rfl, .inl rfl⟩
    · rw [if_neg overdue]
      have unspent : ¬x.dhcp.spent elapsedMs := fun spent => overdue spent.2
      exact .inl ⟨⟨later.active, later.address, later.terms, later.clocks, later.state⟩, room fun h => unspent h.2⟩
  · rw [if_neg awaits]
    refine .inl ⟨later, room fun h => awaits ?_⟩
    exact .inr (.inr (.inr h.1))

theorem leaseTicked_running (first : t1 ≤ lease) (second : t2 ≤ lease) (fits : lease * 1000 < 2 ^ 32)
    (running : Running leased lease t1 t2 elapsed (elapsed + elapsedMs) x) (room : elapsed + elapsedMs < 2 ^ 32) :
    if lease * 1000 ≤ elapsed + elapsedMs then Ended (x.leaseTicked elapsedMs).1
    else Running leased lease t1 t2 (elapsed + elapsedMs) (elapsed + elapsedMs) (x.leaseTicked elapsedMs).1 := by
  obtain ⟨total, t1Elapsed, t2Elapsed⟩ := running.clocks
  obtain ⟨leaseTime, renewal, rebinding⟩ := running.terms
  have time : u32 (elapsed + elapsedMs) = elapsed + elapsedMs := u32_of_lt room
  have below : ∀ {t}, t ≤ lease → t * 1000 < 2 ^ 32 := fun le => Nat.lt_of_le_of_lt (Nat.mul_le_mul_right 1000 le) fits
  rw [Interface.leaseTicked, if_pos running.leases, leaseTime, renewal, rebinding, total, t1Elapsed, t2Elapsed, time,
    u32_of_lt fits, u32_of_lt (below first), u32_of_lt (below second)]
  have clocks : (x.dhcp.aged elapsedMs).leaseElapsedTotalMs = elapsed + elapsedMs ∧
      (x.dhcp.aged elapsedMs).t1ElapsedMs = elapsed + elapsedMs ∧
      (x.dhcp.aged elapsedMs).t2ElapsedMs = elapsed + elapsedMs := by
    simp only [DhcpContext.aged, total, t1Elapsed, t2Elapsed, time, and_self]
  by_cases lapsed : lease * 1000 ≤ elapsed + elapsedMs
  · rw [if_pos lapsed, if_pos lapsed]
    exact ⟨rfl, .inl rfl⟩
  · rw [if_neg lapsed, if_neg lapsed]
    by_cases renews : x.dhcp.state = .bound ∧ t1 * 1000 ≤ elapsed + elapsedMs
    · rw [if_pos renews]
      exact ⟨running.active, running.address, running.terms, clocks, .inr (.inl ⟨rfl, renews.2⟩)⟩
    · rw [if_neg renews]
      by_cases rebinds : x.dhcp.state = .renewing ∧ t2 * 1000 ≤ elapsed + elapsedMs
      · rw [if_pos rebinds]
        refine ⟨running.active, running.address, running.terms, clocks, .inr (.inr ⟨rfl, ?_, rebinds.2⟩)⟩
        rcases running.state with bound | ⟨-, due⟩ | ⟨-, due, -⟩
        · rw [bound] at rebinds
          cases rebinds.1
        · exact due
        · exact due
      · rw [if_neg rebinds]
        exact ⟨running.active, running.address, running.terms, clocks, running.state⟩

theorem Ended.free (ended : Ended x) : ¬x.dhcp.leases := by
  rintro (leases | leases | leases) <;> rcases ended.state with state | state <;> rw [state] at leases <;> cases leases

theorem Ended.ticked (ended : Ended x) (elapsedMs : Nat) : Ended (x.ticked elapsedMs).1 := by
  have retried : Ended (x.retried elapsedMs).1 := by
    rw [Interface.retried]
    split
    · split
      · split
        · exact ⟨ended.address, ended.state⟩
        · next awaits _ _ =>
          rcases ended.state with state | state
          · have selecting : (x.withDhcp fun dhcp => { dhcp with retryElapsedMs := 0 }).dhcp.state = .selecting := state
            rw [Interface.giveUp, selecting]
            exact ⟨ended.address, .inr rfl⟩
          · rcases awaits with awaits | awaits | awaits | awaits <;> rw [state] at awaits <;> cases awaits
      · exact ⟨ended.address, ended.state⟩
    · exact ended
  rw [Interface.ticked]
  split
  · exact ended
  · dsimp only
    rw [Interface.leaseTicked, if_neg retried.free]
    exact retried

theorem Running.ticked (first : t1 ≤ lease) (second : t2 ≤ lease) (fits : lease * 1000 < 2 ^ 32)
    (running : Running leased lease t1 t2 elapsed elapsed x) (timely : x.dhcp.Timely elapsedMs) :
    if lease * 1000 ≤ elapsed + elapsedMs then Ended (x.ticked elapsedMs).1
    else Running leased lease t1 t2 (elapsed + elapsedMs) (elapsed + elapsedMs) (x.ticked elapsedMs).1 := by
  have active : ¬x.dhcp.isActive = false := by
    rw [running.active]
    decide
  rw [Interface.ticked, if_neg active]
  rcases retried_running running timely with ⟨goes_on, room⟩ | ⟨ended, lapsed⟩
  · exact leaseTicked_running first second fits goes_on room
  · rw [if_pos lapsed]
    dsimp only
    rw [Interface.leaseTicked, if_neg ended.free]
    exact ended

theorem Running.honoured (running : Running leased lease t1 t2 elapsed elapsed x) (short : elapsed < lease * 1000) :
    Honoured leased lease t1 t2 elapsed x := by
  constructor
  · exact fun _ => running.address
  · exact fun lapsed => absurd lapsed (Nat.not_le_of_lt short)
  · intro early
    rcases running.state with bound | ⟨-, due⟩ | ⟨-, due, -⟩
    · exact bound
    · exact absurd due (Nat.not_le_of_lt early)
    · exact absurd due (Nat.not_le_of_lt early)
  · intro early rebinding
    rcases running.state with bound | ⟨renewing, -⟩ | ⟨-, -, due⟩
    · rw [bound] at rebinding
      cases rebinding
    · rw [renewing] at rebinding
      cases rebinding
    · exact absurd due (Nat.not_le_of_lt early)
  · exact fun _ => running.leases

theorem Ended.honoured (first : t1 ≤ lease) (ended : Ended x) (lapsed : lease * 1000 ≤ elapsed) :
    Honoured leased lease t1 t2 elapsed x := by
  have late : ¬elapsed < lease * 1000 := Nat.not_lt_of_le lapsed
  constructor
  · exact fun early => absurd early late
  · exact fun _ => ended.address
  · exact fun early => absurd (Nat.lt_of_lt_of_le early (Nat.mul_le_mul_right 1000 first)) late
  · intro _ rebinding
    exact ended.free (.inr (.inr rebinding))
  · exact fun early => absurd early late

/- Runs. -/

/-- After the answer the client gets nothing but the time. -/
def clock (cfg : Config) (env : Env) (i : Nat) : Machine Stack Nat (Except Error Unit) where
  allowed net elapsedMs := elapsedMs < 2 ^ 32 ∧ (dhcpTick cfg env i elapsedMs net).isSome = true
  step net elapsedMs :=
    match dhcpTick cfg env i elapsedMs net with
    | none => (net, .ok ())
    | some (result, net') => (net', result)

abbrev Ticks := List (Transition Stack Nat (Except Error Unit))

def elapsedIn (ticks : Ticks) : Nat := (ticks.map Transition.input).sum

variable {net bound net' : Stack} {payload : List UInt8}

theorem face_of_shows {α : Type} {m : StackM α} {y : Interface} {r : Except Error α} (carved : Carved net)
    (shows_ : Triple (Shows i (net.face i) (fun _ => True) net.transmitted) m
      (fun _ => Shows i y (fun _ => True) net.transmitted) (fun _ => Shows i y (fun _ => True) net.transmitted))
    (run : m net = some (r, net')) : Carved net' ∧ net'.face i = y := by
  have after := shows_.always ⟨rfl, carved, .refl⟩ run
  exact ⟨after.2.1, after.1⟩

theorem reads_active (read : x.reads payload = true) : x.dhcp.isActive = true := by
  rw [Interface.reads, Bool.and_eq_true] at read
  exact read.1

theorem bound_by (binds : x.bindsBy payload) :
    (x.received payload).1 =
      (x.withDhcp fun _ => (x.dhcp.parsed payload).1).acknowledged (x.dhcp.parsed payload).2 payload := by
  obtain ⟨read, state, ack⟩ := binds
  have looks : ¬x.reads payload = false := by
    rw [read]
    decide
  rw [Interface.received, if_neg looks]
  rcases state with state | state | state <;> rw [state] <;> dsimp only [Interface.taken] <;>
    rw [Interface.answered, if_pos ack]

theorem bound_running (binds : x.bindsBy payload) (fits : (x.dhcp.parsed payload).2.lease * 1000 < 2 ^ 32) :
    Running (addrAt (bytesOf payload) 16) (x.dhcp.parsed payload).2.lease (x.dhcp.parsed payload).2.renewal
      (x.dhcp.parsed payload).2.rebinding 0 0 (x.received payload).1 := by
  have seven : u32 ((x.dhcp.parsed payload).2.lease * 7) = (x.dhcp.parsed payload).2.lease * 7 := u32_of_lt (by omega)
  have active : (x.dhcp.parsed payload).1.isActive = x.dhcp.isActive := by
    rw [parsed_eq]
    rfl
  rw [bound_by binds]
  refine ⟨active.trans (reads_active binds.1), rfl, ⟨rfl, rfl, ?_⟩, ⟨rfl, rfl, rfl⟩, .inl rfl⟩
  change (if (x.dhcp.parsed payload).2.t2 ≠ 0 then (x.dhcp.parsed payload).2.t2
    else u32 ((x.dhcp.parsed payload).2.lease * 7) / 8) = _
  rw [seven]
  rfl

theorem elapsedIn_append (ticks more : Ticks) : elapsedIn (ticks ++ more) = elapsedIn ticks + elapsedIn more := by
  simp only [elapsedIn, List.map_append, List.sum_append]

def Lasting (leased : Addr) (reply : DhcpReply) (elapsed : Nat) (x : Interface) : Prop :=
  if reply.lease * 1000 ≤ elapsed then Ended x
  else Running leased reply.lease reply.renewal reply.rebinding elapsed elapsed x

variable {reply : DhcpReply}

theorem Lasting.ticked (first : reply.renewal ≤ reply.lease)
    (second : reply.rebinding ≤ reply.lease) (fits : reply.lease * 1000 < 2 ^ 32)
    (lasting : Lasting leased reply elapsed x) (timely : x.dhcp.Timely elapsedMs) :
    Lasting leased reply (elapsed + elapsedMs) (x.ticked elapsedMs).1 := by
  rw [Lasting] at lasting ⊢
  by_cases lapsed : reply.lease * 1000 ≤ elapsed
  · rw [if_pos lapsed] at lasting
    rw [if_pos (Nat.le_trans lapsed (Nat.le_add_right _ _))]
    exact lasting.ticked elapsedMs
  · rw [if_neg lapsed] at lasting
    exact lasting.ticked first second fits timely

theorem Lasting.honoured (first : reply.renewal ≤ reply.lease) (lasting : Lasting leased reply elapsed x) :
    Honoured leased reply.lease reply.renewal reply.rebinding elapsed x := by
  rw [Lasting] at lasting
  by_cases lapsed : reply.lease * 1000 ≤ elapsed
  · rw [if_pos lapsed] at lasting
    exact lasting.honoured first lapsed
  · rw [if_neg lapsed] at lasting
    exact lasting.honoured (Nat.lt_of_not_le lapsed)

theorem lease_pos (reply : DhcpReply) : 0 < reply.lease := by
  rw [DhcpReply.lease]
  split
  · omega
  · decide

/-- In every run of ticks that are timely, after any answer whose lease fits the clock, the
address is held as long as it is leased and the states keep their times. -/
theorem lease_honoured {result : Except Error Unit} {ticks : Ticks} (carved : Carved net)
    (binds : (net.face i).bindsBy payload) (answer : dhcpRxCallback cfg env i payload net = some (result, bound))
    (renewal : ((net.face i).dhcp.parsed payload).2.t1 ≤ ((net.face i).dhcp.parsed payload).2.lease)
    (rebinding : ((net.face i).dhcp.parsed payload).2.t2 ≤ ((net.face i).dhcp.parsed payload).2.lease)
    (run : (clock cfg env i).Run bound ticks net')
    (fits : ((net.face i).dhcp.parsed payload).2.lease * 1000 < 2 ^ 32)
    (timely : ∀ tick ∈ ticks, (tick.pre.face i).dhcp.Timely tick.input) :
    Honoured (addrAt (bytesOf payload) 16) ((net.face i).dhcp.parsed payload).2.lease
      ((net.face i).dhcp.parsed payload).2.renewal ((net.face i).dhcp.parsed payload).2.rebinding (elapsedIn ticks)
      (net'.face i) := by
  have at_start := bound_running binds fits
  generalize terms : ((net.face i).dhcp.parsed payload).2 = reply at renewal rebinding fits at_start ⊢
  have first : reply.renewal ≤ reply.lease := by
    rw [DhcpReply.renewal]
    split
    · exact renewal
    · exact Nat.div_le_self _ _
  have second : reply.rebinding ≤ reply.lease := by
    rw [DhcpReply.rebinding]
    split
    · exact rebinding
    · omega
  have started : Carved bound ∧ bound.face i = ((net.face i).received payload).1 :=
    face_of_shows carved (dhcpRxCallback_shows env fun _ _ => trivial) answer
  have lasting : Carved net' ∧ Lasting (addrAt (bytesOf payload) 16) reply (elapsedIn ticks) (net'.face i) := by
    refine run.history (P := fun ticks s => (∀ tick ∈ ticks, (tick.pre.face i).dhcp.Timely tick.input) → Carved s ∧
      Lasting (addrAt (bytesOf payload) 16) reply (elapsedIn ticks) (s.face i)) ?_ ?_ timely
    · intro _
      refine ⟨started.1, ?_⟩
      have early : ¬reply.lease * 1000 ≤ elapsedIn [] := Nat.not_le_of_lt (Nat.mul_pos (lease_pos reply) (by decide))
      rw [Lasting, if_neg early, started.2]
      exact at_start
    · intro earlier s elapsedMs before allowed meets
      obtain ⟨carved, lasting⟩ := before fun tick mem => meets tick (List.mem_append_left _ mem)
      have due : (s.face i).dhcp.Timely elapsedMs := meets _ (List.mem_append_right _ List.mem_cons_self)
      obtain ⟨⟨r, s'⟩, ran⟩ := Option.isSome_iff_exists.mp allowed.2
      have shown : Carved s' ∧ s'.face i = ((s.face i).ticked elapsedMs).1 :=
        face_of_shows carved (dhcpTick_shows env fun _ _ => trivial) ran
      have stepped : (clock cfg env i).step s elapsedMs = (s', r) := by
        simp only [clock, ran]
      have length : elapsedIn [(clock cfg env i).take s elapsedMs] = elapsedMs := by
        simp [elapsedIn, Machine.take]
      rw [stepped, elapsedIn_append, length]
      refine ⟨shown.1, ?_⟩
      rw [shown.2]
      exact lasting.ticked first second fits due
  exact lasting.2.honoured first

section Sample

def serverMessage (xid : Nat) (msgType : UInt8) (address : Addr) (options : List UInt8) : List UInt8 :=
  [2, 1, 6, 0] ++ be32Bytes xid ++ List.replicate 8 0 ++ List.ofFn address ++ List.replicate 8 0 ++
    List.ofFn sampleInterface.macAddr ++ List.replicate 202 0 ++ be32Bytes dhcpMagicCookie ++ [53, 1, msgType] ++
    options ++ [255]

def sampleOffer : List UInt8 := serverMessage 0x3F82A000 2 ![192, 168, 1, 50] [54, 4, 192, 168, 1, 1]
def sampleAck : List UInt8 := serverMessage 0x3F82A000 5 ![192, 168, 1, 50] [54, 4, 192, 168, 1, 1]

def sampleLeasing : List Op := [.interfaceAdd sampleInterface, .linkSet 0 true, .dhcpStart 0]

def sampleSelecting : Stack := (machine sampleConfig sampleEnv).play sampleStart sampleLeasing
def sampleRequesting : Stack := leftBy (dhcpRxCallback sampleConfig sampleEnv 0 sampleOffer) sampleSelecting
def sampleBound : Stack := leftBy (dhcpRxCallback sampleConfig sampleEnv 0 sampleAck) sampleRequesting

theorem callback_carved (env : Env) (carved : Carved net) : Carved (leftBy (dhcpRxCallback cfg env i payload) net) := by
  have steady : Steady Carved (dhcpRxCallback cfg env i payload) := dhcpRxCallback_steady env unaffected_carved
  obtain ⟨r, net', run, carved'⟩ := steady net carved
  rw [leftBy, run]
  exact carved'

theorem sampleLeasing_legal : (machine sampleConfig sampleEnv).Legal sampleStart sampleLeasing := by
  decide +kernel

theorem sampleRequesting_carved : Carved sampleRequesting :=
  callback_carved sampleEnv (run_carved sampleEnv (Machine.run_of_legal sampleLeasing_legal))

instance (x : Interface) (payload : List UInt8) : Decidable (x.bindsBy payload) := inferInstanceAs (Decidable (_ ∧ _))

instance (net : Stack) (elapsedMs : Nat) : Decidable ((clock cfg env i).allowed net elapsedMs) :=
  inferInstanceAs (Decidable (_ ∧ _))

instance (dhcp : DhcpContext) (elapsedMs : Nat) :
    Decidable (dhcp.spent elapsedMs) := inferInstanceAs (Decidable (_ ∧ _))
instance (dhcp : DhcpContext) (elapsedMs : Nat) :
    Decidable (dhcp.Timely elapsedMs) := inferInstanceAs (Decidable (_ → _))

def sampleSilence : List Nat := [1800000, 4000, 8000, 16000, 32000, 64000]

theorem sampleSilence_legal : (clock sampleConfig sampleEnv 0).Legal sampleBound sampleSilence := by
  decide +kernel

theorem sampleAck_binds : (sampleRequesting.face 0).bindsBy sampleAck := by decide +kernel

theorem sampleAck_answered :
    ∃ result, dhcpRxCallback sampleConfig sampleEnv 0 sampleAck sampleRequesting = some (result, sampleBound) :=
  leftBy_eq (by decide +kernel)

/-- After 1924 seconds the client is already in the state that it may enter after 3150. -/
theorem lease_given_up : ∃ (net bound net' : Stack) (result : Except Error Unit) (ticks : Ticks),
    Carved net ∧ (net.face 0).bindsBy sampleAck ∧
    dhcpRxCallback sampleConfig sampleEnv 0 sampleAck net = some (result, bound) ∧
    ((net.face 0).dhcp.parsed sampleAck).2.t1 ≤ ((net.face 0).dhcp.parsed sampleAck).2.lease ∧
    ((net.face 0).dhcp.parsed sampleAck).2.t2 ≤ ((net.face 0).dhcp.parsed sampleAck).2.lease ∧
    (clock sampleConfig sampleEnv 0).Run bound ticks net' ∧
    ¬Honoured (addrAt (bytesOf sampleAck) 16) ((net.face 0).dhcp.parsed sampleAck).2.lease
      ((net.face 0).dhcp.parsed sampleAck).2.renewal ((net.face 0).dhcp.parsed sampleAck).2.rebinding (elapsedIn ticks)
      (net'.face 0) := by
  obtain ⟨result, answer⟩ := sampleAck_answered
  refine ⟨sampleRequesting, sampleBound, _, result, _, sampleRequesting_carved, sampleAck_binds, answer,
    by decide +kernel, by decide +kernel, Machine.run_of_legal sampleSilence_legal, fun honoured => ?_⟩
  have state : (((clock sampleConfig sampleEnv 0).play sampleBound sampleSilence).face 0).dhcp.state = .rebinding := by
    decide +kernel
  exact honoured.renewing (by decide +kernel) state

/-- Half an hour in one tick and the rest of the lease in another. -/
def sampleWait : List Nat := [1800000, 1800000]

theorem sampleWait_legal : (clock sampleConfig sampleEnv 0).Legal sampleBound sampleWait := by
  decide +kernel

theorem lease_honoured_sample :
    Honoured ![192, 168, 1, 50] 3600 1800 3150 3600000
      (((clock sampleConfig sampleEnv 0).play sampleBound sampleWait).face 0) := by
  obtain ⟨result, answer⟩ := sampleAck_answered
  have timely : ∀ tick ∈ (clock sampleConfig sampleEnv 0).transitions sampleBound sampleWait,
      (tick.pre.face 0).dhcp.Timely tick.input := by decide +kernel
  have honoured := lease_honoured sampleRequesting_carved sampleAck_binds answer (by decide +kernel) (by decide +kernel)
    (Machine.run_of_legal sampleWait_legal) (by decide +kernel) timely
  have terms : ((sampleRequesting.face 0).dhcp.parsed sampleAck).2.lease = 3600 ∧
      ((sampleRequesting.face 0).dhcp.parsed sampleAck).2.renewal = 1800 ∧
      ((sampleRequesting.face 0).dhcp.parsed sampleAck).2.rebinding = 3150 := by decide +kernel
  have elapsed : elapsedIn ((clock sampleConfig sampleEnv 0).transitions sampleBound sampleWait) = 3600000 := by
    decide +kernel
  have address : addrAt (bytesOf sampleAck) 16 = ![192, 168, 1, 50] := by decide +kernel
  rwa [terms.1, terms.2.1, terms.2.2, elapsed, address] at honoured

end Sample

end XSDK.Net
