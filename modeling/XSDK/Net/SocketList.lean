import XSDK.Net.Dns
import XSDK.Net.Sockets

/-! The socket list over runs in which the application opens and closes sockets and starts
and stops the clients that embed one. -/
namespace XSDK.Net

open Library Prog
open List (mem_cons not_mem_nil)

variable {c : HostConfig} {env : HostEnv c} {l : List SocketId} {d n : Nat} {h : Host}

theorem lift_total {α : Type} {P : Stack → Prop} {m : StackM α} {Q : α → Stack → Prop} {E : Error → Stack → Prop}
    (R : (Nat → DnsContext) → Prop) (total : Total P m Q E) :
    Total (fun h : Host => P h.net ∧ R h.dns) (lift m) (fun a h => Q a h.net ∧ R h.dns)
      fun e h => E e h.net ∧ R h.dns := by
  refine .zoom fun h start net same => ?_
  subst same
  obtain ⟨r, net, run, post⟩ := total h.net start.1
  refine ⟨r, net, run, ?_⟩
  cases r with
  | ok a => exact ⟨post, start.2⟩
  | error e => exact ⟨post, start.2⟩

/-- Every client is on the list exactly while it is active. -/
structure Served (c : HostConfig) (l : List SocketId) (h : Host) : Prop where
  bound : Bound c.config h.net l
  queries : ∀ d < c.dnsContexts, c.dnsSocket d ∈ l ↔ (h.dns d).isActive = true

def Asking (c : HostConfig) (d : Nat) (l : List SocketId) (h : Host) : Prop :=
  Bound c.config h.net l ∧ ∀ e < c.dnsContexts, e = d ∨ c.dnsSocket e ∈ l ↔ (h.dns e).isActive = true

theorem dnsSocket_injective {e : Nat} (same : c.dnsSocket e = c.dnsSocket d) : e = d := by
  have index : c.stack.userSockets + e = c.stack.userSockets + d := SocketId.user.inj same
  omega

theorem note_served {event : Event} : Total (Served c l) (note event) (fun _ => Served c l) fun _ _ => False :=
  .modify fun _ served => ⟨served.bound, served.queries⟩

theorem dnsSendQuery_steady (env : HostEnv c) (d : Nat) {I : Stack → Prop} (apart : Apart I)
    (R : (Nat → DnsContext) → Prop) :
    Total (fun h => I h.net ∧ R h.dns) (dnsSendQuery c env d) (fun _ h => I h.net ∧ R h.dns)
      fun _ h => I h.net ∧ R h.dns := by
  refine .bind (R := fun _ h => I h.net ∧ R h.dns) (.read fun _ start => start) fun dns => ?_
  split
  · exact .fail fun _ start => start
  · exact .bind (R := fun _ h => I h.net ∧ R h.dns) (.modify fun _ start => start) fun _ =>
      lift_total R (.of_steady (udpSendTo_steady env.stack apart))

theorem udpClose_asking :
    Total (fun h => Bound c.config h.net (c.dnsSocket d :: l) ∧
        ∀ e < c.dnsContexts, c.dnsSocket e ∈ l ↔ (h.dns e).isActive = true)
      (lift (ignore (udpClose c.config (c.dnsSocket d)))) (fun _ => Served c l) fun _ _ => False := by
  have close : Total (fun net => Bound c.config net (c.dnsSocket d :: l)) (udpClose c.config (c.dnsSocket d))
      (fun _ net => Bound c.config net l) fun _ net => Bound c.config net l := by
    intro net bound
    obtain ⟨r, net', run, linked, -⟩ := udpClose_run bound.toLinked (c.dnsSocket d)
    have kept : Keeps (fun n => n.interfaces = net.interfaces) (udpClose c.config (c.dnsSocket d)) :=
      udpClose_portless ⟨fun _ _ _ h => h, fun _ _ h => h, fun _ _ h => h⟩
    have same := Triple.always kept rfl run
    rw [List.erase_cons_head] at linked
    have after : Bound c.config net' l := by
      refine ⟨linked, fun i => ?_⟩
      rw [same, ← bound.clients i]
      simp only [HostConfig.dnsSocket, mem_cons, reduceCtorEq, false_or]
    refine ⟨r, net', run, ?_⟩
    cases r with
    | ok _ => exact after
    | error _ => exact after
  have ignored : Total (fun net => Bound c.config net (c.dnsSocket d :: l)) (udpClose c.config (c.dnsSocket d)).ignore
      (fun _ net => Bound c.config net l) fun _ _ => False :=
    close.ignore (fun _ _ h => h) fun _ _ h => h
  refine (lift_total (fun dns => ∀ e < c.dnsContexts, c.dnsSocket e ∈ l ↔ (dns e).isActive = true) ignored).weaken
    (fun _ h => h) (fun _ _ h => ⟨h.1, h.2⟩) fun _ _ h => h.1

section Query

variable (valid : d < c.dnsContexts) (fresh : c.dnsSocket d ∉ l)
include fresh

theorem asking_of_update {f : DnsContext → DnsContext} (active : ∀ dns, (f dns).isActive = true) :
    Total (Served c l) (updateDns d f) (fun _ => Asking c d l) fun _ _ => False := by
  refine .modify fun h served => ⟨served.bound, fun e small => ?_⟩
  by_cases same : e = d
  · subst same
    simp [active]
  · simp [same, served.queries e small]

theorem served_of_update {f : DnsContext → DnsContext} (idle : ∀ dns, (f dns).isActive = false) :
    Total (Asking c d l) (updateDns d f) (fun _ => Served c l) fun _ _ => False := by
  refine .modify fun h asking => ⟨asking.1, fun e small => ?_⟩
  by_cases same : e = d
  · subst same
    simp [idle, fresh]
  · simpa [same] using asking.2 e small

theorem clearSocket_asking :
    Total (Asking c d l) (lift (updateSocket (c.dnsSocket d) fun _ => UdpContext.zero)) (fun _ => Asking c d l)
      fun _ _ => False := by
  have clear : Total (fun net => Bound c.config net l) (updateSocket (c.dnsSocket d) fun _ => UdpContext.zero)
      (fun _ net => Bound c.config net l) fun _ _ => False := by
    refine .modify fun net bound => ⟨bound.toLinked.congr rfl rfl fun t member => ?_, bound.clients⟩
    have other : t ≠ c.dnsSocket d := fun same => fresh (same ▸ member)
    exact Function.update_of_ne other _ _
  exact (lift_total (fun dns => ∀ e < c.dnsContexts, e = d ∨ c.dnsSocket e ∈ l ↔ (dns e).isActive = true) clear).weaken
    (fun _ h => h) (fun _ _ h => h) fun _ _ h => h.1

include valid

theorem udpOpen_asking :
    Total (Asking c d l) (lift (udpOpen c.config (c.dnsSocket d) 0)) (fun _ => Served c (c.dnsSocket d :: l))
      fun _ => Asking c d l := by
  refine .zoom fun h asking net same => ?_
  subst same
  obtain ⟨e, range, closed | opened⟩ := udpOpen_run asking.1.toLinked (c.dnsSocket d) 0
  · obtain ⟨-, error, run⟩ := closed
    exact ⟨.error error, _, run, ⟨asking.1.toLinked.withEphemeral range, asking.1.clients⟩, asking.2⟩
  · obtain ⟨-, port, free, -, run⟩ := opened
    have inside : (c.dnsSocket d).Valid c.config := Nat.add_lt_add_left valid _
    refine ⟨.ok (), _, run, ⟨(asking.1.toLinked.withEphemeral range).opened inside fresh free, fun j => ?_⟩, fun e small => ?_⟩
    · rw [mem_cons]
      simp only [HostConfig.dnsSocket, reduceCtorEq, false_or]
      exact asking.1.clients j
    · rw [mem_cons]
      constructor
      · rintro (same | member)
        · exact (asking.2 e small).mp (.inl (dnsSocket_injective same))
        · exact (asking.2 e small).mp (.inr member)
      · intro active
        rcases (asking.2 e small).mpr active with same | member
        · exact .inl (congrArg c.dnsSocket same)
        · exact .inr member

theorem dnsStart_total {hostname : List UInt8} :
    Total (Served c l) (dnsStart c env d hostname) (fun _ => Served c (c.dnsSocket d :: l)) fun _ => Served c l := by
  have drop : ∀ {m : HostM Unit} {P Q : Host → Prop} {E : Error → Host → Prop},
      Total P m (fun _ => Q) (fun _ _ => False) → Total P m (fun _ => Q) E := fun total =>
    total.weaken (fun _ h => h) (fun _ _ h => h) fun _ _ h => h.elim
  have stop : Total (Served c (c.dnsSocket d :: l)) (do
      updateDns d fun dns => { dns with isActive := false, state := .failed }
      lift (ignore (udpClose c.config (c.dnsSocket d)))) (fun _ => Served c l) fun _ _ => False := by
    refine .bind (.modify fun h served => ⟨served.bound, fun e small => ?_⟩) fun _ => udpClose_asking
    by_cases same : e = d
    · subst same
      simp [fresh]
    · have member : c.dnsSocket e ∈ c.dnsSocket d :: l ↔ c.dnsSocket e ∈ l := by
        rw [mem_cons]
        exact or_iff_right fun eq => same (dnsSocket_injective eq)
      simp [same, ← served.queries e small, member]
  refine .readThen fun h' => .rejectThen (fun _ _ start => start.2) fun _ => ?_
  split
  · exact .fail fun _ start => start.2
  · refine .bind ((drop (asking_of_update fresh fun _ => rfl)).weaken (fun _ start => start.2) (fun _ _ h => h) fun _ _ h => h)
      fun _ => ?_
    refine .bind (drop (clearSocket_asking fresh)) fun _ => ?_
    refine .bind (R := fun _ => Asking c d l) (.modify fun _ asking => asking) fun _ => ?_
    refine .bind (.onError (udpOpen_asking valid fresh) fun _ => drop (served_of_update fresh fun _ => rfl)) fun _ => ?_
    refine .onError (R := fun _ => Served c (c.dnsSocket d :: l)) ?_ fun _ => drop stop
    have sent := dnsSendQuery_steady env d (I := fun net => Bound c.config net (c.dnsSocket d :: l)) apart_bound
      fun dns => ∀ e < c.dnsContexts, c.dnsSocket e ∈ c.dnsSocket d :: l ↔ (dns e).isActive = true
    exact sent.weaken (fun _ served => ⟨served.bound, served.queries⟩) (fun _ _ kept => ⟨kept.1, kept.2⟩)
      fun _ _ kept => ⟨kept.1, kept.2⟩

end Query

theorem dnsStart_attempted (env : HostEnv c) (hostname : List UInt8) (valid : d < c.dnsContexts) :
    Total (Served c l) (attempt (dnsStart c env d hostname)) (fun r h => match r with
      | .ok _ => Served c (c.dnsSocket d :: l) h ∧ c.dnsSocket d ∉ l
      | .error _ => Served c l h) fun _ _ => False := by
  have start : Total (Served c l) (dnsStart c env d hostname)
      (fun _ h => Served c (c.dnsSocket d :: l) h ∧ c.dnsSocket d ∉ l) fun _ => Served c l := by
    by_cases listed : c.dnsSocket d ∈ l
    · intro h served
      have busy := (served.queries d valid).mp listed
      refine ⟨.error .dnsBusy, h, ?_, served⟩
      rw [dnsStart, bind_ok _ (read_run _), id, reject_bind_pos _ busy]
      rfl
    · exact (dnsStart_total valid listed).weaken (fun _ h => h) (fun _ _ h => ⟨h, listed⟩) fun _ _ h => h
  exact start.attempt (fun _ _ h => h) fun _ _ h => h

theorem dnsQueryA_total (env : HostEnv c) (hostname : List UInt8) (valid : d < c.dnsContexts) :
    Total (Served c l) (dnsQueryA c env d hostname) (fun _ h => Served c (c.dnsSocket d :: l) h ∧ c.dnsSocket d ∉ l)
      fun _ => Served c l := by
  refine .bind (note_served.weaken (fun _ h => h) (fun _ _ h => h) fun _ _ h => h.elim) fun _ => ?_
  have attempted := dnsStart_attempted (l := l) env hostname valid
  refine .bind (attempted.weaken (fun _ h => h) (fun _ _ h => h) fun _ _ h => h.elim) fun r => ?_
  cases r with
  | ok _ => exact .modify fun _ served => ⟨⟨served.1.bound, served.1.queries⟩, served.2⟩
  | error error =>
    refine .bind (note_served.weaken (fun _ h => h) (fun _ _ h => h) fun _ _ h => h.elim) fun _ => ?_
    exact .fail fun _ served => served

/- Runs. -/

inductive SocketOp where
  | udpOpen (n localPort : Nat)
  | udpClose (n : Nat)
  | dhcpStart (i : Nat)
  | dhcpStop (i : Nat)
  | dnsQueryA (d : Nat) (hostname : List UInt8)

def SocketOp.Valid (c : HostConfig) : SocketOp → Prop
  | .udpOpen n _ => n < c.stack.userSockets
  | .udpClose n => n < c.stack.userSockets
  | .dhcpStart i => i < c.stack.maxInterfaces
  | .dhcpStop i => i < c.stack.maxInterfaces
  | .dnsQueryA d _ => d < c.dnsContexts

instance (op : SocketOp) : Decidable (op.Valid c) := by
  cases op <;> exact inferInstanceAs (Decidable (_ < _))

variable (c env)

def socketCall : SocketOp → HostM Unit
  | .udpOpen n localPort => lift (udpOpen c.config (.user n) localPort)
  | .udpClose n => lift (udpClose c.config (.user n))
  | .dhcpStart i => lift (dhcpStart c.config env.stack i)
  | .dhcpStop i => lift (dhcpStop c.config i)
  | .dnsQueryA d hostname => dnsQueryA c env d hostname

def socketMachine : Machine Host SocketOp (Except Error Unit) where
  allowed h op := op.Valid c ∧ (socketCall c env op h).isSome = true
  step h op :=
    match socketCall c env op h with
    | none => (h, .ok ())
    | some (result, h') => (h', result)

/-- Whether a socket has been opened and not been closed, after a call with its result. -/
def OpenedBy (op : SocketOp) (result : Except Error Unit) (s : SocketId) (before : Prop) : Prop :=
  match result with
  | .error _ => before
  | .ok _ =>
    match op with
    | .udpOpen n _ => s = .user n ∨ before
    | .udpClose n => s ≠ .user n ∧ before
    | .dhcpStart i => s = .dhcp i ∨ before
    | .dhcpStop i => s ≠ .dhcp i ∧ before
    | .dnsQueryA d _ => s = c.dnsSocket d ∨ before

def Opened (trace : List (Transition Host SocketOp (Except Error Unit))) (s : SocketId) : Prop :=
  trace.foldl (fun before tr => OpenedBy c tr.input tr.output s before) False

/-- The sockets that the list leads through, if it comes to an end. -/
def Lists (net : Stack) (l : List SocketId) : Prop := Chain (fun s => (net.sockets s).next) net.udpList l

/-- The list is one, with everything on it that was opened, and a free port is found. -/
structure ListIntact (trace : List (Transition Host SocketOp (Except Error Unit))) (h : Host) : Prop where
  finite : ∃ l, Lists h.net l
  nodup : ∀ l, Lists h.net l → l.Nodup
  callback : ∀ l, Lists h.net l → ∀ s ∈ l, (h.net.sockets s).hasCallback = true
  ports : ∀ l, Lists h.net l → ∀ s ∈ l, ∀ t ∈ l, s ≠ t → (h.net.sockets s).localPort ≠ (h.net.sockets t).localPort
  opened : ∀ l, Lists h.net l → ∀ s, Opened c trace s → s ∈ l
  clients : ∀ l, Lists h.net l → (∀ i, (h.net.interfaces i).dhcp.isActive = true → .dhcp i ∈ l) ∧
    ∀ d < c.dnsContexts, (h.dns d).isActive = true → c.dnsSocket d ∈ l
  ephemeral : ∀ l, Lists h.net l → (∃ port, (49152 ≤ port ∧ port ≤ 65535) ∧ ∀ s ∈ l, (h.net.sockets s).localPort ≠ port) →
    ∀ s, ∃ net', udpOpen c.config s 0 h.net = some (.ok (), net')

/-- The call does not put a socket on the list that is there already. -/
def KeepsApart (h : Host) : SocketOp → Prop
  | .udpOpen n localPort => ∀ l, Lists h.net l → .user n ∈ l → ¬Free h.net l localPort
  | .dhcpStart i => (h.net.interfaces i).dhcp.isActive = false
  | _ => True

variable {c env}

theorem Served.lists {h : Host} (served : Served c l h) {l' : List SocketId} (lists : Lists h.net l') : l' = l :=
  Chain.unique lists served.bound.chain

theorem dnsSocket_ne_user (small : n < c.stack.userSockets) : c.dnsSocket d ≠ .user n := by
  intro same
  have index : c.stack.userSockets + d = n := SocketId.user.inj same
  omega

theorem lift_run {α : Type} {m : StackM α} {r : Except Error α} {net : Stack} (run : m h.net = some (r, net)) :
    lift m h = some (r, { h with net := net }) :=
  zoom_run run

theorem socketCall_served (env : HostEnv c) {op : SocketOp} (valid : op.Valid c)
    (apart : KeepsApart h op) (served : Served c l h) :
    ∃ r h' l', socketCall c env op h = some (r, h') ∧ Served c l' h' ∧ ∀ s, OpenedBy c op r s (s ∈ l) → s ∈ l' := by
  cases op with
  | udpOpen n localPort =>
    have inside : (SocketId.user n).Valid c.config := Nat.lt_of_lt_of_le valid (Nat.le_add_right _ _)
    obtain ⟨e, range, closed | opened⟩ := udpOpen_run served.bound.toLinked (.user n) localPort
    · obtain ⟨-, error, run⟩ := closed
      refine ⟨.error error, _, l, lift_run run, ⟨⟨served.bound.toLinked.withEphemeral range, served.bound.clients⟩, served.queries⟩, ?_⟩
      exact fun s member => member
    · obtain ⟨free, port, unused, -, run⟩ := opened
      have fresh : .user n ∉ l := fun listed => apart l served.bound.chain listed free
      refine ⟨.ok (), _, .user n :: l, lift_run run,
        ⟨⟨(served.bound.toLinked.withEphemeral range).opened inside fresh unused, fun i => ?_⟩, fun e small => ?_⟩, ?_⟩
      · simp only [mem_cons, reduceCtorEq, false_or]
        exact served.bound.clients i
      · rw [mem_cons, or_iff_right (dnsSocket_ne_user valid)]
        exact served.queries e small
      · exact fun s opened => mem_cons.mpr opened
  | udpClose n =>
    obtain ⟨r, net', run, linked, ended⟩ := udpClose_run served.bound.toLinked (.user n)
    have kept : Keeps (fun net => net.interfaces = h.net.interfaces) (udpClose c.config (.user n)) :=
      udpClose_portless ⟨fun _ _ _ h => h, fun _ _ h => h, fun _ _ h => h⟩
    have same := Triple.always kept rfl run
    have others : ∀ s, s ≠ .user n → (s ∈ l.erase (.user n) ↔ s ∈ l) := fun s other => List.mem_erase_of_ne other
    refine ⟨r, _, l.erase (.user n), lift_run run, ⟨⟨linked, fun i => ?_⟩, fun e small => ?_⟩, ?_⟩
    · rw [others _ (by simp only [ne_eq, reduceCtorEq, not_false_eq_true]), same]
      exact served.bound.clients i
    · rw [others _ (dnsSocket_ne_user valid)]
      exact served.queries e small
    · intro s opened
      rcases ended with ⟨-, rfl⟩ | ⟨absent, rfl, -⟩
      · exact (others s opened.1).mpr opened.2
      · rw [List.erase_of_not_mem absent]
        exact opened
  | dhcpStart i =>
    have fresh : .dhcp i ∉ l := fun listed => by
      have active := (served.bound.clients i).mp listed
      rw [show (h.net.interfaces i).dhcp.isActive = false from apart] at active
      cases active
    have inside : i < c.config.maxInterfaces := valid
    obtain ⟨r, net', run, post⟩ := dhcpStart_total env.stack inside fresh h.net served.bound
    have other : ∀ e, c.dnsSocket e ∈ .dhcp i :: l ↔ c.dnsSocket e ∈ l := fun e => by
      simp only [HostConfig.dnsSocket, mem_cons, reduceCtorEq, false_or]
    have queries : ∀ e < c.dnsContexts, c.dnsSocket e ∈ .dhcp i :: l ↔ (h.dns e).isActive = true := fun e small =>
      (other e).trans (served.queries e small)
    cases r with
    | ok _ => exact ⟨_, _, _, lift_run run, ⟨post, queries⟩, fun s opened => mem_cons.mpr opened⟩
    | error error =>
      rcases post with bound | bound
      · exact ⟨_, _, _, lift_run run, ⟨bound, queries⟩, fun s member => List.mem_cons_of_mem _ member⟩
      · exact ⟨_, _, _, lift_run run, ⟨bound, served.queries⟩, fun s member => member⟩
  | dhcpStop i =>
    obtain ⟨r, net', run, post⟩ := dhcpStop_total i h.net served.bound
    cases r with
    | error _ => exact post.elim
    | ok _ =>
      refine ⟨_, _, _, lift_run run, ⟨post, fun e small => ?_⟩, fun s opened => (List.mem_erase_of_ne opened.1).mpr opened.2⟩
      rw [List.mem_erase_of_ne (by simp only [HostConfig.dnsSocket, ne_eq, reduceCtorEq, not_false_eq_true])]
      exact served.queries e small
  | dnsQueryA d hostname =>
    obtain ⟨r, h', run, post⟩ := dnsQueryA_total env hostname valid h served
    cases r with
    | ok _ => exact ⟨_, _, _, run, post.1, fun s opened => mem_cons.mpr opened⟩
    | error _ => exact ⟨_, _, _, run, post, fun s member => member⟩

/-- In every run that puts no socket on the list twice, the list stays one. -/
theorem list_intact {start : Host} {trace : List (Transition Host SocketOp (Except Error Unit))}
    (fresh : Served c [] start) (run : (socketMachine c env).Run start trace h)
    (apart : ∀ tr ∈ trace, KeepsApart tr.pre tr.input) : ListIntact c trace h := by
  have reached : ∃ l, Served c l h ∧ ∀ s, Opened c trace s → s ∈ l := by
    induction run with
    | nil => exact ⟨[], fresh, fun _ opened => opened.elim⟩
    | @snoc trace h op _ allowed ih =>
      obtain ⟨l, served, opened⟩ := ih fun tr member => apart tr (List.mem_append_left _ member)
      have apart_now : KeepsApart h op := apart _ (List.mem_append_right _ List.mem_cons_self)
      obtain ⟨r, h', l', ran, served', opened'⟩ := socketCall_served env allowed.1 apart_now served
      simp only [socketMachine, Machine.take, Opened, List.foldl_append, List.foldl_cons, List.foldl_nil, ran]
      refine ⟨l', served', fun s now => opened' s ?_⟩
      cases r with
      | error _ => exact opened s now
      | ok _ =>
        cases op with
        | udpOpen => exact now.imp_right (opened s)
        | udpClose => exact ⟨now.1, opened s now.2⟩
        | dhcpStart => exact now.imp_right (opened s)
        | dhcpStop => exact ⟨now.1, opened s now.2⟩
        | dnsQueryA => exact now.imp_right (opened s)
  obtain ⟨l, served, opened⟩ := reached
  have linked := served.bound.toLinked
  constructor
  · exact ⟨l, linked.chain⟩
  · exact fun l' lists => lists.nodup
  · intro l' lists s member
    rw [served.lists lists] at member
    exact (linked.bound s member).2
  · intro l' lists s hs t ht other ports
    rw [served.lists lists] at hs ht
    exact other (linked.ports s hs t ht ports)
  · intro l' lists s now
    rw [served.lists lists]
    exact opened s now
  · intro l' lists
    rw [served.lists lists]
    exact ⟨fun i => (served.bound.clients i).mpr, fun d small => (served.queries d small).mpr⟩
  · rintro l' lists ⟨port, range, free⟩ s
    rw [served.lists lists] at free
    have found : Free h.net l 0 := by
      rw [Free, if_pos rfl]
      refine ⟨port, ⟨range.1, by omega⟩, ?_⟩
      rintro ⟨t, member, same⟩
      exact free t member same
    obtain ⟨e, -, closed | ⟨-, p, -, -, ran⟩⟩ := udpOpen_run linked s 0
    · exact absurd found closed.1
    · exact ⟨_, ran⟩

section Sample

def sampleHostConfig : HostConfig := ⟨sampleConfig, 2, 2000, 3⟩
def sampleHostEnv : HostEnv sampleHostConfig := ⟨sampleEnv, fun _ => .done⟩

/-- A stack with one interface that knows a name server. -/
def sampleHost : Host where
  net :=
    { sampleStart with
      interfaces := fun i =>
        { sampleStart.interfaces i with
          ipAddr := ![192, 168, 1, 2], netmask := ![255, 255, 255, 0], dnsPrimary := ![192, 168, 1, 1], isUp := true }
      interfaceCount := 1 }
  dns := fun _ => DnsContext.zero
  events := []
  touched := []

theorem sampleHost_served : Served sampleHostConfig [] sampleHost := by
  refine ⟨⟨⟨rfl, ?_, ?_, ?_, by decide⟩, fun i => ?_⟩, fun d _ => ?_⟩
  · exact fun s member => absurd member not_mem_nil
  · exact fun s member => absurd member not_mem_nil
  · exact fun s member => absurd member not_mem_nil
  · exact ⟨fun member => absurd member not_mem_nil, fun active => absurd active (by simp [sampleHost, sampleStart, Stack.init, DhcpContext.zero])⟩
  · exact ⟨fun member => absurd member not_mem_nil, fun active => absurd active (by simp [sampleHost, DnsContext.zero])⟩

instance (h : Host) (op : SocketOp) : Decidable ((socketMachine c env).allowed h op) :=
  inferInstanceAs (Decidable (_ ∧ _))

def sampleCalls : List SocketOp := [.udpOpen 0 5000, .dhcpStart 0, .dnsQueryA 0 [0x61], .udpClose 0]

theorem list_intact_sample :
    ListIntact sampleHostConfig ((socketMachine sampleHostConfig sampleHostEnv).transitions sampleHost sampleCalls)
      ((socketMachine sampleHostConfig sampleHostEnv).play sampleHost sampleCalls) := by
  refine list_intact sampleHost_served (Machine.run_of_legal (by decide +kernel)) fun tr member => ?_
  simp only [sampleCalls, Machine.transitions, List.mem_cons, List.not_mem_nil, or_false] at member
  rcases member with rfl | rfl | rfl | rfl
  · intro l lists listed
    rw [sampleHost_served.lists lists] at listed
    exact absurd listed List.not_mem_nil
  · change _ = false
    decide +kernel
  · trivial
  · trivial

theorem not_intact_of_loop {trace : List (Transition Host SocketOp (Except Error Unit))} {s : SocketId}
    (head : h.net.udpList = some s) (loop : (h.net.sockets s).next = some s) : ¬ListIntact c trace h := by
  intro intact
  obtain ⟨l, lists⟩ := intact.finite
  rw [Lists, head] at lists
  exact not_ends_of_loop loop ⟨l, lists.walk⟩

/-- A socket opened twice and a client started twice both close the list to a ring. -/
theorem list_knotted :
    ¬ListIntact sampleHostConfig
        ((socketMachine sampleHostConfig sampleHostEnv).transitions sampleHost [.udpOpen 0 5000, .udpOpen 0 5001])
        ((socketMachine sampleHostConfig sampleHostEnv).play sampleHost [.udpOpen 0 5000, .udpOpen 0 5001]) ∧
      ¬ListIntact sampleHostConfig
        ((socketMachine sampleHostConfig sampleHostEnv).transitions sampleHost [.dhcpStart 0, .dhcpStart 0])
        ((socketMachine sampleHostConfig sampleHostEnv).play sampleHost [.dhcpStart 0, .dhcpStart 0]) := by
  constructor
  · apply not_intact_of_loop (s := .user 0)
    all_goals decide +kernel
  · apply not_intact_of_loop (s := .dhcp 0)
    all_goals decide +kernel

end Sample

end XSDK.Net
