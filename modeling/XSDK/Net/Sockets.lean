import XSDK.Library.Chain
import XSDK.Net.Steady

/-! The socket list as long as it is one: the sockets on it, what opening and closing a
socket do to it, and the search for a free port. -/
namespace XSDK.Net

open Library Prog

variable {cfg : Config} {net : Stack} {l : List SocketId} {s : SocketId}

def SocketId.Valid (cfg : Config) : SocketId → Prop
  | .user n => n < cfg.userSockets
  | .dhcp i => i < cfg.maxInterfaces

def sockets (cfg : Config) : List SocketId :=
  (List.range cfg.userSockets).map .user ++ (List.range cfg.maxInterfaces).map .dhcp

theorem mem_sockets : s ∈ sockets cfg ↔ s.Valid cfg := by
  cases s with
  | user n => simp [sockets, SocketId.Valid]
  | dhcp i => simp [sockets, SocketId.Valid]

/-- The socket list is these sockets, in this order. -/
structure Linked (cfg : Config) (net : Stack) (l : List SocketId) : Prop where
  chain : Chain (fun s => (net.sockets s).next) net.udpList l
  valid : ∀ s ∈ l, s.Valid cfg
  bound : ∀ s ∈ l, (net.sockets s).hasNet = true ∧ (net.sockets s).hasCallback = true
  ports : ∀ s ∈ l, ∀ t ∈ l, (net.sockets s).localPort = (net.sockets t).localPort → s = t
  ephemeral : ephemeralMin ≤ net.nextEphemeral ∧ net.nextEphemeral < 65536

def Taken (net : Stack) (l : List SocketId) (port : Nat) : Prop := ∃ t ∈ l, (net.sockets t).localPort = port

theorem Linked.length_le (linked : Linked cfg net l) : l.length ≤ socketFuel cfg := by
  have within : l ⊆ sockets cfg := fun s member => mem_sockets.mpr (linked.valid s member)
  have count := (linked.chain.nodup.subperm within).length_le
  simp only [sockets, List.length_append, List.length_map, List.length_range] at count
  simp only [socketFuel]
  omega

variable {head : Option SocketId} {fuel : Nat} {xs ys : List SocketId} {port : Nat}

theorem udpSearch_eq {p : SocketId → Bool}
    (chain : Chain (fun s => (net.sockets s).next) head l) (enough : l.length ≤ fuel) :
    udpSearch net p fuel head = some (l.find? p) := by
  induction l generalizing head fuel with
  | nil =>
    rw [show head = none from chain]
    cases fuel <;> rfl
  | cons s l ih =>
    obtain ⟨first, rest⟩ := chain
    subst first
    cases fuel with
    | zero => cases enough
    | succ fuel =>
      rw [udpSearch, List.find?_cons]
      cases p s with
      | true => rfl
      | false => exact ih rest (Nat.le_of_succ_le_succ enough)

theorem udpFind_run (linked : Linked cfg net l) (p : Stack → SocketId → Bool) :
    udpFind cfg p net = some (.ok (l.find? (p net)), net) := by
  rw [udpFind, bind_ok _ (read_run _), id, udpSearch_eq linked.chain linked.length_le]
  rfl

theorem portInUse_run (linked : Linked cfg net l) (port : Nat) :
    ∃ used, portInUse cfg port net = some (.ok used, net) ∧ (used = true ↔ Taken net l port) := by
  refine ⟨_, bind_ok _ (udpFind_run linked _), ?_⟩
  simp [List.find?_isSome, Taken]

/- The search for a free port. -/

def ephemeralAt (start k : Nat) : Nat := ephemeralMin + (start - ephemeralMin + k) % (65536 - ephemeralMin)

theorem Linked.withEphemeral (linked : Linked cfg net l) (range : ephemeralMin ≤ port ∧ port < 65536) :
    Linked cfg { net with nextEphemeral := port } l :=
  { linked with ephemeral := range }

def nextPort (port : Nat) : Nat := if u16 (port + 1) < ephemeralMin then ephemeralMin else u16 (port + 1)

theorem ephemeralPort_succ (start fuel : Nat) : ephemeralPort cfg start (fuel + 1) net =
    (portInUse cfg net.nextEphemeral >>= fun inUse =>
      if inUse = false then pure net.nextEphemeral
      else if nextPort net.nextEphemeral = start then Prog.fail .noPacketBuffer
      else ephemeralPort cfg start fuel) { net with nextEphemeral := nextPort net.nextEphemeral } := by
  rfl

theorem ephemeralPort_run {start k fuel : Nat} (linked : Linked cfg net l)
    (range : ephemeralMin ≤ start ∧ start < 65536) (at_k : net.nextEphemeral = ephemeralAt start k)
    (left : k + fuel = 65536 - ephemeralMin) (tried : ∀ j < k, Taken net l (ephemeralAt start j)) :
    ∃ r port, ephemeralPort cfg start fuel net = some (r, { net with nextEphemeral := port }) ∧
      (ephemeralMin ≤ port ∧ port < 65536) ∧
      match r with
      | .ok found => (ephemeralMin ≤ found ∧ found < 65536) ∧ ¬Taken net l found
      | .error _ => ∀ j < 65536 - ephemeralMin, Taken net l (ephemeralAt start j) := by
  induction fuel generalizing net k with
  | zero =>
    refine ⟨_, net.nextEphemeral, fail_run, linked.ephemeral, ?_⟩
    intro j small
    exact tried j (by omega)
  | succ fuel ih =>
    have here := linked.ephemeral
    obtain ⟨following, moved⟩ : ∃ following, nextPort net.nextEphemeral = following := ⟨_, rfl⟩
    have at_next : following = ephemeralAt start (k + 1) := by
      rw [← moved]
      simp only [nextPort, at_k, ephemeralAt, ephemeralMin, u16] at left range ⊢
      split <;> omega
    have in_range : ephemeralMin ≤ following ∧ following < 65536 := by
      simp only [at_next, ephemeralAt, ephemeralMin]
      omega
    have next := linked.withEphemeral in_range
    obtain ⟨used, looked, means⟩ := portInUse_run next net.nextEphemeral
    rw [ephemeralPort_succ, moved, bind_ok _ looked]
    cases used with
    | false =>
      refine ⟨.ok net.nextEphemeral, following, rfl, in_range, here, ?_⟩
      exact fun taken => absurd (means.mpr taken) (by decide)
    | true =>
      have taken : Taken net l (ephemeralAt start k) := at_k ▸ means.mp rfl
      have tried' : ∀ j < k + 1, Taken net l (ephemeralAt start j) := by
        intro j small
        rcases Nat.lt_succ_iff_lt_or_eq.mp small with earlier | same
        · exact tried j earlier
        · exact same ▸ taken
      by_cases around : following = start
      · have last : k + 1 = 65536 - ephemeralMin := by
          simp only [at_next, ephemeralAt, ephemeralMin] at around left range ⊢
          omega
        refine ⟨.error .noPacketBuffer, following, ?_, in_range, fun j small => tried' j (by omega)⟩
        simp only [around, if_true, reduceCtorEq, if_false]
        rfl
      · have onward : Taken { net with nextEphemeral := following } l = Taken net l := rfl
        obtain ⟨r, port, run, range', post⟩ := ih next at_next (by omega) (onward ▸ tried')
        refine ⟨r, port, ?_, range', post⟩
        simp only [around, reduceCtorEq, if_false]
        exact run

theorem ephemeralAt_covers {start port : Nat} (range : ephemeralMin ≤ start ∧ start < 65536)
    (inside : ephemeralMin ≤ port ∧ port < 65536) : ∃ j < 65536 - ephemeralMin, ephemeralAt start j = port := by
  refine ⟨(port + 65536 - ephemeralMin - start) % (65536 - ephemeralMin), ?_, ?_⟩
  · simp only [ephemeralMin]
    omega
  · simp only [ephemeralAt, ephemeralMin] at range inside ⊢
    omega

/-- A free port for the socket, or the reason why there is none. -/
def Free (net : Stack) (l : List SocketId) (localPort : Nat) : Prop :=
  if localPort = 0 then ∃ port, (ephemeralMin ≤ port ∧ port < 65536) ∧ ¬Taken net l port else ¬Taken net l localPort

theorem choosePort_run (linked : Linked cfg net l) (localPort : Nat) :
    ∃ r port, choosePort cfg localPort net = some (r, { net with nextEphemeral := port }) ∧
      (ephemeralMin ≤ port ∧ port < 65536) ∧
      match r with
      | .ok found => Free net l localPort ∧ ¬Taken net l found ∧ (localPort ≠ 0 → found = localPort)
      | .error _ => ¬Free net l localPort := by
  have range := linked.ephemeral
  rw [choosePort, bind_ok _ (read_run _)]
  by_cases zero : localPort = 0
  · have start : net.nextEphemeral = ephemeralAt net.nextEphemeral 0 := by
      simp only [ephemeralAt, ephemeralMin] at range ⊢
      omega
    obtain ⟨r, port, run, range', post⟩ := ephemeralPort_run linked range start (Nat.zero_add _)
      fun j small => absurd small (Nat.not_lt_zero j)
    refine ⟨r, port, by rw [if_pos zero, run], range', ?_⟩
    simp only [Free, if_pos zero]
    cases r with
    | ok found => exact ⟨⟨found, post⟩, post.2, fun other => absurd zero other⟩
    | error e =>
      rintro ⟨port, inside, free⟩
      obtain ⟨j, small, same⟩ := ephemeralAt_covers range inside
      exact free (same ▸ post j small)
  · obtain ⟨used, looked, means⟩ := portInUse_run linked localPort
    simp only [Free, if_neg zero]
    rw [bind_ok _ looked]
    cases used with
    | true => exact ⟨.error .invalidArgument, net.nextEphemeral, rfl, range, not_not_intro (means.mp rfl)⟩
    | false =>
      have free : ¬Taken net l localPort := fun taken => absurd (means.mpr taken) (by decide)
      exact ⟨.ok localPort, net.nextEphemeral, rfl, range, free, free, fun _ => rfl⟩

/- Opening and closing. -/

def Stack.opened (net : Stack) (s : SocketId) (port : Nat) : Stack :=
  { net.setSocket s ⟨true, port, true, net.udpList⟩ with udpList := some s }

theorem udpOpen_run (linked : Linked cfg net l) (s : SocketId) (localPort : Nat) :
    ∃ e, (ephemeralMin ≤ e ∧ e < 65536) ∧
      ((¬Free net l localPort ∧ ∃ error, udpOpen cfg s localPort net = some (.error error, { net with nextEphemeral := e })) ∨
        (Free net l localPort ∧ ∃ port, ¬Taken net l port ∧ (localPort ≠ 0 → port = localPort) ∧
          udpOpen cfg s localPort net = some (.ok (), ({ net with nextEphemeral := e }).opened s port))) := by
  obtain ⟨r, e, run, range, post⟩ := choosePort_run linked localPort
  refine ⟨e, range, ?_⟩
  cases r with
  | error error => exact .inl ⟨post, error, bind_error _ run⟩
  | ok port => exact .inr ⟨post.1, port, post.2.1, post.2.2, (bind_ok _ run).trans rfl⟩

theorem Linked.opened (linked : Linked cfg net l) (valid : s.Valid cfg) (fresh : s ∉ l)
    (free : ¬Taken net l port) : Linked cfg (net.opened s port) (s :: l) := by
  have other : ∀ t ∈ l, t ≠ s := fun t member same => fresh (same ▸ member)
  have self : (net.opened s port).sockets s = ⟨true, port, true, net.udpList⟩ := Function.update_self ..
  have kept : ∀ t ∈ l, (net.opened s port).sockets t = net.sockets t := fun t member =>
    Function.update_of_ne (other t member) _ _
  constructor
  · refine ⟨rfl, ?_⟩
    simp only [self]
    exact linked.chain.congr fun t member => congrArg UdpContext.next (kept t member)
  · exact List.forall_mem_cons.mpr ⟨valid, linked.valid⟩
  · refine List.forall_mem_cons.mpr ⟨by rw [self]; exact ⟨rfl, rfl⟩, fun t member => ?_⟩
    rw [kept t member]
    exact linked.bound t member
  · intro t ht u hu same
    rcases List.mem_cons.mp ht with t_new | t_old
    · rcases List.mem_cons.mp hu with u_new | u_old
      · exact t_new.trans u_new.symm
      · rw [t_new, self, kept u u_old] at same
        exact absurd ⟨u, u_old, same.symm⟩ free
    · rcases List.mem_cons.mp hu with u_new | u_old
      · rw [u_new, self, kept t t_old] at same
        exact absurd ⟨t, t_old, same⟩ free
      · rw [kept t t_old, kept u u_old] at same
        exact linked.ports t t_old u u_old same
  · exact linked.ephemeral

theorem udpPredecessor_absent (prev : Option SocketId)
    (chain : Chain (fun s => (net.sockets s).next) head l) (enough : l.length ≤ fuel) (absent : s ∉ l) :
    udpPredecessor net s fuel prev head = some none := by
  induction l generalizing head prev fuel with
  | nil =>
    rw [show head = none from chain]
    cases fuel <;> rfl
  | cons t l ih =>
    obtain ⟨first, rest⟩ := chain
    subst first
    have other : t ≠ s := fun same => absent (same ▸ List.mem_cons_self)
    cases fuel with
    | zero => cases enough
    | succ fuel =>
      rw [udpPredecessor, if_neg other]
      exact ih _ rest (Nat.le_of_succ_le_succ enough) fun member => absent (List.mem_cons_of_mem t member)

theorem udpPredecessor_found (prev : Option SocketId)
    (chain : Chain (fun s => (net.sockets s).next) head (xs ++ s :: ys)) (enough : (xs ++ s :: ys).length ≤ fuel)
    (first : s ∉ xs) : udpPredecessor net s fuel prev head = some (some (xs.getLast?.or prev)) := by
  induction xs generalizing head prev fuel with
  | nil =>
    rw [chain.1]
    cases fuel with
    | zero => cases enough
    | succ fuel => rw [udpPredecessor, if_pos rfl, List.getLast?_nil, Option.none_or]
  | cons t xs ih =>
    have other : t ≠ s := fun same => first (same ▸ List.mem_cons_self)
    rw [chain.1]
    cases fuel with
    | zero => cases enough
    | succ fuel =>
      rw [udpPredecessor, if_neg other,
        ih _ chain.2 (Nat.le_of_succ_le_succ enough) fun member => first (List.mem_cons_of_mem t member)]
      cases last : xs.getLast? <;> simp [List.getLast?_cons, last]

def Stack.closed (net : Stack) (s : SocketId) (prev : Option SocketId) : Stack :=
  let unlinked := match prev with
    | none => { net with udpList := (net.sockets s).next }
    | some p => net.setSocket p { net.sockets p with next := (net.sockets s).next }
  unlinked.setSocket s UdpContext.zero

theorem Linked.closed (linked : Linked cfg net (xs ++ s :: ys)) :
    Linked cfg (net.closed s xs.getLast?) (xs ++ ys) := by
  have nodup := linked.chain.nodup
  have other : ∀ t ∈ xs ++ ys, t ≠ s := by
    intro t member same
    have alone := (List.nodup_middle.mp nodup)
    exact (List.nodup_cons.mp alone).1 (same ▸ member)
  have within : ∀ t ∈ xs ++ ys, t ∈ xs ++ s :: ys := by
    intro t member
    rcases List.mem_append.mp member with h | h
    · exact List.mem_append_left _ h
    · exact List.mem_append_right _ (List.mem_cons_of_mem s h)
  have shape : Chain (fun t => ((net.closed s xs.getLast?).sockets t).next)
      (net.closed s xs.getLast?).udpList (xs ++ ys) ∧
      (∀ t ∈ xs ++ ys, ((net.closed s xs.getLast?).sockets t).localPort = (net.sockets t).localPort ∧
        ((net.closed s xs.getLast?).sockets t).hasNet = (net.sockets t).hasNet ∧
        ((net.closed s xs.getLast?).sockets t).hasCallback = (net.sockets t).hasCallback) := by
    rcases List.eq_nil_or_concat xs with rfl | ⟨zs, p, rfl⟩
    · have kept : ∀ t ∈ ys, (net.closed s none).sockets t = net.sockets t := fun t member =>
        Function.update_of_ne (other t member) _ _
      refine ⟨?_, fun t member => ?_⟩
      · exact linked.chain.2.congr fun t member => congrArg UdpContext.next (kept t member)
      · rw [List.getLast?_nil, kept t member]
        exact ⟨rfl, rfl, rfl⟩
    · simp only [List.concat_eq_append, List.append_assoc, List.singleton_append, List.getLast?_append,
        List.getLast?_singleton, Option.some_or] at linked other ⊢
      have kept : ∀ t ∈ zs ++ p :: ys, (net.closed s (some p)).sockets t =
          (net.setSocket p { net.sockets p with next := (net.sockets s).next }).sockets t := fun t member =>
        Function.update_of_ne (other t member) _ _
      refine ⟨?_, fun t member => ?_⟩
      · apply (linked.chain.remove).congr
        intro t member
        rw [kept t member]
        by_cases same : t = p
        · subst same
          simp [Stack.setSocket]
        · simp [Stack.setSocket, same]
      · rw [kept t member]
        by_cases same : t = p
        · subst same
          simp [Stack.setSocket]
        · simp [Stack.setSocket, same]
  obtain ⟨chain, kept⟩ := shape
  refine ⟨chain, fun t member => linked.valid t (within t member), fun t member => ?_, fun t ht u hu same => ?_, ?_⟩
  · rw [(kept t member).2.1, (kept t member).2.2]
    exact linked.bound t (within t member)
  · rw [(kept t ht).1, (kept u hu).1] at same
    exact linked.ports t (within t ht) u (within u hu) same
  · cases h : xs.getLast? <;> exact linked.ephemeral

theorem udpClose_run (linked : Linked cfg net l) (s : SocketId) :
    ∃ r net', udpClose cfg s net = some (r, net') ∧ Linked cfg net' (l.erase s) ∧
      ((s ∈ l ∧ r = .ok ()) ∨ (s ∉ l ∧ r = .error .notFound ∧ net' = net)) := by
  rw [udpClose, bind_ok _ (read_run _)]
  by_cases listed : s ∈ l
  · obtain ⟨xs, ys, rfl⟩ := List.append_of_mem listed
    have first : s ∉ xs := by
      have alone := List.nodup_middle.mp linked.chain.nodup
      exact fun member => (List.nodup_cons.mp alone).1 (List.mem_append_left ys member)
    have open_ : ¬(net.sockets s).hasNet = false := by
      rw [(linked.bound s listed).1]
      exact Bool.true_eq_false.mp
    have found := udpPredecessor_found none linked.chain linked.length_le first
    rw [Option.or_none] at found
    refine ⟨.ok (), net.closed s xs.getLast?, ?_, ?_, .inl ⟨listed, rfl⟩⟩
    · rw [reject_bind_neg _ open_]
      have unlink : udpUnlink cfg s net = some (.ok (), match xs.getLast? with
          | none => { net with udpList := (net.sockets s).next }
          | some p => net.setSocket p { net.sockets p with next := (net.sockets s).next }) := by
        rw [udpUnlink, bind_ok _ (read_run _), id, found]
        cases xs.getLast? <;> rfl
      exact (bind_ok _ unlink).trans rfl
    · rw [List.erase_append_right _ first, List.erase_cons_head]
      exact linked.closed
  · refine ⟨.error .notFound, net, ?_, ?_, .inr ⟨listed, rfl, rfl⟩⟩
    · by_cases open_ : (net.sockets s).hasNet = false
      · rw [reject_bind_pos _ open_]
        rfl
      · have absent := udpPredecessor_absent none linked.chain linked.length_le listed
        have unlink : udpUnlink cfg s net = some (.error .notFound, net) := by
          rw [udpUnlink, bind_ok _ (read_run _), id, absent]
          rfl
        rw [reject_bind_neg _ open_]
        exact bind_error _ unlink
    · rw [List.erase_of_not_mem listed]
      exact linked

theorem Linked.congr {net' : Stack} (linked : Linked cfg net l) (list : net'.udpList = net.udpList)
    (ephemeral : net'.nextEphemeral = net.nextEphemeral) (same : ∀ s ∈ l, net'.sockets s = net.sockets s) :
    Linked cfg net' l := by
  refine ⟨?_, linked.valid, fun s member => ?_, fun s hs t ht ports => ?_, ?_⟩
  · rw [list]
    exact linked.chain.congr fun s member => congrArg UdpContext.next (same s member)
  · rw [same s member]
    exact linked.bound s member
  · rw [same s hs, same t ht] at ports
    exact linked.ports s hs t ht ports
  · rw [ephemeral]
    exact linked.ephemeral

/- The list and the DHCP clients. -/

/-- A client is on the list exactly while it is active. -/
structure Bound (cfg : Config) (net : Stack) (l : List SocketId) : Prop extends Linked cfg net l where
  clients : ∀ i, .dhcp i ∈ l ↔ (net.interfaces i).dhcp.isActive = true

section Clients

variable {i : Nat} (env : Env)

theorem Bound.setInterface (h : Bound cfg net l) {interface : Interface}
    (same : interface.dhcp.isActive = (net.interfaces i).dhcp.isActive) :
    Bound cfg (net.setInterface i interface) l := by
  refine ⟨h.toLinked.congr rfl rfl fun _ _ => rfl, fun j => (h.clients j).trans ?_⟩
  by_cases eq : j = i
  · subst eq
    simp [Stack.setInterface, same]
  · simp [Stack.setInterface, eq]

theorem apart_bound : Apart fun net => Bound cfg net l :=
  ⟨⟨fun _ _ _ _ h => ⟨h.toLinked.congr rfl rfl fun _ _ => rfl, h.clients⟩, fun _ _ _ h => h.setInterface rfl,
    fun _ _ h => ⟨h.toLinked.congr rfl rfl fun _ _ => rfl, h.clients⟩⟩,
    fun _ _ h => ⟨h.toLinked.congr rfl rfl fun _ _ => rfl, h.clients⟩⟩

theorem updateInterface_bound {f : Interface → Interface}
    (same : ∀ interface, (f interface).dhcp.isActive = interface.dhcp.isActive) :
    Steady (fun net => Bound cfg net l) (updateInterface i f) :=
  .modify fun _ h => h.setInterface (same _)

theorem clearIpConfig_bound : Steady (fun net => Bound cfg net l) (clearIpConfig cfg i) := by
  refine .bind (updateInterface_bound fun _ => rfl) fun _ => .bind (.modify fun net h => ?_) fun _ => ?_
  · exact ⟨h.toLinked.congr rfl rfl fun _ _ => rfl, h.clients⟩
  · exact updateInterface_bound fun _ => rfl

def BoundOr (cfg : Config) (s : SocketId) (l : List SocketId) (net : Stack) : Prop :=
  Bound cfg net (s :: l) ∨ Bound cfg net l

def Armed (cfg : Config) (i : Nat) (l : List SocketId) (net : Stack) : Prop :=
  Linked cfg net l ∧ ∀ j, j = i ∨ .dhcp j ∈ l ↔ (net.interfaces j).dhcp.isActive = true

variable {f : DhcpContext → DhcpContext}

theorem armed_of_update (active : ∀ dhcp, (f dhcp).isActive = true) :
    Total (fun net => Bound cfg net l) (updateDhcp i f) (fun _ => Armed cfg i l) fun _ _ => False := by
  refine .modify fun net bound => ⟨bound.toLinked.congr rfl rfl fun _ _ => rfl, fun j => ?_⟩
  by_cases same : j = i
  · subst same
    simp [Stack.setInterface, active]
  · simp [Stack.setInterface, same, bound.clients j]

theorem bound_of_update (idle : ∀ dhcp, (f dhcp).isActive = false) (fresh : .dhcp i ∉ l) :
    Total (Armed cfg i l) (updateDhcp i f) (fun _ net => Bound cfg net l) fun _ _ => False := by
  refine .modify fun net armed => ⟨armed.1.congr rfl rfl fun _ _ => rfl, fun j => ?_⟩
  by_cases same : j = i
  · subst same
    simp [Stack.setInterface, idle, fresh]
  · simpa [Stack.setInterface, same] using armed.2 j

theorem clearSocket_armed {s : SocketId} (fresh : s ∉ l) :
    Total (Armed cfg i l) (updateSocket s fun _ => UdpContext.zero) (fun _ => Armed cfg i l) fun _ _ => False := by
  refine .modify fun net armed => ⟨armed.1.congr rfl rfl fun t member => ?_, armed.2⟩
  have other : t ≠ s := fun same => fresh (same ▸ member)
  exact Function.update_of_ne other _ _

theorem udpOpen_armed {localPort : Nat} (valid : i < cfg.maxInterfaces) (fresh : .dhcp i ∉ l) :
    Total (Armed cfg i l) (udpOpen cfg (.dhcp i) localPort) (fun _ net => Bound cfg net (.dhcp i :: l))
      fun _ => Armed cfg i l := by
  intro net armed
  obtain ⟨e, range, closed | opened⟩ := udpOpen_run armed.1 (.dhcp i) localPort
  · obtain ⟨-, error, run⟩ := closed
    exact ⟨.error error, _, run, armed.1.withEphemeral range, armed.2⟩
  · obtain ⟨-, port, free, -, run⟩ := opened
    refine ⟨.ok (), _, run, (armed.1.withEphemeral range).opened (s := .dhcp i) valid fresh free, fun j => ?_⟩
    rw [List.mem_cons, SocketId.dhcp.injEq]
    exact armed.2 j

/-- A client that is not active comes on the list unless its port is taken. -/
theorem dhcpStart_total (valid : i < cfg.maxInterfaces) (fresh : .dhcp i ∉ l) :
    Total (fun net => Bound cfg net l) (dhcpStart cfg env i) (fun _ net => Bound cfg net (.dhcp i :: l))
      fun _ => BoundOr cfg (.dhcp i) l := by
  have opening : Total (Armed cfg i l)
      (onError (udpOpen cfg (.dhcp i) dhcpClientPort) (updateDhcp i fun dhcp => { dhcp with isActive := false }))
      (fun _ net => Bound cfg net (.dhcp i :: l)) fun _ => BoundOr cfg (.dhcp i) l := by
    refine .onError (udpOpen_armed valid fresh) fun _ => ?_
    exact (bound_of_update (fun _ => rfl) fresh).weaken (fun _ h => h) (fun _ _ h => .inr h) fun _ _ h => h.elim
  have listed : ∀ {α : Type} {m : StackM α}, Steady (fun net => Bound cfg net (.dhcp i :: l)) m →
      Total (fun net => Bound cfg net (.dhcp i :: l)) m (fun _ net => Bound cfg net (.dhcp i :: l))
        fun _ => BoundOr cfg (.dhcp i) l := fun steady =>
    (Total.of_steady steady).weaken (fun _ h => h) (fun _ _ h => h) fun _ _ h => .inl h
  refine .bind (R := fun _ net => Bound cfg net l) (.read fun _ h => h) fun ticks => ?_
  refine .bind ((armed_of_update fun _ => rfl).weaken (fun _ h => h) (fun _ _ h => h) fun _ _ h => h.elim) fun _ => ?_
  refine .bind ((clearSocket_armed fresh).weaken (fun _ h => h) (fun _ _ h => h) fun _ _ h => h.elim) fun _ => ?_
  refine .bind opening fun _ => .bind (listed clearIpConfig_bound) fun _ => ?_
  refine .bind (listed (updateInterface_bound fun _ => rfl)) fun _ => listed ?_
  exact dhcpSendMessage_steady env apart_bound

theorem dhcpStop_total (i : Nat) :
    Total (fun net => Bound cfg net l) (dhcpStop cfg i) (fun _ net => Bound cfg net (l.erase (.dhcp i)))
      fun _ _ => False := by
  intro net bound
  rw [dhcpStop, bind_ok _ (read_run _)]
  cases active : (net.interfaces i).dhcp.isActive with
  | false =>
    have absent : .dhcp i ∉ l := fun listed => absurd ((bound.clients i).mp listed) (by rw [active]; decide)
    refine ⟨.ok (), net, rfl, ?_⟩
    rw [List.erase_of_not_mem absent]
    exact bound
  | true =>
    let stopped := net.setInterface i { net.interfaces i with dhcp := { (net.interfaces i).dhcp with isActive := false, state := .failed } }
    have linked : Linked cfg stopped l := bound.toLinked.congr rfl rfl fun _ _ => rfl
    obtain ⟨r, net', run, linked', -⟩ := udpClose_run linked (.dhcp i)
    have clients : (fun j => (net'.interfaces j).dhcp.isActive) = fun j => (stopped.interfaces j).dhcp.isActive := by
      have kept : Keeps (fun n => n.interfaces = stopped.interfaces) (udpClose cfg (.dhcp i)) :=
        udpClose_portless ⟨fun _ _ _ h => h, fun _ _ h => h, fun _ _ h => h⟩
      rw [Triple.always kept rfl run]
    refine ⟨.ok (), net', ignore_run run, linked', fun j => ?_⟩
    rw [show (net'.interfaces j).dhcp.isActive = (stopped.interfaces j).dhcp.isActive from congrFun clients j]
    rw [bound.chain.nodup.mem_erase_iff, ne_eq, SocketId.dhcp.injEq, bound.clients j]
    by_cases same : j = i
    · subst same
      simp [stopped, Stack.setInterface]
    · simp [stopped, Stack.setInterface, same]

end Clients

end XSDK.Net
