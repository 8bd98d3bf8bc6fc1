import XSDK.Net.Client

/-! The options of a DHCP message as a list, and what parsing them does to the client: the
last option of a kind decides. -/
namespace XSDK.Net

open Library

variable {data : Nat → UInt8} {length k : Nat} {dhcp : DhcpContext} {payload : List UInt8}

structure DhcpOption where
  code : Nat
  len : Nat
  val : Nat → UInt8

/-- The options up to the end mark or the first one that does not fit. -/
def dhcpOptionsFrom (data : Nat → UInt8) (length : Nat) : Nat → Nat → List DhcpOption
  | 0, _ => []
  | fuel + 1, k =>
    if length ≤ k ∨ data k = 255 then []
    else if data k = 0 then dhcpOptionsFrom data length fuel (k + 1)
    else if length ≤ k + 1 ∨ length < k + 2 + (data (k + 1)).toNat then []
    else
      ⟨(data k).toNat, (data (k + 1)).toNat, fun m => data (k + 2 + m)⟩ ::
        dhcpOptionsFrom data length fuel (k + 2 + (data (k + 1)).toNat)

def DhcpOption.set (dhcp : DhcpContext) (o : DhcpOption) : DhcpContext :=
  dhcpParseNetworkOption o.code o.len o.val dhcp

def DhcpOption.tell (reply : DhcpReply) (o : DhcpOption) : DhcpReply :=
  dhcpParseTimeOption o.code o.len o.val reply

theorem dhcpParseOptions_eq (fuel k : Nat) (dhcp : DhcpContext) (reply : DhcpReply) :
    dhcpParseOptions data length fuel k dhcp reply =
      ((dhcpOptionsFrom data length fuel k).foldl DhcpOption.set dhcp,
        (dhcpOptionsFrom data length fuel k).foldl DhcpOption.tell reply) := by
  induction fuel generalizing k dhcp reply with
  | zero => rfl
  | succ fuel ih =>
    rw [dhcpParseOptions, dhcpOptionsFrom]
    by_cases ends : length ≤ k ∨ data k = 255
    · simp only [if_pos ends, List.foldl_nil]
    · rw [if_neg ends, if_neg ends]
      by_cases pad : data k = 0
      · rw [if_pos pad, if_pos pad]
        exact ih _ _ _
      · rw [if_neg pad, if_neg pad]
        dsimp only
        by_cases cut : length ≤ k + 1 ∨ length < k + 2 + (data (k + 1)).toNat
        · simp only [if_pos cut, List.foldl_nil]
        · rw [if_neg cut, if_neg cut]
          exact ih _ _ _

/- What the client keeps of a message. -/

inductive Setting where
  | netmask
  | gateway
  | dnsPrimary
  | dnsSecondary
  | server
  deriving DecidableEq

namespace Setting

def held (dhcp : DhcpContext) : Setting → Addr
  | .netmask => dhcp.netmask
  | .gateway => dhcp.gateway
  | .dnsPrimary => dhcp.dnsPrimary
  | .dnsSecondary => dhcp.dnsSecondary
  | .server => dhcp.serverIp

/-- The option has the code of the setting and the length for it. -/
def within (o : DhcpOption) : Setting → Bool
  | .netmask => decide (o.code = 1 ∧ o.len = 4)
  | .gateway => decide (o.code = 3 ∧ 4 ≤ o.len)
  | .dnsPrimary => decide (o.code = 6 ∧ 4 ≤ o.len)
  | .dnsSecondary => decide (o.code = 6 ∧ 8 ≤ o.len)
  | .server => decide (o.code = 54 ∧ o.len = 4)

/-- The second server of a list of servers lies behind the first. -/
def position : Setting → Nat
  | .dnsSecondary => 4
  | _ => 0

variable (s : Setting)

def read (o : DhcpOption) : Option Addr :=
  if s.within o then some (addrAt o.val s.position) else none

def lastOf (options : List DhcpOption) : Option Addr := (options.filterMap s.read).getLast?

def carried (payload : List UInt8) : Option Addr :=
  s.lastOf (dhcpOptionsFrom (bytesOf payload) payload.length payload.length 240)

theorem lastOf_cons (o : DhcpOption) (rest : List DhcpOption) (old : Addr) :
    (s.lastOf (o :: rest)).getD old = (s.lastOf rest).getD ((s.read o).getD old) := by
  rw [lastOf, lastOf, List.filterMap_cons]
  cases s.read o with
  | none => rfl
  | some a =>
    rw [List.getLast?_cons]
    cases (rest.filterMap s.read).getLast? <;> rfl

end Setting

def DhcpContext.withSettings (dhcp : DhcpContext) (f : Setting → Addr) : DhcpContext :=
  { dhcp with
    netmask := f .netmask, gateway := f .gateway, dnsPrimary := f .dnsPrimary, dnsSecondary := f .dnsSecondary,
    serverIp := f .server }

theorem set_eq (dhcp : DhcpContext) (o : DhcpOption) :
    o.set dhcp = dhcp.withSettings fun s => (s.read o).getD (s.held dhcp) := by
  rw [DhcpOption.set, dhcpParseNetworkOption]
  split
  · next mask => simp [DhcpContext.withSettings, Setting.read, Setting.within, Setting.position, Setting.held, mask]
  · next mask =>
    split
    · next router =>
      have long : 4 ≤ o.len := router.2
      simp [DhcpContext.withSettings, Setting.read, Setting.within, Setting.position, Setting.held, router.1, long]
    · next router =>
      split
      · next servers =>
        have long : 4 ≤ o.len := by omega
        simp [DhcpContext.withSettings, Setting.read, Setting.within, Setting.position, Setting.held, servers.1,
          servers.2, long]
      · next servers =>
        split
        · next one =>
          have short : ¬8 ≤ o.len := fun h => servers ⟨one.1, h⟩
          simp [DhcpContext.withSettings, Setting.read, Setting.within, Setting.position, Setting.held, one.1, one.2, short]
        · next none =>
          split
          · next server =>
            simp [DhcpContext.withSettings, Setting.read, Setting.within, Setting.position, Setting.held, server.1, server.2]
          · next other =>
            simp [DhcpContext.withSettings, Setting.read, Setting.within, Setting.held, mask, router, servers, none, other]

theorem foldl_set (options : List DhcpOption) (dhcp : DhcpContext) :
    options.foldl DhcpOption.set dhcp = dhcp.withSettings fun s => (s.lastOf options).getD (s.held dhcp) := by
  induction options generalizing dhcp with
  | nil => rfl
  | cons o rest ih =>
    have held : ∀ s : Setting, s.held (o.set dhcp) = (s.read o).getD (s.held dhcp) := by
      intro s
      rw [set_eq]
      cases s <;> rfl
    have same : ∀ f : Setting → Addr, (o.set dhcp).withSettings f = dhcp.withSettings f := by
      intro f
      rw [set_eq]
      rfl
    rw [List.foldl_cons, ih, same]
    exact congrArg dhcp.withSettings (funext fun s => by rw [held, Setting.lastOf_cons])

theorem parsed_eq (dhcp : DhcpContext) (payload : List UInt8) :
    (dhcp.parsed payload).1 = dhcp.withSettings fun s => (s.carried payload).getD (s.held dhcp) := by
  rw [DhcpContext.parsed, dhcpParseOptions_eq]
  exact foldl_set _ _

end XSDK.Net
