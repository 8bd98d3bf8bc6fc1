import XSDK.Library.DomainName
import XSDK.Net.SocketList

/-! The name in a DNS query against the host name it was asked for, and the two buffers that
the name passes through. -/
namespace XSDK.Net

open Library Prog DomainName
open List (append_assoc length_append take_nil)

variable {c : HostConfig} (env : HostEnv c) {d : Nat} {h h' : Host} {hostname name rest : List UInt8}

/- The buffers. -/

/-- A byte stored in a buffer; none when it would lie outside. -/
def store (buffer : List UInt8) (k : Nat) (byte : UInt8) : Option (List UInt8) :=
  if k < buffer.length then some (buffer.set k byte) else none

def storeAll (buffer : List UInt8) (k : Nat) : List UInt8 → Option (List UInt8)
  | [] => some buffer
  | byte :: bytes => (store buffer k byte).bind fun buffer => storeAll buffer (k + 1) bytes

/-- The copy into the context's buffer, byte by byte from an index on. -/
def dnsCopyHostnameInto (dest : List UInt8) (len : Nat) : List UInt8 → Option (List UInt8)
  | [] => store dest len 0
  | c :: src => if len < 255 ∧ c ≠ 0 then (store dest len c).bind fun dest => dnsCopyHostnameInto dest (len + 1) src
    else store dest len 0

/-- The encoding into the payload's buffer from an index on, with the index behind it. -/
def dnsEncodeLabelsInto (dest : List UInt8) (destIdx : Nat) : Nat → List UInt8 → Option (Option (List UInt8 × Nat))
  | _, [] => (store dest destIdx 0).map fun dest => some (dest, destIdx + 1)
  | 0, _ :: _ => some none
  | fuel + 1, hostname =>
    match dnsEncodeStep hostname with
    | none => some none
    | some (label, rest) => (storeAll dest destIdx label).bind fun dest =>
        dnsEncodeLabelsInto dest (destIdx + label.length) fuel rest

variable (transactionId : Nat)

/-- The query built in its buffer of 512 bytes. -/
def dnsQueryInto (hostname : List UInt8) : Option (Option (List UInt8)) := do
  let payload ← storeAll (List.replicate 512 0) 0 (be16Bytes transactionId ++ [0x01, 0x00, 0x00, 0x01])
  if hostname = [] then return none
  match ← dnsEncodeLabelsInto payload 12 hostname.length hostname with
  | none => return none
  | some (payload, idx) =>
    let payload ← storeAll payload idx [0x00, 0x01, 0x00, 0x01]
    return some (payload.take (idx + 4))

variable (before : List UInt8)

theorem storeAll_run {bytes old : List UInt8} (same : old.length = bytes.length)
    (after : List UInt8) {k : Nat} (at_end : before.length = k) :
    storeAll (before ++ (old ++ after)) k bytes = some (before ++ (bytes ++ after)) := by
  induction bytes generalizing before old k with
  | nil =>
    rw [List.length_eq_zero_iff.mp same]
    rfl
  | cons byte bytes ih =>
    cases old with
    | nil => cases same
    | cons first old =>
      have inside : k < (before ++ (first :: old ++ after)).length := by
        rw [length_append, length_append, List.length_cons]
        omega
      have put : (before ++ (first :: old ++ after)).set k byte = (before ++ [byte]) ++ (old ++ after) := by
        rw [List.set_append_right _ _ (le_of_eq at_end), at_end, Nat.sub_self, append_assoc]
        rfl
      rw [storeAll, store, if_pos inside, Option.bind_some, put,
        ih (before ++ [byte]) (Nat.succ.inj same) (by rw [length_append, at_end]; rfl), append_assoc]
      rfl

theorem storeAll_zeros (before bytes : List UInt8) {k room : Nat} (at_end : before.length = k)
    (fits : bytes.length ≤ room) :
    storeAll (before ++ List.replicate room 0) k bytes =
      some (before ++ bytes ++ List.replicate (room - bytes.length) 0) := by
  have split : List.replicate room (0 : UInt8) =
      List.replicate bytes.length 0 ++ List.replicate (room - bytes.length) 0 := by
    rw [List.replicate_append_replicate, Nat.add_sub_cancel' fits]
  rw [split, storeAll_run before List.length_replicate _ at_end, append_assoc]

theorem store_eq_storeAll (buffer : List UInt8) (k : Nat) (byte : UInt8) :
    store buffer k byte = storeAll buffer k [byte] := by
  rw [storeAll]
  cases store buffer k byte with
  | none => rfl
  | some buffer => rfl

theorem dnsCopyHostnameInto_run {len room : Nat} (at_end : before.length = len) (src : List UInt8)
    (fits : len + room = 256) (low : len ≤ 255) :
    ∃ rest, dnsCopyHostnameInto (before ++ List.replicate room 0) len src =
      some (before ++ (src.takeWhile (· ≠ 0)).take (255 - len) ++ 0 :: rest) := by
  have stop : store (before ++ List.replicate room 0) len 0 = some (before ++ 0 :: List.replicate (room - 1) 0) := by
    rw [store_eq_storeAll, storeAll_zeros before [0] at_end (by change 1 ≤ room; omega), append_assoc]
    rfl
  induction src generalizing before len room with
  | nil =>
    refine ⟨List.replicate (room - 1) 0, ?_⟩
    rw [dnsCopyHostnameInto, stop, List.takeWhile_nil, take_nil, List.append_nil]
  | cons c src ih =>
    rw [dnsCopyHostnameInto]
    by_cases more : len < 255 ∧ c ≠ 0
    · have put : store (before ++ List.replicate room 0) len c =
          some (before ++ [c] ++ List.replicate (room - 1) 0) := by
        rw [store_eq_storeAll, storeAll_zeros before [c] at_end (by change 1 ≤ room; omega)]
        rfl
      have next_end : (before ++ [c]).length = len + 1 := by rw [length_append, at_end]; rfl
      have next_stop : store (before ++ [c] ++ List.replicate (room - 1) 0) (len + 1) 0 =
          some (before ++ [c] ++ 0 :: List.replicate (room - 1 - 1) 0) := by
        have next_fits : [(0 : UInt8)].length ≤ room - 1 := by
          change 1 ≤ room - 1
          omega
        rw [store_eq_storeAll, storeAll_zeros (before ++ [c]) [0] next_end next_fits, append_assoc]
        rfl
      obtain ⟨rest, run⟩ := ih (before ++ [c]) next_end (by omega) (by omega) next_stop
      refine ⟨rest, ?_⟩
      have taken : 255 - len = 255 - (len + 1) + 1 := by omega
      rw [if_pos more, put, Option.bind_some, run, List.takeWhile_cons, if_pos (decide_eq_true more.2), taken,
        List.take_succ_cons, append_assoc before]
      rfl
    · refine ⟨List.replicate (room - 1) 0, ?_⟩
      have none_more : ((c :: src).takeWhile (· ≠ 0)).take (255 - len) = [] := by
        rcases not_and_or.mp more with full | zero
        · rw [Nat.sub_eq_zero_of_le (by omega), List.take_zero]
        · rw [List.takeWhile_cons, if_neg (by simpa using zero), take_nil]
      rw [if_neg more, stop, none_more, List.append_nil]

/- The encoding. -/

def labelsLeft (hostname : List UInt8) : List (List UInt8) := if hostname = [] then [] else labelsOf hostname

theorem dnsEncodeStep_some {bytes : List UInt8} (step : dnsEncodeStep hostname = some (bytes, rest)) :
    ∃ label : List UInt8, bytes = UInt8.ofNat label.length :: label ∧ 1 ≤ label.length ∧ label.length ≤ 63 ∧
      label.length ≤ hostname.length ∧ labelsLeft hostname = label :: labelsLeft rest ∧
      (rest ≠ [] → hostname.length = label.length + 1 + rest.length) := by
  rw [dnsEncodeStep] at step
  split at step
  · cases step
  · next sizes =>
    rw [not_or, not_lt] at sizes
    cases step
    obtain ⟨labels, length⟩ := @labelsOf_step hostname _ _ rfl rfl
    have shorter := (List.takeWhile_prefix (l := hostname) fun c => decide (c ≠ dot)).length_le
    have some_text : hostname ≠ [] := by
      rintro rfl
      exact sizes.1 rfl
    refine ⟨_, rfl, Nat.pos_of_ne_zero sizes.1, sizes.2, shorter, ?_, length⟩
    rw [labelsLeft, if_neg some_text]
    exact labels

theorem dnsEncodeLabels_some {fuel : Nat} (run : dnsEncodeLabels fuel hostname = some name) :
    Valid (labelsLeft hostname) ∧ name = wire (labelsLeft hostname) := by
  induction fuel generalizing hostname name with
  | zero =>
    cases hostname with
    | nil =>
      cases run
      exact ⟨fun _ mem => absurd mem List.not_mem_nil, rfl⟩
    | cons c hostname => cases run
  | succ fuel ih =>
    cases hostname with
    | nil =>
      cases run
      exact ⟨fun _ mem => absurd mem List.not_mem_nil, rfl⟩
    | cons c hostname =>
      rw [dnsEncodeLabels] at run
      · cases step : dnsEncodeStep (c :: hostname) with
        | none =>
          rw [step] at run
          cases run
        | some taken =>
          obtain ⟨bytes, rest⟩ := taken
          rw [step] at run
          obtain ⟨more, encoded, rfl⟩ := Option.map_eq_some_iff.mp run
          obtain ⟨label, rfl, pos, small, -, labels, -⟩ := dnsEncodeStep_some step
          obtain ⟨valid, rfl⟩ := ih encoded
          rw [labels]
          refine ⟨?_, rfl⟩
          intro other mem
          rcases List.mem_cons.mp mem with rfl | behind
          · exact ⟨pos, small⟩
          · exact valid other behind
      · exact List.cons_ne_nil _ _

theorem dnsEncodeName_some (run : dnsEncodeName hostname = some name) :
    hostname ≠ [] ∧ Valid (labelsOf hostname) ∧ name = wire (labelsOf hostname) := by
  rw [dnsEncodeName] at run
  split at run
  · cases run
  · next some_text =>
    have encoded := dnsEncodeLabels_some run
    rw [labelsLeft, if_neg some_text] at encoded
    exact ⟨some_text, encoded⟩

theorem length_dnsEncodeName (run : dnsEncodeName hostname = some name) :
    name.length = hostname.length + if hostname.getLast? = some dot then 1 else 2 := by
  obtain ⟨-, -, rfl⟩ := dnsEncodeName_some run
  exact length_wire_labelsOf hostname

theorem dnsEncodeLabelsInto_run {k room fuel : Nat} (at_end : before.length = k)
    (fits : 1 ≤ room) (fits_text : hostname ≠ [] → hostname.length + 2 ≤ room) :
    dnsEncodeLabelsInto (before ++ List.replicate room 0) k fuel hostname =
      some ((dnsEncodeLabels fuel hostname).map fun name =>
        (before ++ name ++ List.replicate (room - name.length) 0, k + name.length)) := by
  have ending : (store (before ++ List.replicate room 0) k 0).map (fun dest => some (dest, k + 1)) =
      some ((some [0] : Option (List UInt8)).map fun name =>
        (before ++ name ++ List.replicate (room - name.length) 0, k + name.length)) := by
    rw [store_eq_storeAll, storeAll_zeros before [0] at_end fits]
    rfl
  induction fuel generalizing before k room hostname with
  | zero =>
    cases hostname with
    | nil => exact ending
    | cons c hostname => rfl
  | succ fuel ih =>
    cases hostname with
    | nil => exact ending
    | cons c hostname =>
      have long := fits_text (List.cons_ne_nil _ _)
      simp only [dnsEncodeLabelsInto, dnsEncodeLabels]
      cases step : dnsEncodeStep (c :: hostname) with
      | none => rfl
      | some taken =>
        obtain ⟨bytes, rest⟩ := taken
        obtain ⟨label, rfl, pos, small, shorter, -, length⟩ := dnsEncodeStep_some step
        generalize written : UInt8.ofNat label.length :: label = bytes
        have size : bytes.length = label.length + 1 := by rw [← written, List.length_cons]
        have next_end : (before ++ bytes).length = k + bytes.length := by rw [length_append, at_end]
        have next_fits : 1 ≤ room - bytes.length := by omega
        have next_text : rest ≠ [] → rest.length + 2 ≤ room - bytes.length := by
          intro more
          have whole := length more
          omega
        simp only
        rw [storeAll_zeros before bytes at_end (by omega), Option.bind_some,
          ih (before ++ bytes) next_end next_fits next_text, Option.map_map]
        · congr 2
          funext name
          simp only [Function.comp_apply, append_assoc, length_append, Nat.sub_sub, Nat.add_assoc]
        · rw [store_eq_storeAll, storeAll_zeros (before ++ bytes) [0] next_end next_fits]
          rfl

theorem length_dnsHeader :
    (be16Bytes transactionId ++ [0x01, 0x00, 0x00, 0x01] ++ List.replicate 6 (0 : UInt8)).length = 12 := rfl

theorem length_dnsQuery (name : List UInt8) : (dnsQuery transactionId name).length = name.length + 16 := by
  rw [dnsQuery, length_append, length_append, length_dnsHeader]
  change 12 + name.length + 4 = name.length + 16
  omega

theorem dnsQueryInto_run (short : hostname.length ≤ 255) :
    dnsQueryInto transactionId hostname = some ((dnsEncodeName hostname).map (dnsQuery transactionId)) := by
  have header : storeAll (List.replicate 512 0) 0 (be16Bytes transactionId ++ [0x01, 0x00, 0x00, 0x01]) =
      some (be16Bytes transactionId ++ [0x01, 0x00, 0x00, 0x01] ++ List.replicate 6 0 ++ List.replicate 500 0) := by
    generalize written : be16Bytes transactionId ++ [0x01, 0x00, 0x00, 0x01] = bytes
    have size : bytes.length = 6 := by
      rw [← written]
      rfl
    have fits : bytes.length ≤ 512 := by omega
    have stored : storeAll ([] ++ List.replicate 512 0) 0 bytes = _ := storeAll_zeros [] bytes rfl fits
    rw [List.nil_append, List.nil_append, size] at stored
    rw [stored, append_assoc bytes, List.replicate_append_replicate]
  rw [dnsQueryInto, header, dnsEncodeName]
  change (if hostname = [] then some none else _) = _
  by_cases empty : hostname = []
  · rw [if_pos empty, if_pos empty]
    rfl
  · rw [if_neg empty, if_neg empty]
    have front := length_dnsHeader transactionId
    rw [dnsEncodeLabelsInto_run _ front (by decide) fun _ => by omega]
    cases encoded : dnsEncodeLabels hostname.length hostname with
    | none => rfl
    | some name =>
      have named : dnsEncodeName hostname = some name := by rw [dnsEncodeName, if_neg empty, encoded]
      have size := length_dnsEncodeName named
      have bound : name.length ≤ 257 := by split at size <;> omega
      rw [Option.map_some, Option.map_some, dnsQuery]
      generalize be16Bytes transactionId ++ [0x01, 0x00, 0x00, 0x01] ++ List.replicate 6 (0 : UInt8) = before at front
      have end_of : (before ++ name).length = 12 + name.length := by rw [length_append, front]
      have question_fits : [0x00, 0x01, 0x00, 0x01].length ≤ 500 - name.length := by
        change 4 ≤ 500 - name.length
        omega
      have question := storeAll_zeros (before ++ name) [0x00, 0x01, 0x00, 0x01] end_of question_fits
      have whole : 12 + name.length + 4 = (before ++ name ++ [0x00, 0x01, 0x00, 0x01]).length := by
        rw [length_append, end_of]
        rfl
      change ((storeAll (before ++ name ++ List.replicate (500 - name.length) 0) (12 + name.length)
        [0x00, 0x01, 0x00, 0x01]).bind fun payload => some (some (payload.take (12 + name.length + 4)))) = _
      rw [question, Option.bind_some, whole, List.take_left]

/- The call. -/

/-- The name in a query decodes to the labels of the host name, and they and all of it have the
sizes of a domain name. -/
structure NameFaithful (hostname payload : List UInt8) : Prop where
  labels : decode payload.length (payload.drop 12) = some (labelsOf hostname, [0x00, 0x01, 0x00, 0x01])
  valid : Valid (labelsOf hostname)
  short : payload.length ≤ 12 + 255 + 4

/-- A text that takes 255 bytes on the wire at most. -/
def ShortName (hostname : List UInt8) : Prop :=
  hostname.length ≤ 253 ∨ hostname.length = 254 ∧ hostname.getLast? = some dot

/-- The query is handed to the socket that the call has opened. -/
def Queried (c : HostConfig) (env : HostEnv c) (d : Nat) (h h' : Host) (payload : List UInt8) : Prop :=
  ∃ opened,
    udpOpen c.config (c.dnsSocket d) 0 (h.net.setSocket (c.dnsSocket d) UdpContext.zero) = some (.ok (), opened) ∧
    udpSendTo c.config env.stack (c.dnsSocket d) (h'.dns d).dnsServer dnsServerPort payload opened =
      some (.ok (), h'.net)

theorem faithful_iff (encoded : dnsEncodeName (dnsCopyHostname hostname) = some name) :
    NameFaithful (hostname.takeWhile (· ≠ 0)) (dnsQuery transactionId name) ↔
      ShortName (hostname.takeWhile (· ≠ 0)) := by
  have size := length_dnsEncodeName encoded
  obtain ⟨-, valid, wired⟩ := dnsEncodeName_some encoded
  rw [dnsCopyHostname] at size valid wired
  generalize hostname.takeWhile (· ≠ 0) = text at size valid wired
  constructor
  · intro faithful
    have short := faithful.short
    rw [length_dnsQuery] at short
    have whole : text.take 255 = text := by
      apply List.take_of_length_le
      by_contra long
      rw [List.length_take, Nat.min_eq_left (by omega)] at size
      split at size <;> omega
    rw [whole] at size
    by_cases ends : text.getLast? = some dot
    · rw [if_pos ends] at size
      rcases Nat.lt_or_ge text.length 254 with less | more
      · exact .inl (by omega)
      · exact .inr ⟨by omega, ends⟩
    · rw [if_neg ends] at size
      exact .inl (by omega)
  · intro short
    have bound : text.length ≤ 254 := by
      rcases short with less | ⟨same, -⟩ <;> omega
    rw [List.take_of_length_le (by omega)] at size valid wired
    have fits : name.length ≤ 255 := by
      rcases short with less | ⟨same, ends⟩
      · split at size <;> omega
      · rw [if_pos ends] at size
        omega
    have labels_fit := length_le_wire (labelsOf text)
    refine ⟨?_, valid, ?_⟩
    · have behind : (dnsQuery transactionId name).drop 12 = name ++ [0x00, 0x01, 0x00, 0x01] := by
        rw [dnsQuery, append_assoc _ name, ← length_dnsHeader transactionId, List.drop_left]
      rw [behind, length_dnsQuery, wired]
      exact decode_wire valid (by omega)
    · rw [length_dnsQuery]
      omega

theorem lift_inv {α : Type} {m : StackM α} {r : Except Error α} (run : lift m h = some (r, h')) :
    ∃ net, m h.net = some (r, net) ∧ h' = { h with net := net } := by
  cases inner : m h.net with
  | none =>
    rw [lift, zoom_none inner] at run
    cases run
  | some out =>
    obtain ⟨r', net⟩ := out
    rw [lift, zoom_run inner] at run
    cases run
    exact ⟨net, rfl, rfl⟩

theorem dnsSendQuery_ok (run : dnsSendQuery c env d h = some (.ok (), h')) :
    ∃ name, dnsEncodeName (h.dns d).hostname = some name ∧ h'.dns = h.dns ∧
      udpSendTo c.config env.stack (c.dnsSocket d) (h.dns d).dnsServer dnsServerPort
        (dnsQuery (h.dns d).transactionId name) h.net = some (.ok (), h'.net) := by
  rw [dnsSendQuery, bind_ok _ (read_run _)] at run
  cases encoded : dnsEncodeName (h.dns d).hostname with
  | none =>
    rw [encoded] at run
    cases run
  | some name =>
    rw [encoded] at run
    obtain ⟨_, noted, ran, run⟩ := of_bind_ok run
    cases ran
    obtain ⟨net, sent, rfl⟩ := lift_inv run
    exact ⟨name, rfl, rfl, sent⟩

theorem dnsStart_ok (run : dnsStart c env d hostname h = some (.ok (), h')) :
    ∃ name, dnsEncodeName (dnsCopyHostname hostname) = some name ∧
      Queried c env d h h' (dnsQuery (h'.dns d).transactionId name) := by
  rw [dnsStart, bind_ok _ (read_run _)] at run
  obtain ⟨_, idle, passed, run⟩ := of_bind_ok run
  have same : idle = h := by
    rw [reject] at passed
    split at passed
    · cases passed
    · cases passed
      rfl
  subst same
  cases server : dnsFindServer (id idle).net with
  | none =>
    rw [server] at run
    cases run
  | some dnsServer =>
    rw [server] at run
    obtain ⟨_, updated, ran, run⟩ := of_bind_ok run
    cases ran
    obtain ⟨_, cleared, ran, run⟩ := of_bind_ok run
    obtain ⟨net, ran, rfl⟩ := lift_inv ran
    cases ran
    obtain ⟨_, started, ran, run⟩ := of_bind_ok run
    cases ran
    obtain ⟨_, opened, ran, run⟩ := of_bind_ok run
    obtain ⟨net, opened, rfl⟩ := lift_inv (of_onError_ok ran)
    obtain ⟨name, encoded, contexts, sent⟩ := dnsSendQuery_ok env (of_onError_ok run)
    simp only [Function.update_self] at encoded sent
    refine ⟨name, encoded, net, opened, ?_⟩
    rw [contexts]
    simp only [Function.update_self]
    exact sent

theorem dnsQueryA_ok (run : dnsQueryA c env d hostname h = some (.ok (), h')) :
    ∃ name, dnsEncodeName (dnsCopyHostname hostname) = some name ∧
      Queried c env d h h' (dnsQuery (h'.dns d).transactionId name) := by
  obtain ⟨_, called, noted, rest⟩ := of_bind_ok run
  cases noted
  cases tried : dnsStart c env d hostname { h with events := .called d :: h.events } with
  | none =>
    rw [bind_none _ (by rw [attempt, tried])] at rest
    cases rest
  | some out =>
    obtain ⟨result, ended⟩ := out
    rw [bind_ok _ (attempt_run tried)] at rest
    cases result with
    | ok _ =>
      have started := dnsStart_ok env tried
      cases rest
      exact started
    | error error => cases rest

/-- The host name passes its two buffers without a write outside, and a call that ends well has
sent a query for just this name exactly if the name is short enough. -/
theorem dns_name_faithful_iff (c : HostConfig) (env : HostEnv c) (d : Nat) (hostname : List UInt8) (h : Host) :
    (∃ rest, dnsCopyHostnameInto (List.replicate 256 0) 0 hostname = some (dnsCopyHostname hostname ++ 0 :: rest)) ∧
      (∀ transactionId, (dnsQueryInto transactionId (dnsCopyHostname hostname)).isSome = true) ∧
      ∀ h', dnsQueryA c env d hostname h = some (.ok (), h') →
        ∃ payload, dnsQueryInto (h'.dns d).transactionId (dnsCopyHostname hostname) = some (some payload) ∧
          Queried c env d h h' payload ∧
          (NameFaithful (hostname.takeWhile (· ≠ 0)) payload ↔ ShortName (hostname.takeWhile (· ≠ 0))) := by
  have copied : (dnsCopyHostname hostname).length ≤ 255 := by
    rw [dnsCopyHostname, List.length_take]
    exact Nat.min_le_left _ _
  refine ⟨?_, ?_, ?_⟩
  · have copy := dnsCopyHostnameInto_run [] rfl hostname (Nat.zero_add 256) (Nat.zero_le 255)
    rw [List.nil_append, List.nil_append] at copy
    exact copy
  · intro transactionId
    rw [dnsQueryInto_run transactionId copied]
    rfl
  · intro h' run
    obtain ⟨name, encoded, queried⟩ := dnsQueryA_ok env run
    refine ⟨_, ?_, queried, faithful_iff _ encoded⟩
    rw [dnsQueryInto_run _ copied, encoded]
    rfl

section Sample

theorem dns_name_faithful_short :
    ∃ h' payload, dnsQueryA sampleHostConfig sampleHostEnv 0 [0x61] sampleHost = some (.ok (), h') ∧
      Queried sampleHostConfig sampleHostEnv 0 sampleHost h' payload ∧ NameFaithful [0x61] payload := by
  have accepted : ((dnsQueryA sampleHostConfig sampleHostEnv 0 [0x61] sampleHost).map fun out => out.1.isOk) =
      some true := by
    decide +kernel
  obtain ⟨⟨result, h'⟩, run, fine⟩ := Option.map_eq_some_iff.mp accepted
  cases result with
  | error error => cases fine
  | ok _ =>
    obtain ⟨-, -, sent⟩ := dns_name_faithful_iff sampleHostConfig sampleHostEnv 0 [0x61] sampleHost
    obtain ⟨payload, -, queried, faithful⟩ := sent h' run
    exact ⟨h', payload, run, queried, faithful.mpr (.inl (by decide))⟩

/-- Four labels in 254 bytes. -/
def sampleLongName : List UInt8 :=
  List.replicate 63 0x61 ++ dot ::
    (List.replicate 63 0x61 ++ dot :: (List.replicate 63 0x61 ++ dot :: List.replicate 62 0x61))

/-- Its query is sent with a name of 256 bytes. -/
theorem dns_name_too_long :
    ¬∀ h', dnsQueryA sampleHostConfig sampleHostEnv 0 sampleLongName sampleHost = some (.ok (), h') →
      ∃ payload, dnsQueryInto (h'.dns 0).transactionId (dnsCopyHostname sampleLongName) = some (some payload) ∧
        Queried sampleHostConfig sampleHostEnv 0 sampleHost h' payload ∧
        NameFaithful (sampleLongName.takeWhile (· ≠ 0)) payload := by
  intro promised
  have accepted :
      ((dnsQueryA sampleHostConfig sampleHostEnv 0 sampleLongName sampleHost).map fun out => out.1.isOk) =
        some true := by
    decide +kernel
  obtain ⟨⟨result, h'⟩, run, fine⟩ := Option.map_eq_some_iff.mp accepted
  cases result with
  | error error => cases fine
  | ok _ =>
    obtain ⟨payload, built, -, faithful⟩ := promised h' run
    have size : ((dnsQueryInto (h'.dns 0).transactionId (dnsCopyHostname sampleLongName)).bind
        fun sent => sent.map List.length) = some 272 := by
      obtain ⟨name, encoded, -⟩ := dnsQueryA_ok sampleHostEnv run
      rw [dnsQueryInto_run _ (by decide +kernel), encoded, Option.map_some, Option.bind_some, Option.map_some,
        length_dnsQuery, length_dnsEncodeName encoded]
      decide +kernel
    rw [built, Option.bind_some, Option.map_some] at size
    have short := faithful.short
    rw [Option.some.inj size] at short
    exact absurd short (by decide)

end Sample

end XSDK.Net
