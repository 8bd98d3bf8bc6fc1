import XSDK.Net.Bytes
import XSDK.Net.DnsMessage
import XSDK.Net.DnsName

/-! What a DNS client takes for the answer to its query. -/
namespace XSDK.Net

open Library Prog

variable {c : HostConfig} (env : HostEnv c) {d : Nat} {h h' : Host} {bytes : List UInt8}

/- The callback. -/

/-- The header names the query and says that this is a response. -/
structure Responds (dns : DnsContext) (bytes : List UInt8) : Prop where
  header : 12 ≤ bytes.length
  transactionId : shortAt bytes 0 = dns.transactionId
  response : bytes.getD 2 0 &&& 0x80 ≠ 0

def Asked (bytes : List UInt8) : Prop := questionsOf bytes ≠ 0 ∧ ∃ j, QuestionsAt bytes (questionsOf bytes) 12 j

def Heeded (dns : DnsContext) (bytes : List UInt8) : Prop :=
  Responds dns bytes ∧ (rcodeOf bytes ≠ 0 ∨ Asked bytes)

def dnsResolved (c : HostConfig) (env : HostEnv c) (d : Nat) (resolvedIp : Addr) : HostM Unit := do
  updateDns d fun dns =>
    { dns with isActive := false, state := .success, resolvedIp := resolvedIp, resultStatus := .ok () }
  lift (ignore (udpClose c.config (c.dnsSocket d)))
  dnsReport c env d (some resolvedIp) (.ok ())

/-- The part of the callback behind the check of the response code. -/
def dnsRxSections (c : HostConfig) (env : HostEnv c) (d : Nat) (payload : List UInt8) : HostM Unit := do
  let questions ← peek16 payload 4
  let answers ← peek16 payload 6
  if questions = 0 then pure ()
  else
    let idx ← dnsParseQuestions payload questions 12
    if idx = 0 then pure ()
    else
      match ← dnsParseAnswers payload answers idx with
      | some resolvedIp => dnsResolved c env d resolvedIp
      | none => dnsHandleQueryFailed c env d .notFound

theorem dnsRxCallback_eq (bytes : List UInt8) : dnsRxCallback c env d bytes = (do
    let dns ← read fun h => h.dns d
    if dns.isActive = false then pure ()
    else
      let valid ← dnsValidateRxPacket dns bytes
      if valid = false then pure ()
      else
        let flags ← peek bytes 3
        if flags &&& 0x0F ≠ 0 then
          dnsHandleQueryFailed c env d (if flags &&& 0x0F = 3 then .dnsNameError else .dnsServerError)
        else dnsRxSections c env d bytes) := rfl

theorem dnsValidateRxPacket_reads (dns : DnsContext) (bytes : List UInt8) :
    ∃ valid, Reads (dnsValidateRxPacket dns bytes) valid ∧ (valid = true ↔ Responds dns bytes) := by
  rw [dnsValidateRxPacket]
  by_cases short : bytes.length < 12
  · rw [if_pos short]
    exact ⟨false, .pure _, fun wrong => (nomatch wrong), fun responds => absurd responds.header (by omega)⟩
  · rw [if_neg short]
    by_cases other : shortAt bytes 0 ≠ dns.transactionId
    · refine ⟨false, (peek16_reads bytes 0).bind ?_, fun wrong => (nomatch wrong), fun responds => ?_⟩
      · rw [if_pos other]
        exact .pure _
      · exact absurd responds.transactionId other
    · refine ⟨decide (bytes.getD 2 0 &&& 0x80 ≠ 0), (peek16_reads bytes 0).bind ?_, fun response => ?_,
        fun responds => ?_⟩
      · rw [if_neg other]
        exact (peek_reads bytes 2).bind (.pure _)
      · exact ⟨Nat.le_of_not_lt short, not_ne_iff.mp other, of_decide_eq_true response⟩
      · exact decide_eq_true responds.response

section Small

variable (small : bytes.length < 65536)
include small

theorem dnsRxSections_run :
    (¬Asked bytes ∧ Reads (dnsRxSections c env d bytes) ()) ∨
      Asked bytes ∧ ∃ t,
        ((∀ r, ¬Answered Record.HasAddress bytes r) ∧ ∃ error,
          dnsRxSections c env d bytes h = dnsHandleQueryFailed c env d error { h with touched := t }) ∨
        ∃ r, Answered Record.HasAddress bytes r ∧
          dnsRxSections c env d bytes h = dnsResolved c env d (addressOf bytes r) { h with touched := t } := by
  have questions_read : Reads (peek16 bytes 4) (questionsOf bytes) := peek16_reads bytes 4
  have answers_read : Reads (peek16 bytes 6) (answersOf bytes) := peek16_reads bytes 6
  by_cases no_question : questionsOf bytes = 0
  · refine .inl ⟨fun asked => asked.1 no_question, ?_⟩
    refine questions_read.bind (answers_read.bind ?_)
    rw [if_pos no_question]
    exact .pure ()
  · rcases @dnsParseQuestions_reads bytes 12 (questionsOf bytes) small (by decide) with
      ⟨j, questions, walked, pos⟩ | ⟨none, walked⟩
    · refine .inr ⟨⟨no_question, j, questions⟩, ?_⟩
      obtain ⟨t, asked⟩ := questions_read h
      obtain ⟨t, answered⟩ := answers_read { h with touched := t }
      obtain ⟨t, walked⟩ := walked { h with touched := t }
      rw [dnsRxSections, bind_ok _ asked, bind_ok _ answered, if_neg no_question, bind_ok _ walked,
        if_neg (Nat.ne_of_gt pos)]
      rcases @dnsParseAnswers_reads bytes j (answersOf bytes) small with ⟨r, first, parsed⟩ | ⟨none, parsed⟩
      · obtain ⟨t, parsed⟩ := parsed { h with touched := t }
        rw [bind_ok _ parsed]
        exact ⟨t, .inr ⟨r, ⟨j, questions, first⟩, rfl⟩⟩
      · obtain ⟨t, parsed⟩ := parsed { h with touched := t }
        rw [bind_ok _ parsed]
        refine ⟨t, .inl ⟨fun r answered => ?_, .notFound, rfl⟩⟩
        obtain ⟨j', questions', first⟩ := answered
        cases questions.unique questions'
        exact none r first
    · refine .inl ⟨fun ⟨_, j, questions⟩ => none j questions, ?_⟩
      refine questions_read.bind (answers_read.bind ?_)
      rw [if_neg no_question]
      refine walked.bind ?_
      rw [if_pos rfl]
      exact .pure ()

theorem dnsRxCallback_run (active : (h.dns d).isActive = true) :
    (¬Heeded (h.dns d) bytes ∧ ∃ t, dnsRxCallback c env d bytes h = some (.ok (), { h with touched := t })) ∨
      Heeded (h.dns d) bytes ∧ ∃ t,
        ((rcodeOf bytes = 0 → ∀ r, ¬Answered Record.HasAddress bytes r) ∧ ∃ error,
          dnsRxCallback c env d bytes h = dnsHandleQueryFailed c env d error { h with touched := t }) ∨
        rcodeOf bytes = 0 ∧ ∃ r, Answered Record.HasAddress bytes r ∧
          dnsRxCallback c env d bytes h = dnsResolved c env d (addressOf bytes r) { h with touched := t } := by
  obtain ⟨valid, validates, responds⟩ := dnsValidateRxPacket_reads (h.dns d) bytes
  obtain ⟨t, validated⟩ := validates h
  rw [dnsRxCallback_eq, bind_ok _ (read_run _), if_neg (by rw [active]; decide), bind_ok _ validated]
  cases valid with
  | false => exact .inl ⟨fun heeded => absurd (responds.mpr heeded.1) (by decide), t, rfl⟩
  | true =>
    have responds := responds.mp rfl
    obtain ⟨t, peeked⟩ := peek_reads bytes 3 { h with touched := t }
    rw [if_neg (by decide), bind_ok _ peeked]
    by_cases failed : bytes.getD 3 0 &&& 0x0F ≠ 0
    · rw [if_pos failed]
      exact .inr ⟨⟨responds, .inl failed⟩, t, .inl ⟨fun fine => absurd fine failed, _, rfl⟩⟩
    · rw [if_neg failed]
      rcases @dnsRxSections_run c env d { h with touched := t } bytes small with
        ⟨not_asked, ignored⟩ | ⟨asked, ended⟩
      · obtain ⟨t, run⟩ := ignored { h with touched := t }
        refine .inl ⟨fun heeded => ?_, t, run⟩
        rcases heeded.2 with error | asked
        · exact failed error
        · exact not_asked asked
      · obtain ⟨t, ended⟩ := ended
        refine .inr ⟨⟨responds, .inr asked⟩, t, ?_⟩
        rcases ended with ⟨unanswered, run⟩ | found
        · exact .inl ⟨fun _ => unanswered, run⟩
        · exact .inr ⟨not_ne_iff.mp failed, found⟩

end Small

/- The end of a query. -/

def Event.Quiet : Event → Prop
  | .reported .. => False
  | _ => True

/-- After the report no further query is ended, and a success that is left shows a good address. -/
def Told (base : List Event) (good : Addr → Prop) (d : Nat) (h : Host) : Prop :=
  (∃ later, h.events = later ++ base ∧ ∀ event ∈ later, event.Quiet) ∧
    ((h.dns d).isActive = false → (h.dns d).state = .success → good (h.dns d).resolvedIp)

section Report

variable {base : List Event} {good : Addr → Prop}

theorem note_told {event : Event} (quiet : event.Quiet) : Keeps (Told base good d) (note event) := by
  refine .modify fun h told => ⟨?_, told.2⟩
  obtain ⟨later, events, all⟩ := told.1
  refine ⟨event :: later, congrArg (event :: ·) events, fun other mem => ?_⟩
  rcases List.mem_cons.mp mem with rfl | mem
  · exact quiet
  · exact all other mem

theorem lift_told {α : Type} {m : StackM α} : Keeps (Told base good d) (lift m) := by
  intro h told r h' run
  obtain ⟨net, -, rfl⟩ := lift_inv run
  cases r with
  | ok _ => exact told
  | error _ => exact told

theorem updateDns_told {e : Nat} {f : DnsContext → DnsContext}
    (unfinished : ∀ dns, (f dns).isActive = true ∨ (f dns).state ≠ .success) :
    Keeps (Told base good d) (updateDns e f) := by
  refine .modify fun h told => ⟨told.1, ?_⟩
  by_cases same : d = e
  · subst same
    intro idle success
    simp only [Function.update_self] at idle success
    rcases unfinished (h.dns d) with active | other
    · rw [active] at idle
      cases idle
    · exact absurd success other
  · simp only [Function.update_of_ne same]
    exact told.2

theorem dnsSendQuery_told {e : Nat} : Keeps (Told base good d) (dnsSendQuery c env e) := by
  refine .bind .read fun dns => ?_
  split
  · exact .fail
  · exact .bind (note_told trivial) fun _ => lift_told

theorem dnsStart_told {e : Nat} {hostname : List UInt8} : Keeps (Told base good d) (dnsStart c env e hostname) := by
  have failed : Keeps (Told base good d) (updateDns e fun dns => { dns with isActive := false, state := .failed }) :=
    updateDns_told fun _ => .inr nofun
  refine .bind .read fun h => .bind .reject fun _ => ?_
  split
  · exact .fail
  · refine .bind (updateDns_told fun _ => .inl rfl) fun _ => ?_
    refine .bind lift_told fun _ => .bind (note_told trivial) fun _ => ?_
    refine .bind (.onError lift_told failed) fun _ => ?_
    exact .onError (dnsSendQuery_told env) (.bind failed fun _ => lift_told)

theorem dnsQueryA_told {e : Nat} {hostname : List UInt8} : Keeps (Told base good d) (dnsQueryA c env e hostname) := by
  refine .bind (note_told trivial) fun _ => .bind (.attempt (dnsStart_told env)) fun result => ?_
  cases result with
  | ok _ => exact note_told trivial
  | error error => exact .bind (note_told trivial) fun _ => .fail

theorem runCallback_told (callback : Callback c.dnsContexts) :
    Keeps (Told base good d) (runCallback c env callback) := by
  induction callback with
  | done => exact .pure
  | query e hostname next ih => exact .bind (.attempt (dnsQueryA_told env)) fun result => ih result

theorem dnsReport_told {ipAddr : Option Addr} {result r : Except Error Unit}
    (fine : (h.dns d).isActive = false → (h.dns d).state = .success → good (h.dns d).resolvedIp)
    (run : dnsReport c env d ipAddr result h = some (r, h')) :
    Told (.reported d (h.dns d).hostname ipAddr result :: h.events) good d h' ∨ h' = h := by
  rw [dnsReport, bind_ok _ (read_run _)] at run
  by_cases callback : (h.dns d).hasCallback = true
  · have noted : note (.reported d (h.dns d).hostname ipAddr result) h =
        some (.ok (), { h with events := .reported d (h.dns d).hostname ipAddr result :: h.events }) := rfl
    rw [if_pos callback, bind_ok _ noted, bind_ok _ (read_run _)] at run
    have told : Told (.reported d (h.dns d).hostname ipAddr result :: h.events) good d
        { h with events := .reported d (h.dns d).hostname ipAddr result :: h.events } :=
      ⟨⟨[], rfl, fun _ mem => absurd mem List.not_mem_nil⟩, fine⟩
    exact .inl ((runCallback_told env _).always told run)
  · rw [if_neg callback] at run
    cases run
    exact .inr rfl

theorem ended_told {f : DnsContext → DnsContext} {ipAddr : Option Addr} {result r : Except Error Unit}
    (fine : (f (h.dns d)).state = .success → good (f (h.dns d)).resolvedIp)
    (run : (do
      updateDns d f
      lift (ignore (udpClose c.config (c.dnsSocket d)))
      dnsReport c env d ipAddr result : HostM Unit) h = some (r, h')) :
    (∃ hostname, Told (.reported d hostname ipAddr result :: h.events) good d h') ∨
      h'.events = h.events ∧ h'.dns d = f (h.dns d) := by
  have updated : updateDns d f h = some (.ok (), { h with dns := Function.update h.dns d (f (h.dns d)) }) := rfl
  rw [bind_ok _ updated] at run
  cases closed : lift (ignore (udpClose c.config (c.dnsSocket d)))
      { h with dns := Function.update h.dns d (f (h.dns d)) } with
  | none =>
    rw [bind_none _ closed] at run
    cases run
  | some out =>
    obtain ⟨ended, h₁⟩ := out
    obtain ⟨net, inner, rfl⟩ := lift_inv closed
    have well : ended = .ok () := by
      cases ran : udpClose c.config (c.dnsSocket d) h.net with
      | none =>
        rw [ignore, bind_none _ (by rw [attempt, ran])] at inner
        cases inner
      | some out =>
        rw [ignore_run ran] at inner
        cases inner
        rfl
    subst well
    rw [bind_ok _ closed] at run
    have fine_then : (Function.update h.dns d (f (h.dns d)) d).isActive = false →
        (Function.update h.dns d (f (h.dns d)) d).state = .success →
        good (Function.update h.dns d (f (h.dns d)) d).resolvedIp := by
      rw [Function.update_self]
      exact fun _ => fine
    rcases dnsReport_told env fine_then run with told | rfl
    · exact .inl ⟨_, told⟩
    · exact .inr ⟨rfl, Function.update_self ..⟩

theorem Told.reported {hostname hostname' : List UInt8} {ipAddr : Option Addr} {ipAddr' : Addr}
    {result result' : Except Error Unit} {later : List Event}
    (told : Told (.reported d hostname ipAddr result :: base) good d h) (events : h.events = later ++ base)
    (mem : .reported d hostname' (some ipAddr') result' ∈ later) : ipAddr = some ipAddr' := by
  obtain ⟨⟨after, split, quiet⟩, -⟩ := told
  have lists : later ++ base = after ++ [.reported d hostname ipAddr result] ++ base := by
    rw [← events, split, List.append_assoc]
    rfl
  have same := List.append_cancel_right lists
  rw [same, List.mem_append, List.mem_singleton] at mem
  rcases mem with mem | event
  · exact (quiet _ mem).elim
  · cases event
    rfl

theorem Told.grown {event : Event} (told : Told (event :: base) good d h) : h.events ≠ base := by
  obtain ⟨⟨after, split, -⟩, -⟩ := told
  intro same
  have length := congrArg List.length (same.symm.trans split)
  rw [List.length_append, List.length_cons] at length
  omega

end Report

/-- The datagram comes from the server that was asked and answers the question that was sent. -/
structure Genuine (dns : DnsContext) (datagram : Datagram) : Prop where
  server : datagram.remoteAddr = dns.dnsServer
  port : datagram.remotePort = dnsServerPort
  responds : Responds dns datagram.payload
  one : questionsOf datagram.payload = 1
  question : ∃ name, dnsEncodeName dns.hostname = some name ∧
    name ++ [0x00, 0x01, 0x00, 0x01] <+: datagram.payload.drop 12

/-- Only a genuine datagram ends the query, and with an address only with the first one. -/
structure Authentic (d : Nat) (datagram : Datagram) (h h' : Host) : Prop where
  pending : ¬Genuine (h.dns d) datagram → h'.net = h.net ∧ h'.dns = h.dns ∧ h'.events = h.events
  reported : ∀ later hostname ipAddr result, h'.events = later ++ h.events →
    .reported d hostname (some ipAddr) result ∈ later → FirstAddress datagram.payload ipAddr
  resolved : (h'.dns d).isActive = false → (h'.dns d).state = .success →
    FirstAddress datagram.payload (h'.dns d).resolvedIp

/-- The callback of a client's socket. It does not look at where the datagram comes from. -/
def dnsReceive (c : HostConfig) (env : HostEnv c) (d : Nat) (datagram : Datagram) : HostM Unit :=
  dnsRxCallback c env d datagram.payload

/-- No A record without an address stands before the first that has one. -/
def Straight (bytes : List UInt8) : Prop :=
  ∀ r, Answered Record.HasAddress bytes r → Answered Record.IsA bytes r

theorem straight_iff {r : Record} (answered : Answered Record.HasAddress bytes r) :
    FirstAddress bytes (addressOf bytes r) ↔ Straight bytes := by
  constructor
  · rintro ⟨r', ⟨j, questions, first⟩, size, -⟩ r₁ answered₁
    have same := answered₁.unique ⟨j, questions, first.hasAddress size⟩
    rw [same]
    exact ⟨j, questions, first⟩
  · intro straight
    obtain ⟨j, questions, first⟩ := answered
    exact ⟨r, straight r ⟨j, questions, first⟩, first.kind.2.2, rfl⟩

/-- What the end of a query leaves shows the datagram as authentic exactly if the datagram is
genuine and an address in it the first one. -/
theorem authentic_of_ended {datagram : Datagram} {f : DnsContext → DnsContext} {ipAddr : Option Addr}
    {result r : Except Error Unit} {t : List Touch} (active : (h.dns d).isActive = true)
    (idle : ∀ dns, (f dns).isActive = false) (success : (f (h.dns d)).state = .success ↔ ipAddr.isSome = true)
    (shown : ∀ ip, ipAddr = some ip → (f (h.dns d)).resolvedIp = ip)
    (run : (do
      updateDns d f
      lift (ignore (udpClose c.config (c.dnsSocket d)))
      dnsReport c env d ipAddr result : HostM Unit) { h with touched := t } = some (r, h')) :
    Authentic d datagram h h' ↔
      Genuine (h.dns d) datagram ∧ ∀ ip, ipAddr = some ip → FirstAddress datagram.payload ip := by
  have ended := fun good fine => @ended_told c env d { h with touched := t } h' good f ipAddr result r fine run
  constructor
  · intro authentic
    refine ⟨?_, ?_⟩
    · by_contra forged
      obtain ⟨-, contexts, events⟩ := authentic.pending forged
      rcases ended (fun _ => True) fun _ => trivial with ⟨hostname, told⟩ | ⟨-, context⟩
      · exact told.grown events
      · rw [contexts] at context
        rw [context, idle] at active
        cases active
    · rintro ip rfl
      rcases ended (fun _ => True) fun _ => trivial with ⟨hostname, told⟩ | ⟨-, context⟩
      · obtain ⟨⟨after, split, -⟩, -⟩ := told
        refine authentic.reported (after ++ [.reported d hostname (some ip) result]) hostname ip result ?_ ?_
        · rw [split, List.append_assoc]
          rfl
        · exact List.mem_append_right _ List.mem_cons_self
      · have resolved := authentic.resolved
        rw [context, shown ip rfl] at resolved
        exact resolved (idle _) (success.mpr rfl)
  · rintro ⟨genuine, first⟩
    have fine : (f (h.dns d)).state = .success → FirstAddress datagram.payload (f (h.dns d)).resolvedIp := by
      intro succeeded
      obtain ⟨ip, some_ip⟩ := Option.isSome_iff_exists.mp (success.mp succeeded)
      rw [shown ip some_ip]
      exact first ip some_ip
    refine ⟨fun forged => absurd genuine forged, ?_, ?_⟩
    · intro later hostname ip result' events mem
      rcases ended _ fine with ⟨hostname, told⟩ | ⟨same, -⟩
      · exact first ip (told.reported events mem)
      · have nothing : later ++ h.events = [] ++ h.events := events.symm.trans same
        rw [List.append_cancel_right nothing] at mem
        exact absurd mem List.not_mem_nil
    · intro stopped succeeded
      rcases ended _ fine with ⟨hostname, told⟩ | ⟨-, context⟩
      · exact told.2 stopped succeeded
      · rw [context] at succeeded ⊢
        exact fine succeeded

/-- A datagram that a client does not heed changes nothing, and one that it heeds ends the query:
that is right exactly for the genuine ones in which no broken A record comes first. -/
theorem dns_answer_authentic_iff (c : HostConfig) (env : HostEnv c) (d : Nat) (datagram : Datagram) (h h' : Host)
    (r : Except Error Unit) (active : (h.dns d).isActive = true) (small : datagram.payload.length < 65536)
    (ran : dnsReceive c env d datagram h = some (r, h')) :
    Authentic d datagram h h' ↔
      (Heeded (h.dns d) datagram.payload → Genuine (h.dns d) datagram ∧
        (rcodeOf datagram.payload = 0 → Straight datagram.payload)) := by
  rw [dnsReceive] at ran
  rcases @dnsRxCallback_run c env d h datagram.payload small active with ⟨ignored, t, run⟩ | ⟨heeded, t, ended⟩
  · rw [run] at ran
    cases ran
    refine ⟨fun _ heeded => absurd heeded ignored, fun _ => ⟨fun _ => ⟨rfl, rfl, rfl⟩, ?_, ?_⟩⟩
    · intro later hostname ipAddr result events mem
      have nothing : [] ++ h.events = later ++ h.events := events
      rw [← List.append_cancel_right nothing] at mem
      exact absurd mem List.not_mem_nil
    · intro stopped
      rw [active] at stopped
      cases stopped
  · rcases ended with ⟨unanswered, error, run⟩ | ⟨fine, r, answered, run⟩
    · rw [run, dnsHandleQueryFailed] at ran
      have shape := @authentic_of_ended c env d h h' datagram _ none (.error error) _ t active (fun _ => rfl)
        (iff_of_false (fun wrong => by cases wrong) (fun wrong => by cases wrong)) (fun _ wrong => by cases wrong) ran
      rw [shape]
      constructor
      · rintro ⟨genuine, -⟩ -
        exact ⟨genuine, fun fine r answered => absurd answered (unanswered fine r)⟩
      · exact fun right => ⟨(right heeded).1, fun _ wrong => by cases wrong⟩
    · rw [run, dnsResolved] at ran
      have shape := @authentic_of_ended c env d h h' datagram _
        (some (addressOf datagram.payload r)) (.ok ()) _ t active
        (fun _ => rfl) ⟨fun _ => rfl, fun _ => rfl⟩ (fun _ same => Option.some.inj same) ran
      rw [shape]
      constructor
      · rintro ⟨genuine, first⟩ -
        exact ⟨genuine, fun _ => (straight_iff answered).mp (first _ rfl)⟩
      · intro right
        obtain ⟨genuine, straight⟩ := right heeded
        refine ⟨genuine, fun ip same => ?_⟩
        rw [← Option.some.inj same]
        exact (straight_iff answered).mpr (straight fine)

section Sample

def samplePending : Host :=
  ((dnsQueryA sampleHostConfig sampleHostEnv 0 [0x61] sampleHost).map Prod.snd).getD sampleHost

/-- A response to it with one A record, for 10.0.0.7. -/
def sampleResponse : List UInt8 :=
  [0x5C, 0x00, 0x81, 0x80, 0, 1, 0, 1, 0, 0, 0, 0] ++ [1, 0x61, 0, 0, 1, 0, 1] ++
    [0xC0, 0x0C, 0, 1, 0, 1, 0, 0, 1, 0x2C, 0, 4, 10, 0, 0, 7]

def sampleAnswer : Datagram := ⟨sampleHostConfig.dnsSocket 0, ![192, 168, 1, 1], 53, sampleResponse⟩

def sampleForged : Datagram := ⟨sampleHostConfig.dnsSocket 0, ![10, 0, 0, 66], 4000, sampleResponse⟩

theorem sampleResponse_straight : Straight sampleResponse := by
  have name : NameEnds sampleResponse 12 15 :=
    ⟨1, by decide, .label (by decide) (by decide) (by decide) (.root (by decide) (by decide))⟩
  have questions : QuestionsAt sampleResponse 1 12 19 := .next name (by decide) .done
  have record : RecordAt sampleResponse 19 ⟨1, 1, 31, 4⟩ :=
    ⟨⟨21, ⟨0, by decide, .pointer (by decide) (by decide)⟩, rfl⟩, by decide⟩
  intro r answered
  rw [answered.unique ⟨19, questions, .here record ⟨rfl, rfl, rfl⟩⟩]
  exact ⟨19, questions, .here record ⟨rfl, rfl⟩⟩

theorem dns_answer_authentic_sample :
    ∃ r h', dnsReceive sampleHostConfig sampleHostEnv 0 sampleAnswer samplePending = some (r, h') ∧
      Authentic 0 sampleAnswer samplePending h' := by
  have answered : (dnsReceive sampleHostConfig sampleHostEnv 0 sampleAnswer samplePending).isSome =
      true := by decide +kernel
  obtain ⟨⟨r, h'⟩, ran⟩ := Option.isSome_iff_exists.mp answered
  have right := dns_answer_authentic_iff sampleHostConfig sampleHostEnv 0 sampleAnswer samplePending h' r
    (by decide +kernel) (by decide +kernel) ran
  refine ⟨r, h', ran, right.mpr fun _ => ⟨?_, fun _ => sampleResponse_straight⟩⟩
  exact
    { server := by decide +kernel
      port := rfl
      responds := ⟨by decide, by decide +kernel, by decide⟩
      one := by decide
      question := ⟨[1, 0x61, 0], by decide +kernel, by decide⟩ }

/-- The same bytes from another host and port end the query just as well. -/
theorem dns_answer_forged :
    ¬∀ r h', dnsReceive sampleHostConfig sampleHostEnv 0 sampleForged samplePending = some (r, h') →
      Authentic 0 sampleForged samplePending h' := by
  intro promised
  have answered : (dnsReceive sampleHostConfig sampleHostEnv 0 sampleForged samplePending).isSome =
      true := by decide +kernel
  obtain ⟨⟨r, h'⟩, ran⟩ := Option.isSome_iff_exists.mp answered
  have forged : ¬Genuine (samplePending.dns 0) sampleForged := by
    intro genuine
    have port := genuine.port
    cases port
  obtain ⟨-, -, events⟩ := (promised r h' ran).pending forged
  have grown : ((dnsReceive sampleHostConfig sampleHostEnv 0 sampleForged samplePending).map fun out => out.2.events.length) =
      some (samplePending.events.length + 1) := by
    decide +kernel
  rw [ran, Option.map_some, events] at grown
  exact absurd (Option.some.inj grown) (Nat.ne_of_lt (Nat.lt_succ_self _))

end Sample

end XSDK.Net
