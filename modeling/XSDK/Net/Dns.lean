import XSDK.Net.Host

/-! The DNS client: the query it sends, what it takes from a response, and its timer. -/
namespace XSDK.Net

open Library Prog

variable (c : HostConfig) (env : HostEnv c)

/- The name in a query. -/

/-- The next label with its length, and what follows its dot. -/
def dnsEncodeStep (hostname : List UInt8) : Option (List UInt8 × List UInt8) :=
  let label := hostname.takeWhile (· ≠ 0x2E)
  if label.length = 0 ∨ 63 < label.length then none
  else some (UInt8.ofNat label.length :: label, (hostname.drop label.length).drop 1)

def dnsEncodeLabels : Nat → List UInt8 → Option (List UInt8)
  | _, [] => some [0]
  | 0, _ :: _ => none
  | fuel + 1, hostname =>
    match dnsEncodeStep hostname with
    | none => none
    | some (label, rest) => (dnsEncodeLabels fuel rest).map (label ++ ·)

def dnsEncodeName (hostname : List UInt8) : Option (List UInt8) :=
  if hostname = [] then none else dnsEncodeLabels hostname.length hostname

def dnsServerPort : Nat := 53

def dnsQuery (transactionId : Nat) (name : List UInt8) : List UInt8 :=
  be16Bytes transactionId ++ [0x01, 0x00, 0x00, 0x01] ++ List.replicate 6 0 ++ name ++ [0x00, 0x01, 0x00, 0x01]

variable (d : Nat)

def dnsSendQuery : HostM Unit := do
  let dns ← read fun h => h.dns d
  match dnsEncodeName dns.hostname with
  | none => fail .invalidArgument
  | some name =>
    note (.sent d)
    lift (udpSendTo c.config env.stack (c.dnsSocket d) dns.dnsServer dnsServerPort (dnsQuery dns.transactionId name))

/-- The first interface with an address that knows a name server. -/
def dnsFindServer (net : Stack) : Option Addr :=
  ((List.range net.interfaceCount).find? fun i =>
    decide ((net.interfaces i).ipAddr ≠ zeroAddr ∧ (net.interfaces i).dnsPrimary ≠ zeroAddr)).map
    fun i => (net.interfaces i).dnsPrimary

def dnsCopyHostname (src : List UInt8) : List UInt8 := (src.takeWhile (· ≠ 0)).take 255

def dnsStart (hostname : List UInt8) : HostM Unit := do
  let h ← read id
  reject ((h.dns d).isActive = true) .dnsBusy
  match dnsFindServer h.net with
  | none => fail .dnsNoServer
  | some dnsServer =>
    -- clearing the context clears the socket inside it
    updateDns d fun _ =>
      { DnsContext.zero with
        state := .querying, isActive := true, hasCallback := true, dnsServer := dnsServer,
        currentRetryTimeout := c.dnsRetryTimeoutMs, transactionId := u16 (0x1A2B5C00 + h.net.systemTicks),
        hostname := dnsCopyHostname hostname }
    lift (updateSocket (c.dnsSocket d) fun _ => UdpContext.zero)
    note (.started d)
    let failed := updateDns d fun dns => { dns with isActive := false, state := .failed }
    onError (lift (udpOpen c.config (c.dnsSocket d) 0)) failed
    onError (dnsSendQuery c env d) (do
      failed
      lift (ignore (udpClose c.config (c.dnsSocket d))))

def dnsQueryA (hostname : List UInt8) : HostM Unit := do
  note (.called d)
  let result ← attempt (dnsStart c env d hostname)
  match result with
  | .ok _ => note (.accepted d)
  | .error error => do
    note (.refused d error)
    fail error

/- The end of a query. -/

/-- The application's callback, with whatever it queries in its turn. -/
def runCallback : Callback c.dnsContexts → HostM Unit
  | .done => pure ()
  | .query d hostname next => do
    let result ← attempt (dnsQueryA c env d hostname)
    runCallback (next result)

def dnsReport (ipAddr : Option Addr) (result : Except Error Unit) : HostM Unit := do
  let dns ← read fun h => h.dns d
  if dns.hasCallback then
    note (.reported d dns.hostname ipAddr result)
    let events ← read Host.events
    runCallback c env (env.onResult events)
  else pure ()

def dnsHandleQueryFailed (error : Error) : HostM Unit := do
  updateDns d fun dns => { dns with isActive := false, state := .failed, resultStatus := .error error }
  lift (ignore (udpClose c.config (c.dnsSocket d)))
  dnsReport c env d none (.error error)

/- The response. -/

/-- The offset past a name, or zero. A name of more labels than are left is given up. -/
def dnsSkipName (payload : List UInt8) : Nat → Nat → HostM Nat
  | 0, _ => return 0
  | left + 1, curr => do
    if payload.length ≤ curr then return 0
    else
      let len ← peek payload curr
      if len = 0 then offset (curr + 1)
      else if len &&& 0xC0 = 0xC0 then
        let past ← offset (curr + 2)
        if payload.length < past then return 0 else return past
      else
        let next ← offset (curr + 1 + len.toNat)
        if payload.length < next then return 0 else dnsSkipName payload left next

/-- A name may have 128 labels, and the one that is too many is passed before it is counted. -/
def dnsLabels : Nat := 129

def dnsParseQuestions (payload : List UInt8) : Nat → Nat → HostM Nat
  | 0, idx => return idx
  | questions + 1, idx => do
    let curr ← dnsSkipName payload dnsLabels idx
    if curr = 0 then return 0
    else
      let past ← offset (curr + 4)
      if payload.length < past then return 0 else dnsParseQuestions payload questions past

def dnsParseAnswers (payload : List UInt8) : Nat → Nat → HostM (Option Addr)
  | 0, _ => return none
  | answers + 1, idx => do
    let curr ← dnsSkipName payload dnsLabels idx
    if curr = 0 then return none
    else
      let past ← offset (curr + 10)
      if payload.length < past then return none
      else
        let type ← peek16 payload curr
        let cls ← peek16 payload (curr + 2)
        let rdlength ← peek16 payload (curr + 8)
        let stop ← offset (past + rdlength)
        if payload.length < stop then return none
        else if type = 1 ∧ cls = 1 ∧ rdlength = 4 then
          let resolvedIp ← peekAddr payload past
          return some resolvedIp
        else dnsParseAnswers payload answers stop

def dnsValidateRxPacket (dns : DnsContext) (payload : List UInt8) : HostM Bool := do
  if payload.length < 12 then return false
  else
    let id ← peek16 payload 0
    if id ≠ dns.transactionId then return false
    else
      let flags ← peek payload 2
      return decide (flags &&& 0x80 ≠ 0)

def dnsRxCallback (payload : List UInt8) : HostM Unit := do
  let dns ← read fun h => h.dns d
  if dns.isActive = false then pure ()
  else
    let valid ← dnsValidateRxPacket dns payload
    if valid = false then pure ()
    else
      let flags ← peek payload 3
      let rcode := flags &&& 0x0F
      if rcode ≠ 0 then dnsHandleQueryFailed c env d (if rcode = 3 then .dnsNameError else .dnsServerError)
      else
        let questions ← peek16 payload 4
        let answers ← peek16 payload 6
        if questions = 0 then pure ()
        else
          let idx ← dnsParseQuestions payload questions 12
          if idx = 0 then pure ()
          else
            match ← dnsParseAnswers payload answers idx with
            | some resolvedIp =>
              updateDns d fun dns =>
                { dns with isActive := false, state := .success, resolvedIp := resolvedIp, resultStatus := .ok () }
              lift (ignore (udpClose c.config (c.dnsSocket d)))
              dnsReport c env d (some resolvedIp) (.ok ())
            | none => dnsHandleQueryFailed c env d .notFound

def dnsTick (d elapsedMs : Nat) : HostM Unit := do
  let dns ← read fun h => h.dns d
  if dns.isActive = false then pure ()
  else
    let elapsed := u32 (dns.retryElapsedMs + elapsedMs)
    if dns.currentRetryTimeout ≤ elapsed then
      updateDns d fun dns => { dns with retryElapsedMs := 0 }
      if dns.retryCount < c.dnsMaxRetries then
        updateDns d fun dns =>
          { dns with
            retryCount := (dns.retryCount + 1) % 256, currentRetryTimeout := u32 (dns.currentRetryTimeout * 2) }
        ignore (dnsSendQuery c env d)
      else dnsHandleQueryFailed c env d .timeout
    else updateDns d fun dns => { dns with retryElapsedMs := elapsed }

end XSDK.Net
