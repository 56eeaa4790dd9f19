import SentryWms.Network.Addresses
import SentryWms.Webhooks.Dispatch

/-!
# The HTTP client of the dispatcher

Before a request the guard looks up the host of the URL and refuses the internal
addresses; the HTTP library then looks up the host again, by its own reading of the URL,
and connects to the first address that accepts.
-/

namespace SentryWms.Webhooks

open Network Relational

/-! ## The guard -/

/-- `_IMDS_V6_NET`. -/
def imdsV6Net : Prefix 128 := ⟨groups 0xFD00 0xEC2, 32⟩

/-- `_is_disallowed_address`; what is not an address is refused. -/
def isDisallowedAddress : AddrInfo → Bool
  | .foreign => true
  | .ip address =>
      if address.isPrivate || address.isLoopback || address.isLinkLocal ||
          address.isUnspecified || address.isMulticast || address.isReserved then true
      else
        match address with
        | .v6 value => imdsV6Net.contains value
        | .v4 _ => false

/-- `SsrfRejected`. -/
inductive SsrfRejected
  | noHost
  | resolutionFailed
  | noUsableAddress
  | disallowed (rejected : List AddrInfo)
  deriving DecidableEq, Repr

/-- What the guard raises: `SsrfRejected`, or an error of the URL's or the resolver's
making. -/
inductive GuardError
  | ssrf (reason : SsrfRejected)
  | other
  deriving DecidableEq, Repr

/-- How the host is read off a URL: `urlparse(url).hostname`, which raises on a malformed
one, and the host that the HTTP library looks up. -/
structure UrlReading (Url : Type) where
  hostname : Url → Except Unit (Option String)
  libraryHost : Url → Option String

variable {Url : Type} (urls : UrlReading Url)

/-- `resolve_url_addresses`. -/
def resolveUrlAddresses (lookup : String → Answer) (url : Url) :
    Except GuardError (List AddrInfo) :=
  match urls.hostname url with
  | .error () => .error .other
  | .ok none => .error (.ssrf .noHost)
  | .ok (some host) =>
      if host = "" then .error (.ssrf .noHost)
      else
        match lookup host with
        | .gaierror => .error (.ssrf .resolutionFailed)
        | .raises => .error .other
        | .found infos =>
            match (infos.filter fun info => info ≠ .foreign).eraseDups with
            | [] => .error (.ssrf .noUsableAddress)
            | addrs => .ok addrs

/-- `assert_url_safe`. -/
def assertUrlSafe (allowInternal : Bool) (lookup : String → Answer) (url : Url) :
    Except GuardError (List AddrInfo) :=
  if allowInternal then .ok []
  else do
    let addrs ← resolveUrlAddresses urls lookup url
    match addrs.filter isDisallowedAddress with
    | [] => .ok addrs
    | rejected => .error (.ssrf (.disallowed rejected))

/-! ## The request -/

/-- The exceptions of the HTTP library that are told apart. -/
inductive RequestsError
  | ssl
  | timeout
  | tooManyRedirects
  | connection
  | other
  deriving DecidableEq, Repr

/-- What the world outside does during a call: the answers to the two lookups, whether the
session still has a connection to the host, which addresses accept one, how the exchange
ends (with a status and an advertised length), and whether the wall clock runs out. -/
structure Exchange where
  guardLookup : String → Answer
  libraryLookup : String → Answer
  pooled : Bool
  accepts : AddrInfo → Bool
  outcome : Except RequestsError (ℕ × ℕ)
  late : Bool

/-- `session.post`: the connection it opens, and how it ends. -/
def sessionPost (exchange : Exchange) (url : Url) :
    Option AddrInfo × Except RequestsError (ℕ × ℕ) :=
  match urls.libraryHost url with
  | none => (none, .error .other)
  | some host =>
      if exchange.pooled then (none, exchange.outcome)
      else
        match (exchange.libraryLookup host).connect exchange.accepts with
        | none => (none, .error .connection)
        | some info => (some info, exchange.outcome)

/-- `get_short_message`. -/
def shortMessage (errorKind : String) : String :=
  match errorKind with
  | "timeout" => "Consumer endpoint did not respond in time"
  | "connection" => "Could not connect to consumer endpoint"
  | "tls" => "TLS handshake failed"
  | "ssrf_rejected" => "Delivery URL resolved to a private or internal IP"
  | "redirected" => "Consumer endpoint returned a 3xx redirect"
  | "4xx" => "Consumer rejected the request (4xx response)"
  | "5xx" => "Consumer endpoint returned a server error (5xx)"
  | _ => "Delivery failed (unclassified)"

/-- `classify_exception`. -/
def classifyException : RequestsError → String
  | .ssl => "tls"
  | .timeout => "timeout"
  | .tooManyRedirects => "unknown"
  | .connection => "connection"
  | .other => "unknown"

/-- `classify_status_code`. -/
def classifyStatusCode (statusCode : ℕ) : String :=
  if 200 ≤ statusCode ∧ statusCode < 300 then "unknown"
  else if 500 ≤ statusCode ∧ statusCode < 600 then "5xx"
  else if 300 ≤ statusCode ∧ statusCode < 400 then "redirected"
  else "4xx"

/-- `_MAX_RESPONSE_BODY_BYTES`. -/
def maxResponseBodyBytes : ℕ := 64 * 1024

def failed (statusCode : Option ℕ) (errorKind : String) : SendResult :=
  .response statusCode (some errorKind) (some (shortMessage errorKind))

/-- What `send` makes of a response. -/
def classifyResponse (statusCode advertised : ℕ) : SendResult :=
  let kind := classifyStatusCode statusCode
  if maxResponseBodyBytes < advertised then
    failed (some statusCode) (if kind ∈ ["4xx", "5xx", "redirected"] then kind else "5xx")
  else if 200 ≤ statusCode ∧ statusCode < 300 then .response (some statusCode) none none
  else failed (some statusCode) kind

/-- `_do_request`: the connection it opens, and what it leaves for the caller. -/
def doRequest (allowInternal : Bool) (exchange : Exchange) (url : Url) :
    Option AddrInfo × SendResult :=
  match assertUrlSafe urls allowInternal exchange.guardLookup url with
  | .error (.ssrf _) => (none, failed none "ssrf_rejected")
  | .error .other => (none, failed none (classifyException .other))
  | .ok _ =>
      let posted := sessionPost urls exchange url
      (posted.1,
        match posted.2 with
        | .error error => failed none (classifyException error)
        | .ok (statusCode, advertised) => classifyResponse statusCode advertised)

/-- `HttpClient.send`: the connection that is opened, if one is, and the result.  A request
that outlives the wall clock goes on in the background. -/
def send (allowInternal : Bool) (body signedBody : List UInt8) (exchange : Exchange) (url : Url) :
    Option AddrInfo × SendResult :=
  if body ≠ signedBody then (none, .violation)
  else
    let done := doRequest urls allowInternal exchange url
    (done.1, if exchange.late then failed none "timeout" else done.2)

/-! ## Where a request goes -/

/-- Whatever the network does, a request connects only to addresses that are allowed. -/
def ReachesAllowed (guardLookup libraryLookup : String → Answer) (url : Url) : Prop :=
  ∀ (body signedBody : List UInt8) (exchange : Exchange),
    exchange.guardLookup = guardLookup → exchange.libraryLookup = libraryLookup →
      ∀ info ∈ (send urls false body signedBody exchange url).1, isDisallowedAddress info = false

/-- The guard's lookup finds addresses, and all of them are allowed. -/
def GuardAnswered (guardLookup : String → Answer) (url : Url) : Prop :=
  ∃ host infos, urls.hostname url = .ok (some host) ∧ host ≠ "" ∧
    guardLookup host = .found infos ∧ (∃ info ∈ infos, info ≠ .foreign) ∧
    ∀ info ∈ infos, info ≠ .foreign → isDisallowedAddress info = false

/-- The library's lookup finds only addresses that are allowed. -/
def LibraryAnswered (libraryLookup : String → Answer) (url : Url) : Prop :=
  ∀ host, urls.libraryHost url = some host →
    ∀ info ∈ (libraryLookup host).offered, isDisallowedAddress info = false

variable {addrs : List AddrInfo} {host : String} {info : AddrInfo}

section Reach

variable {urls} {url : Url} {lookup guardLookup libraryLookup : String → Answer}
  {exchange : Exchange}

theorem resolveUrlAddresses_ok (hok : resolveUrlAddresses urls lookup url = .ok addrs) :
    ∃ host infos, urls.hostname url = .ok (some host) ∧ host ≠ "" ∧ lookup host = .found infos ∧
      addrs = (infos.filter fun info => info ≠ .foreign).eraseDups ∧ addrs ≠ [] := by
  rw [resolveUrlAddresses] at hok
  split at hok
  · cases hok
  · cases hok
  · rename_i host hhost
    split at hok
    · cases hok
    · rename_i hnamed
      split at hok
      · cases hok
      · cases hok
      · rename_i infos hinfos
        split at hok
        · cases hok
        · rename_i hnone
          cases hok
          exact ⟨host, infos, hhost, hnamed, hinfos, rfl, hnone⟩

theorem resolveUrlAddresses_of_found {infos : List AddrInfo}
    (hhost : urls.hostname url = .ok (some host)) (hnamed : host ≠ "")
    (hinfos : lookup host = .found infos) (hinfo : info ∈ infos)
    (hforeign : info ≠ .foreign) :
    resolveUrlAddresses urls lookup url =
      .ok (infos.filter fun info => info ≠ .foreign).eraseDups := by
  have hmem : info ∈ (infos.filter fun info => info ≠ .foreign).eraseDups := by
    rw [List.mem_eraseDups]
    exact List.mem_filter.mpr ⟨hinfo, by simpa using hforeign⟩
  simp only [resolveUrlAddresses, hhost, hinfos, if_neg hnamed]
  split
  · rename_i hnone
    rw [hnone] at hmem
    cases hmem
  · rfl

/-- The guard lets a URL pass exactly when its lookup finds allowed addresses. -/
theorem assertUrlSafe_ok_iff :
    (∃ addrs, assertUrlSafe urls false lookup url = .ok addrs) ↔
      GuardAnswered urls lookup url := by
  constructor
  · rintro ⟨addrs, hok⟩
    obtain ⟨found, hresolve, hpassed⟩ := bind_eq_ok.mp hok
    split at hpassed
    · rename_i hnone
      obtain ⟨host, infos, hhost, hnamed, hinfos, rfl, hsome⟩ := resolveUrlAddresses_ok hresolve
      rw [List.filter_eq_nil_iff] at hnone
      have husable : ∀ info ∈ infos, info ≠ .foreign →
          info ∈ (infos.filter fun info => info ≠ .foreign).eraseDups := by
        intro info hinfo hforeign
        rw [List.mem_eraseDups]
        exact List.mem_filter.mpr ⟨hinfo, decide_eq_true hforeign⟩
      refine ⟨host, infos, hhost, hnamed, hinfos, ?_, ?_⟩
      · obtain ⟨info, hinfo⟩ := List.exists_mem_of_ne_nil _ hsome
        rw [List.mem_eraseDups, List.mem_filter] at hinfo
        exact ⟨info, hinfo.1, of_decide_eq_true hinfo.2⟩
      · intro info hinfo hforeign
        exact Bool.eq_false_iff.mpr (hnone info (husable info hinfo hforeign))
    · cases hpassed
  · rintro ⟨host, infos, hhost, hnamed, hinfos, ⟨info, hinfo, hforeign⟩, hallowed⟩
    refine ⟨(infos.filter fun info => info ≠ .foreign).eraseDups, ?_⟩
    have hnone : ((infos.filter fun info => info ≠ .foreign).eraseDups).filter
        isDisallowedAddress = [] := by
      rw [List.filter_eq_nil_iff]
      intro other hother
      rw [List.mem_eraseDups, List.mem_filter] at hother
      rw [hallowed other hother.1 (of_decide_eq_true hother.2)]
      exact Bool.false_ne_true
    rw [assertUrlSafe, resolveUrlAddresses_of_found hhost hnamed hinfos hinfo hforeign]
    change (match List.filter isDisallowedAddress _ with | [] => _ | rejected => _) = _
    rw [hnone]

/-- A connection is opened when the guard has passed and the library has found its
address. -/
theorem send_opens {body signedBody : List UInt8}
    (hopens : info ∈ (send urls false body signedBody exchange url).1) :
    (∃ addrs, assertUrlSafe urls false exchange.guardLookup url = .ok addrs) ∧
      ∃ host, urls.libraryHost url = some host ∧
        info ∈ (exchange.libraryLookup host).offered := by
  rw [send] at hopens
  split at hopens
  · cases hopens
  · rw [doRequest] at hopens
    split at hopens
    · cases hopens
    · cases hopens
    · rename_i addrs hsafe
      refine ⟨⟨addrs, hsafe⟩, ?_⟩
      simp only [sessionPost] at hopens
      split at hopens
      · cases hopens
      · rename_i host hhost
        split at hopens
        · cases hopens
        · split at hopens
          · cases hopens
          · rename_i found hconnect
            cases hopens
            exact ⟨host, hhost, Answer.connect_mem hconnect⟩

/-- The exchange of a network in which only this address accepts a connection. -/
def onlyAccepting (guardLookup libraryLookup : String → Answer) (info : AddrInfo) : Exchange :=
  ⟨guardLookup, libraryLookup, false, fun candidate => candidate = info, .ok (200, 0), false⟩

/-- What the library finds can be connected to. -/
theorem send_onlyAccepting (hsafe : assertUrlSafe urls false guardLookup url = .ok addrs)
    (hhost : urls.libraryHost url = some host)
    (hinfo : info ∈ (libraryLookup host).offered) :
    (send urls false [] [] (onlyAccepting guardLookup libraryLookup info) url).1 =
      some info := by
  have hconnect := Answer.connect_only hinfo
  simp [send, doRequest, onlyAccepting, hsafe, sessionPost, hhost, hconnect]

/-- Requests go only to allowed addresses exactly when the library's lookup finds only such
addresses, or the guard's lookup already has not. -/
theorem reaches_allowed_iff :
    ReachesAllowed urls guardLookup libraryLookup url ↔
      (GuardAnswered urls guardLookup url → LibraryAnswered urls libraryLookup url) := by
  constructor
  · intro hreaches hguard host hhost info hinfo
    obtain ⟨addrs, hsafe⟩ := assertUrlSafe_ok_iff.mpr hguard
    apply hreaches [] [] (onlyAccepting guardLookup libraryLookup info) rfl rfl
    rw [send_onlyAccepting hsafe hhost hinfo]
    rfl
  · rintro hlibrary body signedBody exchange rfl rfl info hopens
    obtain ⟨hsafe, host, hhost, hinfo⟩ := send_opens hopens
    exact hlibrary (assertUrlSafe_ok_iff.mp hsafe) host hhost info hinfo

end Reach

/-! ## A resolver that changes its answer -/

/-- A URL given by its host. -/
def byHost : UrlReading String := ⟨fun host => .ok (some host), some⟩

/-- A public address. -/
def publicAddress : AddrInfo := .ip (.v4 (quad 93 184 216 34))

/-- The metadata service of a cloud. -/
def metadataAddress : AddrInfo := .ip (.v4 (quad 169 254 169 254))

theorem send_rebound :
    (send byHost false [] [] (onlyAccepting (fun _ => .found [publicAddress])
        (fun _ => .found [metadataAddress]) metadataAddress) "hook.example").1 =
        some metadataAddress ∧
      isDisallowedAddress metadataAddress = true ∧
      ¬ ∀ (Url : Type) (urls : UrlReading Url) (guardLookup libraryLookup : String → Answer)
        (url : Url), ReachesAllowed urls guardLookup libraryLookup url := by
  have hopens : (send byHost false [] [] (onlyAccepting (fun _ => .found [publicAddress])
      (fun _ => .found [metadataAddress]) metadataAddress) "hook.example").1 =
        some metadataAddress := by
    decide
  refine ⟨hopens, by decide, ?_⟩
  intro hreaches
  have hallowed := hreaches String byHost (fun _ => .found [publicAddress])
    (fun _ => .found [metadataAddress]) "hook.example" [] []
    (onlyAccepting _ _ metadataAddress) rfl rfl metadataAddress hopens
  exact absurd hallowed (by decide)

end SentryWms.Webhooks
