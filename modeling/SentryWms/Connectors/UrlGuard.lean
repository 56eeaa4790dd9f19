import SentryWms.Network.Addresses
import SentryWms.Relational.Run
import Mathlib.Data.Rat.Defs
import Mathlib.Logic.Function.Basic

/-!
# The connectors' HTTP requests

A request of a connector looks up the host of its URL once, checks every address it finds,
and pins the host to the first of them while the request and its retries run.  A lookup by
the HTTP library is answered from the pins of the thread if the name it asks for is pinned.
-/

namespace SentryWms.Connectors

open Function Network

/-! ## Pins -/

/-- `_DNS_PINS.entries`, the map of a thread. -/
abbrev Pins := String → Option Address

/-- How URLs and host names are read: the parts of `urlsplit(url)`, which raises on a
malformed URL, `str.lower`, `ipaddress.ip_address`, and the name the HTTP library looks up
for a URL, unless it refuses the URL. -/
structure HostReading (Url : Type) where
  urlsplit : Url → Except Unit (String × Option String)
  lower : String → String
  ipAddress : String → Option Address
  lookupName : Url → Option String

variable {Url : Type} (hosts : HostReading Url)

/-- `_pinned_getaddrinfo`; the lookup of an address finds the address. -/
def pinnedGetaddrinfo (pins : Pins) (getaddrinfo : String → Answer) (host : String) : Answer :=
  match pins (hosts.lower host) with
  | some pinned => .found [.ip pinned]
  | none => getaddrinfo host

/-- `pinned_host`, on the way in. -/
def pinHost (pins : Pins) (hostname : String) (ip : Address) : Pins :=
  update pins (hosts.lower hostname) (some ip)

/-- `pinned_host`, on the way out: `entries[key] = prior`, or the entry is dropped. -/
def unpinHost (pins : Pins) (hostname : String) (prior : Option Address) : Pins :=
  update pins (hosts.lower hostname) prior

/-- What was pinned before is pinned again. -/
theorem unpinHost_pinHost (pins : Pins) (hostname : String) (ip : Address) :
    unpinHost hosts (pinHost hosts pins hostname ip) hostname (pins (hosts.lower hostname)) =
      pins := by
  rw [unpinHost, pinHost, update_idem, update_eq_self]

/-! ## The guard -/

/-- `_BLOCKED_HOSTNAMES`. -/
def blockedHostnames : List String :=
  ["localhost", "redis", "db", "api", "admin", "celery-worker", "sentry-redis", "sentry-db",
   "sentry-api", "sentry-admin", "sentry-celery"]

/-- `_is_blocked_ip`. -/
def isBlockedIp (ip : Address) : Bool :=
  ip.isLoopback || ip.isLinkLocal || ip.isPrivate || ip.isReserved || ip.isMulticast ||
    ip.isUnspecified

/-- How `assert_url_allowed` refuses: with `BlockedDestinationError`, or with an error of the
URL's or the resolver's making. -/
inductive GuardError
  | scheme (scheme : String)
  | noHostname
  | reservedHostname (hostname : String)
  | literal (hostname : String)
  | unresolved (hostname : String)
  | blockedAddress (hostname : String) (ip : Address)
  | noUsableAddress (hostname : String)
  | raised
  deriving DecidableEq, Repr

/-- The addresses of an answer, up to the first that is blocked. -/
def firstSafe (hostname : String) : List AddrInfo → Option Address → Except GuardError Address
  | [], none => .error (.noUsableAddress hostname)
  | [], some safe => .ok safe
  | .foreign :: rest, safe => firstSafe hostname rest safe
  | .ip ip :: rest, safe =>
      if isBlockedIp ip then .error (.blockedAddress hostname ip)
      else firstSafe hostname rest (some (safe.getD ip))

/-- `(urlsplit(url).hostname or "").lower()`. -/
def hostnameOf (url : Url) : String :=
  match hosts.urlsplit url with
  | .error () => ""
  | .ok (_, hostname) => hosts.lower (hostname.getD "")

/-- `assert_url_allowed`. -/
def assertUrlAllowed (getaddrinfo : String → Answer) (url : Url) : Except GuardError Address :=
  match hosts.urlsplit url with
  | .error () => .error .raised
  | .ok (scheme, hostname?) =>
      let scheme := hosts.lower scheme
      let hostname := hosts.lower (hostname?.getD "")
      if scheme ∉ ["http", "https"] then .error (.scheme scheme)
      else if hostname = "" then .error .noHostname
      else if hostname ∈ blockedHostnames then .error (.reservedHostname hostname)
      else
        match hosts.ipAddress hostname with
        | some literal =>
            if isBlockedIp literal then .error (.literal hostname) else .ok literal
        | none =>
            match getaddrinfo hostname with
            | .gaierror => .error (.unresolved hostname)
            | .raises => .error .raised
            | .found infos => firstSafe hostname infos none

variable {ip : Address} {attempt reached : ℕ}

theorem firstSafe_safe {hostname : String} {infos : List AddrInfo}
    {safe : Option Address} (hsafe : ∀ found ∈ safe, isBlockedIp found = false)
    (hok : firstSafe hostname infos safe = .ok ip) : isBlockedIp ip = false := by
  induction infos generalizing safe with
  | nil =>
      cases safe with
      | none => cases hok
      | some found =>
          cases hok
          exact hsafe ip rfl
  | cons info rest ih =>
      cases info with
      | foreign => exact ih hsafe hok
      | ip found =>
          rw [firstSafe] at hok
          split at hok
          · cases hok
          · rename_i hfound
            apply ih _ hok
            cases safe with
            | none =>
                rintro other ⟨⟩
                exact Bool.eq_false_iff.mpr hfound
            | some earlier => exact hsafe

/-- The guard returns no blocked address. -/
theorem assertUrlAllowed_safe {getaddrinfo : String → Answer} {url : Url}
    (hok : assertUrlAllowed hosts getaddrinfo url = .ok ip) : isBlockedIp ip = false := by
  rw [assertUrlAllowed] at hok
  split at hok
  · cases hok
  · simp only at hok
    split_ifs at hok
    split at hok
    · split at hok
      · cases hok
      · rename_i literal _ hliteral
        cases hok
        exact Bool.eq_false_iff.mpr hliteral
    · split at hok
      · cases hok
      · cases hok
      · exact firstSafe_safe (fun _ hnone => by cases hnone) hok

/-! ## The circuit breaker -/

/-- `CircuitBreakerState`. -/
structure CircuitBreaker where
  threshold : ℕ := 5
  cooldownSeconds : ℕ := 300
  failures : ℕ := 0
  openedAt : Option ℚ := none
  deriving DecidableEq, Repr

namespace CircuitBreaker

/-- `check`: the breaker lets a call through. -/
def check (breaker : CircuitBreaker) (now : ℚ) : Bool :=
  breaker.openedAt.all fun openedAt => !(now - openedAt < breaker.cooldownSeconds)

/-- `record_success`. -/
def recordSuccess (breaker : CircuitBreaker) : CircuitBreaker :=
  { breaker with failures := 0, openedAt := none }

/-- `record_failure`. -/
def recordFailure (breaker : CircuitBreaker) (now : ℚ) : CircuitBreaker :=
  { breaker with
    failures := breaker.failures + 1
    openedAt :=
      if breaker.threshold ≤ breaker.failures + 1 ∧ breaker.openedAt = none then some now
      else if breaker.openedAt ≠ none then some now
      else none }

end CircuitBreaker

/-! ## Requests -/

/-- What the network does when a URL is contacted: what an unpinned lookup finds, whether
the session still has a connection, which addresses accept one, and whether the exchange
breaks off. -/
structure Contact where
  getaddrinfo : String → Answer
  reused : Bool
  accepts : AddrInfo → Bool
  broken : Bool

/-- What the servers answer to one attempt: the redirects, and the status of the last
response. -/
structure Script (Url : Type) where
  redirects : List (ℕ × Url)
  status : ℕ

/-- The connections an attempt or a call opens, each with the URL it is for. -/
abbrev Opened (Url : Type) := List (Url × AddrInfo)

/-- One URL is contacted: the connection that is opened, and whether it answered. -/
def contact (pins : Pins) (network : Contact) (url : Url) : Option AddrInfo × Bool :=
  match hosts.lookupName url with
  | none => (none, false)
  | some name =>
      if network.reused then (none, !network.broken)
      else
        match (pinnedGetaddrinfo hosts pins network.getaddrinfo name).connect
            network.accepts with
        | none => (none, false)
        | some info => (some info, !network.broken)

/-- The most redirects of a session, `DEFAULT_REDIRECT_LIMIT`. -/
def maxRedirects : ℕ := 30

/-- `requests.request`: the connections, and the status unless an error is raised. -/
def request (pins : Pins) (network : ℕ → Contact) (allowRedirects : Bool) (status : ℕ) :
    (hop : ℕ) → (url : Url) → (redirects : List (ℕ × Url)) → Opened Url × Option ℕ
  | hop, url, [] =>
      let contacted := contact hosts pins (network hop) url
      (contacted.1.toList.map (url, ·), if contacted.2 then some status else none)
  | hop, url, (code, next) :: rest =>
      let contacted := contact hosts pins (network hop) url
      let opened := contacted.1.toList.map (url, ·)
      if !contacted.2 then (opened, none)
      else if !allowRedirects then (opened, some code)
      else if maxRedirects ≤ hop then (opened, none)
      else
        let followed := request pins network allowRedirects status (hop + 1) next rest
        (opened ++ followed.1, followed.2)

/-- How a call ends. -/
inductive Result
  | returned (statusCode : ℕ)
  | blocked (error : GuardError)
  | circuitOpen
  | raised
  deriving DecidableEq, Repr

/-- `MAX_RETRIES_PER_CALL`. -/
def maxRetriesPerCall : ℕ := 3

/-- What the world does during a call: the network at each attempt and hop, what the servers
answer at each attempt, and what the clock reads at the check, after each attempt, and after
the last. -/
structure World (Url : Type) where
  network : ℕ → ℕ → Contact
  scripts : ℕ → Script Url
  clock : ℕ → ℚ

/-- What a call leaves. -/
structure Outcome (Url : Type) where
  opened : Opened Url
  breaker : CircuitBreaker
  result : Result

/-- The loop of attempts; the pauses between them are left out. -/
def retryLoop (pins : Pins) (world : World Url) (allowRedirects : Bool) (url : Url) :
    (left attempt : ℕ) → CircuitBreaker → Outcome Url
  | 0, attempt, breaker => ⟨[], breaker.recordFailure (world.clock (attempt + 1)), .raised⟩
  | left + 1, attempt, breaker =>
      let script := world.scripts attempt
      let done := request hosts pins (world.network attempt) allowRedirects script.status 0
        url script.redirects
      match done.2 with
      | none =>
          let rest := retryLoop pins world allowRedirects url left (attempt + 1)
            (breaker.recordFailure (world.clock (attempt + 1)))
          { rest with opened := done.1 ++ rest.opened }
      | some status =>
          if status ∈ [429, 503] ∧ left ≠ 0 then
            let rest := retryLoop pins world allowRedirects url left (attempt + 1) breaker
            { rest with opened := done.1 ++ rest.opened }
          else
            ⟨done.1,
              if status < 500 then breaker.recordSuccess
              else breaker.recordFailure (world.clock (attempt + 1)),
              .returned status⟩

/-- `make_request`: the pins it leaves, and its outcome. -/
def makeRequest (pins : Pins) (getaddrinfo : String → Answer) (world : World Url)
    (allowRedirects : Bool) (breaker : CircuitBreaker) (url : Url) : Pins × Outcome Url :=
  match assertUrlAllowed hosts (pinnedGetaddrinfo hosts pins getaddrinfo) url with
  | .error error => (pins, ⟨[], breaker, .blocked error⟩)
  | .ok ip =>
      if !breaker.check (world.clock 0) then (pins, ⟨[], breaker, .circuitOpen⟩)
      else
        let hostname := hostnameOf hosts url
        let pinned := pinHost hosts pins hostname ip
        (unpinHost hosts pinned hostname (pins (hosts.lower hostname)),
          retryLoop hosts pinned world allowRedirects url maxRetriesPerCall 0 breaker)

/-! ## Where a call goes -/

/-- Whatever the network does, each connection of a call goes to the address that the guard
has accepted for the host it is for, and the pins of the thread are as they were. -/
def KeepsToValidated (pins : Pins) (getaddrinfo : String → Answer)
    (scripts : ℕ → Script Url) (allowRedirects : Bool) (url : Url) : Prop :=
  ∀ (network : ℕ → ℕ → Contact) (clock : ℕ → ℚ) (breaker : CircuitBreaker),
    let call := makeRequest hosts pins getaddrinfo ⟨network, scripts, clock⟩ allowRedirects
      breaker url
    call.1 = pins ∧ ∀ opened ∈ call.2.opened, ∃ ip,
      assertUrlAllowed hosts (pinnedGetaddrinfo hosts pins getaddrinfo) url = .ok ip ∧
        hostnameOf hosts opened.1 = hostnameOf hosts url ∧ opened.2 = .ip ip

/-- The URLs that the answers to an attempt lead to. -/
def followed (allowRedirects : Bool) :
    (hop : ℕ) → (url : Url) → (redirects : List (ℕ × Url)) → List Url
  | _, url, [] => [url]
  | hop, url, (_, next) :: rest =>
      url :: if (hosts.lookupName url).isNone ∨ allowRedirects = false ∨ maxRedirects ≤ hop
        then [] else followed allowRedirects (hop + 1) next rest

/-- Each URL that an attempt leads to has the host of the first, and the name that is looked
up for it is pinned to the accepted address. -/
def StaysPinned (pins : Pins) (getaddrinfo : String → Answer) (scripts : ℕ → Script Url)
    (allowRedirects : Bool) (url : Url) : Prop :=
  ∀ ip, assertUrlAllowed hosts (pinnedGetaddrinfo hosts pins getaddrinfo) url = .ok ip →
    ∀ attempt < maxRetriesPerCall,
      ∀ contacted ∈ followed hosts allowRedirects 0 url (scripts attempt).redirects,
        ∀ name ∈ hosts.lookupName contacted,
          hostnameOf hosts contacted = hostnameOf hosts url ∧
            pinHost hosts pins (hostnameOf hosts url) ip (hosts.lower name) = some ip

variable {contacted : Contact} {left : ℕ} {breaker : CircuitBreaker} {name : String}

section Opened

variable {hosts} {pins : Pins} {allowRedirects : Bool} {url : Url} {world : World Url}
  {network : ℕ → Contact} {status hop : ℕ} {redirects : List (ℕ × Url)}
  {opened : Url × AddrInfo}

/-- A connection goes to what a lookup of the URL's name offers. -/
theorem contact_opens {info : AddrInfo} (hopens : info ∈ (contact hosts pins contacted url).1) :
    ∃ name ∈ hosts.lookupName url,
      info ∈ (pinnedGetaddrinfo hosts pins contacted.getaddrinfo name).offered := by
  rw [contact] at hopens
  split at hopens
  · cases hopens
  · rename_i name hname
    split at hopens
    · cases hopens
    · split at hopens
      · cases hopens
      · rename_i found hconnect
        cases hopens
        exact ⟨name, hname, Answer.connect_mem hconnect⟩

theorem contact_answers (hanswers : (contact hosts pins contacted url).2 = true) :
    (hosts.lookupName url).isNone = false := by
  rw [contact] at hanswers
  split at hanswers
  · cases hanswers
  · rename_i name hname
    rw [hname]
    rfl

theorem mem_followed (hop : ℕ) (url : Url) (redirects : List (ℕ × Url)) :
    url ∈ followed hosts allowRedirects hop url redirects := by
  cases redirects with
  | nil => exact List.mem_singleton_self url
  | cons redirect rest => exact List.mem_cons_self

/-- A connection goes to what a lookup of its URL's name offers. -/
def LookedUp (hosts : HostReading Url) (pins : Pins) (opened : Url × AddrInfo) : Prop :=
  ∃ name ∈ hosts.lookupName opened.1, ∃ getaddrinfo,
    opened.2 ∈ (pinnedGetaddrinfo hosts pins getaddrinfo name).offered

/-- The connections of an attempt are for the URLs it leads to. -/
theorem request_opens
    (hopened : opened ∈ (request hosts pins network allowRedirects status hop url redirects).1) :
    opened.1 ∈ followed hosts allowRedirects hop url redirects ∧
      LookedUp hosts pins opened := by
  have hhere : ∀ {hop : ℕ} {url : Url} {redirects : List (ℕ × Url)}, opened ∈
      ((contact hosts pins (network hop) url).1.toList.map fun info => (url, info)) →
      opened.1 ∈ followed hosts allowRedirects hop url redirects ∧
        LookedUp hosts pins opened := by
    intro hop url redirects hmem
    obtain ⟨info, hinfo, rfl⟩ := List.mem_map.mp hmem
    obtain ⟨name, hname, hoffered⟩ := contact_opens (Option.mem_toList.mp hinfo)
    exact ⟨mem_followed hop url redirects, name, hname, _, hoffered⟩
  induction redirects generalizing hop url with
  | nil => exact hhere hopened
  | cons redirect rest ih =>
      obtain ⟨code, next⟩ := redirect
      rw [request] at hopened
      simp only at hopened
      split at hopened
      · exact hhere hopened
      · rename_i hanswers
        split at hopened
        · exact hhere hopened
        · rename_i hallowed
          split at hopened
          · exact hhere hopened
          · rename_i hlimit
            rw [List.mem_append] at hopened
            cases hopened with
            | inl hmem => exact hhere hmem
            | inr hthere =>
                obtain ⟨hmem, hlooked⟩ := ih hthere
                refine ⟨List.mem_cons_of_mem _ ?_, hlooked⟩
                rw [Bool.not_eq_true, Bool.not_eq_false'] at hanswers hallowed
                rw [if_neg]
                · exact hmem
                · simp [contact_answers hanswers, hallowed, hlimit]

/-- The connections of a call are those of its attempts. -/
theorem retryLoop_opens (hopened : opened ∈
      (retryLoop hosts pins world allowRedirects url left attempt breaker).opened) :
    ∃ made, attempt ≤ made ∧ made < attempt + left ∧
      opened ∈ (request hosts pins (world.network made) allowRedirects
        (world.scripts made).status 0 url (world.scripts made).redirects).1 := by
  induction left generalizing attempt breaker with
  | zero => cases hopened
  | succ left ih =>
      have hlater : ∀ {breaker}, opened ∈
          (retryLoop hosts pins world allowRedirects url left (attempt + 1) breaker).opened →
          ∃ made, attempt ≤ made ∧ made < attempt + (left + 1) ∧
            opened ∈ (request hosts pins (world.network made) allowRedirects
              (world.scripts made).status 0 url (world.scripts made).redirects).1 := by
        intro breaker hmem
        obtain ⟨made, hfrom, hto, hmade⟩ := ih hmem
        exact ⟨made, by omega, by omega, hmade⟩
      rw [retryLoop] at hopened
      simp only at hopened
      split at hopened
      · rw [List.mem_append] at hopened
        cases hopened with
        | inl hhere => exact ⟨attempt, Nat.le_refl _, by omega, hhere⟩
        | inr hthere => exact hlater hthere
      · split at hopened
        · rw [List.mem_append] at hopened
          cases hopened with
          | inl hhere => exact ⟨attempt, Nat.le_refl _, by omega, hhere⟩
          | inr hthere => exact hlater hthere
        · exact ⟨attempt, Nat.le_refl _, by omega, hopened⟩

/-! ## A network that leads everywhere -/

/-- An address that no guard accepts. -/
def loopback : Address := .v4 (quad 127 0 0 1)

theorem ne_loopback (hip : isBlockedIp ip = false) : ip ≠ loopback := by
  rintro rfl
  revert hip
  decide

/-- Nothing answers before one attempt, in which everything does, and unpinned names lead
to the loopback address. -/
def reaching (reached attempt : ℕ) (_hop : ℕ) : Contact :=
  ⟨fun _ => .found [.ip loopback], false, fun _ => attempt = reached, false⟩

theorem contact_reaching (hname : hosts.lookupName url = some name) :
    contact hosts pins (reaching reached reached hop) url =
      (some (.ip ((pins (hosts.lower name)).getD loopback)), true) := by
  cases hpinned : pins (hosts.lower name) with
  | none | some ip =>
      simp [contact, hname, reaching, pinnedGetaddrinfo, hpinned, Answer.connect, Answer.offered]

/-- There an attempt opens a connection for each URL it leads to. -/
theorem request_reaching {contacted : Url}
    (hcontacted : contacted ∈ followed hosts allowRedirects hop url redirects)
    (hname : hosts.lookupName contacted = some name) :
    (contacted, AddrInfo.ip ((pins (hosts.lower name)).getD loopback)) ∈
      (request hosts pins (reaching reached reached) allowRedirects status hop url
        redirects).1 := by
  induction redirects generalizing hop url with
  | nil =>
      rw [followed, List.mem_singleton] at hcontacted
      subst hcontacted
      rw [request, contact_reaching hname]
      exact List.mem_singleton_self _
  | cons redirect rest ih =>
      obtain ⟨code, next⟩ := redirect
      rw [followed, List.mem_cons] at hcontacted
      cases hcontacted with
      | inl heq =>
          subst heq
          rw [request, contact_reaching hname]
          simp only [Bool.not_true, Bool.false_eq_true, if_false]
          split
          · exact List.mem_singleton_self _
          · split
            · exact List.mem_singleton_self _
            · exact List.mem_append_left _ (List.mem_singleton_self _)
      | inr hlater =>
          split at hlater
          · cases hlater
          · rename_i hfollows
            simp only [not_or, Option.isNone_iff_eq_none, Bool.not_eq_false] at hfollows
            obtain ⟨hfound, hallowed, hlimit⟩ := hfollows
            obtain ⟨first, hfirst⟩ := Option.ne_none_iff_exists'.mp hfound
            subst hallowed
            rw [request, contact_reaching hfirst]
            simp only [Bool.not_true, Bool.false_eq_true, if_false, hlimit]
            exact List.mem_append_right _ (ih hlater)

/-- Before it, an attempt fails. -/
theorem request_refused (hbefore : attempt ≠ reached) :
    (request hosts pins (reaching reached attempt) allowRedirects status hop url
      redirects).2 = none := by
  have hrefused : (contact hosts pins (reaching reached attempt hop) url).2 = false := by
    rw [contact]
    split
    · rfl
    · rename_i name hname
      have hnone : ∀ answer : Answer,
          answer.connect (reaching reached attempt hop).accepts = none := by
        intro answer
        apply List.find?_eq_none.mpr
        intro info _
        simpa [reaching] using hbefore
      rw [hnone]
      rfl
  cases redirects with
  | nil | cons => simp [request, hrefused]

/-- There the connections of the reached attempt are among the call's. -/
theorem retryLoop_reaching {scripts : ℕ → Script Url} {clock : ℕ → ℚ}
    (hfrom : attempt ≤ reached) (hto : reached < attempt + left)
    (hopened : opened ∈ (request hosts pins (reaching reached reached) allowRedirects
      (scripts reached).status 0 url (scripts reached).redirects).1) :
    opened ∈ (retryLoop hosts pins ⟨reaching reached, scripts, clock⟩ allowRedirects url left
      attempt breaker).opened := by
  induction left generalizing attempt breaker with
  | zero => omega
  | succ left ih =>
      rw [retryLoop]
      simp only
      by_cases hreached : attempt = reached
      · subst hreached
        split
        · exact List.mem_append_left _ hopened
        · split
          · exact List.mem_append_left _ hopened
          · exact hopened
      · rw [request_refused hreached]
        exact List.mem_append_right _ (ih (by omega) (by omega))

end Opened

section Call

variable {hosts : HostReading Url} {pins : Pins} {getaddrinfo : String → Answer}
  {scripts : ℕ → Script Url} {allowRedirects : Bool} {url : Url} {world : World Url}
  {breaker : CircuitBreaker}

/-- A call leaves the pins as they were, and its connections are those of its attempts with
the host pinned to the accepted address. -/
theorem makeRequest_opens {opened : Url × AddrInfo}
    (hopened : opened ∈
      (makeRequest hosts pins getaddrinfo world allowRedirects breaker url).2.opened) :
    ∃ ip, assertUrlAllowed hosts (pinnedGetaddrinfo hosts pins getaddrinfo) url = .ok ip ∧
      opened ∈ (retryLoop hosts (pinHost hosts pins (hostnameOf hosts url) ip) world
        allowRedirects url maxRetriesPerCall 0 breaker).opened := by
  rw [makeRequest] at hopened
  split at hopened
  · cases hopened
  · rename_i ip hip
    split at hopened
    · cases hopened
    · exact ⟨ip, hip, hopened⟩

theorem makeRequest_pins :
    (makeRequest hosts pins getaddrinfo world allowRedirects breaker url).1 = pins := by
  rw [makeRequest]
  split
  · rfl
  · split
    · rfl
    · exact unpinHost_pinHost hosts pins _ _

/-- An accepted URL is requested while the breaker is closed. -/
theorem makeRequest_closed
    (hip : assertUrlAllowed hosts (pinnedGetaddrinfo hosts pins getaddrinfo) url = .ok ip) :
    (makeRequest hosts pins getaddrinfo world allowRedirects {} url).2 =
      retryLoop hosts (pinHost hosts pins (hostnameOf hosts url) ip) world allowRedirects url
        maxRetriesPerCall 0 {} := by
  rw [makeRequest, hip]
  rfl

/-- A call keeps to the validated address exactly when every URL it is led to stays pinned;
the pins are always restored. -/
theorem keeps_to_validated_iff :
    KeepsToValidated hosts pins getaddrinfo scripts allowRedirects url ↔
      StaysPinned hosts pins getaddrinfo scripts allowRedirects url := by
  constructor
  · intro hkeeps ip hip attempt hattempt contacted hcontacted name hname
    let pinned := pinHost hosts pins (hostnameOf hosts url) ip
    have hreached : (contacted, AddrInfo.ip ((pinned (hosts.lower name)).getD loopback)) ∈
        (request hosts pinned (reaching attempt attempt) allowRedirects
          (scripts attempt).status 0 url (scripts attempt).redirects).1 :=
      request_reaching hcontacted hname
    have hopened : _ ∈ (retryLoop hosts pinned ⟨reaching attempt, scripts, fun _ => 0⟩
        allowRedirects url maxRetriesPerCall 0 {}).opened :=
      retryLoop_reaching (Nat.zero_le attempt) (by simpa using hattempt) hreached
    obtain ⟨-, hvalidated⟩ := hkeeps (reaching attempt) (fun _ => 0) {}
    rw [makeRequest_closed hip] at hvalidated
    obtain ⟨accepted, haccepted, hhost, hinfo⟩ := hvalidated _ hopened
    rw [hip] at haccepted
    cases haccepted
    refine ⟨hhost, ?_⟩
    have haddress := AddrInfo.ip.inj hinfo
    cases hpinned : pinned (hosts.lower name) with
    | none =>
        rw [hpinned] at haddress
        exact absurd haddress.symm (ne_loopback (assertUrlAllowed_safe hosts hip))
    | some address =>
        rw [hpinned] at haddress
        exact hpinned.trans (congrArg some haddress)
  · intro hpinned network clock breaker
    refine ⟨makeRequest_pins, ?_⟩
    intro opened hopened
    obtain ⟨ip, hip, hloop⟩ := makeRequest_opens hopened
    obtain ⟨attempt, -, hattempt, hrequest⟩ := retryLoop_opens hloop
    obtain ⟨hcontacted, name, hname, lookup, hoffered⟩ := request_opens hrequest
    obtain ⟨hhost, hpin⟩ := hpinned ip hip attempt (by simpa using hattempt) opened.1
      hcontacted name hname
    refine ⟨ip, hip, hhost, ?_⟩
    rw [pinnedGetaddrinfo, hpin] at hoffered
    exact List.mem_singleton.mp hoffered

end Call

/-! ## Ways around the pin -/

/-- URLs given by their host, in lower case, over plain HTTP; an international name is looked
up in its ASCII form. -/
def plainHosts : HostReading String where
  urlsplit := fun host => .ok ("http", some host)
  lower := id
  ipAddress := fun _ => none
  lookupName := fun host =>
    some (if host = "bücher.example" then "xn--bcher-kva.example" else host)

/-- A resolver for which two names are public and all others internal. -/
def twoPublicNames (name : String) : Answer :=
  if name = "api.example" ∨ name = "bücher.example" then
    .found [.ip (.v4 (quad 93 184 216 34))]
  else .found [.ip (.v4 (quad 10 0 0 5))]

/-- Every connection is accepted, and the servers answer with these redirects. -/
def answering (redirects : List (ℕ × String)) : World String where
  network := fun _ _ => ⟨twoPublicNames, false, fun _ => true, false⟩
  scripts := fun _ => ⟨redirects, 200⟩
  clock := fun _ => 0

/-- A call is redirected to an internal address, or led to one by another spelling of its
host. -/
theorem makeRequest_led_astray :
    (makeRequest plainHosts (fun _ => none) twoPublicNames
        (answering [(302, "internal.example")]) true {} "api.example").2.opened =
        [("api.example", .ip (.v4 (quad 93 184 216 34))),
         ("internal.example", .ip (.v4 (quad 10 0 0 5)))] ∧
      (makeRequest plainHosts (fun _ => none) twoPublicNames (answering []) true {}
        "bücher.example").2.opened = [("bücher.example", .ip (.v4 (quad 10 0 0 5)))] ∧
      ¬ ∀ (Url : Type) (hosts : HostReading Url) (pins : Pins)
        (getaddrinfo : String → Answer) (scripts : ℕ → Script Url) (url : Url),
        KeepsToValidated hosts pins getaddrinfo scripts true url := by
  have hredirected : (makeRequest plainHosts (fun _ => none) twoPublicNames
      (answering [(302, "internal.example")]) true {} "api.example").2.opened =
        [("api.example", .ip (.v4 (quad 93 184 216 34))),
         ("internal.example", .ip (.v4 (quad 10 0 0 5)))] := by
    decide
  refine ⟨hredirected, by decide, ?_⟩
  intro hkeeps
  obtain ⟨-, hvalidated⟩ := hkeeps String plainHosts (fun _ => none) twoPublicNames
    (answering [(302, "internal.example")]).scripts "api.example"
    (answering [(302, "internal.example")]).network (fun _ => 0) {}
  obtain ⟨ip, -, hhost, -⟩ := hvalidated ("internal.example", .ip (.v4 (quad 10 0 0 5)))
    (hredirected ▸ List.mem_cons_of_mem _ (List.mem_singleton_self _))
  exact absurd hhost (by decide)

end SentryWms.Connectors
