import Mathlib.Data.List.Basic

/-! The proxy for URLs outside the clusters, and which URLs the server contacts for it.
Globs, URLs and the client come from other packages. -/

namespace K8Sense.Proxy

structure Response where
  status : Nat
  location : String
  contentType : String
  contentEncoding : String
  contentLength : Int
  body : List UInt8
  /-- What reading ends with when it does not end with the body. -/
  broken : Option String

inductive Answer where
  | failed (err : String)
  | response (response : Response)

/-- What a URL answers may depend on all URLs that have been contacted before. -/
abbrev Upstream (Url : Type) := List Url → Answer

structure Net (Url Glob : Type) where
  compile : String → Except String Glob
  isMatch : Glob → String → Bool
  parse : String → Except String Url
  text : Url → String
  /-- What a new request makes of the URL: no colon without a port. -/
  removeEmptyPort : Url → Url
  resolve : Url → String → Except String Url
  /-- The error of the header, or the data with the error that reading them ends with. -/
  gunzip : List UInt8 → Option String → Except String (List UInt8 × Option String)
  /-- How many redirects the client follows. -/
  redirects : Nat

structure Request where
  proxyTo : String
  forwardTo : String
  hasBody : Bool

inductive Reply where
  | error (text : String) (status : Nat)
  | proxied (status : Nat) (contentType : String) (body : List UInt8)

def maxProxyResponseSize : Nat := 100 * 1024 * 1024

section
variable {Url Glob : Type} (net : Net Url Glob)

def compileProxyURLPatterns : List String → Except String (List Glob)
  | [] => .ok []
  | pattern :: patterns =>
    match net.compile pattern with
    | .error err => .error ("compiling proxy URL pattern " ++ pattern.quote ++ ": " ++ err)
    | .ok glob => (compileProxyURLPatterns patterns).map (glob :: ·)

structure Config where
  airGapped : Bool
  proxyURLs : List String
  compiledProxyURLs : Option (List Glob)
  tracingEnabled : Bool
  metricsEnabled : Bool
  current : ∀ compiled, compiledProxyURLs = some compiled → compileProxyURLPatterns net proxyURLs = .ok compiled

variable {net}

def applyAirGappedMode (airgapped : String) (config : Config net) : Bool × Config net :=
  if airgapped ≠ "1" ∧ airgapped ≠ "true" then (false, config)
  else (true, ⟨true, [], none, false, false, nofun⟩)

/-- The patterns are compiled where they have not been before. -/
def compiled (config : Config net) : Except String (Config net) :=
  if config.compiledProxyURLs.isNone ∧ config.proxyURLs ≠ [] then
    match patterns : compileProxyURLPatterns net config.proxyURLs with
    | .error err => .error err
    | .ok compiledProxyURLs => .ok { config with
        compiledProxyURLs := some compiledProxyURLs
        current := fun _ same => Option.some.inj same ▸ patterns }
  else .ok config

def proxyURLAllowed (config : Config net) (proxyURL : String) : Except String (Bool × Config net) :=
  (compiled config).map fun config => ((config.compiledProxyURLs.getD []).any fun glob => net.isMatch glob proxyURL, config)

def Request.proxyURL (request : Request) : String :=
  if request.proxyTo = "" ∧ request.forwardTo ≠ "" then request.forwardTo else request.proxyTo

/-- A body cannot be sent again. -/
def redirectTo (hasBody : Bool) (response : Response) : Option String :=
  if response.location = "" then none
  else if response.status ∈ [301, 302, 303] ∨ response.status ∈ [307, 308] ∧ hasBody = false then some response.location
  else none

variable (net) in
/-- `Do` of a client without `CheckRedirect`: all URLs that were contacted, and what came
of it. -/
def clientDo (upstream : Upstream Url) (hasBody : Bool) (redirects : Nat) (via : List Url) (url : Url) :
    List Url × Except String Response :=
  let sent := via ++ [url]
  match upstream sent with
  | .failed err => (sent, .error err)
  | .response response =>
    match redirectTo hasBody response with
    | none => (sent, .ok response)
    | some location =>
      match net.resolve url location with
      | .error err => (sent, .error ("failed to parse Location header " ++ location.quote ++ ": " ++ err))
      | .ok next =>
        match redirects with
        | 0 => (sent, .error "stopped after 10 redirects")
        | redirects + 1 => clientDo upstream hasBody redirects sent next
termination_by structural redirects

variable (net) in
def relay (response : Response) : Reply :=
  let reader := if response.contentEncoding = "gzip" then net.gunzip response.body response.broken
    else .ok (response.body, response.broken)
  match reader with
  | .error err => .error err 500
  | .ok ([], some err) => .error err 502
  | .ok (body, _) =>
    if response.contentLength > maxProxyResponseSize then .error "response too large" 502
    else .proxied response.status response.contentType (body.take maxProxyResponseSize)

structure Result (net : Net Url Glob) where
  contacted : List Url
  reply : Reply
  config : Config net

def externalProxy (config : Config net) (request : Request) (upstream : Upstream Url) : Result net :=
  if request.proxyURL = "" then ⟨[], .error "proxy URL is empty" 400, config⟩
  else match net.parse request.proxyURL with
  | .error err => ⟨[], .error ("The provided proxy URL is invalid: " ++ err) 400, config⟩
  | .ok url =>
    match proxyURLAllowed config (net.text url) with
    | .error _ => ⟨[], .error "failed to compile proxy URL patterns" 500, config⟩
    | .ok (false, config) => ⟨[], .error "no allowed proxy url match, request denied " 400, config⟩
    | .ok (true, config) =>
      match clientDo net upstream request.hasBody net.redirects [] (net.removeEmptyPort url) with
      | (contacted, .error err) => ⟨contacted, .error err 502, config⟩
      | (contacted, .ok response) => ⟨contacted, relay net response, config⟩

/-- The URLs that are contacted for one request after another. -/
def serve : Config net → List (Request × Upstream Url) → List Url
  | _, [] => []
  | config, (request, upstream) :: rest =>
    let result := externalProxy config request upstream
    result.contacted ++ serve result.config rest

/-! What should hold of them. -/

variable (net) in
def Allowed (patterns : List String) (url : Url) : Prop :=
  ∃ pattern ∈ patterns, ∃ glob, net.compile pattern = .ok glob ∧ net.isMatch glob (net.text url) = true

variable (net) in
/-- The URL that is contacted first, where the request is not denied. -/
def Request.target (patterns : List String) (request : Request) : Option Url :=
  if request.proxyURL = "" then none
  else match net.parse request.proxyURL, compileProxyURLPatterns net patterns with
  | .ok url, .ok globs =>
    if globs.any fun glob => net.isMatch glob (net.text url) then some (net.removeEmptyPort url) else none
  | _, _ => none

variable (net) in
def redirected (upstream : Upstream Url) (hasBody : Bool) (via : List Url) (url : Url) : Option Url :=
  match upstream (via ++ [url]) with
  | .failed _ => none
  | .response response => (redirectTo hasBody response).bind fun location => (net.resolve url location).toOption

/-- Redirects lead from the first URL to another. -/
inductive Leads (net : Net Url Glob) (upstream : Upstream Url) (hasBody : Bool) (first : Url) : List Url → Url → Prop
  | start : Leads net upstream hasBody first [] first
  | next {via url other} : Leads net upstream hasBody first via url → redirected net upstream hasBody via url = some other →
      Leads net upstream hasBody first (via ++ [url]) other

variable (net) in
/-- A request that is not denied goes to a URL that is allowed also without an empty port,
and none of the redirects that are followed leads from URLs that are allowed to another. -/
structure Stays (patterns : List String) (request : Request) (upstream : Upstream Url) : Prop where
  first : ∀ url, request.target net patterns = some url → Allowed net patterns url
  redirects : ∀ first via url next, request.target net patterns = some first →
    Leads net upstream request.hasBody first via url → via.length < net.redirects →
    (∀ before ∈ via ++ [url], Allowed net patterns before) → redirected net upstream request.hasBody via url = some next →
    Allowed net patterns next

/-! The patterns. -/

variable {config : Config net} {request : Request} {upstream : Upstream Url} {patterns : List String}

theorem proxyURLAllowed_ok {globs : List Glob} (compiles : compileProxyURLPatterns net config.proxyURLs = .ok globs)
    (text : String) : ∃ after : Config net,
      proxyURLAllowed config text = .ok (globs.any fun glob => net.isMatch glob text, after) ∧
        after.proxyURLs = config.proxyURLs := by
  unfold proxyURLAllowed compiled
  by_cases missing : config.compiledProxyURLs.isNone ∧ config.proxyURLs ≠ []
  · rw [if_pos missing]
    split
    next err again => cases compiles.symm.trans again
    next globs' again =>
      cases compiles.symm.trans again
      exact ⟨_, rfl, rfl⟩
  · rw [if_neg missing]
    refine ⟨config, ?_, rfl⟩
    cases known : config.compiledProxyURLs with
    | some globs' =>
      cases compiles.symm.trans (config.current globs' known)
      simp [known, Except.map]
    | none =>
      have empty : config.proxyURLs = [] := by simpa [known] using missing
      rw [empty] at compiles
      cases compiles
      simp [known, Except.map]

theorem proxyURLAllowed_error {err : String} (fails : compileProxyURLPatterns net config.proxyURLs = .error err)
    (text : String) : proxyURLAllowed config text = .error err := by
  have missing : config.compiledProxyURLs.isNone ∧ config.proxyURLs ≠ [] := by
    constructor
    · cases known : config.compiledProxyURLs with
      | none => rfl
      | some globs => cases fails.symm.trans (config.current globs known)
    · intro empty
      rw [empty] at fails
      cases fails
  unfold proxyURLAllowed compiled
  rw [if_pos missing]
  split
  next err' again =>
    cases fails.symm.trans again
    rfl
  next globs again => cases fails.symm.trans again

theorem externalProxy_contacted (config : Config net) (request : Request) (upstream : Upstream Url) :
    (externalProxy config request upstream).config.proxyURLs = config.proxyURLs ∧
      (externalProxy config request upstream).contacted =
        match request.target net config.proxyURLs with
        | none => []
        | some url => (clientDo net upstream request.hasBody net.redirects [] url).1 := by
  unfold externalProxy Request.target
  split
  next => exact ⟨rfl, rfl⟩
  next =>
    cases parsed : net.parse request.proxyURL with
    | error err => exact ⟨rfl, rfl⟩
    | ok url =>
      cases compiles : compileProxyURLPatterns net config.proxyURLs with
      | error err => simp [proxyURLAllowed_error compiles]
      | ok globs =>
        obtain ⟨after, allowed, same⟩ := proxyURLAllowed_ok compiles (net.text url)
        simp only [allowed]
        cases globs.any fun glob => net.isMatch glob (net.text url) with
        | false => exact ⟨same, rfl⟩
        | true =>
          rw [if_pos rfl]
          cases ran : clientDo net upstream request.hasBody net.redirects [] (net.removeEmptyPort url) with
          | mk contacted outcome =>
            cases outcome with
            | error err => exact ⟨same, by simp [ran]⟩
            | ok response => exact ⟨same, by simp [ran]⟩

/-! Redirects. -/

variable {hasBody : Bool} {first url next : Url} {via : List Url} {redirects : Nat}

theorem clientDo_last (none : redirected net upstream hasBody via url = none) :
    (clientDo net upstream hasBody redirects via url).1 = via ++ [url] := by
  unfold redirected at none
  rw [clientDo.eq_def]
  cases answer : upstream (via ++ [url]) with
  | failed err => simp only [answer]
  | response response =>
    cases given : redirectTo hasBody response with
    | none => simp only [answer, given]
    | some location =>
      cases resolved : net.resolve url location with
      | error err => simp only [answer, given, resolved]
      | ok next => simp [answer, given, resolved, Except.toOption] at none

theorem clientDo_next (redirects : Nat) (some : redirected net upstream hasBody via url = some next) :
    clientDo net upstream hasBody (redirects + 1) via url = clientDo net upstream hasBody redirects (via ++ [url]) next ∧
      (clientDo net upstream hasBody 0 via url).1 = via ++ [url] := by
  unfold redirected at some
  cases answer : upstream (via ++ [url]) with
  | failed err => simp [answer] at some
  | response response =>
    cases given : redirectTo hasBody response with
    | none => simp [answer, given] at some
    | some location =>
      cases resolved : net.resolve url location with
      | error err => simp [answer, given, resolved, Except.toOption] at some
      | ok other =>
        simp only [answer, given, Option.bind_some, resolved, Except.toOption, Option.some.injEq] at some
        subst some
        constructor
        · rw [clientDo]
          simp only [answer, given, resolved]
        · rw [clientDo]
          simp only [answer, given, resolved]

theorem mem_clientDo {before : Url} (member : before ∈ via ++ [url]) :
    before ∈ (clientDo net upstream hasBody redirects via url).1 := by
  induction redirects generalizing via url with
  | zero =>
    cases led : redirected net upstream hasBody via url with
    | none => rwa [clientDo_last led]
    | some next => rwa [(clientDo_next 0 led).2]
  | succ redirects ih =>
    cases led : redirected net upstream hasBody via url with
    | none => rwa [clientDo_last led]
    | some next =>
      rw [(clientDo_next redirects led).1]
      exact ih (List.mem_append_left _ member)

theorem clientDo_leads (leads : Leads net upstream hasBody first via url) (followed : via.length ≤ redirects) :
    clientDo net upstream hasBody redirects [] first = clientDo net upstream hasBody (redirects - via.length) via url := by
  induction leads with
  | start => rfl
  | @next via url other leads led ih =>
    rw [List.length_append, List.length_singleton] at followed
    have left : redirects - via.length = redirects - (via ++ [url]).length + 1 := by
      rw [List.length_append, List.length_singleton]
      omega
    rw [ih (by omega), left, (clientDo_next _ led).1]

theorem clientDo_allowed (allowed : Url → Prop) {limit : Nat} (leads : Leads net upstream hasBody first via url)
    (count : via.length + redirects = limit) (before : ∀ other ∈ via ++ [url], allowed other)
    (stays : ∀ via url next, Leads net upstream hasBody first via url → via.length < limit →
      (∀ other ∈ via ++ [url], allowed other) → redirected net upstream hasBody via url = some next → allowed next) :
    ∀ other ∈ (clientDo net upstream hasBody redirects via url).1, allowed other := by
  induction redirects generalizing via url with
  | zero =>
    cases led : redirected net upstream hasBody via url with
    | none => rwa [clientDo_last led]
    | some next => rwa [(clientDo_next 0 led).2]
  | succ redirects ih =>
    cases led : redirected net upstream hasBody via url with
    | none => rwa [clientDo_last led]
    | some next =>
      rw [(clientDo_next redirects led).1]
      apply ih (leads.next led)
      · rw [List.length_append, List.length_singleton]
        omega
      · intro other member
        rcases List.mem_append.mp member with old | new
        · exact before other old
        · rw [List.mem_singleton.mp new]
          exact stays via url next leads (by omega) before led

/-- All that is contacted is allowed exactly if the first URL is, and no redirect leads from allowed
URLs to another. -/
theorem clientDo_allowed_iff (allowed : Url → Prop) : (∀ other ∈ (clientDo net upstream hasBody redirects [] first).1, allowed other) ↔
    allowed first ∧ ∀ via url next, Leads net upstream hasBody first via url → via.length < redirects →
      (∀ other ∈ via ++ [url], allowed other) → redirected net upstream hasBody via url = some next → allowed next := by
  constructor
  · intro every
    refine ⟨every first (mem_clientDo (by simp)), fun via url next leads followed _ led => ?_⟩
    apply every
    rw [clientDo_leads (leads.next led) (by rw [List.length_append, List.length_singleton]; omega)]
    exact mem_clientDo (by simp)
  · intro ⟨start, stays⟩
    refine clientDo_allowed allowed .start (Nat.zero_add _) ?_ stays
    intro other member
    rwa [List.mem_singleton.mp member]

theorem contacted_allowed_iff (config : Config net) (request : Request) (upstream : Upstream Url) :
    (∀ url ∈ (externalProxy config request upstream).contacted, Allowed net config.proxyURLs url) ↔
      Stays net config.proxyURLs request upstream := by
  rw [(externalProxy_contacted config request upstream).2]
  cases target : request.target net config.proxyURLs with
  | none => exact iff_of_true (by simp) ⟨by simp [target], by simp [target]⟩
  | some first =>
    dsimp only
    rw [clientDo_allowed_iff]
    constructor
    · intro ⟨start, along⟩
      refine ⟨fun url is => ?_, fun first' via url next is leads followed before led => ?_⟩
      · cases target.symm.trans is
        exact start
      · cases target.symm.trans is
        exact along via url next leads followed before led
    · intro stays
      exact ⟨stays.first first target, fun via url next => stays.redirects first via url next target⟩

theorem serve_allowed_iff (config : Config net) (exchanges : List (Request × Upstream Url)) :
    (∀ url ∈ serve config exchanges, Allowed net config.proxyURLs url) ↔
      ∀ exchange ∈ exchanges, Stays net config.proxyURLs exchange.1 exchange.2 := by
  induction exchanges generalizing config with
  | nil => simp [serve]
  | cons exchange rest ih =>
    obtain ⟨request, upstream⟩ := exchange
    have rest := ih (externalProxy config request upstream).config
    rw [(externalProxy_contacted config request upstream).1] at rest
    simp only [serve, List.mem_append, or_imp, forall_and, List.forall_mem_cons, contacted_allowed_iff, rest]

theorem serve_nothing {config : Config net} (none : config.proxyURLs = []) (exchanges : List (Request × Upstream Url)) :
    serve config exchanges = [] := by
  induction exchanges generalizing config with
  | nil => rfl
  | cons exchange rest ih =>
    obtain ⟨request, upstream⟩ := exchange
    obtain ⟨kept, contacted⟩ := externalProxy_contacted config request upstream
    have denied : request.target net [] = Option.none := by
      unfold Request.target
      split
      next => rfl
      next => cases net.parse request.proxyURL <;> rfl
    rw [none, denied] at contacted
    rw [serve, contacted, ih (kept.trans none)]
    rfl

/-- All that is contacted for any requests matches a pattern, and nothing is contacted in
air-gapped mode, exactly if none of the requests is led away. -/
theorem contacts_within_iff (net : Net Url Glob) (config : Config net) (exchanges : List (Request × Upstream Url)) :
    ((∀ url ∈ serve config exchanges, Allowed net config.proxyURLs url) ∧
      ∀ airgapped after, applyAirGappedMode airgapped config = (true, after) → serve after exchanges = []) ↔
    ∀ exchange ∈ exchanges, Stays net config.proxyURLs exchange.1 exchange.2 := by
  rw [serve_allowed_iff, and_iff_left]
  intro airgapped after applied
  apply serve_nothing
  unfold applyAirGappedMode at applied
  split at applied
  next => cases applied
  next =>
    cases applied
    rfl

end

/-- URLs that are strings, and patterns that match themselves. -/
def plainNet : Net String String where
  compile := .ok
  isMatch glob url := glob = url
  parse := .ok
  text url := url
  removeEmptyPort url := url
  resolve _ location := .ok location
  gunzip body broken := .ok (body, broken)
  redirects := 9

def catalog : Config plainNet := ⟨false, ["https://artifacthub.io/"], none, true, true, nofun⟩

/-- The catalogue sends the client to an address of the perimeter. -/
def rebound : Upstream String := fun contacted =>
  .response ⟨if contacted.length = 1 then 302 else 200, "http://169.254.169.254/", "", "", 0, [], none⟩

theorem redirect_leaves : ¬∀ exchanges : List (Request × Upstream String),
    (∀ url ∈ serve catalog exchanges, Allowed plainNet catalog.proxyURLs url) ∧
      ∀ airgapped after, applyAirGappedMode airgapped catalog = (true, after) → serve after exchanges = [] := by
  intro within
  have contacted : serve catalog [(⟨"https://artifacthub.io/", "", false⟩, rebound)] =
      ["https://artifacthub.io/", "http://169.254.169.254/"] := by decide +kernel
  obtain ⟨pattern, member, glob, compiles, same⟩ := (within _).1 "http://169.254.169.254/" (by rw [contacted]; simp)
  cases List.mem_singleton.mp member
  cases compiles
  exact absurd same (by decide)

end K8Sense.Proxy
