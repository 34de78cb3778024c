import K8Sense.Library.Urls
import K8Sense.Proxy.External

/-! The proxy for services of a cluster, and which URLs the server contacts for it. The parsing
of URLs and what the services answer come from outside. -/

namespace K8Sense.Proxy.ServiceProxy
open Urls (Url Host)

structure ServicePort where
  name : String
  port : Int

structure Service where
  name : String
  «namespace» : String
  externalName : String
  ports : List ServicePort

structure ProxyService where
  isExternal : Bool
  port : Int
  name : String
  «namespace» : String
  scheme : String
  uriPrefix : String

def getPort (ports : List ServicePort) : Except String ServicePort :=
  match ports.find? (·.name = "https") with
  | some port => .ok port
  | none =>
    match ports.find? (·.name = "http") with
    | some port => .ok port
    | none => .error "no port found with the name http or https"

def getServiceURLPrefix (isExternal : Bool) (scheme name ns : String) (port : Int) (service : Service) : String :=
  if isExternal then scheme ++ "://" ++ service.externalName ++ ":" ++ toString port
  else scheme ++ "://" ++ name ++ "." ++ ns ++ ":" ++ toString port

def getService (service : Service) : Except String ProxyService :=
  let isExternal : Bool := service.externalName ≠ ""
  match getPort service.ports with
  | .error err => .error err
  | .ok port =>
    let scheme := if port.name = "http" then "http" else "https"
    .ok {
      isExternal
      port := port.port
      name := service.name
      «namespace» := service.namespace
      scheme
      uriPrefix := getServiceURLPrefix isExternal scheme service.name service.namespace port.port service }

/-- What is written to the client, and the error that the proxy logs. -/
structure Reply where
  written : Option (Nat × String × List UInt8)
  error : Option String

def streamResponseBody (response : Response) : Reply :=
  match response.body, response.broken with
  | [], some err => ⟨none, some ("streaming response: " ++ err)⟩
  | body, broken => ⟨some (response.status, response.contentType, body), broken.map ("streaming response: " ++ ·)⟩

def Contactable (url : Url) : Prop := (url.scheme = "http" ∨ url.scheme = "https") ∧ url.host.isSome

instance (url : Url) : Decidable (Contactable url) := inferInstanceAs (Decidable (_ ∧ _))

/-- The transport of a client, which refuses some URLs without connecting anywhere. -/
def transport (upstream : Upstream Url) : Upstream Url := fun sent =>
  match sent.getLast? with
  | none => upstream sent
  | some url =>
    if url.scheme ≠ "http" ∧ url.scheme ≠ "https" then .failed ("unsupported protocol scheme " ++ url.scheme.quote)
    else if url.host = none then .failed "http: no Host in request URL"
    else upstream sent

section
variable (parse : String → Except String Url)

/-- The client of a request: neither patterns nor compressed bodies, and ten requests
at most. -/
def net : Net Url Unit where
  compile _ := .ok ()
  isMatch _ _ := true
  parse := parse
  text url := url.path
  removeEmptyPort := Url.removeEmptyPort
  resolve url location := (parse location).map url.resolveReference
  gunzip body broken := .ok (body, broken)
  redirects := 9

/-- What is contacted, and what comes of it. The text of the URL is parsed to the same URL. -/
def httpGetStream (upstream : Upstream Url) (url : Url) : List Url × Reply :=
  match clientDo (net parse) (transport upstream) false 9 [] url.removeEmptyPort with
  | (sent, .error err) => (sent.filter (Contactable ·), ⟨none, some ("failed HTTP GET: " ++ err)⟩)
  | (sent, .ok response) => (sent.filter (Contactable ·), streamResponseBody response)

/-- The request URI with its path cleaned. -/
def cleanRel (rel : Url) : Url := if rel.path ≠ "" then { rel with path := Urls.clean rel.path } else rel

def traverses (rel : Url) : Bool :=
  rel.path ≠ "" && (Urls.clean rel.path = ".." || "../".toList.isPrefixOf (Urls.clean rel.path).toList)

/-- The request URI names a host, or more. -/
def Absolute (rel : Url) : Prop := rel.scheme ≠ "" ∨ rel.host.isSome ∨ rel.user.isSome

instance (rel : Url) : Decidable (Absolute rel) := inferInstanceAs (Decidable (_ ∨ _))

/-- `Connection.Get`. -/
def get (upstream : Upstream Url) (uri requestURI : String) : List Url × Reply :=
  match parse uri with
  | .error err => ([], ⟨none, some ("invalid host uri: " ++ err)⟩)
  | .ok base =>
    match parse requestURI with
    | .error err => ([], ⟨none, some ("invalid request uri: " ++ err)⟩)
    | .ok rel =>
      if Absolute rel then ([], ⟨none, some "request uri must be a relative path"⟩)
      else if traverses rel then ([], ⟨none, some "request uri must not traverse above base path"⟩)
      else httpGetStream parse upstream (base.resolveReference (cleanRel rel))

/-- The part of `RequestHandler` from the service on. -/
def requestService (upstream : Upstream Url) (service : Service) (requestURI : String) : List Url × Reply :=
  match getService service with
  | .error err => ([], ⟨none, some err⟩)
  | .ok ps => get parse upstream ps.uriPrefix requestURI

/-! What should hold of it. -/

/-- The URL that the prefix of a service stands for. -/
def serviceUrl (service : Service) (ps : ProxyService) : Url where
  scheme := ps.scheme
  user := none
  host := some ⟨if ps.isExternal then service.externalName else ps.name ++ "." ++ ps.namespace, some (toString ps.port)⟩
  path := ""
  rawPath := none
  query := none
  rest := ""

/-- A prefix that can be parsed is parsed into its scheme, its host and its port. -/
def ParsesPrefix (service : Service) : Prop :=
  ∀ ps base, getService service = .ok ps → parse ps.uriPrefix = .ok base → base = serviceUrl service ps

/-- The URL is one of the service, and does not lead above its root. -/
def Contained (service : Service) (url : Url) : Prop :=
  ∃ ps, getService service = .ok ps ∧ url.origin = (serviceUrl service ps).origin ∧ ¬Urls.Climbs url.path

structure Guarded (upstream : Upstream Url) (service : Service) (requestURI : String) : Prop where
  contained : ∀ url ∈ (requestService parse upstream service requestURI).1, Contained service url
  rejected : ∀ rel, parse requestURI = .ok rel → Absolute rel →
    (requestService parse upstream service requestURI).1 = [] ∧ (requestService parse upstream service requestURI).2.written = none ∧
      (requestService parse upstream service requestURI).2.error.isSome

/-- The URL that a request is sent to first, if it is sent. -/
def target (service : Service) (requestURI : String) : Option Url :=
  match getService service, parse requestURI with
  | .ok ps, .ok rel =>
    if (parse ps.uriPrefix).toOption.isNone ∨ Absolute rel ∨ traverses rel then none
    else some ((serviceUrl service ps).resolveReference (cleanRel rel)).removeEmptyPort
  | _, _ => none

/-- No redirect that is followed leads from URLs of the service to another URL that can be contacted. -/
def Stays (upstream : Upstream Url) (service : Service) (requestURI : String) : Prop :=
  ∀ first via url next, target parse service requestURI = some first →
    Leads (net parse) (transport upstream) false first via url → via.length < 9 →
    (∀ before ∈ via ++ [url], Contactable before → Contained service before) →
    redirected (net parse) (transport upstream) false via url = some next → Contactable next → Contained service next

end

variable {parse : String → Except String Url} {service : Service} {ps : ProxyService} {rel : Url} {requestURI : String}

/-- The reference that is resolved has no part that leads up, encoded or not. -/
theorem level_cleanRel (relative : traverses rel = false) : Urls.Level (cleanRel rel).path := by
  unfold cleanRel
  unfold traverses at relative
  split
  · next path =>
    apply Urls.level_clean
    rw [← List.isPrefixOf_iff_prefix]
    rintro (up | above)
    · simp [path, up] at relative
    · simp only [above, Bool.or_true, Bool.and_true, decide_eq_false_iff_not] at relative
      exact relative path
  · next blank =>
    rw [not_not.mp blank]
    decide

theorem cleanRel_fields (rel : Url) : (cleanRel rel).scheme = rel.scheme ∧ (cleanRel rel).host = rel.host ∧ (cleanRel rel).user = rel.user ∧
    (cleanRel rel).rest = rel.rest := by
  unfold cleanRel
  split
  all_goals exact ⟨rfl, rfl, rfl, rfl⟩

theorem contained_first (found : getService service = .ok ps) (relative : ¬Absolute rel) (inside : traverses rel = false)
    (contactable : Contactable ((serviceUrl service ps).resolveReference (cleanRel rel)).removeEmptyPort) :
    Contained service ((serviceUrl service ps).resolveReference (cleanRel rel)).removeEmptyPort := by
  obtain ⟨scheme, host, user, rest⟩ := cleanRel_fields rel
  have level := level_cleanRel inside
  unfold Absolute at relative
  rw [← scheme, ← host, ← user] at relative
  unfold Contained
  rw [Urls.origin_removeEmptyPort]
  rw [Url.resolveReference, if_neg relative] at contactable ⊢
  split at contactable
  · exact absurd contactable.2 Bool.false_ne_true
  · next opaqueFree =>
    rw [if_neg opaqueFree]
    refine ⟨ps, found, ?_, Urls.not_climbs ?_⟩
    · simp [Url.origin, Url.setPath, serviceUrl]
    · have pathless : (serviceUrl service ps).path = "" ∧ (serviceUrl service ps).rest = "" := ⟨rfl, rfl⟩
      rw [if_neg fun blank => blank.2 pathless.2]
      have escaped : (serviceUrl service ps).escapedPath = [[]] := rfl
      change Urls.Level (Urls.decode (Urls.resolvePath (serviceUrl service ps).escapedPath (cleanRel rel).escapedPath))
      rw [escaped]
      exact Urls.level_resolvePath (by rwa [Urls.decode_escapedPath])

theorem contained_target {first : Url} (aimed : target parse service requestURI = some first) (contactable : Contactable first) :
    Contained service first := by
  unfold target at aimed
  split at aimed
  · next ps rel found given =>
    split at aimed
    · cases aimed
    · next sends =>
      cases aimed
      simp only [not_or] at sends
      exact contained_first found sends.2.1 (Bool.eq_false_iff.mpr sends.2.2) contactable
  · cases aimed

theorem httpGetStream_contacted (upstream : Upstream Url) (url : Url) : (httpGetStream parse upstream url).1 =
    (clientDo (net parse) (transport upstream) false 9 [] url.removeEmptyPort).1.filter (Contactable ·) := by
  unfold httpGetStream
  split
  · next sent err ran => rw [ran]
  · next sent response ran => rw [ran]

theorem requestService_contacted (parses : ParsesPrefix parse service) (upstream : Upstream Url) (requestURI : String) :
    (requestService parse upstream service requestURI).1 =
      match target parse service requestURI with
      | none => []
      | some first => (clientDo (net parse) (transport upstream) false 9 [] first).1.filter (Contactable ·) := by
  unfold requestService target
  cases found : getService service with
  | error err => rfl
  | ok ps =>
    simp only [get]
    cases parsed : parse ps.uriPrefix with
    | error err => cases parse requestURI <;> simp [Except.toOption, parsed]
    | ok base =>
      obtain rfl := parses ps base found parsed
      cases given : parse requestURI with
      | error err => rfl
      | ok rel =>
        simp only [Except.toOption]
        by_cases relative : Absolute rel
        · simp [relative]
        · by_cases inside : traverses rel = true
          · simp [relative, inside]
          · simp [parsed, relative, inside, httpGetStream_contacted]

theorem rejects (parsed : parse requestURI = .ok rel) (absolute : Absolute rel) (upstream : Upstream Url) :
    (requestService parse upstream service requestURI).1 = [] ∧ (requestService parse upstream service requestURI).2.written = none ∧
      (requestService parse upstream service requestURI).2.error.isSome := by
  unfold requestService
  cases getService service with
  | error err => exact ⟨rfl, rfl, rfl⟩
  | ok ps =>
    simp only [get]
    cases parse ps.uriPrefix with
    | error err => exact ⟨rfl, rfl, rfl⟩
    | ok base =>
      rw [parsed]
      simp [absolute]

/-- A request URI cannot lead a request away from its service, so that all that is contacted is the
service exactly if no redirect leads away from it. -/
theorem guarded_iff (parse : String → Except String Url) (upstream : Upstream Url) (service : Service) (requestURI : String)
    (parses : ParsesPrefix parse service) : Guarded parse upstream service requestURI ↔ Stays parse upstream service requestURI := by
  have contacted : (∀ url ∈ (requestService parse upstream service requestURI).1, Contained service url) ↔
      Stays parse upstream service requestURI := by
    rw [requestService_contacted parses]
    cases aimed : target parse service requestURI with
    | none => exact iff_of_true (fun _ member => nomatch member) fun _ _ _ _ is => nomatch aimed.symm.trans is
    | some first =>
      simp only [List.mem_filter, decide_eq_true_eq, and_imp]
      rw [clientDo_allowed_iff fun url => Contactable url → Contained service url, and_iff_right (contained_target aimed)]
      constructor
      · intro along first' via url next is leads followed before led
        cases aimed.symm.trans is
        exact along via url next leads followed before led
      · intro stays via url next
        exact stays first via url next aimed
  constructor
  · intro guarded
    exact contacted.mp guarded.contained
  · intro stays
    exact ⟨contacted.mpr stays, fun rel parsed absolute => rejects parsed absolute upstream⟩

def api : Service := ⟨"api", "default", "", [⟨"http", 80⟩]⟩

def metadata : Url := ⟨"http", none, some ⟨"metadata.internal", none⟩, "/token", none, none, ""⟩

/-- The parsing of three URLs. -/
def parseUrl (text : String) : Except String Url :=
  if text = "http://api.default:80" then .ok ⟨"http", none, some ⟨"api.default", some "80"⟩, "", none, none, ""⟩
  else if text = "/items" then .ok ⟨"", none, none, "/items", none, none, ""⟩
  else if text = "http://metadata.internal/token" then .ok metadata
  else .error "missing protocol scheme"

theorem parseUrl_prefix : ParsesPrefix parseUrl api := by
  intro ps base found parsed
  cases found
  exact (Except.ok.inj parsed).symm

/-- The service sends the client to a host next to it. -/
def redirecting : Upstream Url := fun sent =>
  if sent.length = 1 then .response ⟨302, "http://metadata.internal/token", "", "", 0, [], none⟩
  else .response ⟨200, "", "text/plain", "", 6, "secret".toUTF8.toList, none⟩

theorem guarded_api : Guarded parseUrl redirecting api "/items" ↔ Stays parseUrl redirecting api "/items" :=
  guarded_iff parseUrl redirecting api "/items" parseUrl_prefix

/-- What is contacted after a redirect need not be the service. -/
theorem redirect_followed : ¬Guarded parseUrl redirecting api "/items" := by
  intro guarded
  have followed : metadata ∈ (requestService parseUrl redirecting api "/items").1 := by decide +kernel
  obtain ⟨ps, found, origin, _⟩ := guarded.contained metadata followed
  cases found
  exact absurd origin (by decide +kernel)

end K8Sense.Proxy.ServiceProxy
