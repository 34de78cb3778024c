import K8Sense.Library.Text

/-! Reading of Kubernetes API paths: the questions that the cache asks about the
URL path of a request, and the resource request that the access review is
made for. -/

namespace K8Sense.Cache
open Text

def apiPathSegment : String := "api"

def apisPathSegment : String := "apis"

def namespacePathSegment : String := "namespaces"

/-- Position of the `api` or `apis` segment, directly or behind `/clusters/{name}`. -/
def kubernetesAPIPathIndex (parts : List String) : Option Nat :=
  if parts[1]? = some apiPathSegment ∨ parts[1]? = some apisPathSegment then some 1
  else if parts[1]? = some "clusters" ∧ (parts[3]? = some apiPathSegment ∨ parts[3]? = some apisPathSegment) then some 3
  else none

def segments (path : String) : List String :=
  split '/' (trimRight '/' path)

def isKubernetesAPIPath (path : String) : Bool :=
  (kubernetesAPIPathIndex (segments path)).isSome

/-- API group and version of a path. -/
def getAPIGroup (path : String) : Except String (String × String) :=
  let parts := segments path
  match kubernetesAPIPathIndex parts with
  | none => .error "invalid url format"
  | some apiIdx =>
    if parts[apiIdx]? = some apiPathSegment then .ok ("", parts.getD (apiIdx + 1) "")
    else .ok (parts.getD (apiIdx + 1) "", parts.getD (apiIdx + 2) "")

/-- The segment after the first `namespaces` segment. -/
def namespaceSegment : List String → String
  | segment :: following :: rest =>
    if segment = namespacePathSegment then following else namespaceSegment (following :: rest)
  | _ => ""

/-- Namespace and last segment of a path. -/
def extractNamespace (rawURL : String) : String × String :=
  let urls := segments (String.ofList (rawURL.toList.takeWhile (· ≠ '?')))
  match kubernetesAPIPathIndex urls with
  | none => ("", "")
  | some _ => (namespaceSegment urls, if urls.length > 2 then urls.getLastD "" else "")

def isDirectOrProxiedEndpoint (urlPath endpoint : String) : Bool :=
  let parts := split '/' urlPath
  parts.length = 2 ∧ parts[1]? = some endpoint ∨
    parts.length = 4 ∧ parts[1]? = some "clusters" ∧ parts[3]? = some endpoint

def isDirectOrProxiedAPIResourceEndpoint (urlPath group resource : String) : Bool :=
  let parts := split '/' urlPath
  parts.length = 5 ∧ parts[1]? = some apisPathSegment ∧ parts[2]? = some group ∧ parts[3]? ≠ some "" ∧
      parts[4]? = some resource ∨
    parts.length = 7 ∧ parts[1]? = some "clusters" ∧ parts[3]? = some apisPathSegment ∧ parts[4]? = some group ∧
      parts[5]? ≠ some "" ∧ parts[6]? = some resource

def isSelfSubjectReviewAPIPath (urlPath : String) : Bool :=
  let urlPath := trimRight '/' urlPath
  isDirectOrProxiedAPIResourceEndpoint urlPath "authorization.k8s.io" "selfsubjectaccessreviews" ||
    isDirectOrProxiedAPIResourceEndpoint urlPath "authorization.k8s.io" "selfsubjectrulesreviews"

/-- Paths outside the public, health and self-subject review endpoints. -/
def isAuthBypassURL (urlPath : String) : Bool :=
  let urlPath := trimRight '/' urlPath
  !(isDirectOrProxiedEndpoint urlPath "version" || isDirectOrProxiedEndpoint urlPath "healthz" ||
    isSelfSubjectReviewAPIPath urlPath)

structure APIResourceRequest where
  group : String
  version : String
  «namespace» : String
  resource : String
  name : String
  subresource : String
  deriving DecidableEq

def isNamespaceSubresource (subresource : String) : Bool :=
  subresource = "status" || subresource = "finalize"

/-- The part of the parser after the group and the version. -/
def resourceRequest (group version : String) : List String → Option APIResourceRequest
  | [] => none
  | first :: rest =>
    if first = namespacePathSegment ∧ rest.length = 2 ∧ isNamespaceSubresource (rest.getD 1 "") then
      some ⟨group, version, "", first, rest.getD 0 "", rest.getD 1 ""⟩
    else if first = namespacePathSegment ∧ rest.length ≥ 2 then
      some ⟨group, version, rest.getD 0 "", rest.getD 1 "", rest.getD 2 "", rest.getD 3 ""⟩
    else some ⟨group, version, "", first, rest.getD 0 "", rest.getD 1 ""⟩

def parseAPIResourceRequest (apiPath : String) : Option APIResourceRequest :=
  match split '/' (trim '/' apiPath) with
  | root :: rest =>
    if root = apiPathSegment then resourceRequest "" (rest.getD 0 "") (rest.drop 1)
    else if root = apisPathSegment then resourceRequest (rest.getD 0 "") (rest.getD 1 "") (rest.drop 2)
    else none
  | [] => none

/-- What the access review is asked about. The verb is left to the review. -/
def getResourceAttributes (apiPath : String) : Except String APIResourceRequest :=
  match parseAPIResourceRequest apiPath with
  | none => .error "could not determine resource or verb from request"
  | some request =>
    if request.resource = "" then .error "could not determine resource or verb from request"
    else .ok request

theorem trimRight_trimRight (cut : Char) (text : String) : trimRight cut (trimRight cut text) = trimRight cut text := by
  simp only [trimRight, String.toList_ofList]
  rw [List.rdropWhile_idempotent]

/-- An API path is neither the version nor the health endpoint, so a mutation
that gets past the review endpoints always purges. -/
theorem isAuthBypassURL_of_api {path : String} (api : isKubernetesAPIPath path = true)
    (review : isSelfSubjectReviewAPIPath path = false) : isAuthBypassURL path = true := by
  have outside : ∀ endpoint, endpoint ≠ apiPathSegment → endpoint ≠ apisPathSegment →
      isDirectOrProxiedEndpoint (trimRight '/' path) endpoint = false := by
    intro endpoint notAPI notAPIs
    simp only [isKubernetesAPIPath, kubernetesAPIPathIndex, segments] at api
    simp only [isDirectOrProxiedEndpoint, decide_eq_false_iff_not]
    rintro (⟨_, found⟩ | ⟨_, proxied, found⟩)
    · have short : (split '/' (trimRight '/' path))[3]? = none := by
        rw [List.getElem?_eq_none_iff]
        omega
      simp [found, short, notAPI, notAPIs] at api
    · have named : endpoint = apiPathSegment ∨ endpoint = apisPathSegment := by
        simpa [found, proxied, apiPathSegment, apisPathSegment] using api
      exact named.elim notAPI notAPIs
  have same : isSelfSubjectReviewAPIPath (trimRight '/' path) = isSelfSubjectReviewAPIPath path := by
    simp only [isSelfSubjectReviewAPIPath, trimRight_trimRight]
  simp [isAuthBypassURL, outside "version" (by decide) (by decide), outside "healthz" (by decide) (by decide),
    same, review]

example : extractNamespace "/clusters/c/api/v1/namespaces/ns/pods/web" = ("ns", "web") := by
  decide

end K8Sense.Cache
