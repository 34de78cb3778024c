import K8Sense.Cache.Expiring
import K8Sense.Cache.Key

/-! Cached responses: what of an upstream response is stored, under which
conditions, and what a hit writes back. -/

namespace K8Sense.Cache
open Text

universe u
variable {α : Type u}

abbrev Header := List (String × List String)

def Header.get (header : Header) (name : String) : String :=
  match header.lookup name with
  | some (value :: _) => value
  | _ => ""

def Header.set (header : Header) (name value : String) : Header :=
  header.filter (·.1 ≠ name) ++ [(name, [value])]

/-- `http.ResponseWriter` that records what the upstream answered. -/
structure ResponseCapture where
  statusCode : Nat
  header : Header
  body : List UInt8

structure CachedResponseData where
  statusCode : Nat
  headers : Header
  body : List UInt8

/-- The decoders that the cache calls: the gzip reader, and what is left of the
cached data after it has been written to JSON and read back. -/
structure Codec where
  gunzip : List UInt8 → Except String (List UInt8)
  json : CachedResponseData → CachedResponseData

def gzipEncoding : String := "gzip"

def getResponseBody (codec : Codec) (bodyBytes : List UInt8) (encoding : String) : Except String (List UInt8) :=
  if encoding = gzipEncoding then codec.gunzip bodyBytes else .ok bodyBytes

def filterHeaderForCache (responseHeaders : Header) (encoding : String) : Header :=
  responseHeaders.filter fun entry =>
    !(entry.1.toList.map Char.toLower = "content-encoding".toList && encoding = gzipEncoding)

/-- The bytes of `Failure`, by which an error status is recognised in a body. -/
def failureText : List UInt8 := [70, 97, 105, 108, 117, 114, 101]

/-- `strings.Contains(url.Path, "selfsubjectrulesreviews")`. -/
def isRulesReview (urlPath : String) : Bool :=
  contains urlPath.toList "selfsubjectrulesreviews".toList

def cacheTTL : Nat := 10 * 60 * 1000000000

/-- Store an upstream response. `entry` is the stored form of the data. -/
def storeK8sResponseInCache (codec : Codec) (entry : CachedResponseData → α) (urlPath : String) (rcw : ResponseCapture)
    (key : String) (now : Nat) (store : Store α) : Except String (Store α) :=
  if rcw.statusCode ≥ 500 then .ok store
  else
    let encoding := rcw.header.get "Content-Encoding"
    match getResponseBody codec rcw.body encoding with
    | .error err => .error err
    | .ok dcmpBody =>
      let headersToCache := filterHeaderForCache rcw.header encoding
      if isRulesReview urlPath then .ok store
      else if contains dcmpBody failureText then .ok store
      else .ok (store.setWithTTL key (entry (codec.json ⟨rcw.statusCode, headersToCache, dcmpBody⟩)) cacheTTL now)

/-- The response is one that is stored. -/
def isKept (codec : Codec) (urlPath : String) (rcw : ResponseCapture) : Bool :=
  rcw.statusCode < 500 && !isRulesReview urlPath &&
    match getResponseBody codec rcw.body (rcw.header.get "Content-Encoding") with
    | .ok dcmpBody => !contains dcmpBody failureText
    | .error _ => false

/-- Headers of a response served from the cache. -/
def setHeader (cacheData : CachedResponseData) : Header :=
  cacheData.headers.set "X-K8sense-Cache" "true"

def loadFromCache (store : Store α) (isAllowed : Bool) (key : String) (now : Nat) : Option α :=
  match store.get key now with
  | some k8Resource => if isAllowed then some k8Resource else none
  | none => none

/-- Keys that `deleteKeys` removes. -/
def purgedKeys (key : String) : List String :=
  key :: (stripNamespace key).toList

def deleteKeys (key : String) (store : Store α) : Store α :=
  match stripNamespace key with
  | none => store.delete key
  | some stripped => (store.delete key).delete stripped

theorem holds_deleteKeys {store : Store α} {key other : String} {value : α} :
    (deleteKeys key store).Holds other value ↔ other ∉ purgedKeys key ∧ store.Holds other value := by
  unfold deleteKeys purgedKeys
  cases stripNamespace key with
  | none => simp [Store.holds_delete]
  | some stripped =>
    simp only [Store.holds_delete, Option.toList_some, List.mem_cons, List.not_mem_nil, or_false, not_or]
    tauto

theorem deleteKeys_empty (key : String) : deleteKeys key (Store.empty : Store α) = Store.empty := by
  have deleted : ∀ key, (Store.empty : Store α).delete key = Store.empty := by
    intro key
    simp [Store.delete, Store.empty, Function.update_eq_self_iff]
  unfold deleteKeys
  split <;> simp only [deleted]

theorem holds_of_load {store : Store α} {isAllowed : Bool} {key : String} {now : Nat} {value : α}
    (served : loadFromCache store isAllowed key now = some value) : isAllowed = true ∧ store.Holds key value := by
  unfold loadFromCache at served
  split at served
  next found present =>
    split at served
    next allowed => cases served; exact ⟨allowed, Store.holds_of_get present⟩
    next => cases served
  next => cases served

theorem get_deleteKeys {store : Store α} {key other : String} (kept : other ∉ purgedKeys key) (now : Nat) :
    (deleteKeys key store).get other now = store.get other now := by
  unfold deleteKeys purgedKeys at *
  cases stripped : stripNamespace key with
  | none => simp_all [Store.get, Store.delete]
  | some first => simp_all [Store.get, Store.delete]

theorem store_cases {codec : Codec} {entry : CachedResponseData → α} {urlPath key : String} {rcw : ResponseCapture}
    {now : Nat} {store next : Store α} (stored : storeK8sResponseInCache codec entry urlPath rcw key now store = .ok next) :
    next = store ∨
      isKept codec urlPath rcw = true ∧ ∃ data, next = store.setWithTTL key (entry data) cacheTTL now := by
  by_cases failed : rcw.statusCode ≥ 500
  · simp only [storeK8sResponseInCache, failed, if_true, Except.ok.injEq] at stored
    exact Or.inl stored.symm
  cases decoded : getResponseBody codec rcw.body (rcw.header.get "Content-Encoding") with
  | error err => simp [storeK8sResponseInCache, failed, decoded] at stored
  | ok body =>
    simp only [storeK8sResponseInCache, failed, if_false, decoded] at stored
    split at stored
    next => exact Or.inl (Except.ok.inj stored).symm
    next unreviewed =>
      split at stored
      next => exact Or.inl (Except.ok.inj stored).symm
      next clean =>
        have kept : isKept codec urlPath rcw = true := by
          simp [isKept, decoded, unreviewed, clean]
          omega
        exact Or.inr ⟨kept, _, (Except.ok.inj stored).symm⟩

theorem isKept_unreviewed {codec : Codec} {urlPath : String} {rcw : ResponseCapture}
    (kept : isKept codec urlPath rcw = true) : isRulesReview urlPath = false := by
  simp only [isKept, Bool.and_eq_true, Bool.not_eq_true'] at kept
  exact kept.1.2

end K8Sense.Cache
