import K8Sense.Library.Utf8
import K8Sense.Cache.Response

/-! What of an upstream response reaches the client of a later hit. -/

namespace K8Sense.Cache
open Text

/-- The cached data is written to JSON and read back: a body that is not UTF-8 comes
back repaired. -/
def jsonCodec (gunzip : List UInt8 → Except String (List UInt8)) : Codec where
  gunzip
  json data := { data with body := Utf8.repair data.body }

def Header.values (header : Header) (name : String) : List (List String) := (header.filter (·.1 = name)).map Prod.snd

/-- How the upstream has encoded the body. -/
def ResponseCapture.encoding (rcw : ResponseCapture) : String := rcw.header.get "Content-Encoding"

/-- The answer that `data` gives is that of the upstream: the status, the bytes as they
are after decoding, a `Content-Length` that counts the bytes sent, and the encoding
that these have. -/
structure Faithful (codec : Codec) (rcw : ResponseCapture) (data : CachedResponseData) : Prop where
  status : data.statusCode = rcw.statusCode
  body : getResponseBody codec rcw.body rcw.encoding = .ok data.body
  length : ∀ values ∈ (setHeader data).values "Content-Length", ∀ value ∈ values, value = toString data.body.length
  encoding : (setHeader data).values "Content-Encoding" =
    if rcw.encoding = gzipEncoding then [] else rcw.header.values "Content-Encoding"

variable {codec : Codec} {rcw : ResponseCapture} {name : String}

theorem values_setHeader (data : CachedResponseData) (other : name ≠ "X-K8sense-Cache") :
    (setHeader data).values name = data.headers.values name := by
  unfold setHeader Header.set Header.values
  rw [List.filter_append, List.filter_filter, List.filter_cons_of_neg (by simpa using other.symm), List.filter_nil, List.append_nil]
  congr 1
  apply List.filter_congr
  intro entry _
  by_cases named : entry.1 = name
  · simp [named, other]
  · simp [named]

/-- The header is left out of the cache. -/
def dropped (name encoding : String) : Bool := name.toList.map Char.toLower = "content-encoding".toList && encoding = gzipEncoding

theorem values_filter (header : Header) (encoding : String) :
    (filterHeaderForCache header encoding).values name = if dropped name encoding then [] else header.values name := by
  have alike : ∀ entry ∈ header, (decide (entry.1 = name) && !dropped entry.1 encoding) =
      (decide (entry.1 = name) && !dropped name encoding) := by
    intro entry _
    by_cases named : entry.1 = name
    · rw [named]
    · simp [named]
  change ((header.filter fun entry => !dropped entry.1 encoding).filter fun entry => entry.1 = name).map Prod.snd = _
  rw [List.filter_filter, List.filter_congr alike]
  cases dropped name encoding with
  | true => simp
  | false => simp [Header.values]

theorem served_data {urlPath key : String} {now later : Nat} {store next : Store CachedResponseData} {isAllowed : Bool}
    {data : CachedResponseData} (kept : isKept codec urlPath rcw = true)
    (stored : storeK8sResponseInCache codec id urlPath rcw key now store = .ok next)
    (served : loadFromCache next isAllowed key later = some data) : ∃ body, getResponseBody codec rcw.body rcw.encoding = .ok body ∧
      data = codec.json ⟨rcw.statusCode, filterHeaderForCache rcw.header rcw.encoding, body⟩ := by
  simp only [isKept, Bool.and_eq_true, Bool.not_eq_true', decide_eq_true_eq] at kept
  obtain ⟨⟨small, plain⟩, clean⟩ := kept
  unfold ResponseCapture.encoding
  cases decoded : getResponseBody codec rcw.body (rcw.header.get "Content-Encoding") with
  | error err => simp [decoded] at clean
  | ok body =>
    have free : contains body failureText = false := by simpa [decoded] using clean
    have filled : next = store.setWithTTL key
        (codec.json ⟨rcw.statusCode, filterHeaderForCache rcw.header (rcw.header.get "Content-Encoding"), body⟩) cacheTTL now := by
      unfold storeK8sResponseInCache at stored
      rw [if_neg (by omega)] at stored
      simp only [decoded, plain, free] at stored
      exact (Except.ok.inj stored).symm
    have held := (holds_of_load served).2
    rw [filled, Store.holds_setWithTTL] at held
    rcases held with ⟨_, same⟩ | ⟨other, _⟩
    · exact ⟨body, rfl, same⟩
    · exact absurd rfl other

/-- The decoded body is UTF-8, and a `Content-Length` of the upstream counts its
bytes. -/
structure Portable (codec : Codec) (rcw : ResponseCapture) : Prop where
  body : ∀ body, getResponseBody codec rcw.body rcw.encoding = .ok body → Utf8.valid body = true ∧
    ∀ values ∈ rcw.header.values "Content-Length", ∀ value ∈ values, value = toString body.length

/-- A hit answers as the upstream did exactly when the body of the upstream is UTF-8
and its length, if it is given, is the one that the body has when it is decoded. -/
theorem faithful_iff {gunzip : List UInt8 → Except String (List UInt8)} {urlPath key : String} {now later : Nat}
    {store next : Store CachedResponseData} {isAllowed : Bool} {data : CachedResponseData}
    (kept : isKept (jsonCodec gunzip) urlPath rcw = true)
    (stored : storeK8sResponseInCache (jsonCodec gunzip) id urlPath rcw key now store = .ok next)
    (served : loadFromCache next isAllowed key later = some data) :
    Faithful (jsonCodec gunzip) rcw data ↔ Portable (jsonCodec gunzip) rcw := by
  obtain ⟨body, decoded, rfl⟩ := served_data kept stored served
  have length : (setHeader ((jsonCodec gunzip).json ⟨rcw.statusCode, filterHeaderForCache rcw.header rcw.encoding, body⟩)).values
      "Content-Length" = rcw.header.values "Content-Length" := by
    rw [values_setHeader _ (by decide)]
    change (filterHeaderForCache rcw.header rcw.encoding).values "Content-Length" = _
    rw [values_filter]
    rfl
  constructor
  · intro ⟨_, same, counted, _⟩
    rw [length] at counted
    rw [decoded] at same
    have whole : Utf8.repair body = body := (Except.ok.inj same).symm
    refine ⟨?_⟩
    intro other found
    cases Except.ok.inj (decoded.symm.trans found)
    change ∀ values ∈ _, ∀ value ∈ values, value = toString (Utf8.repair body).length at counted
    rw [whole] at counted
    exact ⟨Utf8.repair_eq_iff.mp whole, counted⟩
  · intro portable
    obtain ⟨fine, counted⟩ := portable.body body decoded
    have whole := Utf8.repair_eq_iff.mpr fine
    refine ⟨rfl, ?_, ?_, ?_⟩
    · rw [decoded]
      exact congrArg Except.ok whole.symm
    · rw [length]
      change ∀ values ∈ _, ∀ value ∈ values, value = toString (Utf8.repair body).length
      rw [whole]
      exact counted
    · rw [values_setHeader _ (by decide)]
      change (filterHeaderForCache rcw.header rcw.encoding).values "Content-Encoding" = _
      have lower : "Content-Encoding".toList.map Char.toLower = "content-encoding".toList := by decide
      simp only [values_filter, dropped, lower, decide_true, Bool.true_and, decide_eq_true_eq]

/-- `{}`, as it is and compressed. -/
private def plainBody : List UInt8 := [123, 125]

private def zippedBody : List UInt8 := [31, 139, 8, 0, 0, 0, 0, 0, 2, 3, 171, 174, 5, 0, 67, 191, 166, 163, 2, 0, 0, 0]

private def gunzipped (bytes : List UInt8) : Except String (List UInt8) :=
  if bytes = zippedBody then .ok plainBody else .error "gzip: invalid header"

private def podsKey : String := "+pods++main"

private def plainResponse : ResponseCapture := ⟨200, [("Content-Length", ["2"])], plainBody⟩

private def filled : Store CachedResponseData :=
  Store.empty.setWithTTL podsKey ⟨200, [("Content-Length", ["2"])], plainBody⟩ cacheTTL 0

theorem plain_faithful : ∃ data, loadFromCache filled true podsKey 1 = some data ∧ Faithful (jsonCodec gunzipped) plainResponse data := by
  have kept : isKept (jsonCodec gunzipped) "/api/v1/pods" plainResponse = true := by decide +kernel
  have stored : storeK8sResponseInCache (jsonCodec gunzipped) id "/api/v1/pods" plainResponse podsKey 0 Store.empty = .ok filled := rfl
  have served : loadFromCache filled true podsKey 1 = some ⟨200, [("Content-Length", ["2"])], plainBody⟩ := rfl
  refine ⟨_, served, (faithful_iff kept stored served).mpr ⟨?_⟩⟩
  intro body decoded
  cases Except.ok.inj decoded
  decide

/-- A compressed answer whose length is given, as an API server sends it. -/
theorem zipped_length_wrong : ¬∀ codec rcw urlPath key now later (store next : Store CachedResponseData) isAllowed data,
    isKept (jsonCodec codec) urlPath rcw = true → storeK8sResponseInCache (jsonCodec codec) id urlPath rcw key now store = .ok next →
    loadFromCache next isAllowed key later = some data → Faithful (jsonCodec codec) rcw data := by
  intro all
  have faithful := all gunzipped ⟨200, [("Content-Encoding", ["gzip"]), ("Content-Length", ["22"])], zippedBody⟩ "/api/v1/pods" podsKey
    0 1 Store.empty _ true _ (by decide +kernel) rfl rfl
  have counted := faithful.length ["22"] (by decide) "22" (by decide)
  revert counted
  decide

/-- A body that is not UTF-8 is not what is sent. -/
example : ((jsonCodec gunzipped).json ⟨200, [], [0xff]⟩).body = [0xef, 0xbf, 0xbd] := by
  decide

end K8Sense.Cache
