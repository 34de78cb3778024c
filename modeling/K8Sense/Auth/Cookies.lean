import K8Sense.Library.Transition
import K8Sense.Library.Text
import Mathlib.Data.List.Nodup
import Mathlib.Data.List.Perm.Subperm

/-! Tokens in cookies: split over as many as they need, joined again when they are
read, and cleared before others are written. -/

namespace K8Sense.Auth.Cookies
open Text Transition

abbrev Bytes := List UInt8

def chunkSize : Nat := 3800

def getCookiePath (baseURL cluster : String) : String :=
  if baseURL ≠ "" then "/" ++ trim '/' baseURL ++ "/clusters/" ++ cluster else "/clusters/" ++ cluster

def isNameChar (char : Char) : Bool :=
  'a' ≤ char && char ≤ 'z' || 'A' ≤ char && char ≤ 'Z' || '0' ≤ char && char ≤ '9' || char = '-' || char = '_'

def sanitizeClusterName (cluster : String) : String :=
  String.ofList ((cluster.toList.filter isNameChar).take 50)

structure Cookie where
  name : String
  value : Bytes
  path : String
  maxAge : Int
  secure : Bool
  httpOnly : Bool := true
  sameSiteStrict : Bool := true
  deriving DecidableEq

def cookieName (sanitizedCluster : String) (i : Nat) : String :=
  "headlamp-auth-" ++ sanitizedCluster ++ "." ++ toString i

/-! What `net/http` and the browser make of cookies. -/

/-- Bytes of other kinds are left out of a cookie's value. -/
def validCookieValueByte (byte : UInt8) : Bool :=
  0x20 ≤ byte && byte < 0x7f && byte ≠ 0x22 && byte ≠ 0x3b && byte ≠ 0x5c

/-- A value with blanks or commas is quoted. -/
def sanitizeCookieValue (value : Bytes) : Bytes :=
  let kept := value.filter validCookieValueByte
  if kept.contains 0x20 || kept.contains 0x2c then 0x22 :: kept ++ [0x22] else kept

def parseCookieValue (raw : Bytes) : Option Bytes :=
  let value := if 1 < raw.length && raw.head? = some 0x22 && raw.getLast? = some 0x22 then raw.tail.dropLast else raw
  if value.all validCookieValueByte then some value else none

structure Stored where
  name : String
  path : String
  value : Bytes
  deriving DecidableEq

/-- A cookie is told from others by its name and path. One whose age is negative is
removed. -/
def receive (jar : List Stored) (cookie : Cookie) : List Stored :=
  let others := jar.filter fun stored => ¬(stored.name = cookie.name ∧ stored.path = cookie.path)
  if cookie.maxAge < 0 then others else others ++ [⟨cookie.name, cookie.path, sanitizeCookieValue cookie.value⟩]

/-- `r.Cookie`: the first that has the name and can be read. -/
def requestCookie (jar : List Stored) (name : String) : Option Bytes :=
  jar.findSome? fun stored => if stored.name = name then parseCookieValue stored.value else none

/-! The handlers. -/

structure Server where
  baseURL : String
  sessionTTL : Nat
  lasts : 0 < sessionTTL

/-- The values of the numbered cookies of a cluster, up to the first number that is
not there. -/
def cookieChunks (jar : List Stored) (sanitizedCluster : String) : (fuel i : Nat) → List Bytes
  | 0, _ => []
  | fuel + 1, i =>
    match requestCookie jar (cookieName sanitizedCluster i) with
    | none => []
    | some value => value :: cookieChunks jar sanitizedCluster fuel (i + 1)

/-- There are no more numbers than cookies. -/
def chunksOf (jar : List Stored) (sanitizedCluster : String) : List Bytes :=
  cookieChunks jar sanitizedCluster (jar.length + 1) 0

def splitToken (token : Bytes) (size : Nat) : List Bytes :=
  (List.range ((token.length + size - 1) / size)).map fun i => (token.drop (i * size)).take size

def clearTokenCookie (server : Server) (secure : Bool) (jar : List Stored) (cluster : String) : List Cookie :=
  let sanitizedCluster := sanitizeClusterName cluster
  if sanitizedCluster = "" then []
  else (List.range (chunksOf jar sanitizedCluster).length).map fun i => {
    name := cookieName sanitizedCluster i
    value := []
    path := getCookiePath server.baseURL cluster
    maxAge := -1
    secure }

def setTokenCookie (server : Server) (secure : Bool) (jar : List Stored) (cluster : String) (token : Bytes) : List Cookie :=
  let sanitizedCluster := sanitizeClusterName cluster
  if cluster = "" ∨ token = [] then []
  else if sanitizedCluster = "" then []
  else clearTokenCookie server secure jar cluster ++ (splitToken token chunkSize).mapIdx fun i chunk => {
    name := cookieName sanitizedCluster i
    value := chunk
    path := getCookiePath server.baseURL cluster
    maxAge := server.sessionTTL
    secure }

def getTokenFromCookie (jar : List Stored) (cluster : String) : Except String Bytes :=
  let sanitizedCluster := sanitizeClusterName cluster
  if sanitizedCluster = "" then .error "invalid cluster name"
  else .ok (chunksOf jar sanitizedCluster).flatten

inductive Op where
  | set (token : Bytes)
  | clear

/-- A call, for a cluster, on a request over TLS or another. -/
structure Call where
  cluster : String
  op : Op
  secure : Bool

/-- The cookies of the response to a request that carries the jar. -/
def Call.cookies (server : Server) (jar : List Stored) (call : Call) : List Cookie :=
  match call.op with
  | .set token => setTokenCookie server call.secure jar call.cluster token
  | .clear => clearTokenCookie server call.secure jar call.cluster

def step (server : Server) (jar : List Stored) (call : Call) : Option (List Stored) :=
  some ((call.cookies server jar).foldl receive jar)

/-- The token that is to be found for a cluster after a call. -/
def Call.leaves (call : Call) (cluster : String) (token : Bytes) : Bytes :=
  if call.cluster = cluster then
    match call.op with
    | .set [] => token
    | .set other => other
    | .clear => []
  else token

def tokenAfter (calls : List Call) (cluster : String) : Bytes :=
  calls.foldl (fun token call => call.leaves cluster token) []

variable {server : Server} {secure : Bool} {jar : List Stored} {cluster sanitizedCluster : String} {token : Bytes}

/-! Names. -/

theorem dot_notMem (cluster : String) : '.' ∉ (sanitizeClusterName cluster).toList := by
  intro member
  rw [sanitizeClusterName, String.toList_ofList] at member
  have allowed := List.of_mem_filter (List.mem_of_mem_take member)
  exact absurd allowed (by decide)

theorem cookieName_injective {first second : String} {i j : Nat} (free : '.' ∉ first.toList) (otherFree : '.' ∉ second.toList)
    (same : cookieName first i = cookieName second j) : first = second ∧ i = j := by
  have joined (name : String) (index : Nat) : (cookieName name index).toList =
      "headlamp-auth-".toList ++ (join '.' [name, toString index]).toList := by
    have named : cookieName name index = "headlamp-auth-" ++ name ++ "." ++ toString index := by delta cookieName; rfl
    rw [join_cons (List.cons_ne_nil _ _), join_singleton, named]
    simp
  have chars := congrArg String.toList same
  rw [joined, joined] at chars
  have rest := String.toList_injective (List.append_cancel_left chars)
  obtain ⟨names, numbers⟩ := join_cons_injective (by simp) (by simp) free otherFree rest
  rw [join_singleton, join_singleton] at numbers
  exact ⟨names, toString_injective numbers⟩

/-! What is read of a value that was written. -/

theorem parse_sanitize (value : Bytes) : parseCookieValue (sanitizeCookieValue value) = some (value.filter validCookieValueByte) := by
  have valid : (value.filter validCookieValueByte).all validCookieValueByte = true := by
    rw [List.all_eq_true]
    exact fun byte member => List.of_mem_filter member
  unfold sanitizeCookieValue
  dsimp only
  generalize value.filter validCookieValueByte = kept at valid
  have unquoted : kept.head? ≠ some 0x22 := by
    intro head
    have quote := List.all_eq_true.mp valid _ (List.mem_of_mem_head? head)
    exact absurd quote (by decide)
  split
  next =>
    have last : (0x22 :: (kept ++ [0x22])).getLast? = some 0x22 := by rw [← List.cons_append, List.getLast?_concat]
    have inside : (0x22 :: (kept ++ [0x22])).tail.dropLast = kept := by rw [List.tail_cons, List.dropLast_concat]
    simp only [parseCookieValue, List.cons_append, last, inside]
    simp [valid]
  next => simp only [parseCookieValue, unquoted, decide_false, Bool.and_false, Bool.false_and, Bool.false_eq_true, if_false, valid, if_true]

/-! Parts of a token. -/

theorem length_of_mem_splitToken {size : Nat} {chunk : Bytes} (member : chunk ∈ splitToken token size) : chunk.length ≤ size := by
  obtain ⟨i, _, rfl⟩ := List.mem_map.mp member
  rw [List.length_take]
  exact Nat.min_le_left size _

theorem splitToken_flatten {size : Nat} (positive : 0 < size) : (splitToken token size).flatten = token := by
  have front (count : Nat) : ((List.range count).map fun i => (token.drop (i * size)).take size).flatten =
      token.take (count * size) := by
    induction count with
    | zero => simp
    | succ count ih =>
      rw [List.range_succ, List.map_append, List.flatten_append, ih, Nat.succ_mul, List.take_add]
      simp
  rw [splitToken, front]
  apply List.take_of_length_le
  have enough := Nat.lt_mul_div_succ (token.length + size - 1) positive
  rw [Nat.mul_succ, Nat.mul_comm] at enough
  omega

/-! The loop over the numbers of a cluster. -/

theorem cookieChunks_eq {chunks : List Bytes} {fuel start : Nat} (enough : chunks.length < fuel)
    (reads : ∀ i, requestCookie jar (cookieName sanitizedCluster (start + i)) = chunks[i]?) :
    cookieChunks jar sanitizedCluster fuel start = chunks := by
  induction chunks generalizing fuel start with
  | nil =>
    obtain ⟨fuel, rfl⟩ := Nat.exists_eq_add_of_lt enough
    have absent : requestCookie jar (cookieName sanitizedCluster start) = none := reads 0
    simp [cookieChunks, absent]
  | cons chunk chunks ih =>
    cases fuel with
    | zero => exact absurd enough (Nat.not_lt_zero _)
    | succ fuel =>
      have here : requestCookie jar (cookieName sanitizedCluster start) = some chunk := reads 0
      have later : cookieChunks jar sanitizedCluster fuel (start + 1) = chunks := by
        apply ih (Nat.lt_of_succ_lt_succ enough)
        intro i
        rw [Nat.add_assoc, Nat.add_comm 1 i]
        exact reads (i + 1)
      rw [cookieChunks, here, later]

theorem requestCookie_named {name : String} (found : (requestCookie jar name).isSome) : name ∈ jar.map Stored.name := by
  rw [requestCookie, List.findSome?_isSome_iff] at found
  obtain ⟨stored, member, some⟩ := found
  by_cases named : stored.name = name
  · exact List.mem_map.mpr ⟨stored, member, named⟩
  · simp [named] at some

/-! The cookies of one cluster. -/

open Classical in
/-- The cookies that are numbered for the cluster. -/
noncomputable def own (sanitizedCluster : String) (jar : List Stored) : List Stored :=
  jar.filter fun stored => ∃ i, stored.name = cookieName sanitizedCluster i

def storedChunks (server : Server) (cluster : String) (token : Bytes) : List Stored :=
  (splitToken token chunkSize).mapIdx fun i chunk =>
    ⟨cookieName (sanitizeClusterName cluster) i, getCookiePath server.baseURL cluster, sanitizeCookieValue chunk⟩

theorem own_receive {cookie : Cookie} {i : Nat} (named : cookie.name = cookieName sanitizedCluster i) :
    own sanitizedCluster (receive jar cookie) = receive (own sanitizedCluster jar) cookie := by
  unfold own receive
  split
  next => rw [List.filter_filter, List.filter_filter]; exact List.filter_congr fun _ _ => Bool.and_comm _ _
  next =>
    rw [List.filter_append, List.filter_filter, List.filter_filter]
    congr 1
    · exact List.filter_congr fun _ _ => Bool.and_comm _ _
    · simp [named]

theorem own_receive_other {cookie : Cookie} (other : ∀ i, cookie.name ≠ cookieName sanitizedCluster i) :
    own sanitizedCluster (receive jar cookie) = own sanitizedCluster jar := by
  have stays : own sanitizedCluster (jar.filter fun stored => ¬(stored.name = cookie.name ∧ stored.path = cookie.path)) =
      own sanitizedCluster jar := by
    rw [own, own, List.filter_filter]
    apply List.filter_congr
    intro stored _
    have apart : (∃ i, stored.name = cookieName sanitizedCluster i) → stored.name ≠ cookie.name := by
      intro ⟨i, named⟩ same
      exact other i (same ▸ named)
    by_cases mine : ∃ i, stored.name = cookieName sanitizedCluster i
    · simp [mine, apart mine]
    · simp [mine]
  unfold receive
  split
  next => exact stays
  next =>
    rw [own, List.filter_append]
    rw [own] at stays
    rw [stays]
    simp [other, own]

theorem own_foldl {cookies : List Cookie} (named : ∀ cookie ∈ cookies, ∃ i, cookie.name = cookieName sanitizedCluster i) :
    own sanitizedCluster (cookies.foldl receive jar) = cookies.foldl receive (own sanitizedCluster jar) := by
  induction cookies generalizing jar with
  | nil => rfl
  | cons cookie cookies ih =>
    rw [List.forall_mem_cons] at named
    obtain ⟨i, here⟩ := named.1
    rw [List.foldl_cons, ih named.2, own_receive here, List.foldl_cons]

theorem own_foldl_other {cookies : List Cookie} (other : ∀ cookie ∈ cookies, ∀ i, cookie.name ≠ cookieName sanitizedCluster i) :
    own sanitizedCluster (cookies.foldl receive jar) = own sanitizedCluster jar := by
  induction cookies generalizing jar with
  | nil => rfl
  | cons cookie cookies ih =>
    rw [List.forall_mem_cons] at other
    rw [List.foldl_cons, ih other.2, own_receive_other other.1]

theorem requestCookie_own (i : Nat) : requestCookie (own sanitizedCluster jar) (cookieName sanitizedCluster i) =
    requestCookie jar (cookieName sanitizedCluster i) := by
  induction jar with
  | nil => rfl
  | cons stored rest ih =>
    by_cases mine : ∃ i, stored.name = cookieName sanitizedCluster i
    · have head : own sanitizedCluster (stored :: rest) = stored :: own sanitizedCluster rest := by simp [own, mine]
      rw [head, requestCookie, requestCookie, List.findSome?_cons, List.findSome?_cons]
      rw [requestCookie, requestCookie] at ih
      rw [ih]
    · have head : own sanitizedCluster (stored :: rest) = own sanitizedCluster rest := by simp [own, mine]
      have apart : stored.name ≠ cookieName sanitizedCluster i := fun named => mine ⟨i, named⟩
      rw [head, ih, requestCookie, requestCookie, List.findSome?_cons, if_neg apart]

theorem requestCookie_of_mem (distinct : (jar.map Stored.name).Nodup) {stored : Stored} (member : stored ∈ jar) :
    requestCookie jar stored.name = parseCookieValue stored.value := by
  induction jar with
  | nil => cases member
  | cons first rest ih =>
    rw [List.map_cons, List.nodup_cons] at distinct
    rw [requestCookie, List.findSome?_cons]
    rcases List.mem_cons.mp member with rfl | later
    · rw [if_pos rfl]
      cases parseCookieValue stored.value with
      | some value => rfl
      | none =>
        have absent : requestCookie rest stored.name = none := by
          by_contra found
          exact distinct.1 (requestCookie_named (Option.isSome_iff_ne_none.mpr found))
        exact absent
    · have apart : first.name ≠ stored.name := fun same => distinct.1 (same ▸ List.mem_map_of_mem later)
      rw [if_neg apart]
      exact ih distinct.2 later

theorem storedChunks_names : (storedChunks server cluster token).map Stored.name =
    (List.range (splitToken token chunkSize).length).map (cookieName (sanitizeClusterName cluster)) := by
  apply List.ext_getElem <;> simp [storedChunks]

theorem storedChunks_distinct : ((storedChunks server cluster token).map Stored.name).Nodup := by
  rw [storedChunks_names]
  exact List.Nodup.map (fun _ _ same => (cookieName_injective (dot_notMem cluster) (dot_notMem cluster) same).2) List.nodup_range

theorem storedChunks_reads (i : Nat) :
    requestCookie (storedChunks server cluster token) (cookieName (sanitizeClusterName cluster) i) =
      ((splitToken token chunkSize).map (List.filter validCookieValueByte))[i]? := by
  by_cases inside : i < (splitToken token chunkSize).length
  · have member : (⟨cookieName (sanitizeClusterName cluster) i, getCookiePath server.baseURL cluster,
        sanitizeCookieValue (splitToken token chunkSize)[i]⟩ : Stored) ∈ storedChunks server cluster token := by
      rw [storedChunks, List.mem_mapIdx]
      exact ⟨i, inside, rfl⟩
    rw [requestCookie_of_mem storedChunks_distinct member, parse_sanitize, List.getElem?_map, List.getElem?_eq_getElem inside,
      Option.map_some]
  · have past : ((splitToken token chunkSize).map (List.filter validCookieValueByte))[i]? = none := by
      rw [List.getElem?_eq_none_iff, List.length_map]
      exact Nat.not_lt.mp inside
    rw [past]
    by_contra found
    have named := requestCookie_named (Option.isSome_iff_ne_none.mpr found)
    rw [storedChunks_names] at named
    obtain ⟨j, small, same⟩ := List.mem_map.mp named
    rw [(cookieName_injective (dot_notMem cluster) (dot_notMem cluster) same).2] at small
    exact inside (List.mem_range.mp small)

theorem chunksOf_stored (holds : own (sanitizeClusterName cluster) jar = storedChunks server cluster token) :
    chunksOf jar (sanitizeClusterName cluster) = (splitToken token chunkSize).map (List.filter validCookieValueByte) := by
  apply cookieChunks_eq
  · have lengths : (own (sanitizeClusterName cluster) jar).length ≤ jar.length := List.length_filter_le _ jar
    rw [holds, storedChunks, List.length_mapIdx] at lengths
    rw [List.length_map]
    exact Nat.lt_succ_of_le lengths
  · intro i
    rw [Nat.zero_add, ← requestCookie_own, holds, storedChunks_reads]

theorem getTokenFromCookie_stored (named : sanitizeClusterName cluster ≠ "")
    (holds : own (sanitizeClusterName cluster) jar = storedChunks server cluster token) :
    getTokenFromCookie jar cluster = .ok (token.filter validCookieValueByte) := by
  rw [getTokenFromCookie, if_neg named, chunksOf_stored holds, ← List.filter_flatten, splitToken_flatten (by decide)]

/-! Writing the cookies of one cluster. -/

theorem foldl_receive_new {cookies : List Cookie} (lasting : ∀ cookie ∈ cookies, ¬cookie.maxAge < 0)
    (distinct : (jar.map Stored.name ++ cookies.map Cookie.name).Nodup) : cookies.foldl receive jar =
      jar ++ cookies.map fun cookie => ⟨cookie.name, cookie.path, sanitizeCookieValue cookie.value⟩ := by
  induction cookies generalizing jar with
  | nil => simp
  | cons cookie cookies ih =>
    rw [List.forall_mem_cons] at lasting
    have new : cookie.name ∉ jar.map Stored.name := by
      intro member
      exact (List.nodup_append.mp distinct).2.2 _ member _ List.mem_cons_self rfl
    have added : receive jar cookie = jar ++ [⟨cookie.name, cookie.path, sanitizeCookieValue cookie.value⟩] := by
      rw [receive, if_neg lasting.1]
      congr 1
      rw [List.filter_eq_self]
      intro stored member
      have apart : stored.name ≠ cookie.name := fun same => new (same ▸ List.mem_map_of_mem member)
      simp [apart]
    rw [List.foldl_cons, added, ih lasting.2]
    · simp
    · simpa using distinct

theorem foldl_receive_removed {cookies : List Cookie} (removing : ∀ cookie ∈ cookies, cookie.maxAge < 0)
    (every : ∀ stored ∈ jar, ∃ cookie ∈ cookies, stored.name = cookie.name ∧ stored.path = cookie.path) :
    cookies.foldl receive jar = [] := by
  induction cookies generalizing jar with
  | nil =>
    apply List.eq_nil_iff_forall_not_mem.mpr
    intro stored member
    obtain ⟨cookie, none, _⟩ := every stored member
    cases none
  | cons cookie cookies ih =>
    rw [List.forall_mem_cons] at removing
    rw [List.foldl_cons]
    apply ih removing.2
    intro stored member
    rw [receive, if_pos removing.1, List.mem_filter] at member
    obtain ⟨other, listed, same⟩ := every stored member.1
    rcases List.mem_cons.mp listed with rfl | later
    · simp [same] at member
    · exact ⟨other, later, same⟩

theorem clearTokenCookie_names {cookie : Cookie} (member : cookie ∈ clearTokenCookie server secure jar cluster) :
    cookie.maxAge < 0 ∧ cookie.value = [] ∧ ∃ i, cookie.name = cookieName (sanitizeClusterName cluster) i := by
  unfold clearTokenCookie at member
  dsimp only at member
  split at member
  next => cases member
  next =>
    obtain ⟨i, _, rfl⟩ := List.mem_map.mp member
    exact ⟨Int.negSucc_lt_zero 0, rfl, i, rfl⟩

theorem clearTokenCookie_removes (named : sanitizeClusterName cluster ≠ "")
    (holds : own (sanitizeClusterName cluster) jar = storedChunks server cluster token) :
    (clearTokenCookie server secure jar cluster).foldl receive (storedChunks server cluster token) = [] := by
  apply foldl_receive_removed
  · exact fun cookie member => (clearTokenCookie_names member).1
  · intro stored member
    rw [storedChunks, List.mem_mapIdx] at member
    obtain ⟨i, small, rfl⟩ := member
    rw [clearTokenCookie, if_neg named, chunksOf_stored holds]
    refine ⟨_, List.mem_map_of_mem (List.mem_range.mpr ?_), rfl, rfl⟩
    rwa [List.length_map]

theorem cookies_names {call : Call} {cookie : Cookie} (member : cookie ∈ call.cookies server jar) :
    cookie.value.length ≤ chunkSize ∧ ∃ i, cookie.name = cookieName (sanitizeClusterName call.cluster) i := by
  have cleared : cookie ∈ clearTokenCookie server call.secure jar call.cluster →
      cookie.value.length ≤ chunkSize ∧ ∃ i, cookie.name = cookieName (sanitizeClusterName call.cluster) i := by
    intro listed
    obtain ⟨_, empty, named⟩ := clearTokenCookie_names listed
    exact ⟨by simp [empty], named⟩
  unfold Call.cookies at member
  split at member
  next token _ =>
    unfold setTokenCookie at member
    dsimp only at member
    split at member
    next => cases member
    next =>
      split at member
      next => cases member
      next =>
        rcases List.mem_append.mp member with listed | listed
        · exact cleared listed
        · obtain ⟨i, small, rfl⟩ := List.mem_mapIdx.mp listed
          exact ⟨length_of_mem_splitToken (List.getElem_mem small), i, rfl⟩
  next => exact cleared member

theorem step_other {call : Call} {next : List Stored} (taken : step server jar call = some next)
    (other : sanitizeClusterName call.cluster ≠ sanitizeClusterName cluster) :
    own (sanitizeClusterName cluster) next = own (sanitizeClusterName cluster) jar := by
  cases taken
  apply own_foldl_other
  intro cookie member i same
  obtain ⟨_, j, named⟩ := cookies_names member
  exact other (cookieName_injective (dot_notMem _) (dot_notMem _) (named.symm.trans same)).1

theorem step_own {call : Call} {next : List Stored} (taken : step server jar call = some next) (mine : call.cluster = cluster)
    (named : sanitizeClusterName cluster ≠ "")
    (holds : own (sanitizeClusterName cluster) jar = storedChunks server cluster token) :
    own (sanitizeClusterName cluster) next = storedChunks server cluster (call.leaves cluster token) := by
  subst mine
  cases taken
  rw [own_foldl fun cookie member => (cookies_names member).2, holds]
  have nonempty : call.cluster ≠ "" := by
    intro empty
    rw [empty] at named
    exact named (by decide)
  unfold Call.cookies Call.leaves
  rw [if_pos rfl]
  cases call.op with
  | clear =>
    have none : storedChunks server call.cluster [] = [] := rfl
    dsimp only
    rw [clearTokenCookie_removes named holds, none]
  | set other =>
    cases other with
    | nil => simp [setTokenCookie]
    | cons byte rest =>
      have set : ¬(call.cluster = "" ∨ byte :: rest = []) := by simp [nonempty]
      dsimp only
      rw [setTokenCookie, if_neg set, if_neg named, List.foldl_append, clearTokenCookie_removes named holds, foldl_receive_new]
      · apply List.ext_getElem <;> simp [storedChunks]
      · intro cookie member
        obtain ⟨i, _, rfl⟩ := List.mem_mapIdx.mp member
        simp
      · rw [List.map_nil, List.nil_append]
        have names : ((storedChunks server call.cluster (byte :: rest)).map Stored.name).Nodup := storedChunks_distinct
        convert names using 1
        apply List.ext_getElem <;> simp [storedChunks]

/-- Clusters are told from the one by their names with the characters that cookies
cannot have left out. -/
def Distinguished (calls : List Call) (cluster : String) : Prop :=
  ∀ call ∈ calls, sanitizeClusterName call.cluster = sanitizeClusterName cluster → call.cluster = cluster

theorem run_own {calls : List Call} (ran : run (step server) [] calls = some jar) (distinguished : Distinguished calls cluster)
    (named : sanitizeClusterName cluster ≠ "") :
    own (sanitizeClusterName cluster) jar = storedChunks server cluster (tokenAfter calls cluster) := by
  have followed : Distinguished calls cluster →
      own (sanitizeClusterName cluster) jar = storedChunks server cluster (tokenAfter calls cluster) := by
    refine run_induction (motive := fun calls jar => Distinguished calls cluster →
      own (sanitizeClusterName cluster) jar = storedChunks server cluster (tokenAfter calls cluster)) ?_ ?_ ran
    · intro _
      simp [own, tokenAfter, storedChunks, splitToken, chunkSize]
    intro calls jar call next _ ih taken distinguished
    have holds := ih fun other member => distinguished other (List.mem_append_left _ member)
    rw [tokenAfter, List.foldl_concat]
    by_cases mine : call.cluster = cluster
    · exact step_own taken mine named holds
    · have apart : sanitizeClusterName call.cluster ≠ sanitizeClusterName cluster := fun same =>
        mine (distinguished call (List.mem_append_right _ List.mem_cons_self) same)
      rw [step_other taken apart, Call.leaves, if_neg mine]
      exact holds
  exact followed distinguished

/-- After every run, a cluster's token is read as it was set last, without the bytes
that cookies cannot have; what a call writes is of bounded length, and concerns no
cluster of another name. An empty token and a name without characters that cookies can
have are refused. -/
theorem token_of_cookies (server : Server) {calls : List Call} {jar : List Stored}
    (ran : run (step server) [] calls = some jar) {cluster : String} (distinguished : Distinguished calls cluster) :
    getTokenFromCookie jar cluster =
      (if sanitizeClusterName cluster = "" then .error "invalid cluster name"
      else .ok ((tokenAfter calls cluster).filter validCookieValueByte)) ∧
    ∀ call next, step server jar call = some next →
      (∀ cookie ∈ call.cookies server jar, cookie.value.length ≤ chunkSize) ∧
      (sanitizeClusterName call.cluster ≠ sanitizeClusterName cluster →
        own (sanitizeClusterName cluster) next = own (sanitizeClusterName cluster) jar ∧
          getTokenFromCookie next cluster = getTokenFromCookie jar cluster) := by
  refine ⟨?_, fun call next taken => ⟨fun cookie member => (cookies_names member).1, fun other => ?_⟩⟩
  · by_cases named : sanitizeClusterName cluster = ""
    · rw [getTokenFromCookie, if_pos named, if_pos named]
    · rw [if_neg named]
      exact getTokenFromCookie_stored named (run_own ran distinguished named)
  · have same := step_other taken other
    refine ⟨same, ?_⟩
    by_cases named : sanitizeClusterName cluster = ""
    · rw [getTokenFromCookie, getTokenFromCookie, if_pos named, if_pos named]
    · have before := run_own ran distinguished named
      rw [getTokenFromCookie_stored named before, getTokenFromCookie_stored named (same.trans before)]

/-- A server at the root. -/
def root : Server := ⟨"", 86400, by decide⟩

def call (op : Op) : Call := ⟨"c", op, true⟩

theorem shorter_token_read : ∃ jar, run (step root) [] [call (.set [97, 98]), call (.set [99])] = some jar ∧
    getTokenFromCookie jar "c" = .ok [99] := by
  have distinguished : Distinguished [call (.set [97, 98]), call (.set [99])] "c" := by
    unfold Distinguished
    decide
  exact ⟨_, rfl, (token_of_cookies root rfl distinguished).1⟩

/-- A semicolon is lost, and an empty token does not replace another. -/
theorem semicolon_lost :
    (run (step root) [] [call (.set [97, 59, 98])]).map (getTokenFromCookie · "c") = some (.ok [97, 98]) ∧
    (run (step root) [] [call (.set [97]), call (.set [])]).map (getTokenFromCookie · "c") = some (.ok [97]) := by
  decide +kernel

end K8Sense.Auth.Cookies
