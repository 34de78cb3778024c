import K8Sense.Library.Transition
import K8Sense.Forwarding.Store

/-! Whose port-forwards a request reads and changes. -/

namespace K8Sense.Forwarding
open Keyed Transition

/-- Started by a request for the cluster and the user. -/
structure StartedFor (p : PortForward) (cluster userID : String) : Prop where
  named : p.cluster = cluster
  keyed : p.cacheKey = cluster ++ userID

/-- Started by requests for one cluster and user. -/
structure SameOwner (p other : PortForward) : Prop where
  named : p.cluster = other.cluster
  keyed : p.cacheKey = other.cacheKey

/-- How a start goes on when the request has been checked. -/
inductive Launch where
  | refused (err : String)
  | failed (errMsg : String)
  | ready

/-- What a request meets outside of the server. -/
structure Host where
  newID : String
  fresh : newID ≠ ""
  freePort : Except String String
  launch : Launch

inductive Request where
  | start (req : PortForwardRequest)
  | list
  | get (id : String)
  | stopOrDelete (id : String) (stop : Bool)

structure Payload where
  id : String
  pod : String
  service : String
  cluster : String
  «namespace» : String
  deriving DecidableEq

inductive Response where
  | httpError (status : Nat) (text : String)
  | started (req : PortForwardRequest)
  | ports (list : List PortForward)
  | portForward (payload : Payload)
  | stopped

/-- The records of the tunnels are numbered; `closed` are the numbers of those that are
told to end. -/
structure Server where
  cache : Cache
  tunnels : List PortForward
  closed : List Nat

/-- `read` are the entries that the handler takes from the cache. -/
structure Result where
  server : Server
  response : Response
  read : List PortForward

def PortForwardRequest.withID (host : Host) (req : PortForwardRequest) : PortForwardRequest :=
  if req.id = "" then { req with id := host.newID } else req

theorem PortForwardRequest.withID_ne (host : Host) (req : PortForwardRequest) : (req.withID host).id ≠ "" := by
  unfold withID
  split
  next => exact host.fresh
  next given => exact given

def startPortForward (host : Host) (cluster userID : String) (request : PortForwardRequest) (server : Server) : Result :=
  let p := request.withID host
  let existingPF := server.cache.getPortForwardByID (cacheName cluster userID) p.id
  if existingPF.any fun existing => existing.status = .running then
    ⟨server, .httpError 409 "portforward with this ID is already running", existingPF.toList⟩
  else
    match p.validate with
    | .error err => ⟨server, .httpError 400 err, existingPF.toList⟩
    | .ok () =>
      match if p.port = "" then host.freePort else .ok p.port with
      | .error err => ⟨server, .httpError 500 ("can't find any available port " ++ err), existingPF.toList⟩
      | .ok port =>
        let pfDetails := newPortForward { p with port } cluster userID server.tunnels.length (request.withID_ne host)
        match host.launch with
        | .refused err => ⟨server, .httpError 500 err, existingPF.toList⟩
        | .failed errMsg =>
          let stopped := pfDetails.set .stopped errMsg
          ⟨⟨server.cache.portforwardstore stopped, server.tunnels ++ [stopped], server.tunnels.length :: server.closed⟩,
            .httpError 500 errMsg, existingPF.toList⟩
        | .ready =>
          ⟨⟨server.cache.portforwardstore pfDetails, server.tunnels ++ [pfDetails], server.closed⟩,
            .started { p with port }, existingPF.toList⟩

def getPortForwards (cluster userID : String) (server : Server) : Result :=
  if cluster = "" then ⟨server, .httpError 400 "cluster is required", []⟩
  else
    let ports := server.cache.getPortForwardList (cacheName cluster userID)
    ⟨server, .ports ports, ports⟩

def getPortForward (cluster userID id : String) (server : Server) : Result :=
  if cluster = "" then ⟨server, .httpError 400 "cluster is required", []⟩
  else if id = "" then ⟨server, .httpError 400 "id is required", []⟩
  else
    match server.cache.getPortForwardByID (cacheName cluster userID) id with
    | none => ⟨server, .httpError 404 ("no portforward running with id " ++ id), []⟩
    | some p => ⟨server, .portForward ⟨p.id, p.pod, p.service, p.cluster, p.namespace⟩, [p]⟩

/-- The channel is closed first, and then the entry is replaced or deleted. -/
def stopOrDeletePortForward (cluster userID id : String) (isStopRequest : Bool) (server : Server) : Result :=
  if id = "" then ⟨server, .httpError 400 "invalid request, id is required", []⟩
  else
    match server.cache.getPortForwardByID (cacheName cluster userID) id with
    | none =>
      ⟨server, .httpError 500 "failed to delete port forward failed to get portforward from cache: key not found", []⟩
    | some p =>
      let cache :=
        if isStopRequest then server.cache.portforwardstore { p with status := .stopped }
        else server.cache.delete (portforwardKeyGenerator p)
      ⟨{ server with cache, closed := p.closeChan :: server.closed }, .stopped, [p]⟩

/-- What the goroutines of a tunnel do by themselves: `ForwardPorts` ends, or the pod is
found not to run. -/
inductive Action where
  | forwardEnded (err : Option String)
  | podCheckFailed (errMsg : String)

/-- The snapshot that is stored, where one is. -/
def PortForward.after (p : PortForward) : Action → Option PortForward
  | .forwardEnded err => p.forwardEnded err
  | .podCheckFailed errMsg => some (p.set .stopped errMsg)

inductive Event where
  | request (host : Host) (cluster userID : String) (request : Request)
  | background (tunnel : Nat) (action : Action)

def handle (host : Host) (cluster userID : String) (request : Request) (server : Server) : Result :=
  match request with
  | .start req => startPortForward host cluster userID req server
  | .list => getPortForwards cluster userID server
  | .get id => getPortForward cluster userID id server
  | .stopOrDelete id stop => stopOrDeletePortForward cluster userID id stop server

/-- A goroutine has changed the record of its tunnel and stores a snapshot. -/
def Server.store (server : Server) (tunnel : Nat) (p : PortForward) : Server :=
  ⟨server.cache.portforwardstore p, server.tunnels.set tunnel p, tunnel :: server.closed⟩

def step (server : Server) : Event → Option Server
  | .request host cluster userID request => some (handle host cluster userID request server).server
  | .background tunnel action =>
    match server.tunnels[tunnel]? with
    | none => none
    | some own =>
      match own.after action with
      | some p => some (server.store tunnel p)
      | none => some { server with closed := tunnel :: server.closed }

/-- Nothing is read, ended, replaced or deleted but what is mine. -/
structure Touches (mine : PortForward → Prop) (server next : Server) (read : List PortForward) : Prop where
  read : ∀ p ∈ read, mine p
  closed : ∀ tunnel ∈ next.closed, tunnel ∉ server.closed → ∀ p, next.tunnels[tunnel]? = some p → mine p
  kept : ∀ key p, lookup key server.cache.rows = some p → ¬mine p → lookup key next.cache.rows = some p

/-- A request concerns the port-forwards of its cluster and user only, and lists all of
these; a goroutine concerns those of its tunnel's. -/
def Isolated (server : Server) (event : Event) : Prop :=
  match event with
  | .request host cluster userID request =>
    let result := handle host cluster userID request server
    Touches (StartedFor · cluster userID) server result.server result.read ∧
      ∀ list, result.response = .ports list →
        ∀ row ∈ server.cache.rows, row.2 ∈ list ↔ StartedFor row.2 cluster userID
  | .background tunnel action =>
    ∀ own next, server.tunnels[tunnel]? = some own → step server (.background tunnel action) = some next →
      Touches (SameOwner · own) server next []

def Request.sought (host : Host) (cluster : String) : Request → Option String
  | .start req => some (req.withID host).id
  | .list => none
  | .get id => if cluster = "" ∨ id = "" then none else some id
  | .stopOrDelete id _ => if id = "" then none else some id

/-- No port-forward of others has, with its names and id run together, the key that is
looked up or stored, or begins like those that are listed. -/
def Separate (server : Server) (event : Event) : Prop :=
  match event with
  | .request host cluster userID request =>
    (∀ id, request.sought host cluster = some id → ∀ row ∈ server.cache.rows,
      row.2.cacheKey ++ row.2.id = cluster ++ userID ++ id → StartedFor row.2 cluster userID) ∧
    (request = .list → cluster ≠ "" → ∀ row ∈ server.cache.rows,
      (cluster ++ userID).toList <+: (row.2.cacheKey ++ row.2.id).toList → StartedFor row.2 cluster userID)
  | .background tunnel action =>
    ∀ own p, server.tunnels[tunnel]? = some own → own.after action = some p →
      ∀ row ∈ server.cache.rows, row.2.cacheKey ++ row.2.id = p.cacheKey ++ p.id → SameOwner row.2 p

/-- An entry and the tunnel that it ends were started for one cluster and user. -/
structure Linked (server : Server) : Prop where
  numbered : ∀ (tunnel : Nat) p, server.tunnels[tunnel]? = some p → p.closeChan = tunnel
  entries : ∀ row ∈ server.cache.rows, ∃ own, server.tunnels[row.2.closeChan]? = some own ∧ SameOwner row.2 own

variable {server next : Server} {p : PortForward} {cluster userID id : String} {mine : PortForward → Prop}

theorem SameOwner.rfl : SameOwner p p := ⟨Eq.refl _, Eq.refl _⟩

theorem SameOwner.trans {first second third : PortForward} (left : SameOwner first second) (right : SameOwner second third) :
    SameOwner first third :=
  ⟨left.named.trans right.named, left.keyed.trans right.keyed⟩

theorem sameOwner_set (status : Status) (errMsg : String) : SameOwner (p.set status errMsg) p := ⟨rfl, rfl⟩

theorem StartedFor.sameOwner {other : PortForward} (started : StartedFor p cluster userID) (same : SameOwner p other) :
    StartedFor other cluster userID :=
  ⟨same.named.symm.trans started.named, same.keyed.symm.trans started.keyed⟩

theorem after_sameOwner {action : Action} {snapshot : PortForward} (stored : p.after action = some snapshot) :
    SameOwner snapshot p ∧ snapshot.closeChan = p.closeChan := by
  cases action with
  | podCheckFailed errMsg =>
    cases stored
    exact ⟨sameOwner_set _ _, rfl⟩
  | forwardEnded err =>
    unfold PortForward.after PortForward.forwardEnded at stored
    cases err with
    | some err =>
      cases stored
      exact ⟨sameOwner_set _ _, rfl⟩
    | none =>
      dsimp only at stored
      split at stored
      next =>
        cases stored
        exact ⟨sameOwner_set _ _, rfl⟩
      next => cases stored

/-! Keys. -/

theorem getPortForwardByID_iff : server.cache.getPortForwardByID (cluster ++ userID) id = some p ↔
    p.cacheKey ++ p.id = cluster ++ userID ++ id ∧ ∃ row ∈ server.cache.rows, row.2 = p := by
  rw [Cache.getPortForwardByID, Cache.lookup_iff, key_eq_iff]

theorem found_mine_iff : (∀ row ∈ server.cache.rows, row.2.cacheKey ++ row.2.id = cluster ++ userID ++ id → mine row.2) ↔
    ∀ p ∈ (server.cache.getPortForwardByID (cluster ++ userID) id).toList, mine p := by
  simp only [Option.mem_toList, getPortForwardByID_iff]
  constructor
  · rintro every p ⟨same, row, member, rfl⟩
    exact every row member same
  · exact fun every row member same => every row.2 ⟨same, row, member, rfl⟩

theorem portforwardstore_keeps_iff (server : Server) {mine : PortForward → Prop} (own : mine p) :
    (∀ key other, lookup key server.cache.rows = some other → ¬mine other →
        lookup key (server.cache.portforwardstore p).rows = some other) ↔
      ∀ row ∈ server.cache.rows, row.2.cacheKey ++ row.2.id = p.cacheKey ++ p.id → mine row.2 := by
  have key (other : PortForward) : other.cacheKey ++ other.id = p.cacheKey ++ p.id ↔
      portforwardKeyGenerator other = portforwardKeyGenerator p := by
    rw [key_eq p, key_eq_iff]
  constructor
  · intro keeps row member same
    by_contra foreign
    have found : lookup (portforwardKeyGenerator p) server.cache.rows = some row.2 :=
      Cache.lookup_iff.mpr ⟨(key row.2).mp same, row, member, rfl⟩
    have after := keeps _ row.2 found foreign
    rw [Cache.lookup_portforwardstore, if_pos rfl] at after
    exact foreign (Option.some.inj after ▸ own)
  · intro separate place other found foreign
    obtain ⟨named, row, member, rfl⟩ := Cache.lookup_iff.mp found
    rw [Cache.lookup_portforwardstore, if_neg, found]
    rintro rfl
    exact foreign (separate row member ((key row.2).mpr named))

theorem delete_keeps (mine : PortForward → Prop) (found : ∃ row ∈ server.cache.rows, row.2 = p) (own : mine p) {key : String}
    {other : PortForward} (present : lookup key server.cache.rows = some other) (foreign : ¬mine other) :
    lookup key (server.cache.delete (portforwardKeyGenerator p)).rows = some other := by
  rw [Cache.lookup_delete, if_neg, present]
  rintro rfl
  have here : lookup (portforwardKeyGenerator p) server.cache.rows = some p := Cache.lookup_iff.mpr ⟨rfl, found⟩
  rw [here] at present
  exact foreign (Option.some.inj present ▸ own)

/-! The handlers. -/

theorem startPortForward_cases (host : Host) (cluster userID : String) (req : PortForwardRequest) (server : Server) :
    let result := startPortForward host cluster userID req server
    result.read = (server.cache.getPortForwardByID (cluster ++ userID) (req.withID host).id).toList ∧
      (∀ list, result.response ≠ .ports list) ∧
      (result.server = server ∨ ∃ p closed, StartedFor p cluster userID ∧ p.closeChan = server.tunnels.length ∧
        p.id = (req.withID host).id ∧ (∀ tunnel ∈ closed, tunnel ∈ server.closed ∨ tunnel = server.tunnels.length) ∧
        result.server = ⟨server.cache.portforwardstore p, server.tunnels ++ [p], closed⟩) := by
  unfold startPortForward
  dsimp only
  rw [cacheName_eq]
  split
  next => exact ⟨rfl, by simp, Or.inl rfl⟩
  next =>
    split
    next => exact ⟨rfl, by simp, Or.inl rfl⟩
    next =>
      split
      next => exact ⟨rfl, by simp, Or.inl rfl⟩
      next port _ =>
        split
        next => exact ⟨rfl, by simp, Or.inl rfl⟩
        next =>
          refine ⟨rfl, by simp, Or.inr ⟨_, _, ⟨rfl, cacheName_eq⟩, rfl, rfl, ?_, rfl⟩⟩
          intro tunnel member
          exact (List.mem_cons.mp member).symm
        next => exact ⟨rfl, by simp, Or.inr ⟨_, _, ⟨rfl, cacheName_eq⟩, rfl, rfl, fun tunnel => Or.inl, rfl⟩⟩

/-- A stop or delete changes nothing, or ends the tunnel of the entry with its key and
replaces or deletes that entry. -/
theorem stopOrDeletePortForward_cases (cluster userID id : String) (stop : Bool) (server : Server) :
    let result := stopOrDeletePortForward cluster userID id stop server
    (∀ list, result.response ≠ .ports list) ∧
      result.read = (if id = "" then none else server.cache.getPortForwardByID (cluster ++ userID) id).toList ∧
      (result.read = [] ∧ result.server = server ∨
        ∃ p, result.read = [p] ∧ (∃ row ∈ server.cache.rows, row.2 = p) ∧
          result.server = ⟨if stop then server.cache.portforwardstore { p with status := .stopped }
            else server.cache.delete (portforwardKeyGenerator p), server.tunnels, p.closeChan :: server.closed⟩) := by
  unfold stopOrDeletePortForward
  dsimp only
  rw [cacheName_eq]
  split
  next => exact ⟨by simp, rfl, Or.inl ⟨rfl, rfl⟩⟩
  next =>
    cases found : server.cache.getPortForwardByID (cluster ++ userID) id with
    | none => exact ⟨by simp, rfl, Or.inl ⟨rfl, rfl⟩⟩
    | some p => exact ⟨by simp, rfl, Or.inr ⟨p, rfl, (getPortForwardByID_iff.mp found).2, rfl⟩⟩

theorem getPortForward_cases (cluster userID id : String) (server : Server) :
    let result := getPortForward cluster userID id server
    (∀ list, result.response ≠ .ports list) ∧ result.server = server ∧
      result.read = (if cluster = "" ∨ id = "" then none else server.cache.getPortForwardByID (cluster ++ userID) id).toList := by
  unfold getPortForward
  rw [cacheName_eq]
  dsimp only
  split
  next unnamed => simp [unnamed]
  next named =>
    split
    next unidentified => simp [unidentified]
    next identified =>
      cases server.cache.getPortForwardByID (cluster ++ userID) id <;> simp [named, identified]

theorem getPortForwards_cases (cluster userID : String) (server : Server) :
    let result := getPortForwards cluster userID server
    result.server = server ∧ result.read = (if cluster = "" then [] else server.cache.getPortForwardList (cluster ++ userID)) ∧
      ∀ list, result.response = .ports list ↔ cluster ≠ "" ∧ server.cache.getPortForwardList (cluster ++ userID) = list := by
  unfold getPortForwards
  rw [cacheName_eq]
  dsimp only
  split
  next unnamed => simp [unnamed]
  next named => simp [named]

theorem ports_iff {host : Host} {request : Request} {list : List PortForward} :
    (handle host cluster userID request server).response = .ports list ↔
      request = .list ∧ cluster ≠ "" ∧ server.cache.getPortForwardList (cluster ++ userID) = list := by
  cases request with
  | start req => simpa [handle] using (startPortForward_cases host cluster userID req server).2.1 list
  | list => simpa [handle] using (getPortForwards_cases cluster userID server).2.2 list
  | get id => simpa [handle] using (getPortForward_cases cluster userID id server).1 list
  | stopOrDelete id stop => simpa [handle] using (stopOrDeletePortForward_cases cluster userID id stop server).1 list

theorem read_sought (host : Host) (cluster userID : String) {request : Request} (one : request ≠ .list) (server : Server) :
    (handle host cluster userID request server).read =
      ((request.sought host cluster).bind (server.cache.getPortForwardByID (cluster ++ userID))).toList := by
  cases request with
  | start req => exact (startPortForward_cases host cluster userID req server).1
  | list => exact absurd rfl one
  | get id =>
    rw [handle, (getPortForward_cases cluster userID id server).2.2, Request.sought]
    split <;> rfl
  | stopOrDelete id stop =>
    rw [handle, (stopOrDeletePortForward_cases cluster userID id stop server).2.1, Request.sought]
    split <;> rfl

theorem read_mine_iff (host : Host) (cluster userID : String) (request : Request) (server : Server) :
    (∀ p ∈ (handle host cluster userID request server).read, StartedFor p cluster userID) ↔
      Separate server (.request host cluster userID request) := by
  unfold Separate
  dsimp only
  by_cases listing : request = .list
  · subst listing
    have sought : Request.list.sought host cluster = none := rfl
    simp only [sought, reduceCtorEq, IsEmpty.forall_iff, implies_true, true_and, forall_const]
    rw [handle, (getPortForwards_cases cluster userID server).2.1]
    by_cases unnamed : cluster = ""
    · simp [unnamed]
    · simp only [unnamed, if_false, Cache.mem_getPortForwardList]
      constructor
      · exact fun every _ row member begins => every row.2 ⟨⟨row, member, rfl⟩, begins⟩
      · rintro every p ⟨⟨row, member, rfl⟩, begins⟩
        exact every unnamed row member begins
  · rw [read_sought host cluster userID listing]
    have other : (request = .list → cluster ≠ "" → ∀ row ∈ server.cache.rows,
        (cluster ++ userID).toList <+: (row.2.cacheKey ++ row.2.id).toList → StartedFor row.2 cluster userID) ↔ True :=
      iff_true_intro fun same => absurd same listing
    rw [other, and_true]
    cases request.sought host cluster with
    | none => simp
    | some id =>
      rw [Option.bind_some, ← found_mine_iff]
      exact ⟨fun every _ same => by cases same; exact every, fun every => every id rfl⟩

theorem touches_of_read (linked : Linked server) {host : Host} {request : Request}
    (read : ∀ p ∈ (handle host cluster userID request server).read, StartedFor p cluster userID) :
    Touches (StartedFor · cluster userID) server (handle host cluster userID request server).server
      (handle host cluster userID request server).read := by
  have unchanged (result : Result) (read : ∀ p ∈ result.read, StartedFor p cluster userID) (same : result.server = server) :
      Touches (StartedFor · cluster userID) server result.server result.read := by
    refine ⟨read, ?_, ?_⟩
    · intro tunnel closed open_
      rw [same] at closed
      exact absurd closed open_
    · intro key p found _
      rwa [same]
  cases request with
  | start req =>
    obtain ⟨reads, -, same | ⟨p, closed, started, numbered, identified, closes, same⟩⟩ :=
      startPortForward_cases host cluster userID req server
    · exact unchanged _ read same
    · unfold handle at read ⊢
      rw [reads] at read
      rw [same, reads]
      refine ⟨read, ?_, ?_⟩
      · intro tunnel late early q found
        rcases closes tunnel late with old | rfl
        · exact absurd old early
        · rw [List.getElem?_concat_length] at found
          exact Option.some.inj found ▸ started
      · apply (portforwardstore_keeps_iff _ started).mpr
        rw [started.keyed, identified]
        exact found_mine_iff.mpr read
  | list => exact unchanged _ read (getPortForwards_cases cluster userID server).1
  | get id => exact unchanged _ read (getPortForward_cases cluster userID id server).2.1
  | stopOrDelete id stop =>
    obtain ⟨-, -, ⟨-, same⟩ | ⟨p, reads, present, same⟩⟩ := stopOrDeletePortForward_cases cluster userID id stop server
    · exact unchanged _ read same
    · unfold handle at read ⊢
      rw [reads] at read
      have own : StartedFor p cluster userID := read p List.mem_cons_self
      rw [same, reads]
      refine ⟨read, ?_, ?_⟩
      · intro tunnel late early q found
        rcases List.mem_cons.mp late with rfl | old
        · obtain ⟨row, member, rfl⟩ := present
          obtain ⟨other, recorded, owner⟩ := linked.entries row member
          rw [recorded] at found
          exact Option.some.inj found ▸ own.sameOwner owner
        · exact absurd old early
      · intro key q found foreign
        cases stop with
        | false => exact delete_keeps (StartedFor · cluster userID) present own found foreign
        | true =>
          obtain ⟨row, member, rfl⟩ := present
          dsimp only
          rw [if_pos rfl, Cache.lookup_portforwardstore, if_neg, found]
          rintro rfl
          have here : lookup (portforwardKeyGenerator row.2) server.cache.rows = some row.2 :=
            Cache.lookup_iff.mpr ⟨rfl, row, member, rfl⟩
          have key : portforwardKeyGenerator { row.2 with status := .stopped } = portforwardKeyGenerator row.2 := rfl
          rw [key, here] at found
          exact foreign (Option.some.inj found ▸ own)

/-! Steps and runs. -/

theorem touches_store_iff {tunnel : Nat} {own : PortForward} (recorded : server.tunnels[tunnel]? = some own)
    (same : SameOwner p own) : Touches (SameOwner · own) server (server.store tunnel p) [] ↔
      ∀ row ∈ server.cache.rows, row.2.cacheKey ++ row.2.id = p.cacheKey ++ p.id → SameOwner row.2 p := by
  have keeps := @portforwardstore_keeps_iff p server (SameOwner · own) same
  have owners (row : String × PortForward) : SameOwner row.2 p ↔ SameOwner row.2 own :=
    ⟨fun mine => mine.trans same, fun mine => mine.trans ⟨same.named.symm, same.keyed.symm⟩⟩
  simp only [owners]
  constructor
  · exact fun touches => keeps.mp touches.kept
  · intro separate
    refine ⟨by simp, ?_, keeps.mpr separate⟩
    intro other late early q found
    rcases List.mem_cons.mp late with rfl | old
    · have here : (server.tunnels.set other p)[other]? = some p := by
        rw [List.getElem?_set_self (List.getElem?_eq_some_iff.mp recorded).1]
      rw [Server.store] at found
      rw [here] at found
      exact Option.some.inj found ▸ same
    · exact absurd old early

theorem isolated_iff (linked : Linked server) (event : Event) : Isolated server event ↔ Separate server event := by
  cases event with
  | request host cluster userID request =>
    rw [← read_mine_iff]
    constructor
    · exact fun isolated => isolated.1.read
    · intro read
      refine ⟨touches_of_read linked read, fun list answered row member => ?_⟩
      obtain ⟨rfl, named, rfl⟩ := ports_iff.mp answered
      have reads : (handle host cluster userID .list server).read = server.cache.getPortForwardList (cluster ++ userID) := by
        rw [handle, (getPortForwards_cases cluster userID server).2.1, if_neg named]
      constructor
      · intro listed
        exact read row.2 (reads ▸ listed)
      · intro started
        rw [Cache.mem_getPortForwardList]
        refine ⟨⟨row, member, rfl⟩, ?_⟩
        rw [started.keyed]
        exact ⟨row.2.id.toList, String.toList_append.symm⟩
  | background tunnel action =>
    unfold Isolated Separate step
    dsimp only
    cases recorded : server.tunnels[tunnel]? with
    | none => simp
    | some own =>
      cases stored : own.after action with
      | none =>
        constructor
        · intro _ other p same snapshot
          cases same
          rw [stored] at snapshot
          cases snapshot
        · intro _ other next same taken
          cases same
          simp only [stored] at taken
          cases taken
          refine ⟨by simp, ?_, fun _ _ found _ => found⟩
          intro other late early q found
          rcases List.mem_cons.mp late with rfl | old
          · rw [recorded] at found
            exact Option.some.inj found ▸ SameOwner.rfl
          · exact absurd old early
      | some p =>
        have store := touches_store_iff recorded (after_sameOwner stored).1
        constructor
        · intro touches other q same snapshot
          cases same
          rw [stored] at snapshot
          cases snapshot
          exact store.mp (touches own _ rfl (by simp only [stored]))
        · intro separate other next same taken
          cases same
          simp only [stored] at taken
          cases taken
          exact store.mpr (separate own p rfl stored)

theorem linked_store {tunnels : List PortForward} {closed : List Nat} (linked : Linked server)
    (numbered : ∀ (tunnel : Nat) q, tunnels[tunnel]? = some q → q.closeChan = tunnel)
    (kept : ∀ (tunnel : Nat) own, server.tunnels[tunnel]? = some own → ∃ later, tunnels[tunnel]? = some later ∧ SameOwner own later)
    (own : ∃ later, tunnels[p.closeChan]? = some later ∧ SameOwner p later) :
    Linked ⟨server.cache.portforwardstore p, tunnels, closed⟩ := by
  refine ⟨numbered, fun row member => ?_⟩
  rcases Cache.mem_portforwardstore member with old | same
  · obtain ⟨first, recorded, same⟩ := linked.entries row old
    obtain ⟨later, found, owner⟩ := kept _ first recorded
    exact ⟨later, found, same.trans owner⟩
  · rw [same]
    exact own

theorem linked_step (linked : Linked server) {event : Event} (taken : step server event = some next) : Linked next := by
  cases event with
  | request host cluster userID request =>
    cases taken
    cases request with
    | start req =>
      obtain ⟨-, -, same | ⟨p, closed, -, number, -, -, same⟩⟩ := startPortForward_cases host cluster userID req server
      · rw [handle, same]
        exact linked
      · rw [handle, same]
        apply linked_store linked
        · intro tunnel q found
          rw [List.getElem?_append] at found
          split at found
          next => exact linked.numbered tunnel q found
          next late =>
            obtain ⟨first, rfl⟩ := List.getElem?_eq_some_iff.mp found
            rw [List.getElem_singleton, number]
            rw [List.length_singleton] at first
            omega
        · intro tunnel own recorded
          exact ⟨own, by rw [List.getElem?_append_left (List.getElem?_eq_some_iff.mp recorded).1, recorded], SameOwner.rfl⟩
        · exact ⟨p, by rw [number, List.getElem?_concat_length], SameOwner.rfl⟩
    | list => rw [handle, (getPortForwards_cases cluster userID server).1]; exact linked
    | get id => rw [handle, (getPortForward_cases cluster userID id server).2.1]; exact linked
    | stopOrDelete id stop =>
      obtain ⟨-, -, ⟨-, same⟩ | ⟨p, -, ⟨row, member, rfl⟩, same⟩⟩ := stopOrDeletePortForward_cases cluster userID id stop server
      · rw [handle, same]
        exact linked
      · rw [handle, same]
        cases stop with
        | false => exact ⟨linked.numbered, fun row member => linked.entries row (List.mem_filter.mp member).1⟩
        | true =>
          refine linked_store linked linked.numbered (fun _ own recorded => ⟨own, recorded, SameOwner.rfl⟩) ?_
          obtain ⟨own, recorded, owner⟩ := linked.entries row member
          exact ⟨own, recorded, owner.named, owner.keyed⟩
  | background tunnel action =>
    unfold step at taken
    dsimp only at taken
    cases recorded : server.tunnels[tunnel]? with
    | none => simp [recorded] at taken
    | some own =>
      simp only [recorded] at taken
      cases stored : own.after action with
      | none =>
        simp only [stored] at taken
        cases taken
        exact ⟨linked.numbered, linked.entries⟩
      | some p =>
        simp only [stored] at taken
        cases taken
        obtain ⟨same, number⟩ := after_sameOwner stored
        have inside : tunnel < server.tunnels.length := (List.getElem?_eq_some_iff.mp recorded).1
        rw [linked.numbered tunnel own recorded] at number
        apply linked_store linked
        · intro other q found
          rw [List.getElem?_set] at found
          split at found
          next equal =>
            cases found
            exact number.trans equal
          next => exact linked.numbered other q found
        · intro other first before
          by_cases equal : tunnel = other
          · subst equal
            rw [recorded] at before
            cases before
            exact ⟨p, List.getElem?_set_self inside, same.named.symm, same.keyed.symm⟩
          · exact ⟨first, by rw [List.getElem?_set_ne equal, before], SameOwner.rfl⟩
        · exact ⟨p, by rw [number, List.getElem?_set_self inside], SameOwner.rfl⟩

/-- Over every run, requests concern their own port-forwards exactly if none of others
has, with its names and id run together, what is looked up, stored, or listed. -/
theorem isolation_iff (events : List Event) :
    Meets step Isolated ⟨.empty, [], []⟩ events ↔ Meets step Separate ⟨.empty, [], []⟩ events := by
  apply meets_congr Linked (fun _ _ _ linked taken => linked_step linked taken) (fun _ event linked => isolated_iff linked event)
  exact ⟨by simp, by simp [Cache.empty]⟩

def host : Host := ⟨"new", by decide, .ok "8080", .ready⟩

def podRequest (id : String) : PortForwardRequest := ⟨id, "default", "pod", "", "", "80", "8080"⟩

/-- A cluster lists the port-forwards of those whose names begin with its name, and
users end those of others where names run together. -/
theorem prefix_listed :
    ¬Meets step Isolated ⟨.empty, [], []⟩
      [.request host "prod-2" "" (.start (podRequest "a")), .request host "prod" "" .list] ∧
    ¬Meets step Isolated ⟨.empty, [], []⟩
      [.request host "a" "bc" (.start (podRequest "x")), .request host "ab" "c" (.stopOrDelete "x" false)] := by
  constructor
  · intro meets
    have own := meets.2.1.1.read _ List.mem_cons_self
    exact absurd own.named (by decide)
  · intro meets
    have own := meets.2.1.1.read _ List.mem_cons_self
    exact absurd own.named (by decide)

end K8Sense.Forwarding
