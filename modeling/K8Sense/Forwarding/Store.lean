import K8Sense.Library.Keyed

/-! Port-forwards and the cache in which they are kept. -/

namespace K8Sense.Forwarding
open Keyed

inductive Status where
  | running
  | stopped
  deriving DecidableEq

/-- `closeChan` is the number of the tunnel that ends when the channel is closed. A
port-forward has an id, and its key begins with its cluster, with a user's id after it. -/
structure PortForward where
  id : String
  closeChan : Nat
  pod : String
  service : String
  serviceNamespace : String
  «namespace» : String
  cluster : String
  cacheKey : String
  port : String
  targetPort : String
  status : Status
  error : String
  identified : id ≠ ""
  named : ∃ userID, cacheKey = cluster ++ userID
  deriving DecidableEq

/-- `setStatusAndSnapshot`. -/
def PortForward.set (p : PortForward) (status : Status) (errMsg : String) : PortForward :=
  { p with status, error := errMsg }

def storeKeyPrefix : String := "PORT_FORWARD_"

def portforwardKeyGenerator (p : PortForward) : String :=
  let clusterKey := if p.cacheKey = "" then p.cluster else p.cacheKey
  if p.id ≠ "" then storeKeyPrefix ++ clusterKey ++ p.id
  else if p.service ≠ "" then storeKeyPrefix ++ clusterKey ++ p.service
  else if p.pod ≠ "" then storeKeyPrefix ++ clusterKey ++ p.pod
  else storeKeyPrefix ++ clusterKey

/-- The entries of the cache that are port-forwards. They do not expire. -/
structure Cache where
  rows : List (String × PortForward)
  unique : Unique rows
  filed : ∀ row ∈ rows, row.1 = portforwardKeyGenerator row.2

namespace Cache

def empty : Cache := ⟨[], List.nodup_nil, by simp⟩

def portforwardstore (p : PortForward) (cache : Cache) : Cache where
  rows := upsert (portforwardKeyGenerator p) p (fun _ => p) cache.rows
  unique := unique_upsert cache.unique
  filed := by
    intro row member
    rcases mem_upsert member with old | rfl | ⟨_, _, rfl⟩
    · exact cache.filed row old
    · rfl
    · rfl

def delete (key : String) (cache : Cache) : Cache where
  rows := erase key cache.rows
  unique := cache.unique.sublist (List.filter_sublist.map _)
  filed := fun row member => cache.filed row (List.mem_filter.mp member).1

def getPortForwardByID (cache : Cache) (cluster id : String) : Option PortForward :=
  lookup (storeKeyPrefix ++ cluster ++ id) cache.rows

def getPortForwardList (cache : Cache) (cluster : String) : List PortForward :=
  (cache.rows.filter fun row => (storeKeyPrefix ++ cluster).toList.isPrefixOf row.1.toList).map Prod.snd

end Cache

structure PortForwardRequest where
  id : String
  «namespace» : String
  pod : String
  service : String
  serviceNamespace : String
  targetPort : String
  port : String
  deriving DecidableEq

def PortForwardRequest.validate (req : PortForwardRequest) : Except String Unit :=
  if req.namespace = "" then .error "namespace is required"
  else if req.pod = "" then .error "pod name is required"
  else if req.targetPort = "" then .error "targetPort is required"
  else .ok ()

/-- The cluster with the user's id after it. -/
def cacheName (cluster userID : String) : String := if userID ≠ "" then cluster ++ userID else cluster

/-- The record that the goroutines of a tunnel share. -/
def newPortForward (req : PortForwardRequest) (cluster userID : String) (closeChan : Nat) (identified : req.id ≠ "") :
    PortForward where
  id := req.id
  closeChan
  pod := req.pod
  service := req.service
  serviceNamespace := req.serviceNamespace
  «namespace» := req.namespace
  cluster
  cacheKey := cacheName cluster userID
  port := req.port
  targetPort := req.targetPort
  status := .running
  error := ""
  identified
  named := by
    unfold cacheName
    split
    next => exact ⟨userID, rfl⟩
    next => exact ⟨"", by simp⟩

/-- What the end of `ForwardPorts` makes of the record, where there is something to be
stored. -/
def PortForward.forwardEnded (p : PortForward) : Option String → Option PortForward
  | some err => some (p.set .stopped err)
  | none =>
    if p.status = .running then some (p.set .stopped (if p.error = "" then "Port forward stopped." else p.error)) else none

variable {p : PortForward} {cache : Cache} {cluster userID id key other : String}

@[simp] theorem cacheName_eq : cacheName cluster userID = cluster ++ userID := by
  unfold cacheName
  split
  next => rfl
  next empty => simp [not_not.mp empty]

theorem key_eq (p : PortForward) : portforwardKeyGenerator p = storeKeyPrefix ++ p.cacheKey ++ p.id := by
  have named : (if p.cacheKey = "" then p.cluster else p.cacheKey) = p.cacheKey := by
    obtain ⟨userID, same⟩ := p.named
    split
    next empty =>
      rw [empty] at same ⊢
      exact (String.append_eq_empty_iff.mp same.symm).1
    next => rfl
  simp [portforwardKeyGenerator, named, p.identified]

theorem key_eq_iff : portforwardKeyGenerator p = storeKeyPrefix ++ cluster ++ id ↔ p.cacheKey ++ p.id = cluster ++ id := by
  rw [key_eq, String.append_assoc, String.append_assoc, String.append_right_inj]

namespace Cache

theorem lookup_iff : lookup key cache.rows = some p ↔ portforwardKeyGenerator p = key ∧ ∃ row ∈ cache.rows, row.2 = p := by
  constructor
  · intro found
    have member := mem_of_lookup found
    exact ⟨(cache.filed _ member).symm, _, member, rfl⟩
  · rintro ⟨rfl, row, member, rfl⟩
    apply lookup_mem cache.unique
    rw [← cache.filed row member]
    exact member

theorem lookup_portforwardstore : lookup key (cache.portforwardstore p).rows =
    if key = portforwardKeyGenerator p then some p else lookup key cache.rows := by
  rw [portforwardstore, lookup_upsert]
  cases lookup (portforwardKeyGenerator p) cache.rows <;> rfl

theorem mem_portforwardstore {row : String × PortForward} (member : row ∈ (cache.portforwardstore p).rows) :
    row ∈ cache.rows ∨ row.2 = p := by
  unfold portforwardstore at member
  dsimp only at member
  rcases mem_upsert member with old | rfl | ⟨_, _, rfl⟩
  · exact Or.inl old
  · exact Or.inr rfl
  · exact Or.inr rfl

theorem lookup_delete : lookup key (cache.delete other).rows = if key = other then none else lookup key cache.rows :=
  lookup_erase key

theorem mem_getPortForwardList : p ∈ cache.getPortForwardList cluster ↔
    (∃ row ∈ cache.rows, row.2 = p) ∧ cluster.toList <+: (p.cacheKey ++ p.id).toList := by
  have start : ∀ row ∈ cache.rows, (storeKeyPrefix ++ cluster).toList.isPrefixOf row.1.toList = true ↔
      cluster.toList <+: (row.2.cacheKey ++ row.2.id).toList := by
    intro row member
    rw [cache.filed row member, key_eq, List.isPrefixOf_iff_prefix, String.append_assoc, String.toList_append,
      String.toList_append, List.prefix_append_right_inj]
  simp only [getPortForwardList, List.mem_map, List.mem_filter]
  constructor
  · rintro ⟨row, ⟨member, begins⟩, rfl⟩
    exact ⟨⟨row, member, rfl⟩, (start row member).mp begins⟩
  · rintro ⟨⟨row, member, rfl⟩, begins⟩
    exact ⟨row, ⟨member, (start row member).mpr begins⟩, rfl⟩

end Cache

end K8Sense.Forwarding
