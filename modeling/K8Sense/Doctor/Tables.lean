import Mathlib.Logic.Function.Basic
import K8Sense.Library.Keyed
import K8Sense.Doctor.Alerting
import K8Sense.Doctor.Role

/-! The tables that handlers write, beside those of scans, audit entries and
custom rules. A table with a primary key is a function of the key. -/

namespace K8Sense.Doctor.Db
open Recency Alerting

structure User where
  id : String
  username : String
  role : Role
  disabled : Bool
  createdAt : Nat
  deriving DecidableEq

structure Account where
  user : User
  passwordHash : String
  deriving DecidableEq

structure Session where
  token : String
  userID : String
  createdAt : Nat
  expiresAt : Nat
  deriving DecidableEq

structure ScanSchedule where
  enabled : Bool
  intervalMinutes : Int
  lastRunAt : Nat
  deriving DecidableEq

structure RuleOverride where
  enabled : Bool
  severity : Option String
  deriving DecidableEq

structure ResourceKey where
  clusterID : String
  ruleID : String
  «namespace» : String
  resourceKind : String
  resourceName : String
  deriving DecidableEq

structure Suppression where
  reason : Option String
  suppressedBy : Option String
  suppressedAt : Nat
  comment : Option String
  deriving DecidableEq

/-- `none` where the username is taken. -/
def createUser (account : Account) (users : List Account) : Option (List Account) :=
  if users.any fun other => other.user.username = account.user.username || other.user.id = account.user.id then none
  else some (users ++ [account])

def getUserAuth (username : String) (users : List Account) : Option Account :=
  users.find? fun account => account.user.username = username

def getUser (id : String) (users : List Account) : Option User :=
  (users.find? fun account => account.user.id = id).map Account.user

def updateUsers (id : String) (change : User → User) (users : List Account) : List Account :=
  users.map fun account => if account.user.id = id then { account with user := change account.user } else account

def setUserRole (id : String) (role : Role) : List Account → List Account :=
  updateUsers id fun user => { user with role }

def setUserDisabled (id : String) (disabled : Bool) : List Account → List Account :=
  updateUsers id fun user => { user with disabled }

/-- `none` where the token is in use. -/
def createSession (session : Session) (sessions : List Session) : Option (List Session) :=
  if sessions.any fun other => other.token = session.token then none else some (sessions ++ [session])

def sessionUser (token : String) (now : Nat) (sessions : List Session) : Option String :=
  match sessions.find? fun session => session.token = token with
  | some session => if session.expiresAt ≤ now then none else some session.userID
  | none => none

def deleteSession (token : String) (sessions : List Session) : List Session :=
  sessions.filter fun session => session.token ≠ token

def deleteUserSessions (userID : String) (sessions : List Session) : List Session :=
  sessions.filter fun session => session.userID ≠ userID

def setNotificationConfig (clusterID : String) (config : NotificationConfig)
    (table : String → Option NotificationConfig) : String → Option NotificationConfig :=
  Function.update table clusterID (some config)

/-- A cluster without a row is to be notified. -/
def getNotificationConfig (clusterID : String) (table : String → Option NotificationConfig) : NotificationConfig :=
  (table clusterID).getD ⟨"", "", true⟩

def minimumInterval : Int := 5

/-- The time of the last run is kept. -/
def setSchedule (clusterID : String) (enabled : Bool) (intervalMinutes : Int) (table : String → Option ScanSchedule) :
    String → Option ScanSchedule :=
  Function.update table clusterID
    (some ⟨enabled, max minimumInterval intervalMinutes, ((table clusterID).map ScanSchedule.lastRunAt).getD 0⟩)

def setRuleOverride (clusterID ruleID : String) (enabled : Bool) (table : String × String → Option RuleOverride) :
    String × String → Option RuleOverride :=
  Function.update table (clusterID, ruleID)
    (some ⟨enabled, (table (clusterID, ruleID)).bind RuleOverride.severity⟩)

/-- An empty severity takes the override back. -/
def setRuleSeverity (clusterID ruleID severity : String) (table : String × String → Option RuleOverride) :
    String × String → Option RuleOverride :=
  Function.update table (clusterID, ruleID)
    (some ⟨((table (clusterID, ruleID)).map RuleOverride.enabled).getD true, nullIfEmpty severity⟩)

/-- A comment that is there stays. -/
def addSuppression (key : ResourceKey) (suppression : Suppression) (table : ResourceKey → Option Suppression) :
    ResourceKey → Option Suppression :=
  Function.update table key (some (match table key with
    | some old => { suppression with comment := old.comment }
    | none => suppression))

def removeSuppression (key : ResourceKey) (table : ResourceKey → Option Suppression) : ResourceKey → Option Suppression :=
  Function.update table key none

def setComment (key : ResourceKey) (comment : String) (now : Nat) (table : ResourceKey → Option Suppression) :
    ResourceKey → Option Suppression :=
  Function.update table key (some (match table key with
    | some old => { old with comment := nullIfEmpty comment }
    | none => ⟨none, none, now, nullIfEmpty comment⟩))

/-- The scans of a cluster beyond the newest. -/
def beyond (keepPerCluster : Nat) (scans : List ScanSummary) (clusterID : String) : List ScanSummary :=
  (newestFirst ScanSummary.startedAt (scans.filter fun scan => scan.clusterID = clusterID)).drop keepPerCluster

def prunedIDs (keepPerCluster : Nat) (scans : List ScanSummary) : List String :=
  ((scans.map ScanSummary.clusterID).eraseDups.flatMap (beyond keepPerCluster scans)).map ScanSummary.id

def pruneScans (keepPerCluster : Nat) (store : Store) : Store :=
  let ids := prunedIDs keepPerCluster store.scans
  ⟨store.scans.filter fun scan => !ids.contains scan.id, store.findings.filter fun finding => !ids.contains finding.scanID⟩

theorem updateUsers_unchanged {id : String} {change : User → User} {users : List Account} :
    updateUsers id change users = users ↔ ∀ account ∈ users, account.user.id = id → change account.user = account.user := by
  unfold updateUsers
  rw [Keyed.map_unchanged]
  apply forall₂_congr
  intro account _
  by_cases named : account.user.id = id
  · simp only [named, if_true, forall_const]
    constructor
    · exact fun same => congrArg Account.user same
    · intro same
      rw [same]
  · simp [named]

theorem updateUsers_twice {id : String} {first second : User → User} {users : List Account}
    (named : ∀ user, (first user).id = user.id) :
    updateUsers id second (updateUsers id first users) = updateUsers id (fun user => second (first user)) users := by
  simp only [updateUsers, List.map_map]
  apply List.map_congr_left
  intro account _
  by_cases same : account.user.id = id <;> simp [same, named]

theorem mem_beyond {keepPerCluster : Nat} {scans : List ScanSummary} {clusterID : String} {scan : ScanSummary}
    (member : scan ∈ beyond keepPerCluster scans clusterID) : scan ∈ scans ∧ scan.clusterID = clusterID := by
  have inside := mem_newestFirst.mp (List.mem_of_mem_drop member)
  simpa using inside

theorem pruneScans_unchanged {keepPerCluster : Nat} {store : Store} : pruneScans keepPerCluster store = store ↔
    ∀ clusterID, (store.scans.filter fun scan => scan.clusterID = clusterID).length ≤ keepPerCluster := by
  constructor
  · intro same clusterID
    by_contra more
    have length : 0 < (beyond keepPerCluster store.scans clusterID).length := by
      rw [beyond, List.length_drop, (newestFirst_perm _ _).length_eq]
      omega
    obtain ⟨scan, member⟩ := List.exists_mem_of_length_pos length
    obtain ⟨inside, named⟩ := mem_beyond member
    have listed : scan.id ∈ prunedIDs keepPerCluster store.scans := by
      apply List.mem_map_of_mem
      apply List.mem_flatMap.mpr
      refine ⟨clusterID, ?_, member⟩
      rw [List.mem_eraseDups]
      exact List.mem_map.mpr ⟨scan, inside, named⟩
    have kept : scan ∈ (pruneScans keepPerCluster store).scans := by rwa [same]
    simp [pruneScans, listed] at kept
  · intro few
    have none : prunedIDs keepPerCluster store.scans = [] := by
      simp only [prunedIDs, List.map_eq_nil_iff, List.flatMap_eq_nil_iff]
      intro clusterID _
      rw [beyond, List.drop_eq_nil_iff, (newestFirst_perm _ _).length_eq]
      exact few clusterID
    simp [pruneScans, none]

end K8Sense.Doctor.Db
