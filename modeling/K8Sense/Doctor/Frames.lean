import K8Sense.Doctor.AccountHandlers

/-! The handlers that have nothing to do with accounts, sessions and guided fixes
leave the tables of these alone. -/

namespace K8Sense.Doctor.Api
open Db

/-- The tables that few handlers write. -/
structure Apart (before after : State) : Prop where
  users : after.config.users = before.config.users
  sessions : after.sessions = before.sessions
  audit : after.audit = before.audit

def Endpoint.accounts : Endpoint → Bool
  | .bootstrap _ | .login _ | .logout | .createUser _ | .updateUser _ _ => true
  | _ => false

def Endpoint.fixes : Endpoint → Bool
  | .guidedFix _ | .revertGuidedFix _ => true
  | _ => false

variable {env : Env} {state : State} {user : Option User}

theorem Apart.refl (state : State) : Apart state state := ⟨rfl, rfl, rfl⟩

theorem requireRole_apart {required : Role} {next : State × Response} (apart : Apart state next.1) :
    Apart state (requireRole env state user required next).1 := by
  unfold requireRole
  split
  next => exact apart
  next => exact Apart.refl state

theorem requirePaid_apart {next : State × Response} (apart : Apart state next.1) :
    Apart state (requirePaid state next).1 := by
  unfold requirePaid
  split
  next => exact Apart.refl state
  next => exact apart

theorem stored_apart {query : Query} {next : State} (apart : Apart state next) :
    Apart state (stored env state query next).1 := by
  unfold stored
  split
  next => exact Apart.refl state
  next => exact apart

theorem setCluster_apart {cluster : String} {kube : Kube} : Apart state (state.setCluster cluster kube) := ⟨rfl, rfl, rfl⟩

theorem helmRan_apart {cluster context message : String} {result : Kube × Option String} :
    Apart state (helmRan state cluster context message result).1 := setCluster_apart

theorem launch_apart {cluster : String} {kube : Kube} {configMap job : Object} {creating starting : String} {done : Response} :
    Apart state (launch env state cluster kube configMap job creating starting done).1 := by
  obtain ⟨last, ran, _⟩ := launch_cluster env state cluster kube configMap job creating starting done
  rw [ran]
  exact setCluster_apart

theorem startScan_apart {body : Option String} : Apart state (startScan env state body).1 := by
  unfold startScan
  split
  next => exact Apart.refl state
  next =>
    split
    next => exact Apart.refl state
    next => exact ⟨rfl, rfl, rfl⟩

theorem startMultiScan_apart {body : Option (List String)} : Apart state (startMultiScan env state body).1 := by
  unfold startMultiScan
  split
  next => exact Apart.refl state
  next => exact ⟨rfl, rfl, rfl⟩

theorem validateRule_apart {body : Option String} : Apart state (validateRule env state body).1 := by
  unfold validateRule
  split
  next => exact Apart.refl state
  next => split <;> exact Apart.refl state

theorem setRules_apart {rules : CustomRules.Server} : Apart state (state.setRules rules) := ⟨rfl, rfl, rfl⟩

theorem toggleRule_apart {cluster id enabled : String} : Apart state (toggleRule env state user cluster id enabled).1 := by
  apply requireRole_apart
  split
  next => exact Apart.refl state
  next => exact stored_apart ⟨rfl, rfl, rfl⟩

theorem setRuleSeverity_apart {cluster id severity : String} :
    Apart state (setRuleSeverity env state user cluster id severity).1 := by
  apply requireRole_apart
  split
  next => exact Apart.refl state
  next =>
    split
    next => exact Apart.refl state
    next => exact stored_apart ⟨rfl, rfl, rfl⟩

theorem aiChat_apart {body : Option AIChatRequest} : Apart state (aiChat env state body).1 := by
  unfold aiChat
  split
  next => exact Apart.refl state
  next =>
    split
    next => exact Apart.refl state
    next =>
      split
      next => exact Apart.refl state
      next => split <;> exact Apart.refl state

theorem setAIConfig_apart {body : Option StoredAIConfig} : Apart state (setAIConfig env state body).1 := by
  unfold setAIConfig
  split
  next => exact Apart.refl state
  next =>
    split
    next => exact Apart.refl state
    next =>
      split
      next => exact Apart.refl state
      next => exact ⟨rfl, rfl, rfl⟩

theorem installApp_apart {body : Option CatalogActionRequest} : Apart state (installApp env state body).1 := by
  unfold installApp
  split
  next => exact Apart.refl state
  next =>
    split
    next => exact Apart.refl state
    next => exact helmRan_apart

theorem uninstallApp_apart {body : Option CatalogActionRequest} : Apart state (uninstallApp env state body).1 := by
  unfold uninstallApp
  split
  next => exact Apart.refl state
  next => exact helmRan_apart

theorem enableRunbooks_apart {body : Option String} : Apart state (enableRunbooks env state body).1 := by
  unfold enableRunbooks
  split
  next => exact Apart.refl state
  next =>
    split
    next => exact Apart.refl state
    next => exact setCluster_apart

theorem runRunbook_apart {body : Option RunRunbookRequest} : Apart state (runRunbook env state body).1 := by
  unfold runRunbook
  split
  next => exact Apart.refl state
  next => exact launch_apart

theorem setRunbooksConfig_apart {body : Option String} : Apart state (setRunbooksConfig env state body).1 := by
  unfold setRunbooksConfig
  split
  next => exact Apart.refl state
  next =>
    split
    next => exact Apart.refl state
    next =>
      split
      next => exact Apart.refl state
      next => exact ⟨rfl, rfl, rfl⟩

theorem runVulnScan_apart {body : Option String} : Apart state (runVulnScan env state body).1 := by
  unfold runVulnScan
  split
  next => exact Apart.refl state
  next =>
    split
    next => exact setCluster_apart
    next => exact launch_apart

theorem setVulnScanConfig_apart {body : Option VulnConfig} : Apart state (setVulnScanConfig env state body).1 := by
  unfold setVulnScanConfig
  split
  next => exact Apart.refl state
  next =>
    split
    next => exact Apart.refl state
    next =>
      split
      next => exact Apart.refl state
      next => exact ⟨rfl, rfl, rfl⟩

theorem setRegistry_apart {body : Option String} : Apart state (setRegistry env state body).1 := by
  unfold setRegistry
  split
  next => exact Apart.refl state
  next =>
    split
    next => exact Apart.refl state
    next => exact ⟨rfl, rfl, rfl⟩

theorem checkedSuppression_apart {body : Option SuppressRequest} {next : SuppressRequest → State × Response}
    (apart : ∀ req, Apart state (next req).1) : Apart state (checkedSuppression env state user body next).1 := by
  apply requireRole_apart
  split
  next => exact Apart.refl state
  next =>
    split
    next => exact Apart.refl state
    next => exact apart _

theorem suppressFinding_apart {actor : String} {body : Option SuppressRequest} :
    Apart state (suppressFinding env state user actor body).1 := by
  apply checkedSuppression_apart
  intro req
  split
  next => exact Apart.refl state
  next => exact stored_apart ⟨rfl, rfl, rfl⟩

theorem unsuppressFinding_apart {body : Option SuppressRequest} : Apart state (unsuppressFinding env state user body).1 := by
  apply checkedSuppression_apart
  exact fun _ => stored_apart ⟨rfl, rfl, rfl⟩

theorem commentFinding_apart {body : Option SuppressRequest} : Apart state (commentFinding env state user body).1 := by
  apply checkedSuppression_apart
  exact fun _ => stored_apart ⟨rfl, rfl, rfl⟩

theorem setNotifyConfig_apart {body : Option NotifyUpdateRequest} : Apart state (setNotifyConfig env state user body).1 := by
  apply requirePaid_apart
  apply requireRole_apart
  split
  next => exact Apart.refl state
  next =>
    split
    next => exact Apart.refl state
    next =>
      unfold stored
      split <;> exact ⟨rfl, rfl, rfl⟩

theorem testNotification_apart {cluster : String} : Apart state (testNotification env state cluster).1 := by
  unfold testNotification
  split
  next => exact Apart.refl state
  next =>
    split
    next => exact Apart.refl state
    next =>
      extract_lets config
      split
      next => exact Apart.refl state
      next => split <;> exact Apart.refl state

theorem setBranding_apart {body : Option Branding} : Apart state (setBranding env state user body).1 := by
  apply requirePaid_apart
  apply requireRole_apart
  split
  next => exact Apart.refl state
  next =>
    split
    next => exact Apart.refl state
    next =>
      split
      next => exact Apart.refl state
      next => exact ⟨rfl, rfl, rfl⟩

theorem setRole_apart {body : Option Role} : Apart state (setRole env state user body).1 := by
  apply requireRole_apart
  split
  next => exact Apart.refl state
  next =>
    split
    next => exact Apart.refl state
    next => exact ⟨rfl, rfl, rfl⟩

theorem purgeScans_apart {body : Option Int} : Apart state (purgeScans env state body).1 := by
  unfold purgeScans
  split
  next => exact Apart.refl state
  next => exact ⟨rfl, rfl, rfl⟩

theorem activateLicence_apart {body : Option ActivateRequest} : Apart state (activateLicence env state body).1 := by
  unfold activateLicence
  split
  next => exact Apart.refl state
  next => exact ⟨rfl, rfl, rfl⟩

theorem startTrial_apart : Apart state (startTrial env state).1 := by
  unfold startTrial
  split
  next => exact Apart.refl state
  next =>
    split
    next => exact Apart.refl state
    next =>
      split
      next => exact Apart.refl state
      next => exact Apart.refl state
      next => exact ⟨rfl, rfl, rfl⟩
      next =>
        cases env.files .trialMarker with
        | some _ => exact ⟨rfl, rfl, rfl⟩
        | none => exact ⟨rfl, rfl, rfl⟩

theorem setFixState_apart (fixed : FixState) : (state.setFixState fixed).config.users = state.config.users ∧
    (state.setFixState fixed).sessions = state.sessions := ⟨rfl, rfl⟩

theorem dispatch_apart {request : Request} (accounts : request.endpoint.accounts = false)
    (fixes : request.endpoint.fixes = false) : Apart state (dispatch env state user request).1 := by
  unfold dispatch
  cases endpoint : request.endpoint with
  | bootstrap body => simp [endpoint, Endpoint.accounts] at accounts
  | login body => simp [endpoint, Endpoint.accounts] at accounts
  | logout => simp [endpoint, Endpoint.accounts] at accounts
  | createUser body => simp [endpoint, Endpoint.accounts] at accounts
  | updateUser id body => simp [endpoint, Endpoint.accounts] at accounts
  | startScan body => exact startScan_apart
  | startMultiScan body => exact startMultiScan_apart
  | validateRule body => exact validateRule_apart
  | importRule body => exact setRules_apart
  | deleteCustomRule id => exact setRules_apart
  | toggleRule id enabled => exact toggleRule_apart
  | setRuleSeverity id severity => exact setRuleSeverity_apart
  | aiChat body => exact aiChat_apart
  | setAIConfig body => exact setAIConfig_apart
  | installApp body => exact installApp_apart
  | uninstallApp body => exact uninstallApp_apart
  | enableRunbooks body => exact enableRunbooks_apart
  | runRunbook body => exact runRunbook_apart
  | setRunbooksConfig body => exact setRunbooksConfig_apart
  | runVulnScan body => exact runVulnScan_apart
  | setVulnScanConfig body => exact setVulnScanConfig_apart
  | setRegistry body => exact setRegistry_apart
  | guidedFix body => simp [endpoint, Endpoint.fixes] at fixes
  | revertGuidedFix body => simp [endpoint, Endpoint.fixes] at fixes
  | suppressFinding body => exact suppressFinding_apart
  | unsuppressFinding body => exact unsuppressFinding_apart
  | commentFinding body => exact commentFinding_apart
  | setNotifyConfig body => exact setNotifyConfig_apart
  | testNotification => exact testNotification_apart
  | setBranding body => exact setBranding_apart
  | setRole body => exact setRole_apart
  | purgeScans body => exact purgeScans_apart
  | activateLicence body => exact activateLicence_apart
  | startTrial => exact startTrial_apart

theorem issueSession_audit {username password : String} :
    (issueSession env state username password).1.audit = state.audit := by
  obtain ⟨sessions, same⟩ := issueSession_state env state username password
  rw [same]

theorem bootstrap_audit {body : Option Credentials} : (bootstrap env state body).1.audit = state.audit := by
  obtain ⟨accounts, sessions, same, _⟩ := bootstrap_state env state body
  rw [same]
  rfl

theorem createUser_audit {body : Option CreateUserRequest} : (createUser env state user body).1.audit = state.audit := by
  obtain ⟨accounts, same, _⟩ := createUser_state env state user body
  rw [same]
  rfl

theorem updateUser_audit {id : String} {body : Option UpdateUserRequest} :
    (updateUser env state user id body).1.audit = state.audit := by
  obtain ⟨role, disabled, sessions, same⟩ := updateUser_state env state user id body
  rw [same]
  rfl

theorem dispatch_audit {request : Request} (fixes : request.endpoint.fixes = false) :
    (dispatch env state user request).1.audit = state.audit := by
  cases accounts : request.endpoint.accounts with
  | false =>
    have apart : Apart state (dispatch env state user request).1 := dispatch_apart accounts fixes
    exact apart.audit
  | true =>
    unfold dispatch
    cases endpoint : request.endpoint with
    | bootstrap body => exact bootstrap_audit
    | login body =>
      cases body with
      | none => rfl
      | some req => exact issueSession_audit
    | logout =>
      simp only [logout]
      split <;> rfl
    | createUser body => exact createUser_audit
    | updateUser id body => exact updateUser_audit
    | _ => simp [endpoint, Endpoint.accounts] at accounts

theorem dispatch_accounts {request : Request} (accounts : request.endpoint.accounts = false) :
    (dispatch env state user request).1.config.users = state.config.users ∧
      (dispatch env state user request).1.sessions = state.sessions := by
  cases fixes : request.endpoint.fixes with
  | false =>
    have apart : Apart state (dispatch env state user request).1 := dispatch_apart accounts fixes
    exact ⟨apart.users, apart.sessions⟩
  | true =>
    unfold dispatch
    cases endpoint : request.endpoint with
    | guidedFix body => exact setFixState_apart _
    | revertGuidedFix body => exact setFixState_apart _
    | _ => simp [endpoint, Endpoint.fixes] at fixes

end K8Sense.Doctor.Api
