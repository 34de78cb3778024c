import Mathlib.Data.List.DropRight
import K8Sense.Library.Ranked
import K8Sense.Library.Terminated

/-! The fingerprint of a REST config, by which a discovery root is recognised. Strings
are the bytes that they consist of. -/

namespace K8Sense.Inventory
open Terminated

abbrev Bytes := List UInt8

/-- The extension of an exec config: the name of its type, its JSON where it has one,
and how it is printed. -/
structure ExecObject where
  typeName : Bytes
  json : Option Bytes
  printed : Bytes
  deriving DecidableEq

structure ExecConfig where
  apiVersion : Bytes
  command : Bytes
  installHint : Bytes
  provideClusterInfo : Bool
  args : List Bytes
  env : List (Bytes × Bytes)
  config : Option ExecObject
  deriving DecidableEq

structure ImpersonationConfig where
  userName : Bytes
  groups : List Bytes
  /-- In the order in which the map is visited. -/
  extra : List (Bytes × List Bytes)

structure TLSClientConfig where
  serverName : Bytes
  caFile : Bytes
  certFile : Bytes
  keyFile : Bytes
  insecure : Bool
  caData : Bytes
  certData : Bytes
  keyData : Bytes
  deriving DecidableEq

structure RestConfig where
  host : Bytes
  apiPath : Bytes
  username : Bytes
  password : Bytes
  bearerToken : Bytes
  bearerTokenFile : Bytes
  tls : TLSClientConfig
  impersonate : ImpersonationConfig
  execProvider : Option ExecConfig
  distinct : (impersonate.extra.map Prod.fst).Nodup

/-- `true` and `false`. -/
def printBool (value : Bool) : Bytes := if value then [116, 114, 117, 101] else [102, 97, 108, 115, 101]

def writeRestConfigFingerprint (config : RestConfig) : List Bytes :=
  [config.host, config.apiPath, config.username, config.password, config.bearerToken, config.bearerTokenFile]

def writeTLSConfigFingerprint (config : TLSClientConfig) : List Bytes :=
  [config.serverName, config.caFile, config.certFile, config.keyFile, printBool config.insecure, config.caData, config.certData,
    config.keyData]

def sortExtra (extra : List (Bytes × List Bytes)) : List (Bytes × List Bytes) :=
  extra.mergeSort fun entry other => entry.1 ≤ other.1

def writeImpersonateFingerprint (config : ImpersonationConfig) : List Bytes :=
  config.userName :: (config.groups ++ (sortExtra config.extra).flatMap fun entry => entry.1 :: entry.2)

def writeExecConfigFingerprint : Option ExecObject → List Bytes
  | none => []
  | some config => [config.typeName, config.json.getD config.printed]

def writeExecFingerprint : Option ExecConfig → List Bytes
  | none => []
  | some execProvider =>
    [execProvider.apiVersion, execProvider.command, execProvider.installHint, printBool execProvider.provideClusterInfo] ++
      execProvider.args ++ (execProvider.env.flatMap fun env => [env.1, env.2]) ++ writeExecConfigFingerprint execProvider.config

/-- The strings that are hashed, in their order. -/
def hashed (config : RestConfig) : List Bytes :=
  writeRestConfigFingerprint config ++ writeTLSConfigFingerprint config.tls ++ writeImpersonateFingerprint config.impersonate ++
    writeExecFingerprint config.execProvider

/-- `hash` is SHA-256 with its sum in hexadecimal. -/
def restConfigFingerprint (hash : Bytes → Bytes) (config : RestConfig) : Bytes := hash (write 0 (hashed config))

structure URL where
  scheme : Bytes
  host : Bytes
  path : Bytes
  rawQuery : Bytes
  fragment : Bytes

/-- The package `net/url`. -/
structure Net where
  parse : Bytes → Option URL
  print : URL → Bytes

def trimSlashes (text : Bytes) : Bytes := text.rdropWhile (· == 47)

def normalizeServerURL (net : Net) (host : Bytes) : Bytes :=
  match net.parse host with
  | none => trimSlashes host
  | some parsed =>
    if parsed.scheme = [] ∨ parsed.host = [] then trimSlashes host
    else trimSlashes (net.print { parsed with path := trimSlashes parsed.path, rawQuery := [], fragment := [] })

/-- What an active root is recognised by. -/
structure RootState where
  serverURL : Bytes
  fingerprint : Bytes

def rootOf (net : Net) (hash : Bytes → Bytes) (config : RestConfig) : RootState :=
  ⟨normalizeServerURL net config.host, restConfigFingerprint hash config⟩

def rootMatches (current : Option RootState) (serverURL fingerprint : Bytes) : Bool :=
  match current with
  | none => false
  | some current => current.serverURL = serverURL && current.fingerprint = fingerprint

/-- A root that is active for one config is kept for another one. -/
def kept (net : Net) (hash : Bytes → Bytes) (config other : RestConfig) : Bool :=
  rootMatches (some (rootOf net hash config)) (rootOf net hash other).serverURL (rootOf net hash other).fingerprint

/-- The configs are alike in all that is hashed of them. -/
structure Agree (config other : RestConfig) : Prop where
  rest : writeRestConfigFingerprint config = writeRestConfigFingerprint other
  tls : config.tls = other.tls
  userName : config.impersonate.userName = other.impersonate.userName
  groups : config.impersonate.groups = other.impersonate.groups
  extra : config.impersonate.extra.Perm other.impersonate.extra
  exec : (config.execProvider.map fun exec => (exec.apiVersion, exec.command, exec.installHint, exec.provideClusterInfo, exec.args,
    exec.env, writeExecConfigFingerprint exec.config)) = other.execProvider.map fun exec => (exec.apiVersion, exec.command,
    exec.installHint, exec.provideClusterInfo, exec.args, exec.env, writeExecConfigFingerprint exec.config)

/-- How the strings are divided: how often each has a zero byte, how many groups and
values of each extra key there are, and how many arguments and variables. -/
structure Outline where
  zeros : List Nat
  groups : Nat
  extra : List Nat
  exec : Option (Nat × Nat × Bool)
  deriving DecidableEq

def outline (config : RestConfig) : Outline where
  zeros := (hashed config).map (List.count 0)
  groups := config.impersonate.groups.length
  extra := (sortExtra config.impersonate.extra).map fun entry => entry.2.length
  exec := config.execProvider.map fun exec => (exec.args.length, exec.env.length, exec.config.isSome)

/-- The fingerprint tells the configs apart: a root is kept exactly if nothing that is
hashed has changed. -/
structure Faithful (net : Net) (hash : Bytes → Bytes) (config other : RestConfig) : Prop where
  only : restConfigFingerprint hash config = restConfigFingerprint hash other → Agree config other
  root : kept net hash config other = true ↔ Agree config other

theorem printBool_injective : Function.Injective printBool := by
  intro first second
  cases first <;> cases second <;> decide

theorem sortExtra_perm (extra : List (Bytes × List Bytes)) : (sortExtra extra).Perm extra := List.mergeSort_perm _ _

theorem sortExtra_eq_iff {extra other : List (Bytes × List Bytes)} (distinct : (extra.map Prod.fst).Nodup) :
    sortExtra extra = sortExtra other ↔ extra.Perm other := by
  have sorted : ∀ extra, (sortExtra extra).Pairwise fun entry next => entry.1 ≤ next.1 := by
    intro extra
    apply Ranked.pairwise_sorted
    · exact fun _ _ _ => List.le_trans
    · exact fun entry next => List.le_total entry.1 next.1
  constructor
  · intro same
    exact (sortExtra_perm extra).symm.trans (same ▸ sortExtra_perm other)
  · intro perm
    have whole : (sortExtra extra).Perm (sortExtra other) := (sortExtra_perm extra).trans (perm.trans (sortExtra_perm other).symm)
    refine List.Perm.eq_of_pairwise ?_ (sorted extra) (sorted other) whole
    intro entry next inside there upto back
    have key : entry.1 = next.1 := List.le_antisymm upto back
    have present := (sortExtra_perm extra).mem_iff.mp inside
    have also : next ∈ extra := perm.mem_iff.mpr ((sortExtra_perm other).mem_iff.mp there)
    exact List.inj_on_of_nodup_map distinct present also key

section
variable {config other : RestConfig}

theorem hashed_of_agree (agree : Agree config other) : hashed config = hashed other ∧ outline config = outline other := by
  have extra := (sortExtra_eq_iff config.distinct).mpr agree.extra
  have exec : writeExecFingerprint config.execProvider = writeExecFingerprint other.execProvider ∧
      (outline config).exec = (outline other).exec := by
    have same := agree.exec
    unfold outline
    cases first : config.execProvider with
    | none =>
      cases second : other.execProvider with
      | none => exact ⟨rfl, rfl⟩
      | some exec => simp [first, second] at same
    | some exec =>
      cases second : other.execProvider with
      | none => simp [first, second] at same
      | some exec' =>
        simp only [first, second, Option.map_some, Option.some.injEq, Prod.mk.injEq] at same
        obtain ⟨version, command, hint, provide, args, env, written⟩ := same
        have there : exec.config.isSome = exec'.config.isSome := by
          cases left : exec.config <;> cases right : exec'.config <;> simp [writeExecConfigFingerprint, left, right] at written ⊢
        simp [writeExecFingerprint, version, command, hint, provide, args, env, written, there]
  have whole : hashed config = hashed other := by
    unfold hashed writeImpersonateFingerprint
    rw [agree.rest, agree.tls, agree.userName, agree.groups, extra, exec.1]
  refine ⟨whole, ?_⟩
  have execOutline := exec.2
  unfold outline at execOutline ⊢
  simp only [Outline.mk.injEq]
  exact ⟨by rw [whole], by rw [agree.groups], by rw [extra], execOutline⟩

theorem extra_injective {extra others : List (Bytes × List Bytes)} {rest more : List Bytes}
    (lengths : (extra.map fun entry => entry.2.length) = others.map fun entry => entry.2.length)
    (same : (extra.flatMap fun entry => entry.1 :: entry.2) ++ rest = (others.flatMap fun entry => entry.1 :: entry.2) ++ more) :
    extra = others ∧ rest = more := by
  induction extra generalizing others with
  | nil =>
    cases others with
    | nil => exact ⟨rfl, same⟩
    | cons other others => simp at lengths
  | cons entry extra ih =>
    cases others with
    | nil => simp at lengths
    | cons other others =>
      have ⟨length, later⟩ := List.cons.inj lengths
      simp only [List.flatMap_cons, List.cons_append, List.append_assoc, List.cons.injEq] at same
      obtain ⟨values, tail⟩ := List.append_inj same.2 length
      obtain ⟨others, more⟩ := ih later tail
      exact ⟨by rw [Prod.ext same.1 values, others], more⟩

theorem env_injective {env others : List (Bytes × Bytes)} {rest more : List Bytes} (length : env.length = others.length)
    (same : (env.flatMap fun env => [env.1, env.2]) ++ rest = (others.flatMap fun env => [env.1, env.2]) ++ more) :
    env = others ∧ rest = more := by
  induction env generalizing others with
  | nil =>
    obtain rfl := List.length_eq_zero_iff.mp length.symm
    exact ⟨rfl, same⟩
  | cons entry env ih =>
    cases others with
    | nil => simp at length
    | cons other others =>
      simp only [List.flatMap_cons, List.cons_append, List.nil_append, List.cons.injEq] at same
      obtain ⟨others, more⟩ := ih (by simpa using length) same.2.2
      exact ⟨by rw [Prod.ext same.1 same.2.1, others], more⟩

theorem agree_of_hashed (same : hashed config = hashed other) (alike : outline config = outline other) : Agree config other := by
  simp only [outline, Outline.mk.injEq] at alike
  obtain ⟨_, groups, extra, divided⟩ := alike
  simp only [hashed, writeRestConfigFingerprint, writeTLSConfigFingerprint, writeImpersonateFingerprint, List.cons_append,
    List.nil_append, List.append_assoc, List.cons.injEq] at same
  obtain ⟨host, apiPath, username, password, token, tokenFile, serverName, caFile, certFile, keyFile, insecure, caData, certData,
    keyData, userName, rest⟩ := same
  obtain ⟨groupsSame, rest⟩ := List.append_inj rest groups
  obtain ⟨extraSame, rest⟩ := extra_injective extra rest
  refine ⟨?_, ?_, userName, groupsSame, (sortExtra_eq_iff config.distinct).mp extraSame, ?_⟩
  · simp [writeRestConfigFingerprint, host, apiPath, username, password, token, tokenFile]
  · have flag := printBool_injective insecure
    cases left : config.tls
    cases right : other.tls
    simp_all
  · cases first : config.execProvider with
    | none =>
      cases second : other.execProvider with
      | none => rfl
      | some exec => simp [first, second] at divided
    | some exec =>
      cases second : other.execProvider with
      | none => simp [first, second] at divided
      | some exec' =>
        simp only [first, second, Option.map_some, Option.some.injEq, Prod.mk.injEq] at divided
        simp only [first, second, writeExecFingerprint, List.cons_append, List.nil_append, List.append_assoc, List.cons.injEq] at rest
        obtain ⟨version, command, hint, provide, rest⟩ := rest
        obtain ⟨args, rest⟩ := List.append_inj rest divided.1
        obtain ⟨env, rest⟩ := env_injective divided.2.1 rest
        simp [version, command, hint, printBool_injective provide, args, env, rest]

/-- The strings of the configs, one behind the other with a zero byte after each, are
different texts or are divided alike. -/
def Unambiguous (config other : RestConfig) : Prop :=
  write 0 (hashed config) = write 0 (hashed other) → outline config = outline other

/-- A fingerprint is faithful for two configs exactly if they are not one text divided
in two ways. -/
theorem fingerprint_faithful_iff {hash : Bytes → Bytes} (collisionFree : Function.Injective hash) (net : Net) :
    Faithful net hash config other ↔ Unambiguous config other := by
  have keptOfAgree : Agree config other → kept net hash config other = true := by
    intro agree
    have host : config.host = other.host := (List.cons.inj agree.rest).1
    simp [kept, rootMatches, rootOf, host, restConfigFingerprint, (hashed_of_agree agree).1]
  constructor
  · intro faithful same
    exact (hashed_of_agree (faithful.only (congrArg hash same))).2
  · intro unambiguous
    have only : restConfigFingerprint hash config = restConfigFingerprint hash other → Agree config other := by
      intro same
      have text := collisionFree same
      have alike := unambiguous text
      have counts : (hashed config).map (List.count 0) = (hashed other).map (List.count 0) := congrArg Outline.zeros alike
      exact agree_of_hashed (write_injective counts text) alike
    refine ⟨only, ?_, keptOfAgree⟩
    intro remains
    apply only
    simp only [kept, rootMatches, Bool.and_eq_true, decide_eq_true_eq] at remains
    exact remains.2

end

section
def ascii (text : String) : Bytes := text.toList.map fun char => UInt8.ofNat char.toNat

/-- An address is taken as it is. -/
def plainNet : Net := ⟨fun _ => none, fun url => url.path⟩

def rootConfig (token : String) (groups : List Bytes) (extra : List (Bytes × List Bytes))
    (distinct : (extra.map Prod.fst).Nodup) : RestConfig where
  host := ascii "https://hub:6443/"
  apiPath := []
  username := []
  password := []
  bearerToken := ascii token
  bearerTokenFile := []
  tls := ⟨[], [], [], [], false, [], [], []⟩
  impersonate := ⟨ascii "alice", groups, extra⟩
  execProvider := none
  distinct := distinct

theorem token_change_seen :
    Faithful plainNet id (rootConfig "old" [ascii "dev"] [] (by decide)) (rootConfig "new" [ascii "dev"] [] (by decide)) := by
  apply (fingerprint_faithful_iff Function.injective_id plainNet).mpr
  intro same
  exact absurd same (by decide +kernel)

/-- A group, an extra key and its value are hashed as three groups are. -/
theorem groups_taken_for_extra :
    ¬ Faithful plainNet id (rootConfig "old" [ascii "dev", ascii "scopes", ascii "admin"] [] (by decide))
      (rootConfig "old" [ascii "dev"] [(ascii "scopes", [ascii "admin"])] (by decide)) := by
  intro faithful
  have groups := (faithful.only (by decide +kernel)).groups
  simp [rootConfig] at groups

end

end K8Sense.Inventory
