import Mathlib.Algebra.Ring.Nat
import Mathlib.Data.String.Basic
import K8Sense.Library.Ranked
import K8Sense.Library.Text
import K8Sense.Doctor.Runbooks

/-! The report of a vulnerability scan: the log of the scanner is cut into one block
for each image, and the findings of a block are counted and ranked. -/

namespace K8Sense.Doctor.VulnScan
open Text

def imageMarker : String := "@@IMAGE "

def endMarker : String := "@@END"

def severityOrder : List (String × Nat) := [("CRITICAL", 0), ("HIGH", 1), ("MEDIUM", 2), ("LOW", 3), ("UNKNOWN", 4)]

/-- The lookup in a map of numbers, which is 0 for a key that is not there. -/
def rank (severity : String) : Nat := (severityOrder.lookup severity).getD 0

structure ImageVuln where
  vulnID : String
  severity : String
  pkgName : String
  installedVersion : String
  fixedVersion : String
  title : String
deriving DecidableEq

/-- Counts are given as the lookup in their map. -/
structure ImageResult where
  image : String
  namespaces : List String
  counts : String → Nat
  vulns : List ImageVuln
  error : String

structure VulnReport where
  totals : String → Nat
  images : List ImageResult

structure ImageBlock where
  image : String
  body : String
deriving DecidableEq

/-- A vulnerability as Trivy prints it. -/
structure Vulnerability where
  vulnerabilityID : String
  pkgName : String
  installedVersion : String
  fixedVersion : String
  severity : String
  title : String
deriving DecidableEq

structure ScanOutput where
  scanError : Bool
  results : List (List Vulnerability)
deriving DecidableEq

/-- What the report gets from libraries: reading JSON, and upper-casing. -/
structure Env where
  unmarshal : String → Option ScanOutput
  toUpper : String → String

/-- The blocks so far, and the image of the one that is open with its lines. -/
structure Splitting where
  blocks : List ImageBlock := []
  current : Option (String × String) := none
deriving DecidableEq

/-- The loop body of `splitImageBlocks`. A block that is open when another begins
is forgotten. -/
def splitLine (state : Splitting) (line : String) : Splitting :=
  if imageMarker.toList.isPrefixOf line.toList then
    { state with current := some (trimSpace (trimPrefix imageMarker line), "") }
  else if trimSpace line = endMarker then
    match state.current with
    | none => state
    | some (image, body) => { blocks := state.blocks ++ [⟨image, body⟩], current := none }
  else
    match state.current with
    | none => state
    | some (image, body) => { state with current := some (image, body ++ line ++ "\n") }

def splitImageBlocks (logs : String) : List ImageBlock := ((split '\n' logs).foldl splitLine {}).blocks

def scanFailure : String := "could not scan this image (unreachable registry, or Trivy DB missing?)"

section
variable (env : Env)

def imageVuln (vulnerability : Vulnerability) : ImageVuln where
  vulnID := vulnerability.vulnerabilityID
  severity := env.toUpper vulnerability.severity
  pkgName := vulnerability.pkgName
  installedVersion := vulnerability.installedVersion
  fixedVersion := vulnerability.fixedVersion
  title := vulnerability.title

/-- The output of a scan that can be read and did not fail. -/
def outputOf (block : ImageBlock) : Option ScanOutput := (env.unmarshal block.body).filter fun output => !output.scanError

/-- What a block reports, in the order of its output. -/
def scanned (block : ImageBlock) : List ImageVuln :=
  ((outputOf env block).map fun output => output.results.flatten.map (imageVuln env)).getD []

/-- `m[key]++`. -/
def increment (counts : String → Nat) (key : String) : String → Nat := Function.update counts key (counts key + 1)

def addVuln (state : ImageResult × (String → Nat)) (vuln : ImageVuln) : ImageResult × (String → Nat) :=
  ({ state.1 with counts := increment state.1.counts vuln.severity, vulns := state.1.vulns ++ [vuln] },
    increment state.2 vuln.severity)

/-- `sort.SliceStable` by severity. -/
def rankVulns (vulns : List ImageVuln) : List ImageVuln :=
  vulns.mergeSort fun first second => rank first.severity ≤ rank second.severity

/-- The loop body of `buildVulnReport`. -/
def addBlock (namespaces : String → List String) (report : VulnReport) (block : ImageBlock) : VulnReport :=
  let fresh : ImageResult := ⟨block.image, namespaces block.image, fun _ => 0, [], ""⟩
  match outputOf env block with
  | none => { report with images := report.images ++ [{ fresh with error := scanFailure }] }
  | some output =>
    let counted := (output.results.flatten.map (imageVuln env)).foldl addVuln (fresh, report.totals)
    { totals := counted.2, images := report.images ++ [{ counted.1 with vulns := rankVulns counted.1.vulns }] }

/-- The most critical findings come first, and then the most of high severity. -/
def imageLess (first second : ImageResult) : Bool :=
  if first.counts "CRITICAL" ≠ second.counts "CRITICAL" then first.counts "CRITICAL" > second.counts "CRITICAL"
  else first.counts "HIGH" > second.counts "HIGH"

def buildVulnReport (logs : String) (namespaces : String → List String) : VulnReport :=
  let report := (splitImageBlocks logs).foldl (addBlock env namespaces) ⟨fun _ => 0, []⟩
  { report with images := report.images.mergeSort fun first second => !imageLess second first }

end

/-- The number of findings of a severity. -/
def countOf (vulns : List ImageVuln) (severity : String) : Nat := vulns.countP fun vuln => vuln.severity = severity

theorem countOf_nil : countOf [] = fun _ => 0 := rfl

theorem increment_eq (counts : String → Nat) (key severity : String) :
    increment counts key severity = counts severity + if key = severity then 1 else 0 := by
  unfold increment
  by_cases same : severity = key
  · subst same
    rw [Function.update_self, if_pos rfl]
  · rw [Function.update_of_ne same, if_neg (fun equal => same equal.symm), Nat.add_zero]

theorem addVulns_eq (vulns : List ImageVuln) (result : ImageResult) (totals : String → Nat) :
    vulns.foldl addVuln (result, totals) =
      ({ result with counts := fun severity => result.counts severity + countOf vulns severity, vulns := result.vulns ++ vulns },
        fun severity => totals severity + countOf vulns severity) := by
  induction vulns generalizing result totals with
  | nil => simp [countOf]
  | cons vuln rest ih =>
    have step (counts : String → Nat) : (fun severity => increment counts vuln.severity severity + countOf rest severity) =
        fun severity => counts severity + countOf (vuln :: rest) severity := by
      funext severity
      simp only [increment_eq, countOf, List.countP_cons, decide_eq_true_eq]
      omega
    rw [List.foldl_cons, addVuln, ih]
    simp only [step, List.append_assoc, List.singleton_append]

section
variable (env : Env) (namespaces : String → List String)

def blockResult (block : ImageBlock) : ImageResult where
  image := block.image
  namespaces := namespaces block.image
  counts := countOf (scanned env block)
  vulns := rankVulns (scanned env block)
  error := if (outputOf env block).isNone then scanFailure else ""

theorem addBlock_eq (report : VulnReport) (block : ImageBlock) : addBlock env namespaces report block =
    { totals := fun severity => report.totals severity + countOf (scanned env block) severity
      images := report.images ++ [blockResult env namespaces block] } := by
  unfold addBlock blockResult scanned
  cases outputOf env block with
  | none => simp [countOf_nil, rankVulns]
  | some output => simp [addVulns_eq]

theorem addBlocks_eq (blocks : List ImageBlock) (report : VulnReport) : blocks.foldl (addBlock env namespaces) report =
    { totals := fun severity => report.totals severity + (blocks.map fun block => countOf (scanned env block) severity).sum
      images := report.images ++ blocks.map (blockResult env namespaces) } := by
  induction blocks generalizing report with
  | nil => simp
  | cons block rest ih =>
    rw [List.foldl_cons, ih, addBlock_eq]
    simp [Nat.add_assoc]

variable (logs : String)

theorem report_images : (buildVulnReport env logs namespaces).images.Perm
    ((splitImageBlocks logs).map (blockResult env namespaces)) := by
  unfold buildVulnReport
  rw [addBlocks_eq]
  exact List.mergeSort_perm _ _

theorem report_totals (severity : String) : (buildVulnReport env logs namespaces).totals severity =
    ((splitImageBlocks logs).map fun block => countOf (scanned env block) severity).sum := by
  unfold buildVulnReport
  rw [addBlocks_eq]
  exact Nat.zero_add _

end

/-- The severity is one of those that have an order. -/
def Recognised (vuln : ImageVuln) : Prop := vuln.severity ∈ severityOrder.map Prod.fst

instance (vuln : ImageVuln) : Decidable (Recognised vuln) := by unfold Recognised; infer_instance

/-- From most to least severe, and nothing unrecognised before what is recognised. -/
def Ordered (vulns : List ImageVuln) : Prop :=
  vulns.Pairwise fun first second => Recognised second → Recognised first ∧ rank first.severity ≤ rank second.severity

/-- Nothing is lost or counted twice, and the findings of each image are ordered. -/
structure Ranked (env : Env) (namespaces : String → List String) (logs : String) : Prop where
  totals : ∀ severity, (buildVulnReport env logs namespaces).totals severity =
    ((buildVulnReport env logs namespaces).images.map fun result => result.counts severity).sum
  counted : ∀ severity, (buildVulnReport env logs namespaces).totals severity =
    countOf ((buildVulnReport env logs namespaces).images.flatMap ImageResult.vulns) severity
  conserved : ∃ results, results.Perm (buildVulnReport env logs namespaces).images ∧
    List.Forall₂ (fun block result => result.image = block.image ∧ result.vulns.Perm (scanned env block))
      (splitImageBlocks logs) results
  ordered : ∀ result ∈ (buildVulnReport env logs namespaces).images, Ordered result.vulns

/-- Where a severity is not recognised, the others are all critical and come
first. -/
structure Ordinary (vulns : List ImageVuln) : Prop where
  critical : (∃ vuln ∈ vulns, ¬Recognised vuln) → ∀ vuln ∈ vulns, Recognised vuln → vuln.severity = "CRITICAL"
  first : vulns.Pairwise fun first second => Recognised second → Recognised first

theorem rank_unrecognised {vuln : ImageVuln} (unknown : ¬Recognised vuln) : rank vuln.severity = 0 := by
  have absent : severityOrder.lookup vuln.severity = none := by
    rw [List.lookup_eq_none_iff]
    intro entry member
    rw [bne_iff_ne]
    intro same
    exact unknown (List.mem_map.mpr ⟨entry, member, same.symm⟩)
  rw [rank, absent, Option.getD_none]

theorem rank_zero {vuln : ImageVuln} (known : Recognised vuln) : rank vuln.severity = 0 ↔ vuln.severity = "CRITICAL" := by
  simp only [Recognised, severityOrder, List.map_cons, List.map_nil, List.mem_cons, List.not_mem_nil, or_false] at known
  rcases known with same | same | same | same | same <;> rw [same] <;> decide

theorem rankVulns_sorted (vulns : List ImageVuln) :
    (rankVulns vulns).Pairwise fun first second => rank first.severity ≤ rank second.severity := by
  apply Ranked.pairwise_sorted
  · exact fun _ _ _ => Nat.le_trans
  · exact fun _ _ => Nat.le_total _ _

theorem rankVulns_perm (vulns : List ImageVuln) : (rankVulns vulns).Perm vulns := List.mergeSort_perm _ _

theorem rankVulns_level {vulns : List ImageVuln} (level : ∀ vuln ∈ vulns, rank vuln.severity = 0) : rankVulns vulns = vulns := by
  apply List.mergeSort_of_pairwise
  apply List.pairwise_of_forall_mem_list
  intro first member second _
  rw [level first member]
  exact decide_eq_true (Nat.zero_le _)

theorem level_of_critical {vulns : List ImageVuln}
    (critical : ∀ vuln ∈ vulns, Recognised vuln → vuln.severity = "CRITICAL") : ∀ vuln ∈ vulns, rank vuln.severity = 0 := by
  intro vuln member
  by_cases known : Recognised vuln
  · exact (rank_zero known).mpr (critical vuln member known)
  · exact rank_unrecognised known

theorem ordered_iff (vulns : List ImageVuln) : Ordered (rankVulns vulns) ↔ Ordinary vulns := by
  constructor
  · intro ordered
    have critical : (∃ vuln ∈ vulns, ¬Recognised vuln) → ∀ vuln ∈ vulns, Recognised vuln → vuln.severity = "CRITICAL" := by
      rintro ⟨unknown, present, unrecognised⟩ vuln member known
      rw [← rank_zero known]
      obtain ⟨before, after, split⟩ := List.append_of_mem ((rankVulns_perm vulns).mem_iff.mpr present)
      have place := (rankVulns_perm vulns).mem_iff.mpr member
      have sorted := rankVulns_sorted vulns
      unfold Ordered at ordered
      rw [split] at place sorted ordered
      rcases List.mem_append.mp place with front | back
      · have lower := (List.pairwise_append.mp sorted).2.2 vuln front unknown List.mem_cons_self
        rw [rank_unrecognised unrecognised] at lower
        exact Nat.le_zero.mp lower
      · rcases List.mem_cons.mp back with rfl | later
        · exact absurd known unrecognised
        · have follows := List.rel_of_pairwise_cons (List.pairwise_append.mp ordered).2.1 later
          exact absurd (follows known).1 unrecognised
    refine ⟨critical, ?_⟩
    by_cases strange : ∃ vuln ∈ vulns, ¬Recognised vuln
    · rw [rankVulns_level (level_of_critical (critical strange))] at ordered
      exact ordered.imp fun apart known => (apart known).1
    · apply List.pairwise_of_forall_mem_list
      intro first member _ _ _
      by_contra unknown
      exact strange ⟨first, member, unknown⟩
  · intro ordinary
    by_cases strange : ∃ vuln ∈ vulns, ¬Recognised vuln
    · have level := level_of_critical (ordinary.critical strange)
      rw [rankVulns_level level]
      refine ordinary.first.imp_of_mem ?_
      intro first second member _ apart known
      exact ⟨apart known, by rw [level first member]; exact Nat.zero_le _⟩
    · refine (rankVulns_sorted vulns).imp_of_mem ?_
      intro first second member _ sorted _
      refine ⟨?_, sorted⟩
      by_contra unknown
      exact strange ⟨first, (rankVulns_perm vulns).mem_iff.mp member, unknown⟩

theorem sum_countOf (results : List ImageResult) (severity : String) :
    countOf (results.flatMap ImageResult.vulns) severity = (results.map fun result => countOf result.vulns severity).sum := by
  induction results with
  | nil => rfl
  | cons result rest ih =>
    rw [List.flatMap_cons, List.map_cons, List.sum_cons, ← ih]
    exact List.countP_append

/-- The report is as it should be exactly when an unrecognised severity only comes
after critical findings, and after nothing else that is recognised. -/
theorem ranked_iff (env : Env) (namespaces : String → List String) (logs : String) :
    Ranked env namespaces logs ↔ ∀ block ∈ splitImageBlocks logs, Ordinary (scanned env block) := by
  have images := report_images env namespaces logs
  constructor
  · intro ranked block member
    rw [← ordered_iff]
    exact ranked.ordered _ (images.mem_iff.mpr (List.mem_map_of_mem member))
  · intro ordinary
    have totals (severity : String) : (buildVulnReport env logs namespaces).totals severity =
        ((buildVulnReport env logs namespaces).images.map fun result => result.counts severity).sum := by
      rw [report_totals, (images.map _).sum_nat, List.map_map]
      rfl
    refine ⟨totals, ?_, ⟨_, images.symm, ?_⟩, ?_⟩
    · intro severity
      have same : ∀ result ∈ (buildVulnReport env logs namespaces).images,
          result.counts severity = countOf result.vulns severity := by
        intro result member
        obtain ⟨block, _, rfl⟩ := List.mem_map.mp (images.mem_iff.mp member)
        exact ((rankVulns_perm _).countP_eq _).symm
      rw [totals, sum_countOf, List.map_congr_left same]
    · rw [List.forall₂_map_right_iff, List.forall₂_same]
      intro block _
      exact ⟨rfl, rankVulns_perm _⟩
    · intro result member
      obtain ⟨block, present, rfl⟩ := List.mem_map.mp (images.mem_iff.mp member)
      exact (ordered_iff _).mpr (ordinary block present)

/-- Two findings, one of them without a severity that is known. -/
private def sampleOutput : ScanOutput :=
  ⟨false, [[⟨"", "", "", "", "HIGH", ""⟩, ⟨"", "", "", "", "NONE", ""⟩]]⟩

private def sampleBody : String :=
  "\x7b\"Results\":[\x7b\"Vulnerabilities\":[\x7b\"Severity\":\"HIGH\"\x7d,\x7b\"Severity\":\"NONE\"\x7d]\x7d]\x7d\n"

private def sampleLog : String := "@@IMAGE nginx:1.0\n" ++ sampleBody ++ "@@END\n"

private def sampleEnv : Env where
  unmarshal text := if text = sampleBody then some sampleOutput else none
  toUpper text := String.ofList (text.toList.map Char.toUpper)

/-- The finding whose severity is not known comes first. -/
theorem unknown_ranked_first :
    ¬∀ (env : Env) (namespaces : String → List String) (logs : String), Ranked env namespaces logs := by
  intro sound
  have blocks : splitImageBlocks sampleLog = [⟨"nginx:1.0", sampleBody⟩] := by decide +kernel
  have ordinary := (ranked_iff sampleEnv (fun _ => []) sampleLog).mp (sound _ _ _) ⟨"nginx:1.0", sampleBody⟩ (by simp [blocks])
  have high := ordinary.critical ⟨⟨"", "NONE", "", "", "", ""⟩, by decide +kernel, by decide⟩
    ⟨"", "HIGH", "", "", "", ""⟩ (by decide +kernel) (by decide)
  exact absurd high (by decide)

end K8Sense.Doctor.VulnScan
