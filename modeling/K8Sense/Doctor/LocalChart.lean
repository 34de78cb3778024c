import K8Sense.Library.Ranked
import K8Sense.Doctor.Catalog

/-! Which of the bundled packages is taken for a chart. -/

namespace K8Sense.Doctor.Api

/-- An identifier of the pre-release part of a version. -/
inductive Identifier where
  | numeric (value : Nat)
  | text (value : String)
  deriving DecidableEq

/-- A semantic version, which some charts write with a `v` in front. -/
structure Version where
  v : Bool := false
  major : Nat
  minor : Nat
  patch : Nat
  pre : List Identifier := []
  build : List String := []
  deriving DecidableEq

def Identifier.print : Identifier → String
  | .numeric value => toString value
  | .text value => value

def Version.print (version : Version) : String :=
  (if version.v then "v" else "") ++ toString version.major ++ "." ++ toString version.minor ++ "." ++ toString version.patch ++
    (if version.pre = [] then "" else "-" ++ Text.concat "." (version.pre.map Identifier.print)) ++
    if version.build = [] then "" else "+" ++ Text.concat "." version.build

/-- Numbers come before texts. -/
def Identifier.compare : Identifier → Identifier → Ordering
  | .numeric value, .numeric other => Ord.compare value other
  | .numeric _, .text _ => .lt
  | .text _, .numeric _ => .gt
  | .text value, .text other => Ord.compare value other

/-- Of two pre-releases that begin alike, the longer one is higher. -/
def comparePre : List Identifier → List Identifier → Ordering
  | [], [] => .eq
  | [], _ :: _ => .lt
  | _ :: _, [] => .gt
  | first :: rest, other :: others => (first.compare other).then (comparePre rest others)

/-- The precedence of versions. A release comes after its pre-releases, and the build
does not count. -/
def Version.compare (version other : Version) : Ordering :=
  (Ord.compare version.major other.major).then <| (Ord.compare version.minor other.minor).then <|
    (Ord.compare version.patch other.patch).then <|
      match version.pre, other.pre with
      | [], [] => .eq
      | [], _ :: _ => .gt
      | _ :: _, [] => .lt
      | pre, others => comparePre pre others

/-- The name of a chart is made of letters, digits, dots, dashes and underscores. -/
structure ChartName where
  text : String
  nonempty : text ≠ ""
  plain : text.toList.all (fun char => char.isAlphanum || char = '.' || char = '-' || char = '_') = true

structure Package where
  name : ChartName
  version : Version

/-- The name of the file into which Helm puts the package. -/
def Package.file (package : Package) : String := package.name.text ++ "-" ++ package.version.print ++ ".tgz"

structure Charts where
  packages : List Package
  distinct : (packages.map Package.file).Nodup

def Charts.files (charts : Charts) : List String := charts.packages.map Package.file

/-- The file matches the pattern that is looked for. -/
def bundled (chart : ChartName) (file : String) : Bool :=
  (chart.text ++ "-").toList.isPrefixOf file.toList && ".tgz".toList.isSuffixOf (file.toList.drop (chart.text ++ "-").length)

/-- The package is one of the chart, and none of the chart has a higher version. -/
structure Newest (charts : Charts) (chart : ChartName) (package : Package) : Prop where
  present : package ∈ charts.packages
  named : package.name.text = chart.text
  highest : ∀ other ∈ charts.packages, other.name.text = chart.text → other.version.compare package.version ≠ .gt

/-- The choice is the newest package of the chart, and there is none only where the
chart has none. -/
def Chosen (charts : Charts) (chart : ChartName) : Option String → Prop
  | some file => ∃ package, Newest charts chart package ∧ package.file = file
  | none => ∀ package ∈ charts.packages, package.name.text ≠ chart.text

variable {charts : Charts} {chart : ChartName}

theorem bundled_own (package : Package) (named : package.name.text = chart.text) : bundled chart package.file = true := by
  have file : package.file.toList = (chart.text ++ "-").toList ++ (package.version.print ++ ".tgz").toList := by
    simp [Package.file, named]
  unfold bundled
  rw [file, Bool.and_eq_true, List.isPrefixOf_iff_prefix, List.isSuffixOf_iff_suffix]
  refine ⟨List.prefix_append _ _, ?_⟩
  rw [← String.length_toList, List.drop_left, String.toList_append]
  exact List.suffix_append _ _

theorem findLocalChart_some {files : List String} {file : String} (found : findLocalChart files chart.text = some file) :
    file ∈ files ∧ bundled chart file = true ∧ ∀ other ∈ files, bundled chart other = true → other ≤ file := by
  have last : file ∈ files.filter (bundled chart) ∧ ∀ other ∈ files.filter (bundled chart), other ≤ file := by
    refine Ranked.last_sorted ?_ ?_ found
    · exact fun _ _ _ => String.le_trans
    · exact String.le_total
  obtain ⟨inside, fits⟩ := List.mem_filter.mp last.1
  refine ⟨inside, fits, ?_⟩
  intro other present matched
  exact last.2 other (List.mem_filter.mpr ⟨present, matched⟩)

theorem findLocalChart_none {files : List String} : findLocalChart files chart.text = none ↔ ∀ file ∈ files, bundled chart file = false := by
  have permuted := List.mergeSort_perm (files.filter (bundled chart)) fun file other => file ≤ other
  change ((files.filter (bundled chart)).mergeSort _).getLast? = none ↔ _
  rw [List.getLast?_eq_none_iff]
  constructor
  · intro empty
    rw [empty] at permuted
    simpa using List.filter_eq_nil_iff.mp permuted.nil_eq.symm
  · intro never
    have empty : files.filter (bundled chart) = [] := by
      simpa using never
    rw [empty, List.mergeSort_nil]

/-- The choice is right exactly when every file that matches, also of another chart,
has a name that is not after that of a newest package of the chart. -/
theorem chosen_iff (charts : Charts) (chart : ChartName) : Chosen charts chart (findLocalChart charts.files chart.text) ↔
    ∀ package ∈ charts.packages, bundled chart package.file = true → ∃ newest, Newest charts chart newest ∧ package.file ≤ newest.file := by
  have file_mem : ∀ {package}, package ∈ charts.packages → package.file ∈ charts.files := fun member => List.mem_map_of_mem member
  cases found : findLocalChart charts.files chart.text with
  | none =>
    have never := findLocalChart_none.mp found
    refine iff_of_true ?_ ?_
    · intro package member named
      have matched := bundled_own package named
      rw [never _ (file_mem member)] at matched
      cases matched
    · intro package member matched
      rw [never _ (file_mem member)] at matched
      cases matched
  | some file =>
    obtain ⟨inside, matched, last⟩ := findLocalChart_some found
    constructor
    · intro ⟨newest, best, same⟩ package member fits
      exact ⟨newest, best, same ▸ last _ (file_mem member) fits⟩
    · intro condition
      obtain ⟨package, member, rfl⟩ := List.mem_map.mp inside
      obtain ⟨newest, best, before⟩ := condition package member matched
      have after := last _ (file_mem best.present) (bundled_own newest best.named)
      exact ⟨newest, best, String.le_antisymm after before⟩

private def grafana : ChartName := ⟨"grafana", by decide, by decide⟩

private def grafanaAgent : ChartName := ⟨"grafana-agent", by decide, by decide⟩

/-- Two versions of one chart, and a chart with a longer name. -/
private def bundle : Charts where
  packages := [⟨grafana, { major := 9, minor := 4, patch := 0 }⟩, ⟨grafana, { major := 10, minor := 1, patch := 0 }⟩,
    ⟨grafanaAgent, { major := 0, minor := 4, patch := 0 }⟩]
  distinct := by decide +kernel

theorem other_chart_chosen : ¬∀ charts chart, Chosen charts chart (findLocalChart charts.files chart.text) := by
  intro all
  have chosen := all bundle grafana
  cases found : findLocalChart bundle.files grafana.text with
  | none => exact absurd (findLocalChart_none.mp found) (by decide +kernel)
  | some file =>
    rw [found] at chosen
    obtain ⟨package, newest, rfl⟩ := chosen
    obtain ⟨_, _, last⟩ := findLocalChart_some found
    have after := last "grafana-agent-0.4.0.tgz" (by decide +kernel) (by decide +kernel)
    have before : ∀ package ∈ bundle.packages, package.name.text = "grafana" → ¬"grafana-agent-0.4.0.tgz" ≤ package.file := by
      decide +kernel
    exact before package newest.present newest.named after

end K8Sense.Doctor.Api
