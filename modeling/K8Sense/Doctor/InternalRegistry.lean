import K8Sense.Doctor.Catalog

/-! Where images come from when the cluster cannot reach the internet: what a
reference names by Docker's rules, and what setting a registry makes of it. -/

namespace K8Sense.Doctor.Api
open Text

/-- By Docker's rule, what stands before the first slash is a host only then. -/
def IsHost (name : String) : Prop :=
  '/' ∉ name.toList ∧ ('.' ∈ name.toList ∨ ':' ∈ name.toList ∨ name = "localhost")

instance (name : String) : Decidable (IsHost name) := inferInstanceAs (Decidable (_ ∧ _))

/-- A text up to a mark, and what follows if the mark is there. -/
def cut (mark : Char) (text : String) : String × Option String :=
  match text.toList.span (· ≠ mark) with
  | (_, []) => (text, none)
  | (before, _ :: after) => (String.ofList before, some (String.ofList after))

structure Repository where
  path : String
  tag : Option String
  digest : Option String
  deriving DecidableEq

/-- What follows the host: `path:tag@digest`. -/
def Repository.parse (remainder : String) : Repository :=
  let (name, digest) := cut '@' remainder
  let (path, tag) := cut ':' name
  ⟨path, tag, digest⟩

structure Reference where
  host : String
  repository : Repository
  deriving DecidableEq

def Reference.parse (ref : String) : Reference :=
  ⟨(splitRegistry ref).1, Repository.parse (splitRegistry ref).2⟩

@[simp] theorem Reference.parse_host (ref : String) : (Reference.parse ref).host = (splitRegistry ref).1 := rfl

@[simp] theorem Reference.parse_repository (ref : String) :
    (Reference.parse ref).repository = Repository.parse (splitRegistry ref).2 := rfl

example : Reference.parse "reg.internal:5000/team/app:1.2@sha256:ab" =
    ⟨"reg.internal:5000", "team/app", some "1.2", some "sha256:ab"⟩ := by decide

example : Reference.parse "nginx:1.25" = ⟨"", "nginx", some "1.25", none⟩ := by decide

/-- The same image, pulled from the registry, and nothing is left to rewrite. -/
structure PulledFrom (registry ref : String) : Prop where
  host : (Reference.parse (rewriteImage ref registry)).host = registry
  repository : (Reference.parse (rewriteImage ref registry)).repository = (Reference.parse ref).repository
  again : rewriteImage (rewriteImage ref registry) registry = rewriteImage ref registry

theorem hostTest_iff (first : List Char) :
    (first.contains '.' || first.contains ':' || first = "localhost".toList) = true ↔
      '.' ∈ first ∨ ':' ∈ first ∨ String.ofList first = "localhost" := by
  have named : String.ofList first = "localhost" ↔ first = "localhost".toList :=
    ⟨fun same => by rw [← same, String.toList_ofList], fun same => by rw [same, String.ofList_toList]⟩
  rw [named, Bool.or_eq_true, Bool.or_eq_true, List.contains_iff_mem, List.contains_iff_mem, decide_eq_true_eq, or_assoc]

theorem slashed_toList (host rest : String) : (host ++ "/" ++ rest).toList = host.toList ++ '/' :: rest.toList := by
  rw [String.toList_append, String.toList_append, List.append_assoc]
  rfl

theorem splitRegistry_cases (ref : String) :
    (IsHost (splitRegistry ref).1 ∧ ref = (splitRegistry ref).1 ++ "/" ++ (splitRegistry ref).2) ∨
      splitRegistry ref = ("", ref) := by
  unfold splitRegistry
  split
  next => exact Or.inr rfl
  next first slash rest pieces =>
    rw [List.span_eq_takeWhile_dropWhile, Prod.mk.injEq] at pieces
    obtain ⟨taken, dropped⟩ := pieces
    have free : '/' ∉ first := by
      intro member
      rw [← taken] at member
      simpa using List.mem_takeWhile_imp member
    have cut : slash = '/' := by
      have stops := List.head?_dropWhile_not (fun char => decide (char ≠ '/')) ref.toList
      rw [dropped] at stops
      simpa using stops
    have whole : ref.toList = first ++ '/' :: rest := by
      rw [← cut, ← dropped, ← taken, List.takeWhile_append_dropWhile]
    split
    next host =>
      left
      refine ⟨⟨?_, ?_⟩, ?_⟩
      · rwa [String.toList_ofList]
      · rw [String.toList_ofList]
        exact (hostTest_iff first).mp host
      · apply String.toList_injective
        rw [slashed_toList, String.toList_ofList, String.toList_ofList, whole]
    next => exact Or.inr rfl

theorem splitRegistry_host {host : String} (isHost : IsHost host) (rest : String) :
    splitRegistry (host ++ "/" ++ rest) = (host, rest) := by
  have pieces : (host ++ "/" ++ rest).toList.span (· ≠ '/') = (host.toList, '/' :: rest.toList) := by
    have free : ∀ char ∈ host.toList, decide (char ≠ '/') = true := by
      intro char member
      rw [decide_eq_true_eq]
      rintro rfl
      exact isHost.1 member
    rw [slashed_toList, List.span_eq_takeWhile_dropWhile, List.takeWhile_append_of_pos free, List.dropWhile_append_of_pos free]
    simp
  have named := (hostTest_iff host.toList).mpr (by rw [String.ofList_toList]; exact isHost.2)
  unfold splitRegistry
  rw [pieces]
  dsimp only
  rw [if_pos named, String.ofList_toList, String.ofList_toList]

theorem isHost_of_parse {ref host : String} (reads : (Reference.parse ref).host = host) (named : host ≠ "") : IsHost host := by
  subst reads
  obtain ⟨isHost, _⟩ | whole := splitRegistry_cases ref
  · exact isHost
  · exact absurd (congrArg Prod.fst whole) named

theorem rewriteImage_inside {ref registry : String}
    (inside : (trim '/' (trimSpace registry) ++ "/").toList.isPrefixOf ref.toList = true) : rewriteImage ref registry = ref := by
  unfold rewriteImage
  dsimp only
  rw [if_pos inside, ite_self]

theorem rewriteImage_idempotent (ref registry : String) :
    rewriteImage (rewriteImage ref registry) registry = rewriteImage ref registry := by
  by_cases skipped : (trim '/' (trimSpace registry) = "" || trimSpace ref = "") = true
  · have kept : rewriteImage ref registry = ref := by
      unfold rewriteImage
      exact if_pos skipped
    rw [kept, kept]
  · have starts : (trim '/' (trimSpace registry) ++ "/").toList.isPrefixOf (rewriteImage ref registry).toList = true := by
      unfold rewriteImage
      dsimp only
      rw [if_neg skipped]
      split
      next inside => exact inside
      next =>
        rw [List.isPrefixOf_iff_prefix]
        exact ⟨(splitRegistry ref).2.toList, String.toList_append.symm⟩
    exact rewriteImage_inside starts

theorem rewriteImage_host {ref registry : String} (isHost : IsHost registry) (trimmed : trimSpace registry = registry)
    (image : trimSpace ref ≠ "") : rewriteImage ref registry = registry ++ "/" ++ (splitRegistry ref).2 := by
  have named : registry ≠ "" := by
    rintro rfl
    exact absurd isHost (by decide)
  unfold rewriteImage
  rw [trimmed, trim_free isHost.1]
  simp only [named, image, decide_false, Bool.or_self, Bool.false_eq_true, if_false]
  split
  next inside =>
    obtain ⟨rest, whole⟩ := List.isPrefixOf_iff_prefix.mp inside
    have here : ref = registry ++ "/" ++ String.ofList rest := by
      rw [String.ext_iff, ← whole]
      simp
    conv_lhs => rw [here]
    rw [here, splitRegistry_host isHost]
  next => rfl

theorem pulledFrom_iff {ref registry : String} (named : registry ≠ "") (trimmed : trimSpace registry = registry)
    (image : trimSpace ref ≠ "") : PulledFrom registry ref ↔ IsHost registry := by
  constructor
  · intro pulled
    exact isHost_of_parse pulled.host named
  · intro isHost
    have parts : splitRegistry (rewriteImage ref registry) = (registry, (splitRegistry ref).2) := by
      rw [rewriteImage_host isHost trimmed image, splitRegistry_host isHost]
    refine ⟨?_, ?_, rewriteImage_idempotent ref registry⟩
    · rw [Reference.parse_host, parts]
    · rw [Reference.parse_repository, Reference.parse_repository, parts]

theorem internalRegistry_setRegistry {env : Env} {state : State} {value : String}
    (accepted : (setRegistry env state (some value)).2.status = 200) (configured : trimSpace (normaliseRegistry value) ≠ "") :
    internalRegistry env (setRegistry env state (some value)).1 = trimSpace (normaliseRegistry value) := by
  unfold setRegistry at accepted ⊢
  dsimp only at accepted ⊢
  split
  next refused =>
    rw [refused] at accepted
    cases accepted
  next => simp [internalRegistry, Option.filter, configured]

/-- Every image comes from the registry that was set exactly when what is left of
the value, without its scheme, slashes and blanks, is a host. -/
theorem setRegistry_pulls_iff {env : Env} {state : State} {value ref : String}
    (accepted : (setRegistry env state (some value)).2.status = 200) (configured : trimSpace (normaliseRegistry value) ≠ "")
    (image : trimSpace ref ≠ "") :
    PulledFrom (internalRegistry env (setRegistry env state (some value)).1) ref ↔ IsHost (trimSpace (normaliseRegistry value)) := by
  rw [internalRegistry_setRegistry accepted configured]
  exact pulledFrom_iff configured (trimSpace_trimSpace _) image

theorem setRegistry_pulls_sample :
    PulledFrom (internalRegistry (Env.calm 0 "" none)
      (setRegistry (Env.calm 0 "" none) State.empty (some " https://reg.internal:5000/ ")).1) "quay.io/ansible/ansible-runner:latest" :=
  (setRegistry_pulls_iff rfl (by decide) (by decide)).mpr (by decide)

/-- A registry without a dot or a port is accepted, and then it is not a host but the
first part of a path, which Docker looks up on its own hub. -/
theorem bare_registry_misread :
    (setRegistry (Env.calm 0 "" none) State.empty (some "registry")).2.status = 200 ∧
      resolveImage (Env.calm 0 "" none) (setRegistry (Env.calm 0 "" none) State.empty (some "registry")).1 "aquasec/trivy:latest" =
        "registry/aquasec/trivy:latest" ∧
      ¬PulledFrom (internalRegistry (Env.calm 0 "" none) (setRegistry (Env.calm 0 "" none) State.empty (some "registry")).1)
        "aquasec/trivy:latest" := by
  refine ⟨rfl, by decide, ?_⟩
  intro pulled
  exact absurd pulled.host (by decide)

end K8Sense.Doctor.Api
