import K8Sense.Cache.Middleware

/-! The parts of an API path and the attributes that the access review is asked
about, against the paths that are rendered from such parts. -/

namespace K8Sense.Cache
open Text

def unknownVerb : String := "unknown"

/-- `strconv.ParseBool`, where an error counts as false. -/
def parseBool (value : String) : Bool := value ∈ ["1", "t", "T", "true", "TRUE", "True"]

/-- `watch` is the first value of this query parameter. -/
def getKubeVerb (method : Method) (watch : String) (request : APIResourceRequest) : String :=
  match method with
  | .get => if parseBool watch then "watch" else if request.name = "" then "list" else "get"
  | _ => unknownVerb

def getKindAndVerb (method : Method) (watch apiPath : String) : String × String :=
  match parseAPIResourceRequest apiPath with
  | none => ("", unknownVerb)
  | some request => (request.resource, getKubeVerb method watch request)

structure ResourceAttributes extends APIResourceRequest where
  verb : String
  deriving DecidableEq

def resourceAttributes (method : Method) (watch apiPath : String) : Except String ResourceAttributes :=
  match getResourceAttributes apiPath with
  | .error err => .error err
  | .ok request =>
    let kubeVerb := getKubeVerb method watch request
    if kubeVerb = "" then .error "could not determine resource or verb from request"
    else .ok { request with verb := kubeVerb }

def Segment (text : String) : Prop := text ≠ "" ∧ '/' ∉ text.toList

/-- The parts that a path is rendered from. The core group is the empty one, and only
what has a name has a subresource. -/
structure APIPath where
  group : String
  version : String
  «namespace» : Option String
  resource : String
  name : Option String
  subresource : Option String
  grouped : group = "" ∨ Segment group
  filled : ∀ part ∈ [version, resource] ++ «namespace».toList ++ name.toList ++ subresource.toList, Segment part
  owned : subresource ≠ none → name ≠ none

namespace APIPath
variable (path : APIPath)

def lead : List String :=
  if path.group = "" then [apiPathSegment, path.version] else [apisPathSegment, path.group, path.version]

def scope : List String := path.namespace.toList.flatMap fun ns => [namespacePathSegment, ns]

def parts : List String := path.lead ++ path.scope ++ path.resource :: (path.name.toList ++ path.subresource.toList)

def render : String := join '/' path.parts

def request : APIResourceRequest :=
  ⟨path.group, path.version, path.namespace.getD "", path.resource, path.name.getD "", path.subresource.getD ""⟩

/-- The segments of the path are also those of another one: the resource of a namespace
seems to be a subresource of the namespace, or the other way round. -/
def Overlaps : Prop :=
  (path.namespace ≠ none ∧ path.name = none ∧ isNamespaceSubresource path.resource = true) ∨
    (path.namespace = none ∧ path.resource = namespacePathSegment ∧
      ∃ subresource, path.subresource = some subresource ∧ isNamespaceSubresource subresource = false)

end APIPath

section Render
variable {path : APIPath}

theorem segment_of_mem {part : String} (member : part ∈ path.parts) : Segment part := by
  have filled := path.filled
  simp only [List.append_assoc, List.cons_append, List.nil_append, List.forall_mem_cons, List.forall_mem_append] at filled
  obtain ⟨version, resource, ns, name, subresource⟩ := filled
  have fixed : ∀ text ∈ [apiPathSegment, apisPathSegment, namespacePathSegment], Segment text := by
    intro text member
    simp only [List.mem_cons, List.not_mem_nil, or_false] at member
    rcases member with rfl | rfl | rfl <;> exact ⟨by decide, by decide⟩
  simp only [APIPath.parts, List.mem_append, List.mem_cons] at member
  rcases member with (ahead | around) | rfl | named | below
  · unfold APIPath.lead at ahead
    split at ahead
    · rcases List.mem_pair.mp ahead with rfl | rfl
      · exact fixed _ (by simp)
      · exact version
    · next grouped =>
      simp only [List.mem_cons, List.not_mem_nil, or_false] at ahead
      rcases ahead with rfl | rfl | rfl
      · exact fixed _ (by simp)
      · exact path.grouped.resolve_left grouped
      · exact version
  · obtain ⟨text, present, inside⟩ := List.mem_flatMap.mp around
    rcases List.mem_pair.mp inside with rfl | rfl
    · exact fixed _ (by simp)
    · exact ns _ present
  · exact resource
  · exact name part named
  · exact subresource part below

theorem trim_ends {cut : Char} {text : String} (starts : ∀ char ∈ text.toList.head?, char ≠ cut)
    (ends : ∀ char ∈ text.toList.getLast?, char ≠ cut) : trim cut text = text := by
  have front : text.toList.dropWhile (· == cut) = text.toList := by
    cases shape : text.toList with
    | nil => rfl
    | cons char rest =>
      have other : char ≠ cut := starts char (by simp [shape])
      exact List.dropWhile_cons_of_neg (by simpa using other)
  apply String.toList_injective
  rw [trim, String.toList_ofList, front, List.rdropWhile_eq_self_iff]
  intro nonempty
  have other := ends _ (List.getLast?_eq_some_getLast nonempty)
  simpa using other

theorem split_trim_join {parts : List String} (nonempty : parts ≠ []) (filled : ∀ part ∈ parts, Segment part) :
    split '/' (trim '/' (join '/' parts)) = parts := by
  rw [trim_ends, split_join nonempty fun part member => (filled part member).2]
  · obtain ⟨first, rest, rfl⟩ := List.exists_cons_of_ne_nil nonempty
    have front : (join '/' (first :: rest)).toList.head? = first.toList.head? := by
      have visible : first.toList ≠ [] := by simpa using (filled first (by simp)).1
      obtain ⟨char, chars, shape⟩ := List.exists_cons_of_ne_nil visible
      by_cases only : rest = []
      · rw [only, join_singleton]
      · rw [join_cons only, shape]
        rfl
    intro char found
    rw [front] at found
    rintro rfl
    exact (filled first (by simp)).2 (List.mem_of_head? found)
  · have last : parts.getLast? = some (parts.getLast nonempty) := List.getLast?_eq_some_getLast nonempty
    have inside := List.getLast_mem nonempty
    intro char found
    rw [getLast?_join last (filled _ inside).1] at found
    rintro rfl
    exact (filled _ inside).2 (List.mem_of_getLast? found)

theorem parse_render : parseAPIResourceRequest path.render = resourceRequest path.group path.version
    (path.scope ++ path.resource :: (path.name.toList ++ path.subresource.toList)) := by
  have cut : split '/' (trim '/' path.render) = path.parts :=
    split_trim_join (by simp [APIPath.parts]) fun part member => segment_of_mem member
  unfold parseAPIResourceRequest
  rw [cut]
  unfold APIPath.parts APIPath.lead
  by_cases core : path.group = ""
  · simp [core]
  · have named : apisPathSegment ≠ apiPathSegment := by decide
    simp [core, named]

theorem resource_present : path.resource ≠ "" := (path.filled path.resource (by simp)).1

theorem read_in_namespace {group version ns resource : String} {rest : List String}
    (longer : rest ≠ [] ∨ isNamespaceSubresource resource = false) :
    resourceRequest group version (namespacePathSegment :: ns :: resource :: rest) =
      some ⟨group, version, ns, resource, rest.getD 0 "", rest.getD 1 ""⟩ := by
  have first : ¬(namespacePathSegment = namespacePathSegment ∧ (ns :: resource :: rest).length = 2 ∧
      isNamespaceSubresource ((ns :: resource :: rest).getD 1 "") = true) := by
    rintro ⟨_, short, subresource⟩
    rcases longer with more | other
    · apply more
      apply List.eq_nil_of_length_eq_zero
      simp only [List.length_cons] at short
      omega
    · simp [other] at subresource
  rw [resourceRequest, if_neg first, if_pos (by simp)]
  rfl

theorem read_of_cluster {group version resource : String} {rest : List String}
    (short : resource = namespacePathSegment → rest.length < 2) :
    resourceRequest group version (resource :: rest) =
      some ⟨group, version, "", resource, rest.getD 0 "", rest.getD 1 ""⟩ := by
  rw [resourceRequest, if_neg, if_neg]
  · rintro ⟨same, long⟩
    have bound := short same
    omega
  · rintro ⟨same, long, _⟩
    have bound := short same
    omega

theorem read_subresource {group version name subresource : String} (fixed : isNamespaceSubresource subresource = true) :
    resourceRequest group version [namespacePathSegment, name, subresource] =
      some ⟨group, version, "", namespacePathSegment, name, subresource⟩ := by
  rw [resourceRequest, if_pos ⟨rfl, rfl, fixed⟩]
  rfl

theorem parse_iff : parseAPIResourceRequest path.render = some path.request ↔ ¬path.Overlaps := by
  have owned := path.owned
  have filled := path.filled
  rw [parse_render]
  unfold APIPath.request APIPath.Overlaps APIPath.scope
  cases around : path.namespace with
  | some ns =>
    have present : ns ≠ "" := (filled ns (by simp [around])).1
    simp only [Option.toList_some, List.flatMap_cons, List.flatMap_nil, List.append_nil, List.cons_append, List.nil_append]
    cases called : path.name with
    | some name =>
      rw [read_in_namespace (Or.inl (by simp))]
      cases path.subresource <;> simp
    | none =>
      have bare : path.subresource = none := by
        by_contra below
        exact owned below called
      by_cases fixed : isNamespaceSubresource path.resource = true
      · simp [bare, read_subresource fixed, fixed, present.symm]
      · rw [read_in_namespace (Or.inr (by simpa using fixed))]
        simp [bare, fixed]
  | none =>
    simp only [Option.toList_none, List.flatMap_nil, List.nil_append]
    cases below : path.subresource with
    | none =>
      rw [read_of_cluster (by intro _; cases path.name <;> simp)]
      cases path.name <;> simp
    | some subresource =>
      obtain ⟨name, called⟩ := Option.ne_none_iff_exists'.mp (owned (by simp [below]))
      have present : name ≠ "" := (filled name (by simp [called])).1
      rw [called]
      by_cases space : path.resource = namespacePathSegment
      · rw [space]
        by_cases fixed : isNamespaceSubresource subresource = true
        · simp [read_subresource fixed, fixed]
        · have read : resourceRequest path.group path.version [namespacePathSegment, name, subresource] =
              some ⟨path.group, path.version, name, subresource, "", ""⟩ := read_in_namespace (Or.inr (by simpa using fixed))
          simp [read, fixed, present]
      · rw [read_of_cluster (by intro same; exact absurd same space)]
        simp [space]

end Render

/-- The verb for a path: a watch is asked for, or it is one object, or a list. -/
def APIPath.verb (path : APIPath) (method : Method) (watch : String) : String :=
  if method ≠ .get then unknownVerb else if parseBool watch then "watch" else if path.name = none then "list" else "get"

theorem getKubeVerb_request (path : APIPath) (method : Method) (watch : String) :
    getKubeVerb method watch path.request = path.verb method watch := by
  have named : path.request.name = "" ↔ path.name = none := by
    unfold APIPath.request
    cases called : path.name with
    | none => simp
    | some name => simpa using (path.filled name (by simp [called])).1
  unfold getKubeVerb APIPath.verb
  simp only [named]
  cases method <;> simp

theorem getKubeVerb_present {method : Method} {watch : String} {request : APIResourceRequest} :
    getKubeVerb method watch request ≠ "" := by
  unfold getKubeVerb unknownVerb
  split
  · split
    · simp
    · split <;> simp
  · simp

theorem attributes_render {path : APIPath} (apart : ¬path.Overlaps) (method : Method) (watch : String) :
    resourceAttributes method watch path.render = .ok { path.request with verb := path.verb method watch } ∧
      getKindAndVerb method watch path.render = (path.resource, path.verb method watch) := by
  have read := parse_iff.mpr apart
  have present : path.request.resource ≠ "" := resource_present
  constructor
  · unfold resourceAttributes getResourceAttributes
    simp only [read, present, if_false, getKubeVerb_present]
    rw [getKubeVerb_request]
  · unfold getKindAndVerb
    rw [read, ← getKubeVerb_request]
    rfl

/-- There is something behind the group and the version. -/
def Addresses (segments : List String) : Prop :=
  segments.head? = some apiPathSegment ∧ 3 ≤ segments.length ∨ segments.head? = some apisPathSegment ∧ 4 ≤ segments.length

theorem resourceRequest_none {group version : String} {rest : List String} : resourceRequest group version rest = none ↔ rest = [] := by
  cases rest with
  | nil => simp [resourceRequest]
  | cons first rest =>
    rw [resourceRequest]
    split
    · simp
    · split <;> simp

theorem rejected_iff {apiPath : String} : parseAPIResourceRequest apiPath = none ↔ ¬Addresses (split '/' (trim '/' apiPath)) := by
  unfold parseAPIResourceRequest Addresses
  cases split '/' (trim '/' apiPath) with
  | nil => simp
  | cons root rest =>
    have differ : apisPathSegment ≠ apiPathSegment := by decide
    by_cases core : root = apiPathSegment
    · subst core
      simp only [if_true, resourceRequest_none, List.drop_eq_nil_iff, List.head?_cons, List.length_cons, Option.some.injEq,
        differ.symm, false_and, or_false, true_and]
      omega
    · by_cases grouped : root = apisPathSegment
      · subst grouped
        simp only [differ, if_false, if_true, resourceRequest_none, List.drop_eq_nil_iff, List.head?_cons, List.length_cons,
          Option.some.injEq, false_and, false_or, true_and]
        omega
      · simp [core, grouped]

theorem two_optional (rest : List String) : ∃ name subresource tail, rest = name.toList ++ (Option.toList subresource ++ tail) ∧
    rest.getD 0 "" = name.getD "" ∧ rest.getD 1 "" = subresource.getD "" ∧ (subresource ≠ none → name ≠ none) ∧
      (tail ≠ [] → subresource ≠ none) ∧ (name = none ↔ rest.length = 0) ∧ (subresource = none ↔ rest.length < 2) := by
  match rest with
  | [] => exact ⟨none, none, [], by simp⟩
  | [name] => exact ⟨some name, none, [], by simp⟩
  | name :: subresource :: tail => exact ⟨some name, some subresource, tail, by simp⟩

theorem resourceRequest_some {group version : String} {body : List String} {request : APIResourceRequest}
    (grouped : group = "" ∨ Segment group) (versioned : Segment version) (filled : ∀ part ∈ body, Segment part)
    (read : resourceRequest group version body = some request) :
    ∃ (path : APIPath) (tail : List String), path.group = group ∧ path.version = version ∧ path.request = request ∧ ¬path.Overlaps ∧
      body = path.scope ++ path.resource :: (path.name.toList ++ (path.subresource.toList ++ tail)) ∧
        (tail ≠ [] → path.subresource ≠ none) := by
  cases body with
  | nil => simp [resourceRequest] at read
  | cons first rest =>
    rw [resourceRequest] at read
    split at read
    next fixed =>
      obtain ⟨rfl, length, known⟩ := fixed
      obtain ⟨name, subresource, rfl⟩ := List.length_eq_two.mp length
      refine ⟨⟨group, version, none, namespacePathSegment, some name, some subresource, grouped, ?_, by simp⟩, [], rfl, rfl,
        Option.some.inj read, ?_, rfl, by simp⟩
      · simpa [versioned] using filled
      · rintro (⟨inside, _⟩ | ⟨_, _, other, same, differs⟩)
        · exact inside rfl
        · cases same
          exact absurd known (by simpa using differs)
    next unknown =>
      split at read
      next around =>
        obtain ⟨rfl, long⟩ := around
        obtain ⟨ns, more, rfl⟩ := List.exists_cons_of_length_pos (show 0 < rest.length by omega)
        obtain ⟨resource, more, rfl⟩ := List.exists_cons_of_length_pos (show 0 < more.length by simp only [List.length_cons] at long; omega)
        obtain ⟨name, subresource, tail, shape, first, second, owned, below, bare, short⟩ := two_optional more
        have parts : ∀ part ∈ [version, resource] ++ (some ns).toList ++ name.toList ++ subresource.toList, Segment part := by
          rw [shape] at filled
          simp only [List.forall_mem_cons, List.forall_mem_append, Option.toList_some, List.cons_append,
            List.nil_append] at filled ⊢
          exact ⟨versioned, filled.2.2.1, filled.2.1, filled.2.2.2.1, filled.2.2.2.2.1⟩
        refine ⟨⟨group, version, some ns, resource, name, subresource, grouped, parts, owned⟩, tail, rfl, rfl, ?_, ?_, ?_, below⟩
        · rw [← Option.some.inj read]
          simp only [APIPath.request, Option.getD_some, ← first, ← second]
          rfl
        · rintro (⟨_, unnamed, fixed⟩ | ⟨outside, _⟩)
          · have few : more.length = 0 := bare.mp unnamed
            exact unknown ⟨rfl, by simp [few], fixed⟩
          · cases outside
        · exact congrArg (fun others => namespacePathSegment :: ns :: resource :: others) shape
      next outside =>
        obtain ⟨name, subresource, tail, shape, called, lower, owned, below, bare, short⟩ := two_optional rest
        have parts : ∀ part ∈ [version, first] ++ none.toList ++ name.toList ++ subresource.toList, Segment part := by
          rw [shape] at filled
          simp only [List.forall_mem_cons, List.forall_mem_append, Option.toList_none, List.cons_append,
            List.nil_append] at filled ⊢
          exact ⟨versioned, filled.1, filled.2.1, filled.2.2.1⟩
        refine ⟨⟨group, version, none, first, name, subresource, grouped, parts, owned⟩, tail, rfl, rfl, ?_, ?_, ?_, below⟩
        · rw [← Option.some.inj read]
          simp only [APIPath.request, Option.getD_none, ← called, ← lower]
        · rintro (⟨inside, _⟩ | ⟨_, space, _, there, _⟩)
          · exact inside rfl
          · apply outside
            refine ⟨space, ?_⟩
            by_contra few
            have nothing : subresource = none := short.mpr (by omega)
            exact absurd (nothing.symm.trans there) (by simp)
        · exact congrArg (List.cons first) shape

/-- A path that is accepted is, up to the slashes at its ends, rendered from the parts
that are read, unless one of its segments is empty; what follows a subresource is left out. -/
theorem accepted_rendered {apiPath : String} {request : APIResourceRequest}
    (read : parseAPIResourceRequest apiPath = some request) (present : ∀ part ∈ split '/' (trim '/' apiPath), part ≠ "") :
    ∃ (path : APIPath) (tail : List String), path.request = request ∧ ¬path.Overlaps ∧
      split '/' (trim '/' apiPath) = path.parts ++ tail ∧ (tail ≠ [] → path.subresource ≠ none) := by
  unfold parseAPIResourceRequest at read
  have filled : ∀ part ∈ split '/' (trim '/' apiPath), Segment part :=
    fun part member => ⟨present part member, free_of_mem_split member⟩
  generalize split '/' (trim '/' apiPath) = segments at read filled ⊢
  cases segments with
  | nil => cases read
  | cons root rest =>
    have differ : apisPathSegment ≠ apiPathSegment := by decide
    by_cases core : root = apiPathSegment
    · subst core
      simp only [if_true] at read
      cases rest with
      | nil => simp [resourceRequest] at read
      | cons version body =>
        simp only [List.forall_mem_cons] at filled
        obtain ⟨path, tail, group, same, parts, apart, shape, below⟩ :=
          resourceRequest_some (Or.inl rfl) filled.2.1 filled.2.2 read
        refine ⟨path, tail, parts, apart, ?_, below⟩
        rw [shape]
        simp [APIPath.parts, APIPath.lead, group, same]
    · simp only [core, if_false] at read
      split at read
      next grouped =>
        subst grouped
        match rest with
        | [] => simp [resourceRequest] at read
        | [_] => simp [resourceRequest] at read
        | group :: version :: body =>
          simp only [List.forall_mem_cons] at filled
          obtain ⟨path, tail, named, same, parts, apart, shape, below⟩ :=
            resourceRequest_some (Or.inr filled.2.1) filled.2.2.1 filled.2.2.2 read
          refine ⟨path, tail, parts, apart, ?_, below⟩
          rw [shape]
          simp [APIPath.parts, APIPath.lead, named, same, filled.2.1.1]
      next => cases read

/-- Parsing inverts rendering on all paths but those whose segments are also those of
another path, the verb goes with the parts, and nothing is rejected that has something
behind group and version. -/
theorem parse_inverts :
    (∀ path : APIPath, (parseAPIResourceRequest path.render = some path.request ↔ ¬path.Overlaps) ∧
      (¬path.Overlaps → ∀ method watch,
        resourceAttributes method watch path.render = .ok { path.request with verb := path.verb method watch } ∧
          getKindAndVerb method watch path.render = (path.resource, path.verb method watch))) ∧
    (∀ apiPath, parseAPIResourceRequest apiPath = none ↔ ¬Addresses (split '/' (trim '/' apiPath))) ∧
    ∀ apiPath request, parseAPIResourceRequest apiPath = some request →
      (∀ part ∈ split '/' (trim '/' apiPath), part ≠ "") →
      ∃ (path : APIPath) (tail : List String), path.request = request ∧ ¬path.Overlaps ∧
        split '/' (trim '/' apiPath) = path.parts ++ tail ∧ (tail ≠ [] → path.subresource ≠ none) := by
  refine ⟨?_, ?_, ?_⟩
  · intro path
    exact ⟨parse_iff, fun apart method watch => attributes_render apart method watch⟩
  · exact fun _ => rejected_iff
  · exact fun _ _ => accepted_rendered

/-- The status of the Deployment `web`. -/
def deploymentStatus : APIPath where
  group := "apps"
  version := "v1"
  «namespace» := some "default"
  resource := "deployments"
  name := some "web"
  subresource := some "status"
  grouped := Or.inr ⟨by decide, by decide⟩
  filled := by simp [Segment]
  owned := by simp

theorem deployment_status_read : resourceAttributes .get "" "apis/apps/v1/namespaces/default/deployments/web/status" =
    .ok ⟨⟨"apps", "v1", "default", "deployments", "web", "status"⟩, "get"⟩ := by
  have apart : ¬deploymentStatus.Overlaps := by
    rintro (⟨_, unnamed, _⟩ | ⟨outside, _⟩)
    · cases unnamed
    · cases outside
  have rendered : deploymentStatus.render = "apis/apps/v1/namespaces/default/deployments/web/status" := by decide
  rw [← rendered]
  exact ((parse_inverts.1 deploymentStatus).2 apart .get "").1

/-- The list of the resource `status` in a namespace is read as the status of the
namespace, and a path of a proxied service has more segments than are read. -/
theorem status_list_misread :
    (∃ path : APIPath, parseAPIResourceRequest path.render ≠ some path.request) ∧
      (∀ path : APIPath, path.render ≠ "api/v1/namespaces/default/services/web/proxy/index.html") ∧
        (parseAPIResourceRequest "api/v1/namespaces/default/services/web/proxy/index.html").isSome = true := by
  refine ⟨⟨⟨"", "v1", some "default", "status", none, none, Or.inl rfl, by simp [Segment], by simp⟩, ?_⟩, ?_, by decide⟩
  · exact mt parse_iff.mp (not_not_intro (Or.inl ⟨by simp, rfl, by decide⟩))
  · intro path same
    have cut : path.parts = ["api", "v1", "namespaces", "default", "services", "web", "proxy", "index.html"] := by
      have parts : split '/' (trim '/' path.render) = path.parts :=
        split_trim_join (by simp [APIPath.parts]) fun part member => segment_of_mem member
      rw [← parts, same]
      decide
    unfold APIPath.parts APIPath.lead at cut
    by_cases core : path.group = ""
    · have atMost : ∀ part : Option String, part.toList.length ≤ 1 := fun part => by cases part <;> simp
      have length := congrArg List.length cut
      have scope : path.scope.length ≤ 2 := by
        unfold APIPath.scope
        cases path.namespace <;> simp
      have name := atMost path.name
      have subresource := atMost path.subresource
      simp only [core, if_true, List.length_append, List.length_cons, List.length_nil] at length
      omega
    · rw [if_neg core] at cut
      exact absurd (List.cons.inj cut).1 (by decide)

end K8Sense.Cache
