import K8Sense.Cache.Path

/-! Cache keys: four escaped parts joined with `+`. -/

namespace K8Sense.Cache
open Text

def escapeCacheKeySegment (s : String) : String :=
  replaceAll (replaceAll s "%" "%25") "+" "%2B"

def buildCacheKey (apiGroup kind «namespace» contextID : String) : String :=
  escapeCacheKeySegment apiGroup ++ "+" ++ escapeCacheKeySegment kind ++ "+" ++
    escapeCacheKeySegment «namespace» ++ "+" ++ escapeCacheKeySegment contextID

def generateKey (path contextID : String) : Except String String :=
  let (ns, kind) := extractNamespace path
  match getAPIGroup path with
  | .error err => .error err
  | .ok (apiGroup, _) => .ok (buildCacheKey apiGroup kind ns contextID)

/-- The key with its third part emptied; `none` for a key with fewer than four parts. -/
def stripNamespace (key : String) : Option String :=
  let keyPart := split '+' key
  if keyPart.length < 4 then none else some (join '+' (keyPart.set 2 ""))

def escapeChar (char : Char) : List Char :=
  if char = '%' then ['%', '2', '5'] else if char = '+' then ['%', '2', 'B'] else [char]

theorem toList_escape (s : String) : (escapeCacheKeySegment s).toList = s.toList.flatMap escapeChar := by
  simp only [escapeCacheKeySegment, replaceAll, String.toList_ofList]
  rw [show "%".toList = ['%'] from rfl, show "+".toList = ['+'] from rfl, replaceFrom_singleton, replaceFrom_singleton,
    List.flatMap_assoc]
  congr 1
  funext char
  simp only [escapeChar]
  split
  · rfl
  · simp [show "%2B".toList = ['%', '2', 'B'] from rfl]

theorem escapeChar_prefixFree (first second : Char) (leading : escapeChar first <+: escapeChar second) :
    first = second := by
  by_cases firstPercent : first = '%' <;> by_cases firstPlus : first = '+' <;>
    by_cases secondPercent : second = '%' <;> by_cases secondPlus : second = '+' <;>
    simp_all [escapeChar]

theorem escape_injective : Function.Injective escapeCacheKeySegment := by
  intro first second same
  have chars := congrArg String.toList same
  rw [toList_escape, toList_escape] at chars
  have nonempty : ∀ char, escapeChar char ≠ [] := by
    intro char
    simp only [escapeChar]
    split
    · simp
    · split <;> simp
  exact String.toList_injective (flatMap_injective nonempty escapeChar_prefixFree chars)

theorem plus_not_mem_escape (s : String) : '+' ∉ (escapeCacheKeySegment s).toList := by
  rw [toList_escape, List.mem_flatMap]
  rintro ⟨char, _, member⟩
  simp only [escapeChar] at member
  split at member
  · simp at member
  · split at member
    · simp at member
    · next other =>
      rw [List.mem_singleton] at member
      exact other member.symm

theorem buildCacheKey_eq_join (apiGroup kind ns contextID : String) :
    buildCacheKey apiGroup kind ns contextID = join '+' ([apiGroup, kind, ns, contextID].map escapeCacheKeySegment) := by
  apply String.toList_injective
  simp [buildCacheKey, join, List.intercalate, List.intersperse]

theorem plus_free (parts : List String) : ∀ part ∈ parts.map escapeCacheKeySegment, '+' ∉ part.toList := by
  intro part member
  obtain ⟨original, _, rfl⟩ := List.mem_map.mp member
  exact plus_not_mem_escape original

theorem split_buildCacheKey (apiGroup kind ns contextID : String) :
    split '+' (buildCacheKey apiGroup kind ns contextID) = [apiGroup, kind, ns, contextID].map escapeCacheKeySegment := by
  rw [buildCacheKey_eq_join, split_join (by simp) (plus_free _)]

theorem buildCacheKey_injective {apiGroup kind ns contextID apiGroup' kind' ns' contextID' : String}
    (same : buildCacheKey apiGroup kind ns contextID = buildCacheKey apiGroup' kind' ns' contextID') :
    apiGroup = apiGroup' ∧ kind = kind' ∧ ns = ns' ∧ contextID = contextID' := by
  rw [buildCacheKey_eq_join, buildCacheKey_eq_join] at same
  have parts := join_injective (by simp) (by simp) (plus_free _) (plus_free _) same
  simpa [escape_injective.eq_iff] using parts

theorem stripNamespace_buildCacheKey (apiGroup kind ns contextID : String) :
    stripNamespace (buildCacheKey apiGroup kind ns contextID) = some (buildCacheKey apiGroup kind "" contextID) := by
  rw [stripNamespace, split_buildCacheKey, buildCacheKey_eq_join]
  rfl

/-- Group, last segment and namespace of a path: all of it that a key shows. -/
def keyParts (path : String) : Option (String × String × String) :=
  match getAPIGroup path with
  | .error _ => none
  | .ok (apiGroup, _) => some (apiGroup, (extractNamespace path).2, (extractNamespace path).1)

theorem generateKey_ok {path contextID key : String} :
    generateKey path contextID = .ok key ↔
      ∃ parts, keyParts path = some parts ∧ key = buildCacheKey parts.1 parts.2.1 parts.2.2 contextID := by
  simp only [generateKey, keyParts]
  cases getAPIGroup path with
  | error err => simp
  | ok group => simp [eq_comm]

/-- Two requests share a key exactly when they are of one context and their
paths agree on group, last segment and namespace. -/
theorem generateKey_eq_iff {path other contextID otherContext key : String}
    (first : generateKey path contextID = .ok key) :
    generateKey other otherContext = .ok key ↔ contextID = otherContext ∧ keyParts path = keyParts other := by
  obtain ⟨parts, found, rfl⟩ := generateKey_ok.mp first
  rw [generateKey_ok]
  constructor
  · rintro ⟨others, present, same⟩
    obtain ⟨group, kind, ns, context⟩ := buildCacheKey_injective same
    refine ⟨context, ?_⟩
    rw [found, present]
    exact congrArg some (Prod.ext group (Prod.ext kind ns))
  · rintro ⟨rfl, same⟩
    exact ⟨parts, same ▸ found, rfl⟩

theorem generateKey_of_api {path : String} (api : isKubernetesAPIPath path = true) (contextID : String) :
    ∃ key, generateKey path contextID = .ok key := by
  obtain ⟨apiIdx, found⟩ := Option.isSome_iff_exists.mp api
  have grouped : ∃ group, getAPIGroup path = .ok group := by
    simp only [getAPIGroup, found]
    split
    · exact ⟨_, rfl⟩
    · exact ⟨_, rfl⟩
  obtain ⟨group, grouped⟩ := grouped
  exact ⟨_, generateKey_ok.mpr ⟨_, by rw [keyParts, grouped], rfl⟩⟩

end K8Sense.Cache
