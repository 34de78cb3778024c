import K8Sense.Cache.Key

/-! What is read back of cache keys: a part of a key, the context that a key belongs to, and
the key of the same list over all namespaces. -/

namespace K8Sense.Cache
open Text

def unescapeCacheKeySegment (s : String) : String :=
  replaceAll (replaceAll s "%2B" "+") "%25" "%"

/-- `strings.SplitN` for a positive limit: the last part has all that is left. -/
def splitN (sep : Char) (limit : Nat) (text : String) : List String :=
  let parts := split sep text
  if parts.length ≤ limit then parts else parts.take (limit - 1) ++ [join sep (parts.drop (limit - 1))]

def cacheKeyBelongsToContext (key contextKey : String) : Bool :=
  if contextKey = "" then false
  else
    let parts := splitN '+' 4 key
    if parts.length < 4 then false else parts[3]? = some (escapeCacheKeySegment contextKey)

/-- What is left of an escaped character once `+` has been put back. -/
def plusChar (char : Char) : List Char := if char = '%' then ['%', '2', '5'] else [char]

/-- Every `%` begins an escape, so that `%2B` is found where a `+` was. -/
theorem replaceFrom_plus (chars : List Char) : replaceFrom ['%', '2', 'B'] ['+'] 0 (chars.flatMap escapeChar) = chars.flatMap plusChar := by
  induction chars with
  | nil => rfl
  | cons char rest ih =>
    rw [List.flatMap_cons, List.flatMap_cons, ← ih]
    by_cases percent : char = '%'
    · subst percent
      simp [escapeChar, plusChar, replaceFrom, List.isPrefixOf]
    · by_cases plus : char = '+'
      · subst plus
        simp [escapeChar, plusChar, replaceFrom, List.isPrefixOf]
      · simp [escapeChar, plusChar, replaceFrom, List.isPrefixOf, percent, plus, Ne.symm percent]

theorem replaceFrom_percent (chars : List Char) : replaceFrom ['%', '2', '5'] ['%'] 0 (chars.flatMap plusChar) = chars := by
  induction chars with
  | nil => rfl
  | cons char rest ih =>
    rw [List.flatMap_cons]
    conv => rhs; rw [← ih]
    by_cases percent : char = '%'
    · subst percent
      simp [plusChar, replaceFrom, List.isPrefixOf]
    · simp [plusChar, replaceFrom, List.isPrefixOf, percent, Ne.symm percent]

theorem unescape_escape (s : String) : unescapeCacheKeySegment (escapeCacheKeySegment s) = s := by
  apply String.toList_injective
  have plus : "%2B".toList = ['%', '2', 'B'] ∧ "+".toList = ['+'] := ⟨rfl, rfl⟩
  simp only [unescapeCacheKeySegment, replaceAll, String.toList_ofList]
  rw [plus.1, plus.2, toList_escape, replaceFrom_plus]
  exact replaceFrom_percent s.toList

theorem splitN_buildCacheKey (apiGroup kind ns contextID : String) :
    splitN '+' 4 (buildCacheKey apiGroup kind ns contextID) = [apiGroup, kind, ns, contextID].map escapeCacheKeySegment := by
  rw [splitN, split_buildCacheKey]
  exact if_pos (Nat.le_refl 4)

theorem escape_eq_iff {first second : String} : escapeCacheKeySegment first = escapeCacheKeySegment second ↔ first = second :=
  escape_injective.eq_iff

theorem belongs_iff {apiGroup kind ns contextID contextKey : String} :
    cacheKeyBelongsToContext (buildCacheKey apiGroup kind ns contextID) contextKey = true ↔ contextKey ≠ "" ∧ contextID = contextKey := by
  rw [cacheKeyBelongsToContext, splitN_buildCacheKey]
  by_cases empty : contextKey = ""
  · rw [if_pos empty]
    exact iff_of_false Bool.false_ne_true fun ⟨named, _⟩ => named empty
  · rw [if_neg empty, and_iff_right empty, ← escape_eq_iff]
    simp

/-- Keys are a faithful encoding: parts can be read back, keys have the parts that they were
built from, and both the eviction of a context and the stripping of a namespace go by
these parts. -/
theorem key_encoding :
    (∀ s, unescapeCacheKeySegment (escapeCacheKeySegment s) = s) ∧
    (∀ apiGroup kind ns contextID apiGroup' kind' ns' contextID',
      buildCacheKey apiGroup kind ns contextID = buildCacheKey apiGroup' kind' ns' contextID' ↔
        apiGroup = apiGroup' ∧ kind = kind' ∧ ns = ns' ∧ contextID = contextID') ∧
    (∀ apiGroup kind ns contextID contextKey,
      cacheKeyBelongsToContext (buildCacheKey apiGroup kind ns contextID) contextKey = true ↔ contextKey ≠ "" ∧ contextID = contextKey) ∧
    (∀ apiGroup kind ns contextID,
      stripNamespace (buildCacheKey apiGroup kind ns contextID) = some (buildCacheKey apiGroup kind "" contextID)) := by
  refine ⟨unescape_escape, ?_, fun _ _ _ _ _ => belongs_iff, stripNamespace_buildCacheKey⟩
  intro apiGroup kind ns contextID apiGroup' kind' ns' contextID'
  constructor
  · exact buildCacheKey_injective
  · rintro ⟨rfl, rfl, rfl, rfl⟩
    rfl

end K8Sense.Cache
