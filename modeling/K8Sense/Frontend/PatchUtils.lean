import K8Sense.Library.JsonPatch

/-! The patch that is sent for an edited resource. -/

namespace K8Sense.Frontend.PatchUtils
open JsonPatch

/-- The six operations of the standard, so not `_get`. -/
def isStandardOp : Operation → Bool
  | .get _ => false
  | _ => true

def startsWith (path start : List Char) : Bool := start.isPrefixOf path

def isServerManagedPath (path : List Char) : Bool :=
  path == "/metadata/resourceVersion".toList ||
    path == "/metadata/managedFields".toList ||
    startsWith path "/metadata/managedFields/".toList ||
    path == "/metadata/generation".toList ||
    path == "/status".toList ||
    startsWith path "/status/".toList

abbrev KubeObject := Token → Option Json

section
variable (jsonPatchCompare : Json → Json → List Operation)

/-- `jsonPatchCompare` is the comparison of the patch library. -/
def computePatchOperations (original modified : KubeObject) : List Operation :=
  (jsonPatchCompare (.object original) (.object modified)).filter fun op => isStandardOp op && !isServerManagedPath (text op.path)

end

/-! What the patch is to do. -/

def metadata : Token := "metadata".toList

def resourceVersion : Pointer := [metadata, "resourceVersion".toList]

def managedFields : Pointer := [metadata, "managedFields".toList]

def generation : Pointer := [metadata, "generation".toList]

def status : Pointer := ["status".toList]

/-- The fields that the server manages. -/
def serverManaged : List Pointer := [resourceVersion, managedFields, generation, status]

/-- The operations change the original to the edited object, but for the fields that the
server manages, which keep their values and are neither named, contained nor entered. -/
structure Respects (original modified : KubeObject) (operations : List Operation) : Prop where
  applies : ∃ result, applyAll operations (.object original) = some result ∧
    result.mask serverManaged = (Json.object modified).mask serverManaged ∧
    ∀ pointer ∈ serverManaged, result.get pointer = (Json.object original).get pointer
  apart : ∀ operation ∈ operations, ∀ pointer ∈ serverManaged, Apart operation.path pointer

/-- The metadata are not added, removed or replaced as a whole, and of the fields that are
compared by their own path only none is a container that is changed inside. -/
structure Stable (original modified : KubeObject) : Prop where
  metadata : original metadata = modified metadata ∨ SameKind (original metadata) (modified metadata)
  inside : ∀ pointer ∈ [resourceVersion, generation],
    (Json.object original).get pointer = (Json.object modified).get pointer ∨
      ¬ SameKind ((Json.object original).get pointer) ((Json.object modified).get pointer)

/-! Paths that are left out. -/

theorem isServerManagedPath_iff {path : Pointer} : isServerManagedPath (text path) = true ↔
    path = resourceVersion ∨ managedFields <+: path ∨ path = generation ∨ status <+: path := by
  have own : ∀ pointer, (text path == text pointer) = true ↔ path = pointer := by
    intro pointer
    rw [beq_iff_eq, text_eq_iff]
  have below : ∀ pointer, (text path == text pointer || startsWith (text path) (text pointer ++ ['/'])) = true ↔ pointer <+: path := by
    intro pointer
    rw [Bool.or_eq_true, own, startsWith, List.isPrefixOf_iff_prefix, text_prefix_iff]
    constructor
    · rintro (rfl | ⟨under, -⟩)
      · exact List.prefix_refl path
      · exact under
    · intro under
      by_cases same : path = pointer
      · exact Or.inl same
      · exact Or.inr ⟨under, same⟩
  have shape : isServerManagedPath (text path) = (text path == text resourceVersion ||
      ((text path == text managedFields || startsWith (text path) (text managedFields ++ ['/'])) ||
        (text path == text generation || (text path == text status || startsWith (text path) (text status ++ ['/']))))) := by
    simp only [isServerManagedPath, Bool.or_assoc]
    rfl
  rw [shape, Bool.or_eq_true, own, Bool.or_eq_true, below, Bool.or_eq_true, own, below]

theorem serverManaged_fields : Fields serverManaged := by
  simp only [Fields, serverManaged, List.forall_mem_cons]
  decide

theorem serverManaged_apart : ∀ first ∈ serverManaged, ∀ second ∈ serverManaged, first = second ∨ Apart first second := by
  unfold Apart
  decide

theorem managed_below {path : Pointer} (managed : isServerManagedPath (text path) = true) : ∃ pointer ∈ serverManaged, pointer <+: path := by
  rcases isServerManagedPath_iff.mp managed with rfl | below | rfl | below
  · exact ⟨resourceVersion, by simp [serverManaged], List.prefix_refl _⟩
  · exact ⟨managedFields, by simp [serverManaged], below⟩
  · exact ⟨generation, by simp [serverManaged], List.prefix_refl _⟩
  · exact ⟨status, by simp [serverManaged], below⟩

theorem managed_each {path : Pointer} (managed : isServerManagedPath (text path) = true) :
    (∀ pointer ∈ serverManaged, pointer <+: path ∨ Apart path pointer) ∧ ∃ pointer ∈ serverManaged, pointer <+: path := by
  obtain ⟨pointer, member, below⟩ := managed_below managed
  refine ⟨fun other inside => ?_, pointer, member, below⟩
  rcases serverManaged_apart pointer member other inside with rfl | apart
  · exact Or.inl below
  · exact Or.inr (apart.below below)

theorem change_standard {operation : Operation} (change : operation.change? ≠ none) : isStandardOp operation = true := by
  cases operation with
  | get path => exact absurd rfl change
  | _ => rfl

section
variable {original modified : KubeObject} {operations : List Operation}
  (difference : Difference (.object original) (.object modified) operations)

include difference

theorem path_ne_nil {operation : Operation} (member : operation ∈ operations) : operation.path ≠ [] := by
  intro root
  have diverge := (difference.place operation member).2
  rw [root] at diverge
  exact diverge.2 trivial

theorem apart_of_stable (stable : Stable original modified) {operation : Operation} (member : operation ∈ operations)
    (unmanaged : isServerManagedPath (text operation.path) = false) : ∀ pointer ∈ serverManaged, Apart operation.path pointer := by
  have diverge := (difference.place operation member).2
  have nonempty := path_ne_nil difference member
  have kept : ¬ (operation.path = resourceVersion ∨ managedFields <+: operation.path ∨ operation.path = generation ∨ status <+: operation.path) := by
    rw [← isServerManagedPath_iff, unmanaged]
    simp
  generalize operation.path = path at *
  simp only [not_or] at kept
  obtain ⟨notVersion, notFields, notGeneration, notStatus⟩ := kept
  have whole : path ≠ [metadata] := by
    rintro rfl
    rcases stable.metadata with same | same
    · exact diverge.2.1 same
    · exact diverge.2.2 same
  have inside : ∀ pointer ∈ [resourceVersion, generation], path ≠ pointer → ¬ pointer <+: path := by
    rintro pointer inside other ⟨rest, rfl⟩
    have below := diverge.below
    cases rest with
    | nil => exact other (List.append_nil pointer)
    | cons token rest =>
      rcases stable.inside pointer inside with same | different
      · exact below.ne same
      · exact different below.1
  have above : ∀ token, path <+: [metadata, token] → path = [metadata, token] := by
    intro token leads
    rcases List.prefix_cons_iff.mp leads with empty | ⟨rest, rfl, further⟩
    · exact absurd empty nonempty
    · rcases List.prefix_cons_iff.mp further with rfl | ⟨more, rfl, ended⟩
      · exact absurd rfl whole
      · rw [List.prefix_nil.mp ended]
  intro pointer managed
  simp only [serverManaged, List.mem_cons, List.not_mem_nil, or_false] at managed
  rcases managed with rfl | rfl | rfl | rfl
  · exact ⟨fun leads => notVersion (above _ leads), inside _ (by simp) notVersion⟩
  · refine ⟨fun leads => notFields ?_, notFields⟩
    rw [above _ leads]
    exact List.prefix_refl _
  · exact ⟨fun leads => notGeneration (above _ leads), inside _ (by simp) notGeneration⟩
  · refine ⟨fun leads => notStatus ?_, notStatus⟩
    rcases List.prefix_cons_iff.mp leads with empty | ⟨rest, rfl, ended⟩
    · exact absurd empty nonempty
    · rw [List.prefix_nil.mp ended]
      exact List.prefix_refl _

theorem respects_of_stable (stable : Stable original modified) :
    Respects original modified (operations.filter fun op => isStandardOp op && !isServerManagedPath (text op.path)) := by
  have changes := fun operation member => (difference.place operation member).1
  have kept : ∀ operation ∈ operations, (isStandardOp operation && !isServerManagedPath (text operation.path)) = true →
      ∀ pointer ∈ serverManaged, Apart operation.path pointer := by
    intro operation member keeps
    simp only [Bool.and_eq_true, Bool.not_eq_true'] at keeps
    exact apart_of_stable difference stable member keeps.2
  refine ⟨?_, ?_⟩
  · apply applyAll_filter serverManaged_fields changes kept ?_ rfl difference.correct
    intro operation member left
    rw [change_standard (changes operation member), Bool.true_and, Bool.not_eq_false'] at left
    exact managed_each left
  · intro operation member
    obtain ⟨inside, keeps⟩ := List.mem_filter.mp member
    exact kept operation inside keeps

theorem done_inside {pointer : Pointer} (keys : ∀ token ∈ pointer, IsKey token)
    (differ : (Json.object original).get pointer ≠ (Json.object modified).get pointer) :
    ∃ operation ∈ operations, ¬ Apart operation.path pointer := by
  by_contra none
  have apart : ∀ operation ∈ operations, Apart operation.path pointer := by
    intro operation member
    by_contra meets
    exact none ⟨operation, member, meets⟩
  have changes := fun operation member => (difference.place operation member).1
  exact differ (applyAll_get keys changes apart difference.correct).symm

theorem stable_of_respects
    (respects : Respects original modified (operations.filter fun op => isStandardOp op && !isServerManagedPath (text op.path))) :
    Stable original modified := by
  have apart : ∀ operation ∈ operations, isServerManagedPath (text operation.path) = false →
      ∀ pointer ∈ serverManaged, Apart operation.path pointer := by
    intro operation member unmanaged
    apply respects.apart operation
    rw [List.mem_filter, change_standard (difference.place operation member).1, unmanaged]
    exact ⟨member, rfl⟩
  have notWhole : ∀ operation ∈ operations, operation.path ≠ [metadata] := by
    intro operation member whole
    have unmanaged : isServerManagedPath (text operation.path) = false := by
      rw [whole]
      rfl
    have leads : operation.path <+: resourceVersion := by
      rw [whole]
      exact ⟨_, rfl⟩
    exact (apart operation member unmanaged resourceVersion (by simp [serverManaged])).1 leads
  refine ⟨?_, ?_⟩
  · by_contra changed
    rw [not_or] at changed
    have get : ∀ fields : KubeObject, (Json.object fields).get [metadata] = fields metadata := by
      intro fields
      simp only [Json.get, Json.child]
      cases fields metadata <;> rfl
    have keys : ∀ token ∈ [metadata], IsKey token := by decide
    obtain ⟨operation, member, meets⟩ := done_inside difference keys (by rw [get, get]; exact changed.1)
    refine meets ⟨fun leads => ?_, fun leads => ?_⟩
    · rcases List.prefix_cons_iff.mp leads with empty | ⟨rest, same, ended⟩
      · exact path_ne_nil difference member empty
      · rw [List.prefix_nil.mp ended] at same
        exact notWhole operation member same
    · obtain ⟨rest, same⟩ := leads
      have diverge := (difference.place operation member).2
      rw [← same] at diverge
      cases rest with
      | nil => exact notWhole operation member same.symm
      | cons token rest =>
        have kinds := diverge.below.1
        rw [Option.bind_some, Option.bind_some, get, get] at kinds
        exact changed.2 kinds
  · intro pointer inside
    by_contra changed
    rw [not_or, not_not] at changed
    have managed : pointer ∈ serverManaged := by
      simp only [List.mem_cons, List.not_mem_nil, or_false] at inside
      rcases inside with rfl | rfl <;> simp [serverManaged]
    obtain ⟨operation, member, meets⟩ := done_inside difference (serverManaged_fields pointer managed).2 changed.1
    cases left : isServerManagedPath (text operation.path) with
    | false => exact meets (apart operation member left pointer managed)
    | true =>
      have below : pointer <+: operation.path := by
        rcases (managed_each left).1 pointer managed with below | apart
        · exact below
        · exact absurd apart meets
      -- The path is left out though it is not the pointer itself only where it lies
      -- below another field.
      have own : operation.path = pointer := by
        have either : ∀ other ∈ serverManaged, other <+: operation.path → other = pointer := by
          intro other otherManaged otherBelow
          rcases serverManaged_apart other otherManaged pointer managed with same | apart
          · exact same
          · exact absurd (apart.below otherBelow) meets
        have fields : managedFields ∉ [resourceVersion, generation] := by decide
        have ofStatus : status ∉ [resourceVersion, generation] := by decide
        rcases isServerManagedPath_iff.mp left with same | below | same | below
        · rw [same]
          exact either _ (by simp [serverManaged]) (same ▸ List.prefix_refl _)
        · exact absurd (either _ (by simp [serverManaged]) below ▸ inside) fields
        · rw [same]
          exact either _ (by simp [serverManaged]) (same ▸ List.prefix_refl _)
        · exact absurd (either _ (by simp [serverManaged]) below ▸ inside) ofStatus
      have diverge := (difference.place operation member).2
      rw [own, ← List.append_nil pointer] at diverge
      exact diverge.below.2 changed.2

end

/-- The patch for an edited resource changes what was edited, and of the fields that the
server manages it keeps clear, exactly when the edit leaves the metadata in place and does
not change the inside of a resource version or a generation. -/
theorem patch_respects_iff (jsonPatchCompare : Json → Json → List Operation) (original modified : KubeObject)
    (difference : Difference (.object original) (.object modified) (jsonPatchCompare (.object original) (.object modified))) :
    Respects original modified (computePatchOperations jsonPatchCompare original modified) ↔ Stable original modified :=
  ⟨stable_of_respects difference, respects_of_stable difference⟩

def noFields : KubeObject := fun _ => none

/-- A resource of version 1 that asks for some replicas. -/
def withReplicas (replicas : List Char) : KubeObject :=
  Function.update (Function.update noFields metadata (some (.object (Function.update noFields "resourceVersion".toList (some (.string ['1']))))))
    "spec".toList (some (.object (Function.update noFields "replicas".toList (some (.number replicas)))))

/-- The comparison of three replicas with five. -/
def scaled (_ _ : Json) : List Operation := [.replace ["spec".toList, "replicas".toList] (.number ['5'])]

theorem scaled_difference : Difference (.object (withReplicas ['3'])) (.object (withReplicas ['5']))
    (scaled (.object (withReplicas ['3'])) (.object (withReplicas ['5']))) := by
  refine ⟨?_, ?_⟩
  · have outer : ∀ first second, Function.update (withReplicas first) "spec".toList
        (some (.object (Function.update (Function.update noFields "replicas".toList (some (.number first))) "replicas".toList
          (some (.number second))))) = withReplicas second := by
      intro first second
      rw [withReplicas, Function.update_idem, Function.update_idem]
      rfl
    rw [← outer ['3'] ['5']]
    rfl
  · intro operation member
    rw [scaled, List.mem_singleton] at member
    subst member
    refine ⟨by simp [Operation.change?], trivial, trivial, ?_, fun same => same⟩
    intro same
    cases same

theorem scaled_respects : Respects (withReplicas ['3']) (withReplicas ['5']) (computePatchOperations scaled (withReplicas ['3']) (withReplicas ['5'])) := by
  rw [patch_respects_iff scaled (withReplicas ['3']) (withReplicas ['5']) scaled_difference]
  refine ⟨Or.inl rfl, ?_⟩
  intro pointer inside
  simp only [List.mem_cons, List.not_mem_nil, or_false] at inside
  rcases inside with rfl | rfl <;> exact Or.inl rfl

/-- The edit of the resource removes its metadata. -/
def withoutMetadata : KubeObject := Function.update (withReplicas ['3']) metadata none

def removal (_ _ : Json) : List Operation := [.remove [metadata]]

/-- The whole of the metadata is removed, with the resource version. -/
theorem metadata_removed : ¬ ∀ (jsonPatchCompare : Json → Json → List Operation) (original modified : KubeObject),
    Difference (.object original) (.object modified) (jsonPatchCompare (.object original) (.object modified)) →
      Respects original modified (computePatchOperations jsonPatchCompare original modified) := by
  intro every
  have difference : Difference (.object (withReplicas ['3'])) (.object withoutMetadata) [.remove [metadata]] := by
    refine ⟨rfl, ?_⟩
    intro operation member
    rw [List.mem_singleton] at member
    subst member
    refine ⟨by simp [Operation.change?], trivial, ?_, fun same => same⟩
    intro same
    cases same
  have respects := every removal (withReplicas ['3']) withoutMetadata difference
  have apart := respects.apart (.remove [metadata]) (List.mem_singleton.mpr rfl) resourceVersion (by simp [serverManaged])
  exact apart.1 ⟨_, rfl⟩

end K8Sense.Frontend.PatchUtils
