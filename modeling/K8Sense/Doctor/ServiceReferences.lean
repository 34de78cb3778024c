import K8Sense.Doctor.NetworkGraph

/-! Which Services the configuration of a workload names, and which the map takes
it to name. -/

namespace K8Sense.Doctor.NetworkMap
open Text

/-- A part stands at a place in a text, and no host name label goes on at its ends. -/
structure WholeAt (part text : List Char) (place : Nat) : Prop where
  here : part <+: text.drop place
  before : (text.take place).getLast?.any isLabelChar = false
  after : (text.drop (place + part.length)).head?.any isLabelChar = false

instance (part text : List Char) (place : Nat) : Decidable (WholeAt part text place) :=
  decidable_of_iff (part <+: text.drop place ∧ (text.take place).getLast?.any isLabelChar = false ∧
    (text.drop (place + part.length)).head?.any isLabelChar = false)
    ⟨fun ⟨here, before, after⟩ => ⟨here, before, after⟩, fun whole => ⟨whole.here, whole.before, whole.after⟩⟩

def Delimited (form text : List Char) : Prop := ∃ place < text.length, WholeAt form text place

instance (form text : List Char) : Decidable (Delimited form text) :=
  inferInstanceAs (Decidable (∃ place < text.length, WholeAt form text place))

/-- The name is a whole label where a host would stand: in a URL, behind a key, or
with a port. -/
def InHostPosition (name text : List Char) : Prop :=
  ∃ place < text.length, WholeAt name text place ∧
    hostLikeContext (text.take place).reverse (text.drop (place + name.length)) = true

instance (name text : List Char) : Decidable (InHostPosition name text) :=
  inferInstanceAs (Decidable (∃ place < text.length, WholeAt name text place ∧
    hostLikeContext (text.take place).reverse (text.drop (place + name.length)) = true))

section
variable {R : Type} (env : Env R) (text : String)

/-- The bare name means the Service of the namespace it is used in; any other is
named with its own. -/
def RefersTo (source : Name) (svc : Service) : Prop :=
  source = svc.namespace ∧ InHostPosition (env.toLower svc.name.text).toList text.toList ∨
    ∃ form ∈ serviceRefTokens env svc.name.text svc.namespace.text, Delimited form.toList text.toList

instance (source : Name) (svc : Service) : Decidable (RefersTo env text source svc) :=
  inferInstanceAs (Decidable (_ ∨ _))

/-- `name.namespace`, which the other forms begin with. -/
def shortForm (name ns : String) : String := concat "" [env.toLower name, ".", ns]

/-- The short form is there only as a part of other labels, and the bare name does
not mean the Service either. -/
def Clipped (source : Name) (svc : Service) : Prop :=
  contains text.toList (shortForm env svc.name.text svc.namespace.text).toList = true ∧
    ¬Delimited (shortForm env svc.name.text svc.namespace.text).toList text.toList ∧
    ¬(source = svc.namespace ∧ InHostPosition (env.toLower svc.name.text).toList text.toList)

/-- The bare name, long enough to be looked for, means a Service of another
namespace. -/
def Foreign (source : Name) (svc : Service) : Prop :=
  source ≠ svc.namespace ∧ 3 ≤ svc.name.text.length ∧ InHostPosition (env.toLower svc.name.text).toList text.toList ∧
    ¬Delimited (shortForm env svc.name.text svc.namespace.text).toList text.toList

instance (source : Name) (svc : Service) : Decidable (Clipped env text source svc) :=
  inferInstanceAs (Decidable (_ ∧ _))

instance (source : Name) (svc : Service) : Decidable (Foreign env text source svc) :=
  inferInstanceAs (Decidable (_ ∧ _))

end

theorem hostLikeToken_iff {word text : List Char} (passed : List Char) : hostLikeToken word passed text = true ↔
    ∃ place < text.length, word <+: text.drop place ∧
      ((text.take place).reverse ++ passed).head?.any isLabelChar = false ∧
      (text.drop (place + word.length)).head?.any isLabelChar = false ∧
      hostLikeContext ((text.take place).reverse ++ passed) (text.drop (place + word.length)) = true := by
  induction text generalizing passed with
  | nil => simp [hostLikeToken]
  | cons char rest ih =>
    rw [hostLikeToken, Bool.or_eq_true, ih, List.length_cons, Nat.exists_lt_succ_left]
    apply or_congr
    · simp only [Bool.and_eq_true, Bool.not_eq_true', List.isPrefixOf_iff_prefix, and_assoc, List.drop_zero, List.take_zero,
        List.reverse_nil, List.nil_append, Nat.zero_add]
    · simp only [List.drop_succ_cons, List.take_succ_cons, List.reverse_cons, List.append_assoc, List.singleton_append,
        Nat.add_right_comm _ 1]

theorem hostLikeToken_position {word text : List Char} :
    hostLikeToken word [] text = true ↔ InHostPosition word text := by
  rw [hostLikeToken_iff]
  apply exists_congr
  intro place
  rw [List.append_nil, List.head?_reverse]
  constructor
  · rintro ⟨inside, here, before, after, host⟩
    exact ⟨inside, ⟨here, before, after⟩, host⟩
  · rintro ⟨inside, whole, host⟩
    exact ⟨inside, whole.here, whole.before, whole.after, host⟩

theorem WholeAt.shorten {part tail text : List Char} {place : Nat} (whole : WholeAt (part ++ tail) text place)
    (ends : tail.head?.any isLabelChar = false) : WholeAt part text place := by
  obtain ⟨rest, there⟩ := whole.here
  refine ⟨⟨tail ++ rest, by rw [← there, List.append_assoc]⟩, whole.before, ?_⟩
  cases tail with
  | nil => simpa using whole.after
  | cons first others =>
    rw [← List.drop_drop, ← there, List.append_assoc, List.drop_left]
    exact ends

section
variable {R : Type} {env : Env R} {name ns : String}

theorem token_extends {token : String} (form : token ∈ serviceRefTokens env name ns) :
    ∃ tail : List Char, token.toList = (shortForm env name ns).toList ++ tail ∧ tail.head?.any isLabelChar = false := by
  simp only [serviceRefTokens, List.mem_cons, List.not_mem_nil, or_false] at form
  obtain rfl | rfl | rfl := form
  · exact ⟨".svc.cluster.local".toList, by simp only [shortForm, concat_empty_toList, List.flatMap_cons, List.flatMap_nil,
      List.append_assoc, List.append_nil], rfl⟩
  · exact ⟨".svc".toList, by simp only [shortForm, concat_empty_toList, List.flatMap_cons, List.flatMap_nil,
      List.append_assoc, List.append_nil], rfl⟩
  · exact ⟨[], (List.append_nil _).symm, rfl⟩

theorem shortForm_mem : shortForm env name ns ∈ serviceRefTokens env name ns := by
  simp [serviceRefTokens, shortForm]

theorem delimited_forms {text : List Char} : (∃ form ∈ serviceRefTokens env name ns, Delimited form.toList text) ↔
    Delimited (shortForm env name ns).toList text := by
  constructor
  · rintro ⟨form, member, place, inside, whole⟩
    obtain ⟨tail, longer, ends⟩ := token_extends member
    rw [longer] at whole
    exact ⟨place, inside, whole.shorten ends⟩
  · intro short
    exact ⟨_, shortForm_mem, short⟩

theorem contains_forms {text : List Char} : (∃ form ∈ serviceRefTokens env name ns, contains text form.toList = true) ↔
    contains text (shortForm env name ns).toList = true := by
  constructor
  · rintro ⟨form, member, found⟩
    obtain ⟨tail, longer, _⟩ := token_extends member
    obtain ⟨before, after, whole⟩ := contains_iff.mp found
    rw [longer] at whole
    exact contains_iff.mpr ⟨before, tail ++ after, by simpa only [List.append_assoc] using whole⟩
  · intro short
    exact ⟨_, shortForm_mem, short⟩

theorem referencesService_iff {text : String} : referencesService env text name (serviceRefTokens env name ns) = true ↔
    contains text.toList (shortForm env name ns).toList = true ∨
      3 ≤ name.length ∧ InHostPosition (env.toLower name).toList text.toList := by
  rw [referencesService, Bool.or_eq_true, Bool.and_eq_true, decide_eq_true_eq, List.any_eq_true, contains_forms,
    hostLikeToken_position]

end

section
variable {R : Type} {env : Env R} {cluster : Cluster} {workloads : List Workload} {ns : String}

/-- A Service that a text is taken to name is named there, exactly unless the text
has its short form inside other labels or the name of one of another namespace. -/
theorem references_iff {cmData : StringMap} {app : Workload} {svc : Service} :
    (referencesService env (searchedText cmData app) svc.name.text (serviceRefTokens env svc.name.text svc.namespace.text) = true →
      RefersTo env (searchedText cmData app) app.namespace svc) ↔
    ¬Clipped env (searchedText cmData app) app.namespace svc ∧ ¬Foreign env (searchedText cmData app) app.namespace svc := by
  rw [referencesService_iff, RefersTo, delimited_forms]
  constructor
  · intro sound
    constructor
    · rintro ⟨occurs, inner, unnamed⟩
      exact (sound (Or.inl occurs)).elim unnamed inner
    · rintro ⟨other, long, host, inner⟩
      obtain ⟨same, _⟩ | delimited := sound (Or.inr ⟨long, host⟩)
      · exact other same
      · exact inner delimited
  · rintro ⟨notClipped, notForeign⟩ refers
    by_contra missed
    rw [not_or] at missed
    obtain occurs | ⟨long, host⟩ := refers
    · exact notClipped ⟨occurs, missed.2, missed.1⟩
    · exact notForeign ⟨fun same => missed.1 ⟨same, host⟩, long, host, missed.2⟩

end

private def prodDB : Service := ⟨⟨"prod", rfl⟩, ⟨"db", rfl⟩, .clusterIP, "", [("app", "db")], []⟩

private def prodWorkload : Workload := ⟨⟨"prod", rfl⟩, ⟨"db", rfl⟩, .statefulSet, [("app", "db")], "", "", []⟩

private def reader (configText : String) : Workload := ⟨shop, web.name, .deployment, [], "", configText, []⟩

private def prodCluster : Cluster :=
  { twoRules with services := [prodDB], servicesDistinct := List.nodup_singleton _ }

/-- A host whose name ends in `db`, and a namespace whose name begins with `prod`. -/
theorem inner_names_match :
    (inferredConnections (meshEnv []) prodCluster [reader "host=mydb.prod", prodWorkload] "").map InferredEdge.via = ["db"] ∧
      ¬RefersTo (meshEnv []) "host=mydb.prod" shop prodDB ∧
      (inferredConnections (meshEnv []) prodCluster [reader "host=db.prod-eu", prodWorkload] "").map InferredEdge.via = ["db"] ∧
      ¬RefersTo (meshEnv []) "host=db.prod-eu" shop prodDB := by
  decide +kernel

example : Foreign (meshEnv []) "host=orders" shop { prodDB with name := ⟨"orders", rfl⟩ } := by decide

end K8Sense.Doctor.NetworkMap
