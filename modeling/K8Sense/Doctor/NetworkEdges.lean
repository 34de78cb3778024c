import K8Sense.Doctor.NetworkMap

/-! Which edges the map draws between workloads, and what their labels tell of
the ports that the policies permit. -/

namespace K8Sense.Doctor.NetworkMap
open Text

/-- What an entry of a rule permits: the ports of a protocol, one of them, or a
range. -/
def NetworkPolicyPort.Permits (entry : NetworkPolicyPort) (protocol : Protocol) (port : PortRef) : Prop :=
  entry.protocol.getD .tcp = protocol ∧ match entry.port with
    | none => True
    | some (.name name) => port = .name name
    | some (.number first) => ∃ number, port = .number number ∧ first ≤ number ∧ number ≤ entry.endPort.getD first

/-- A rule that lists no ports permits all of them. -/
def NetworkPolicyIngressRule.Permits (rule : NetworkPolicyIngressRule) (protocol : Protocol) (port : PortRef) : Prop :=
  rule.ports = [] ∨ ∃ entry ∈ rule.ports, entry.Permits protocol port

/-- The entry names the port, or its protocol without a port. -/
def NetworkPolicyPort.Shows (entry : NetworkPolicyPort) (protocol : Protocol) (port : PortRef) : Prop :=
  entry.protocol.getD .tcp = protocol ∧ (entry.port = none ∨ entry.port = some port)

/-- The entries of a label, which are set apart by commas. -/
def labelEntries (label : String) : List String := (split ',' label).map (trim ' ')

/-- What a reader of the label takes it to permit. -/
def Covers (label : String) (protocol : Protocol) (port : PortRef) : Prop :=
  label = "" ∨ protocol.lower ∈ labelEntries label ∨ join '/' [protocol.lower, port.text] ∈ labelEntries label

theorem portRef_chars (port : PortRef) : ',' ∉ port.text.toList ∧ ' ' ∉ port.text.toList ∧ '/' ∉ port.text.toList := by
  cases port with
  | number port =>
    have digits : ∀ char ∈ (toString port).toList, char.isDigit = true := fun char => isDigit_of_mem_toString
    refine ⟨fun member => ?_, fun member => ?_, fun member => ?_⟩ <;> exact absurd (digits _ member) (by decide)
  | name port =>
    have chars := List.all_eq_true.mp port.valid
    refine ⟨fun member => ?_, fun member => ?_, fun member => ?_⟩ <;> exact absurd (chars _ member) (by decide)

theorem portRef_text_injective : Function.Injective PortRef.text := by
  have differ : ∀ (number : Nat) (name : PortName), toString number ≠ name.text := by
    intro number name same
    obtain ⟨char, member, letter⟩ := List.any_eq_true.mp name.letter
    rw [← same] at member
    have digit := isDigit_of_mem_toString member
    simp only [Char.isDigit, Bool.and_eq_true, decide_eq_true_eq] at digit letter
    have between : 'a' ≤ '9' := Char.le_trans letter.1 digit.2
    exact absurd between (by decide)
  intro first second same
  cases first with
  | number first =>
    cases second with
    | number second =>
      have equal : first = second := toString_injective same
      rw [equal]
    | name second => exact absurd same (differ first second)
  | name first =>
    cases second with
    | number second => exact absurd same.symm (differ second first)
    | name second =>
      cases first
      cases second
      simpa [PortRef.text] using same

theorem protocol_lower_injective : Function.Injective Protocol.lower := by
  intro first second same
  cases first <;> cases second <;> first | rfl | exact absurd same (by decide)

theorem protocol_chars (protocol : Protocol) :
    ',' ∉ protocol.lower.toList ∧ ' ' ∉ protocol.lower.toList ∧ '/' ∉ protocol.lower.toList := by
  cases protocol <;> decide

theorem portText_some {entry : NetworkPolicyPort} {ref : PortRef} (named : entry.port = some ref) :
    portText entry = join '/' [(entry.protocol.getD .tcp).lower, ref.text] := by
  rw [portText, named]
  cases entry.protocol <;> rfl

theorem portText_none {entry : NetworkPolicyPort} (whole : entry.port = none) :
    portText entry = (entry.protocol.getD .tcp).lower := by
  rw [portText, whole]
  cases entry.protocol <;> rfl

theorem portText_chars (entry : NetworkPolicyPort) : ',' ∉ (portText entry).toList ∧ ' ' ∉ (portText entry).toList := by
  obtain ⟨noComma, noBlank, -⟩ := protocol_chars (entry.protocol.getD .tcp)
  cases port : entry.port with
  | none =>
    rw [portText_none port]
    exact ⟨noComma, noBlank⟩
  | some ref =>
    obtain ⟨refComma, refBlank, -⟩ := portRef_chars ref
    rw [portText_some port, join_cons (List.cons_ne_nil _ _), join_singleton]
    simp [noComma, noBlank, refComma, refBlank]

theorem portText_nonempty (entry : NetworkPolicyPort) : portText entry ≠ "" := by
  intro empty
  cases port : entry.port with
  | none =>
    rw [portText_none port] at empty
    cases protocol : entry.protocol.getD .tcp <;> rw [protocol] at empty <;> exact absurd empty (by decide)
  | some ref =>
    rw [portText_some port] at empty
    have chars := congrArg String.toList empty
    rw [join_cons (List.cons_ne_nil _ _)] at chars
    simp at chars

theorem portText_protocol {entry : NetworkPolicyPort} {protocol : Protocol} :
    portText entry = protocol.lower ↔ entry.protocol.getD .tcp = protocol ∧ entry.port = none := by
  cases port : entry.port with
  | none =>
    rw [portText_none port]
    simp [protocol_lower_injective.eq_iff]
  | some ref =>
    rw [portText_some port]
    constructor
    · intro same
      have slash := congrArg (fun text : String => '/' ∈ text.toList) same
      rw [join_cons (List.cons_ne_nil _ _)] at slash
      simp [(protocol_chars protocol).2.2] at slash
    · simp

theorem portText_port {entry : NetworkPolicyPort} {protocol : Protocol} {port : PortRef} :
    portText entry = join '/' [protocol.lower, port.text] ↔ entry.protocol.getD .tcp = protocol ∧ entry.port = some port := by
  cases given : entry.port with
  | none =>
    rw [portText_none given]
    constructor
    · intro same
      have slash := congrArg (fun text : String => '/' ∈ text.toList) same
      rw [join_cons (List.cons_ne_nil _ _)] at slash
      simp [(protocol_chars (entry.protocol.getD .tcp)).2.2] at slash
    · simp
  | some ref =>
    rw [portText_some given]
    constructor
    · intro same
      obtain ⟨protocols, ports⟩ := join_cons_injective (List.cons_ne_nil _ _) (List.cons_ne_nil _ _)
        (protocol_chars _).2.2 (protocol_chars _).2.2 same
      rw [join_singleton, join_singleton] at ports
      exact ⟨protocol_lower_injective protocols, congrArg some (portRef_text_injective ports)⟩
    · rintro ⟨rfl, same⟩
      rw [Option.some.inj same]

theorem summarisePorts_entries {ports : List NetworkPolicyPort} (some : ports ≠ []) :
    labelEntries (summarisePorts ports) = ports.map portText := by
  rw [summarisePorts, if_neg (by simpa using some), labelEntries]
  apply entries_concat (by simpa using some) (by decide)
  rw [List.forall_mem_map]
  exact fun entry _ => portText_chars entry

theorem summarisePorts_empty {ports : List NetworkPolicyPort} : summarisePorts ports = "" ↔ ports = [] := by
  constructor
  · intro empty
    apply by_contra
    intro some
    have entries := summarisePorts_entries some
    rw [empty] at entries
    have first : ports.map portText = [""] := entries.symm
    obtain ⟨entry, _, text⟩ := List.mem_map.mp (first ▸ List.mem_cons_self : "" ∈ ports.map portText)
    exact portText_nonempty entry text
  · rintro rfl
    rfl

theorem covers_summarisePorts {ports : List NetworkPolicyPort} {protocol : Protocol} {port : PortRef} :
    Covers (summarisePorts ports) protocol port ↔ ports = [] ∨ ∃ entry ∈ ports, entry.Shows protocol port := by
  rw [Covers, summarisePorts_empty]
  by_cases some : ports = []
  · simp [some]
  · rw [summarisePorts_entries some]
    simp only [some, false_or, List.mem_map, portText_protocol, portText_port, NetworkPolicyPort.Shows]
    constructor
    · rintro (⟨entry, member, same, whole⟩ | ⟨entry, member, same, given⟩)
      · exact ⟨entry, member, same, Or.inl whole⟩
      · exact ⟨entry, member, same, Or.inr given⟩
    · rintro ⟨entry, member, same, whole | given⟩
      · exact Or.inl ⟨entry, member, same, whole⟩
      · exact Or.inr ⟨entry, member, same, given⟩

variable {R : Type} (env : Env R)

/-- The peer selects a workload, for a target in the given namespace. -/
def NetworkPolicyPeer.selects (peer : NetworkPolicyPeer) (targetNS : Name) (source : Workload) : Bool :=
  peer.ipBlock.isNone && (peer.namespaceSelector.isSome || source.namespace = targetNS) &&
    selectorMatches env peer.podSelector source.labels

/-- The ingress rules by which the policies let a workload connect to another,
in the order of the policies. -/
def admitting (policies : List NetworkPolicy) (source target : Workload) : List NetworkPolicyIngressRule :=
  ((selectingIngressPolicies env target policies).flatMap NetworkPolicy.ingress).filter fun rule =>
    rule.from.any fun peer => peer.selects env target.namespace source

variable {env} {cluster : Cluster} {ns : String} {map : NetMap R} {workloads : List Workload}

theorem concat_pair (sep first second : String) : concat sep [first, second] = first ++ sep ++ second := by
  apply String.toList_injective
  simp [concat, List.intercalate]

theorem edge_id_iff {target source other : Workload} {rule next : NetworkPolicyIngressRule} :
    (ingressEdge target rule source).id = (ingressEdge target next other).id ↔ source.id = other.id := by
  rw [ingressEdge, ingressEdge, concat_pair, concat_pair]
  simp

theorem mem_matchingSources {peer : NetworkPolicyPeer} {targetNS : Name} {source : Workload} :
    source ∈ matchingSources env peer targetNS workloads ↔ source ∈ workloads ∧ peer.selects env targetNS source = true := by
  unfold matchingSources NetworkPolicyPeer.selects
  cases peer.ipBlock <;> simp

theorem mem_ruleEdges {target : Workload} {rule : NetworkPolicyIngressRule} {edge : NetEdge} :
    edge ∈ ruleEdges env target workloads rule ↔ ∃ source ∈ workloads, source.id ≠ target.id ∧
      (rule.from.any fun peer => peer.selects env target.namespace source) = true ∧ edge = ingressEdge target rule source := by
  simp only [ruleEdges, List.mem_flatMap, List.mem_map, List.mem_filter, mem_matchingSources, List.any_eq_true,
    decide_eq_true_eq]
  constructor
  · intro ⟨peer, member, source, ⟨⟨listed, selects⟩, other⟩, same⟩
    exact ⟨source, listed, other, ⟨peer, member, selects⟩, same.symm⟩
  · intro ⟨source, listed, other, ⟨peer, member, selects⟩, same⟩
    exact ⟨peer, member, source, ⟨⟨listed, selects⟩, other⟩, same.symm⟩

theorem ingressEdges_source (target : Workload) (selecting : List NetworkPolicy) :
    ingressEdges env target selecting workloads = Distinct.firsts NetEdge.source []
      ((selecting.flatMap NetworkPolicy.ingress).flatMap (ruleEdges env target workloads)) := by
  apply Distinct.firsts_congr
  intro first left second right
  obtain ⟨_, _, left⟩ := List.mem_flatMap.mp left
  obtain ⟨_, _, right⟩ := List.mem_flatMap.mp right
  obtain ⟨source, _, _, _, rfl⟩ := mem_ruleEdges.mp left
  obtain ⟨other, _, _, _, rfl⟩ := mem_ruleEdges.mp right
  exact edge_id_iff

theorem find_ruleEdges {source target : Workload} (listed : source ∈ workloads) (unique : (workloads.map Workload.id).Nodup)
    (other : source.id ≠ target.id) (rule : NetworkPolicyIngressRule) :
    (ruleEdges env target workloads rule).find? (fun edge => edge.source = source.id) =
      if rule.from.any fun peer => peer.selects env target.namespace source then some (ingressEdge target rule source)
      else none := by
  have fromSource : ∀ edge ∈ ruleEdges env target workloads rule, edge.source = source.id →
      (rule.from.any fun peer => peer.selects env target.namespace source) = true ∧ edge = ingressEdge target rule source := by
    intro edge member same
    obtain ⟨found, listedFound, -, admits, rfl⟩ := mem_ruleEdges.mp member
    rw [← List.inj_on_of_nodup_map unique listedFound listed same]
    exact ⟨admits, rfl⟩
  split
  next admits =>
    have some : ((ruleEdges env target workloads rule).find? fun edge => edge.source = source.id).isSome = true := by
      rw [List.find?_isSome]
      exact ⟨_, mem_ruleEdges.mpr ⟨source, listed, other, admits, rfl⟩, by simp [ingressEdge]⟩
    obtain ⟨edge, found⟩ := Option.isSome_iff_exists.mp some
    rw [found, (fromSource edge (List.mem_of_find?_eq_some found) (by simpa using List.find?_some found)).2]
  next refuses =>
    rw [List.find?_eq_none]
    intro edge member same
    exact refuses (fromSource edge member (by simpa using same)).1

private theorem findSome_if {α β : Type} {p : α → Bool} {f : α → β} {items : List α} :
    items.findSome? (fun item => if p item then some (f item) else none) = (items.filter p).head?.map f := by
  induction items with
  | nil => rfl
  | cons item rest ih =>
    cases holds : p item with
    | true => simp [holds]
    | false => simp [holds, ih]

theorem mem_ingressEdges {source target : Workload} (listed : source ∈ workloads)
    (unique : (workloads.map Workload.id).Nodup) {policies : List NetworkPolicy} {edge : NetEdge} :
    edge ∈ ingressEdges env target (selectingIngressPolicies env target policies) workloads ∧ edge.source = source.id ↔
      source.id ≠ target.id ∧ ∃ first, (admitting env policies source target).head? = some first ∧
        edge = ingressEdge target first source := by
  by_cases self : source.id = target.id
  · simp only [self, ne_eq, not_true_eq_false, false_and, iff_false]
    intro ⟨kept, same⟩
    obtain ⟨rule, _, member⟩ := List.mem_flatMap.mp ((Distinct.firsts_sublist [] _).subset kept)
    obtain ⟨other, _, different, _, rfl⟩ := mem_ruleEdges.mp member
    exact different same
  · have found : (((selectingIngressPolicies env target policies).flatMap NetworkPolicy.ingress).flatMap
          (ruleEdges env target workloads)).find? (fun edge => edge.source = source.id) =
        (admitting env policies source target).head?.map fun first => ingressEdge target first source := by
      rw [List.find?_flatMap, admitting, ← findSome_if]
      congr 1
      funext rule
      exact find_ruleEdges listed unique self rule
    rw [ingressEdges_source, Distinct.mem_firsts]
    constructor
    · intro ⟨⟨_, kept⟩, same⟩
      rw [same, found, Option.map_eq_some_iff] at kept
      obtain ⟨first, head, edge⟩ := kept
      exact ⟨self, first, head, edge.symm⟩
    · intro ⟨_, first, head, same⟩
      have origin : edge.source = source.id := by rw [same]; rfl
      rw [origin, found, head, same]
      exact ⟨⟨List.not_mem_nil, rfl⟩, rfl⟩

/-- A policy that selects the target has an ingress rule with a peer that
selects the source. -/
def Admits (env : Env R) (policies : List NetworkPolicy) (source target : Workload) (rule : NetworkPolicyIngressRule) : Prop :=
  ∃ policy ∈ policies, policy.namespace = target.namespace ∧ policyAppliesToIngress policy = true ∧
    selectorMatches env (some policy.podSelector) target.labels = true ∧ rule ∈ policy.ingress ∧
      ∃ peer ∈ rule.from, peer.selects env target.namespace source = true

theorem mem_admitting {policies : List NetworkPolicy} {source target : Workload} {rule : NetworkPolicyIngressRule} :
    rule ∈ admitting env policies source target ↔ Admits env policies source target rule := by
  simp only [admitting, selectingIngressPolicies, Admits, List.mem_filter, List.mem_flatMap, List.any_eq_true,
    Bool.and_eq_true, decide_eq_true_eq]
  constructor
  · intro admitted
    obtain ⟨⟨policy, ⟨member, ⟨space, applies⟩, selects⟩, rules⟩, peers⟩ := admitted
    exact ⟨policy, member, space, applies, selects, rules, peers⟩
  · intro admits
    obtain ⟨policy, member, space, applies, selects, rules, peers⟩ := admits
    exact ⟨⟨policy, ⟨member, ⟨space, applies⟩, selects⟩, rules⟩, peers⟩

/-- What the policy edges of a map are to be: at most one from a workload to
another, there when some rule admits the one to the other, and with a label for
every port that such a rule permits. -/
structure EdgesExact (env : Env R) (policies : List NetworkPolicy) (workloads : List Workload) (edges : List NetEdge) : Prop where
  once : (edges.map fun edge => (edge.source, edge.target)).Nodup
  present : ∀ source ∈ workloads, ∀ target ∈ workloads,
    (∃ edge ∈ edges, edge.source = source.id ∧ edge.target = target.id) ↔
      source.id ≠ target.id ∧ ∃ rule, Admits env policies source target rule
  covered : ∀ source ∈ workloads, ∀ target ∈ workloads, ∀ edge ∈ edges, edge.source = source.id → edge.target = target.id →
    ∀ rule, Admits env policies source target rule →
      (∀ protocol port, rule.Permits protocol port → Covers edge.ports protocol port) ∧ (rule.ports = [] → edge.ports = "")

/-- Between any two workloads, the first rule that admits the one to the other
lists no ports, or it names every port that any of these rules permits and none
of them permits all. -/
def FirstRulesSuffice (env : Env R) (policies : List NetworkPolicy) (workloads : List Workload) : Prop :=
  ∀ source ∈ workloads, ∀ target ∈ workloads, source.id ≠ target.id →
    ∀ first ∈ (admitting env policies source target).head?, first.ports = [] ∨
      ∀ rule ∈ admitting env policies source target, rule.ports ≠ [] ∧
        ∀ protocol port, rule.Permits protocol port → ∃ entry ∈ first.ports, entry.Shows protocol port

theorem ingressEdges_ends {workload : Workload} {selecting : List NetworkPolicy} {edge : NetEdge}
    (kept : edge ∈ ingressEdges env workload selecting workloads) :
    edge.id = concat "->" [edge.source, edge.target] ∧ edge.target = workload.id ∧
      ∃ source ∈ workloads, edge.source = source.id := by
  obtain ⟨rule, _, member⟩ := List.mem_flatMap.mp ((Distinct.firsts_sublist [] _).subset kept)
  obtain ⟨source, listed, _, _, rfl⟩ := mem_ruleEdges.mp member
  exact ⟨rfl, rfl, source, listed, rfl⟩

theorem ingressEdges_once (workload : Workload) (selecting : List NetworkPolicy) :
    ((ingressEdges env workload selecting workloads).map fun edge => (edge.source, edge.target)).Nodup := by
  have ids : ((ingressEdges env workload selecting workloads).map NetEdge.id).Nodup := Distinct.firsts_nodup [] _
  apply List.Nodup.map_on _ (List.Nodup.of_map _ ids)
  intro first left second right same
  apply List.inj_on_of_nodup_map ids left right
  obtain ⟨sources, targets⟩ := Prod.mk.inj same
  rw [(ingressEdges_ends left).1, (ingressEdges_ends right).1, sources, targets]

theorem edges_once (built : buildNetworkMap env cluster ns = .ok map) (listed : listWorkloads env.toLower cluster ns = .ok workloads) :
    (map.edges.map fun edge => (edge.source, edge.target)).Nodup := by
  rw [(build_ok built listed).2.1, List.map_flatMap, List.nodup_flatMap]
  constructor
  · exact fun workload _ => ingressEdges_once workload _
  · apply (List.pairwise_map.mp (ids_nodup listed)).imp
    intro one two different pair left right
    obtain ⟨first, ofFirst, rfl⟩ := List.mem_map.mp left
    obtain ⟨second, ofSecond, same⟩ := List.mem_map.mp right
    apply different
    rw [← (ingressEdges_ends ofFirst).2.1, ← (ingressEdges_ends ofSecond).2.1, (Prod.mk.inj same).2]

theorem mem_edges (built : buildNetworkMap env cluster ns = .ok map) (listed : listWorkloads env.toLower cluster ns = .ok workloads)
    {source target : Workload} (sourceListed : source ∈ workloads) (targetListed : target ∈ workloads) {edge : NetEdge} :
    edge ∈ map.edges ∧ edge.source = source.id ∧ edge.target = target.id ↔
      source.id ≠ target.id ∧ ∃ first, (admitting env cluster.networkPolicies source target).head? = some first ∧
        edge = ingressEdge target first source := by
  have unique := ids_nodup listed
  rw [(build_ok built listed).2.1, List.mem_flatMap,
    ← mem_ingressEdges sourceListed unique, ← selecting_inNamespace (workload_inNamespace listed targetListed)]
  constructor
  · intro ⟨⟨workload, member, kept⟩, origin, goal⟩
    have same : workload.id = target.id := by rw [← (ingressEdges_ends kept).2.1, goal]
    rw [List.inj_on_of_nodup_map unique member targetListed same] at kept
    exact ⟨kept, origin⟩
  · intro ⟨kept, origin⟩
    exact ⟨⟨target, targetListed, kept⟩, origin, (ingressEdges_ends kept).2.1⟩

/-- The policy edges are exact exactly for policies whose first rules suffice: a
later rule for the same pair of workloads leaves the label as it is. -/
theorem policy_edges_exact_iff (built : buildNetworkMap env cluster ns = .ok map)
    (listed : listWorkloads env.toLower cluster ns = .ok workloads) :
    EdgesExact env cluster.networkPolicies workloads map.edges ↔ FirstRulesSuffice env cluster.networkPolicies workloads := by
  constructor
  · intro exact source sourceListed target targetListed other first head
    have edge := (mem_edges built listed sourceListed targetListed).mpr ⟨other, first, head, rfl⟩
    have label : (ingressEdge target first source).ports = summarisePorts first.ports := rfl
    by_cases all : first.ports = []
    · exact Or.inl all
    · right
      intro rule member
      obtain ⟨covers, whole⟩ := exact.covered source sourceListed target targetListed _ edge.1 rfl rfl rule (mem_admitting.mp member)
      rw [label] at covers whole
      constructor
      · intro unlimited
        exact all (summarisePorts_empty.mp (whole unlimited))
      · intro protocol port permits
        exact (covers_summarisePorts.mp (covers protocol port permits)).resolve_left all
  · intro suffice
    constructor
    case once => exact edges_once built listed
    case present =>
      intro source sourceListed target targetListed
      constructor
      · intro ⟨edge, there, ends⟩
        obtain ⟨other, first, head, _⟩ := (mem_edges built listed sourceListed targetListed).mp ⟨there, ends⟩
        exact ⟨other, first, mem_admitting.mp (List.mem_of_head? head)⟩
      · intro ⟨other, rule, admits⟩
        obtain ⟨first, head⟩ := Option.isSome_iff_exists.mp
          (List.isSome_head?.mpr (List.ne_nil_of_mem (mem_admitting.mpr admits)))
        obtain ⟨there, ends⟩ := (mem_edges built listed sourceListed targetListed).mpr ⟨other, first, head, rfl⟩
        exact ⟨_, there, ends⟩
    case covered =>
      intro source sourceListed target targetListed edge there origin goal rule admits
      obtain ⟨other, first, head, rfl⟩ := (mem_edges built listed sourceListed targetListed).mp ⟨there, origin, goal⟩
      have label : (ingressEdge target first source).ports = summarisePorts first.ports := rfl
      rw [label]
      rcases suffice source sourceListed target targetListed other first head with all | shown
      · exact ⟨fun protocol port _ => covers_summarisePorts.mpr (Or.inl all), fun _ => summarisePorts_empty.mpr all⟩
      · obtain ⟨limited, entries⟩ := shown rule (mem_admitting.mpr admits)
        exact ⟨fun protocol port permits => covers_summarisePorts.mpr (Or.inr (entries protocol port permits)),
          fun unlimited => absurd unlimited limited⟩

def shop : Name := ⟨"shop", rfl⟩

def labelled (name : String) : PodTemplateSpec := ⟨[("app", name)], ⟨[], [], []⟩⟩

def web : Controller := ⟨shop, ⟨"web", rfl⟩, labelled "web"⟩

def api : Controller := ⟨shop, ⟨"api", rfl⟩, labelled "api"⟩

def fromWeb (port : Nat) : NetworkPolicyIngressRule :=
  ⟨[⟨some .tcp, some (.number port), none⟩], [⟨some ⟨[("app", "web")], []⟩, none, none⟩]⟩

def apiPolicy : NetworkPolicy := ⟨shop, ⟨"api", rfl⟩, ⟨[("app", "api")], []⟩, [.ingress], [fromWeb 80, fromWeb 443]⟩

theorem web_api_unique : UniqueNames Controller.namespace Controller.name [web, api] := by
  decide

/-- A policy with a rule for each of two ports. -/
def twoRules : Cluster where
  deployments := [web, api]
  statefulSets := []
  daemonSets := []
  networkPolicies := [apiPolicy]
  services := []
  configMaps := []
  fails _ := false
  deploymentsDistinct := web_api_unique
  statefulSetsDistinct := List.nodup_nil
  daemonSetsDistinct := List.nodup_nil
  servicesDistinct := List.nodup_nil
  configMapsDistinct := List.nodup_nil

def webWorkload : Workload := makeWorkload plainEnv.toLower .deployment web

def apiWorkload : Workload := makeWorkload plainEnv.toLower .deployment api

theorem twoRules_listed : listWorkloads plainEnv.toLower twoRules "" = .ok [webWorkload, apiWorkload] := rfl

theorem policy_edges_twoRules : ∃ map, buildNetworkMap plainEnv twoRules "" = .ok map ∧
    (EdgesExact plainEnv twoRules.networkPolicies [webWorkload, apiWorkload] map.edges ↔
      FirstRulesSuffice plainEnv twoRules.networkPolicies [webWorkload, apiWorkload]) := by
  obtain ⟨map, built⟩ : ∃ map, buildNetworkMap plainEnv twoRules "" = .ok map := build_exists twoRules_listed rfl
  exact ⟨map, built, policy_edges_exact_iff built twoRules_listed⟩

/-- The edge from `web` to `api` shows port 80 only, where the policy also lets
it connect to port 443. -/
theorem second_rule_not_shown : ∃ map, buildNetworkMap plainEnv twoRules "" = .ok map ∧
    ¬EdgesExact plainEnv twoRules.networkPolicies [webWorkload, apiWorkload] map.edges := by
  obtain ⟨map, built⟩ : ∃ map, buildNetworkMap plainEnv twoRules "" = .ok map := build_exists twoRules_listed rfl
  refine ⟨map, built, ?_⟩
  intro exact
  have sourceListed : webWorkload ∈ [webWorkload, apiWorkload] := by decide
  have targetListed : apiWorkload ∈ [webWorkload, apiWorkload] := by decide
  obtain ⟨there, ends⟩ := (mem_edges built twoRules_listed sourceListed targetListed).mpr
    ⟨by decide, fromWeb 80, by decide +kernel, rfl⟩
  have admits : Admits plainEnv twoRules.networkPolicies webWorkload apiWorkload (fromWeb 443) :=
    mem_admitting.mp (by decide)
  have covers := (exact.covered webWorkload sourceListed apiWorkload targetListed _ there ends.1 ends.2 _ admits).1 .tcp
    (.number 443) (Or.inr ⟨_, List.mem_cons_self, rfl, 443, rfl, le_refl _, le_refl _⟩)
  revert covers
  unfold Covers
  decide

end K8Sense.Doctor.NetworkMap
