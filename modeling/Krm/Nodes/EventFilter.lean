import Krm.Lib.Subdomain
import Krm.Lib.Text
import Krm.Nodes.Drain
import Krm.Nodes.NodePoolController

/-! # From the event of a node to the NodePools that are reconciled -/

open Krm.Lib

namespace Krm.Nodes

/-! ## The filter -/

/-- The suffixes of a name in a message, as the filter knows them. -/
def nodeNameWithSuffixesToSearchFor (nodeName : String) : List String := [" ", ",", "."].map fun suffix => nodeName ++ suffix

def isNodeInNodepoolStatusMessage (nodeNameWithSuffixes : List String) (message : String) : Bool :=
  nodeNameWithSuffixes.any fun nodeNameWithSuffix => contains message nodeNameWithSuffix

section

variable (cfg : NodePoolControllerConfig) (c : Cluster) (env : Surroundings)

def isUnschedulableByUs (node : Node) : Bool :=
  (node.labels.lookup cfg.unschedulableLabelKey).isSome && node.unschedulable

/-- A cordoned node goes to the NodePools with its pair, another to those whose message has its name. -/
def mapNodeToOtherDestNodePools (node : Node) (nodePoolAlreadyInRequests : String) (nodePools : List StoredNodePool) :
    List String :=
  match c.attempt .listNodePools nodePools with
  | .error _ => []
  | .ok nodePools =>
    let isNodeUnschedulableByUs := isUnschedulableByUs cfg node
    let nodeNameWithSuffixes := nodeNameWithSuffixesToSearchFor node.name
    let requests := (nodePools.filter fun nodePool =>
      nodePool.name ≠ nodePoolAlreadyInRequests &&
        if !isNodeUnschedulableByUs then isNodeInNodepoolStatusMessage nodeNameWithSuffixes nodePool.message
        else nodePool.labelKey ≠ "" && nodePool.labelValue ≠ "" && !nodePool.deleted &&
          node.labels.value nodePool.labelKey = nodePool.labelValue).map fun nodePool => nodePool.name
    if isNodeUnschedulableByUs && requests.isEmpty then [cfg.defaultNodepoolName] else requests

/-- A NodePool that cannot be read counts as the default one. -/
def mapNodeToNodePoolEvent (node : Node) (nodePools : Store fun nodePool : StoredNodePool => nodePool.name) :
    List String :=
  let nodePoolName := getNodePoolNameFromLabels cfg node.labels
  let unmanaged :=
    match listPartitionLabelValues c with
    | .error _ => false
    | .ok unmanagedPartitionLabelValues => nodePoolName ∈ unmanagedPartitionLabelValues
  if nodePoolName = cfg.excludedNodepoolName || unmanaged then []
  else
    let nodePoolName :=
      if env.fault .getNodePool = none ∧ (nodePools.get nodePoolName).isSome then nodePoolName else cfg.defaultNodepoolName
    nodePoolName :: mapNodeToOtherDestNodePools cfg c node nodePoolName nodePools.items

end

/-! ## The names in a message -/

/-- The parts of a message that list nodes. -/
inductive NodesMessage where
  | full (names : PhaseMessageNodes)
  | deleting (unschedulableNodes : List String)

namespace NodesMessage

def text : NodesMessage → String
  | .full names => names.text
  | .deleting unschedulableNodes => getNodePoolDeletingMessage unschedulableNodes

/-- The lists of names, each with what is written before it. -/
def lists : NodesMessage → List (String × List String)
  | .full names =>
    [("The following node(s) are assigned to this node pool and will be added once they finish draining: ",
        names.assignedToNodePoolWaitingForDrain),
      ("The following node(s) within the node pool aren't ready because they are assigned to a different node " ++
        "pool but haven't been drained yet: ", names.unschedulableByUs),
      ("The following node(s) within the node pool aren't ready: ", names.notReady)]
  | .deleting unschedulableNodes => [(nodesDrainedMessage ++ ": ", unschedulableNodes)]

theorem text_eq (message : NodesMessage) :
    message.text = "\n\n".intercalate ((message.lists.filter fun list => !list.2.isEmpty).map
      fun list => list.1 ++ ", ".intercalate list.2) := by
  cases message with
  | full names =>
    obtain ⟨waiting, unschedulable, notReady⟩ := names
    cases waiting <;> cases unschedulable <;> cases notReady <;> rfl
  | deleting unschedulableNodes => cases unschedulableNodes <;> rfl

theorem introduction_eq {message : NodesMessage} {list : String × List String} (h : list ∈ message.lists) :
    list.1.toList = list.1.toList.dropLast.dropLast ++ [':', ' '] := by
  cases message with
  | full names =>
    simp only [lists, List.mem_cons, List.not_mem_nil, or_false] at h
    rcases h with rfl | rfl | rfl <;> dsimp only <;> decide +kernel
  | deleting unschedulableNodes =>
    cases List.mem_singleton.1 h
    dsimp only
    decide +kernel

end NodesMessage

/-! ## What is recognised -/

/-- The name stands before one of the filter's three characters. -/
def Found (name text : List Char) : Prop := ∃ c ∈ [' ', ',', '.'], (name ++ [c]).IsInfix text

theorem recognised_iff {name message : String} :
    isNodeInNodepoolStatusMessage (nodeNameWithSuffixesToSearchFor name) message = true ↔
      Found name.toList message.toList := by
  simp [isNodeInNodepoolStatusMessage, nodeNameWithSuffixesToSearchFor, Found, contains_iff, String.toList_append]

theorem not_found_nil (name : List Char) : ¬Found name [] := by
  rintro ⟨c, -, hinfix⟩
  simp at hinfix

/-- Not empty, and without the characters around names in a message. -/
structure Plain (name : List Char) : Prop where
  ne_nil : name ≠ []
  space : ' ' ∉ name
  comma : ',' ∉ name
  newline : '\n' ∉ name
  colon : ':' ∉ name

theorem plain_of_subdomain {name : List Char} (h : isDNS1123Subdomain name = true) : Plain name := by
  have hchar : ∀ c ∈ name, c = '.' ∨ isDNS1123LabelChar c = true := fun c hc =>
    Adjacent.chars ((isDNS1123Subdomain_iff name).1 h).2 c (List.mem_append_left _ hc)
  have hnot : ∀ c : Char, c ≠ '.' → isDNS1123LabelChar c = false → c ∉ name := by
    intro c hdot hlabel hc
    rcases hchar c hc with rfl | htrue
    · exact hdot rfl
    · rw [hlabel] at htrue
      cases htrue
  exact ⟨subdomain_head h, hnot _ (by decide) (by decide), hnot _ (by decide) (by decide),
    hnot _ (by decide) (by decide), hnot _ (by decide) (by decide)⟩

section

variable {name : List Char}

theorem found_append_cons_iff {c : Char} (hc : c ∉ name) (a b : List Char) :
    Found name (a ++ c :: b) ↔ Found name a ∨ (c ∈ [' ', ',', '.'] ∧ name.IsSuffix a) ∨ Found name b := by
  simp only [Found, infix_snoc_append_cons_iff hc, and_or_left, exists_or]
  refine or_congr_right (or_congr_left ?_)
  constructor
  · rintro ⟨d, hd, rfl, hsuffix⟩
    exact ⟨hd, hsuffix⟩
  · rintro ⟨hd, hsuffix⟩
    exact ⟨c, hd, rfl, hsuffix⟩

theorem found_lines_iff {sep : List Char} (hsep : ∀ a b, Found name (a ++ (sep ++ b)) ↔ Found name a ∨ Found name b)
    (lines : List (List Char)) : Found name (sep.intercalate lines) ↔ ∃ line ∈ lines, Found name line := by
  induction lines with
  | nil => simp [not_found_nil]
  | cons line lines ih =>
    cases lines with
    | nil => simp
    | cons next lines =>
      rw [List.intercalate_cons_cons, List.append_assoc, hsep, ih]
      simp

theorem found_entry_iff {listed : List Char} (hlisted : Plain listed) :
    Found name listed ↔ (name ++ ['.']).IsInfix listed := by
  have hspace : ¬(name ++ [' ']).IsInfix listed := fun h => hlisted.space (h.subset (by simp))
  have hcomma : ¬(name ++ [',']).IsInfix listed := fun h => hlisted.comma (h.subset (by simp))
  simp [Found, hspace, hcomma]

variable (hplain : Plain name)
include hplain

theorem found_newline_iff (a b : List Char) : Found name (a ++ '\n' :: b) ↔ Found name a ∨ Found name b := by
  simp [found_append_cons_iff hplain.newline]

theorem found_space_iff (b : List Char) : Found name (' ' :: b) ↔ Found name b := by
  have hsplit := found_append_cons_iff hplain.space [] b
  simpa [not_found_nil, hplain.ne_nil] using hsplit

theorem found_introduction_iff {introduction words : List Char} (h : introduction = words ++ [':', ' '])
    (text : List Char) : Found name (introduction ++ text) ↔ Found name introduction ∨ Found name text := by
  have hsplit : ∀ text, Found name (words ++ ([':', ' '] ++ text)) ↔ Found name words ∨ Found name text := by
    intro text
    have hcolon := found_append_cons_iff hplain.colon words (' ' :: text)
    rw [found_space_iff hplain] at hcolon
    simpa using hcolon
  have hempty := hsplit []
  rw [List.append_nil, or_iff_left (not_found_nil name)] at hempty
  rw [h, List.append_assoc, hsplit, hempty]

/-- An entry shows the name at its end if it is not the last, or before a dot. -/
theorem found_names_iff (names : List (List Char)) (hnames : ∀ listed ∈ names, Plain listed) :
    Found name ([',', ' '].intercalate names) ↔
      (∃ listed ∈ names.dropLast, name.IsSuffix listed) ∨ ∃ listed ∈ names, (name ++ ['.']).IsInfix listed := by
  induction names with
  | nil => simp [not_found_nil]
  | cons listed names ih =>
    obtain ⟨hlisted, hrest⟩ := List.forall_mem_cons.1 hnames
    cases names with
    | nil => simp [found_entry_iff hlisted]
    | cons next names =>
      -- The comma ends the entry, and nothing stands between the comma and the space.
      rw [List.intercalate_cons_cons, List.append_assoc, List.cons_append, found_append_cons_iff hplain.comma,
        List.singleton_append, found_space_iff hplain, ih hrest, found_entry_iff hlisted,
        List.dropLast_cons_of_ne_nil (List.cons_ne_nil _ _)]
      simp only [List.mem_cons, true_or, or_true, true_and, exists_eq_or_imp, or_assoc, or_left_comm]

end

theorem found_join_iff {name : List Char} (hplain : Plain name) (messages : List String) :
    Found name (joinNodePoolStatusMessages messages).toList ↔ ∃ message ∈ messages, Found name message.toList := by
  unfold joinNodePoolStatusMessages
  rw [String.toList_intercalate, found_lines_iff (fun a b => found_newline_iff hplain a b)]
  simp only [List.mem_map, List.mem_filter, exists_exists_and_eq_and, decide_eq_true_eq]
  constructor
  · rintro ⟨message, ⟨hmem, -⟩, hfound⟩
    exact ⟨message, hmem, hfound⟩
  · rintro ⟨message, hmem, hfound⟩
    refine ⟨message, ⟨hmem, ?_⟩, hfound⟩
    rintro rfl
    exact not_found_nil name hfound

theorem NodesMessage.found_text_iff {name : List Char} (hplain : Plain name) (message : NodesMessage)
    (hlisted : ∀ list ∈ message.lists, ∀ listed ∈ list.2, Plain listed.toList) :
    Found name message.text.toList ↔ ∃ list ∈ message.lists, list.2 ≠ [] ∧ (Found name list.1.toList ∨
      (∃ listed ∈ list.2.dropLast, name.IsSuffix listed.toList) ∨
      ∃ listed ∈ list.2, (name ++ ['.']).IsInfix listed.toList) := by
  have hsep : ∀ a b, Found name (a ++ ("\n\n".toList ++ b)) ↔ Found name a ∨ Found name b := by
    intro a b
    have hsecond := found_newline_iff hplain [] b
    rw [or_iff_right (not_found_nil name)] at hsecond
    exact (found_newline_iff hplain a ('\n' :: b)).trans (or_congr_right hsecond)
  have hlist : ∀ list ∈ message.lists, (Found name (list.1 ++ ", ".intercalate list.2).toList ↔
      Found name list.1.toList ∨ (∃ listed ∈ list.2.dropLast, name.IsSuffix listed.toList) ∨
        ∃ listed ∈ list.2, (name ++ ['.']).IsInfix listed.toList) := by
    intro list hmem
    have hnames := found_names_iff hplain (list.2.map String.toList) (by simpa using hlisted list hmem)
    rw [← List.map_dropLast] at hnames
    simp only [List.mem_map, exists_exists_and_eq_and] at hnames
    rw [String.toList_append, String.toList_intercalate, found_introduction_iff hplain (introduction_eq hmem)]
    exact or_congr_right hnames
  rw [text_eq, String.toList_intercalate, found_lines_iff hsep, List.map_map]
  simp only [List.mem_map, exists_exists_and_eq_and, Function.comp]
  simp only [List.mem_filter, Bool.not_eq_true', List.isEmpty_eq_false_iff, and_assoc]
  exact exists_congr fun list => and_congr_right fun hmem => and_congr_right fun _ => hlist list hmem

/-! ## Found again -/

section

variable {cfg : NodePoolControllerConfig} {c : Cluster}

theorem mem_mapNodeToOtherDestNodePools (hlist : c.fault .listNodePools = none) {node : Node}
    (hfree : isUnschedulableByUs cfg node = false) {nodePools : List StoredNodePool} {nodePool : StoredNodePool}
    (hmem : nodePool ∈ nodePools)
    (hrecognised : isNodeInNodepoolStatusMessage (nodeNameWithSuffixesToSearchFor node.name) nodePool.message = true)
    {already : String} (hother : nodePool.name ≠ already) :
    nodePool.name ∈ mapNodeToOtherDestNodePools cfg c node already nodePools := by
  unfold mapNodeToOtherDestNodePools Cluster.attempt
  rw [hlist, hfree]
  exact List.mem_map.2 ⟨nodePool, List.mem_filter.2 ⟨hmem, by simp [hother, hrecognised]⟩, rfl⟩

theorem mapNodeToNodePoolEvent_managed (env : Surroundings) {node : Node}
    (hincluded : getNodePoolNameFromLabels cfg node.labels ≠ cfg.excludedNodepoolName)
    (hmanaged : ∀ values, listPartitionLabelValues c = .ok values → getNodePoolNameFromLabels cfg node.labels ∉ values)
    (nodePools : Store fun nodePool : StoredNodePool => nodePool.name) :
    ∃ own, mapNodeToNodePoolEvent cfg c env node nodePools =
      own :: mapNodeToOtherDestNodePools cfg c node own nodePools.items := by
  unfold mapNodeToNodePoolEvent
  dsimp only
  refine ⟨_, if_neg ?_⟩
  simp only [Bool.or_eq_true, decide_eq_true_eq, not_or]
  refine ⟨hincluded, ?_⟩
  split
  · exact Bool.false_ne_true
  · rename_i values hvalues
    simpa using hmanaged values hvalues

/-- A name is recognised exactly before one of the three characters. -/
theorem listed_node_found_again_iff (cfg : NodePoolControllerConfig) (c : Cluster) (env : Surroundings)
    (part : NodesMessage) (before after : List String) {name : String} (hname : isDNS1123Subdomain name.toList = true)
    (hlisted : ∀ list ∈ part.lists, ∀ listed ∈ list.2, isDNS1123Subdomain listed.toList = true) :
    let recognised := isNodeInNodepoolStatusMessage (nodeNameWithSuffixesToSearchFor name)
    let message := joinNodePoolStatusMessages (before ++ part.text :: after)
    (recognised message = true ↔
      (∃ list ∈ part.lists, list.2 ≠ [] ∧ (recognised list.1 = true ∨
        (∃ listed ∈ list.2.dropLast, name.toList.IsSuffix listed.toList) ∨
        ∃ listed ∈ list.2, contains listed (name ++ ".") = true)) ∨
      ∃ other ∈ before ++ after, recognised other = true) ∧
    (recognised message = true →
      ∀ node : Node, node.name = name → c.fault .listNodePools = none → isUnschedulableByUs cfg node = false →
        getNodePoolNameFromLabels cfg node.labels ≠ cfg.excludedNodepoolName →
        (∀ values, listPartitionLabelValues c = .ok values → getNodePoolNameFromLabels cfg node.labels ∉ values) →
        ∀ nodePools : Store fun nodePool : StoredNodePool => nodePool.name, ∀ nodePool ∈ nodePools.items,
          nodePool.message = message → nodePool.name ∈ mapNodeToNodePoolEvent cfg c env node nodePools) := by
  intro recognised message
  constructor
  · have hplain := plain_of_subdomain hname
    have htext := NodesMessage.found_text_iff hplain part
      fun list hlist listed hmem => plain_of_subdomain (hlisted list hlist listed hmem)
    simp only [recognised, message, recognised_iff, found_join_iff hplain, contains_iff, String.toList_append]
    simp only [List.mem_append, List.mem_cons, or_and_right, exists_or, exists_eq_left, htext]
    exact or_left_comm
  · rintro hrecognised node rfl hlist hfree hincluded hmanaged nodePools nodePool hmem hmessage
    rw [← hmessage] at hrecognised
    obtain ⟨own, hrequests⟩ := mapNodeToNodePoolEvent_managed env hincluded hmanaged nodePools
    rw [hrequests]
    by_cases hown : nodePool.name = own
    · exact hown ▸ List.mem_cons_self
    · exact List.mem_cons_of_mem _ (mem_mapNodeToOtherDestNodePools hlist hfree hmem hrecognised hown)

end

namespace Drained

/-- A node with the pair of the NodePool. -/
def node (labels : Labels) (unschedulable : Bool) : Node := ⟨"node-1", labels.insert "zone" "train", unschedulable⟩

/-- The names in the message while the node waits. -/
def waiting : PhaseMessageNodes :=
  phaseMessageNodes .default quietCluster (plainPool "train" "zone" "train" train_ne).toNodePool []
    (only (node ((∅ : Labels).insert "kai.scheduler/unschedulable" "true") true)) fun _ => ⟨∅, []⟩

def train (message : String) : StoredNodePool := (plainPool "train" "zone" "train" train_ne).withStatus ⟨.empty, message, [], []⟩

end Drained

open Drained in
theorem first_of_two_found_again :
    "train" ∈ mapNodeToNodePoolEvent .default quietCluster allReady (node ∅ false)
      (.single (train (joinNodePoolStatusMessages [(⟨["node-1", "node-2"], [], []⟩ : PhaseMessageNodes).text]))) := by
  have hlisted : ∀ list ∈ (NodesMessage.full ⟨["node-1", "node-2"], [], []⟩).lists, ∀ listed ∈ list.2,
      isDNS1123Subdomain listed.toList = true := by decide
  obtain ⟨hiff, hevent⟩ := listed_node_found_again_iff .default quietCluster allReady (.full ⟨["node-1", "node-2"], [], []⟩)
    [] [] (show isDNS1123Subdomain "node-1".toList = true by decide) hlisted
  have hfound := hiff.2 (.inl ⟨_, List.mem_cons_self, List.cons_ne_nil _ _, .inr (.inl
    ⟨"node-1", List.mem_cons_self, List.suffix_refl _⟩)⟩)
  exact hevent hfound (node ∅ false) rfl rfl rfl (by decide) (fun values hvalues => by cases hvalues; decide)
    (.single (train _)) (train _) (List.mem_singleton_self _) rfl

open Drained in
theorem only_node_not_found_again :
    waiting.assignedToNodePoolWaitingForDrain = ["node-1"] ∧
      isNodeInNodepoolStatusMessage (nodeNameWithSuffixesToSearchFor "node-1") (joinNodePoolStatusMessages [waiting.text]) =
        false ∧
      mapNodeToNodePoolEvent .default quietCluster allReady (node ∅ false)
        (.single (train (joinNodePoolStatusMessages [waiting.text]))) = ["default"] := by
  -- The only node of a list ends the message, with no suffix behind it. Its event reconciles the default NodePool
  -- alone.
  decide +kernel

end Krm.Nodes
