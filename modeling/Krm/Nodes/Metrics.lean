import Krm.Lib.Informer
import Krm.Lib.Runs
import Krm.Nodes.NodeHandler

/-! # The gauge of each node's NodePool

The handler is told of the changes of the nodes and sets, for a node and a NodePool, 1 or 0. It lists nodes and
NodePools from caches that can be ahead of what it was told.
-/

open Krm.Lib

namespace Krm.Nodes

/-! ## The gauge -/

structure WatchedNode extends Node where
  phase : String
deriving DecidableEq

def WatchedNode.key (node : WatchedNode) : String := node.name

/-- The value of each pair of names that was ever set. -/
abbrev Gauge := Finmap (fun _ : String × String => Bool)

def setNodeNodePool (nodeName nodePoolName : String) (gauge : Gauge) : Gauge :=
  gauge.insert (nodeName, nodePoolName) true

def removeNodeNodePool (nodeName nodePoolName : String) (gauge : Gauge) : Gauge :=
  gauge.insert (nodeName, nodePoolName) false

def Gauge.Shows (gauge : Gauge) (nodeName nodePoolName : String) : Prop :=
  gauge.lookup (nodeName, nodePoolName) = some true

instance (gauge : Gauge) (nodeName nodePoolName : String) : Decidable (gauge.Shows nodeName nodePoolName) :=
  inferInstanceAs (Decidable (_ = _))

/-! ## The handler -/

def filterNodeUpdatesForNPController (nodeOld nodeNew : WatchedNode) : Bool :=
  nodeOld.phase ≠ nodeNew.phase || nodeOld.unschedulable ≠ nodeNew.unschedulable || nodeOld.labels ≠ nodeNew.labels

section

variable (cfg : NodePoolControllerConfig) (nodePools : List String)

def nodePoolOf (node : WatchedNode) : String := getNodePoolNameFromLabels cfg node.labels

def updateNodeMetrics (gauge : Gauge) (node : WatchedNode) : Gauge :=
  let currentNodePoolName := nodePoolOf cfg node
  nodePools.foldl
    (fun gauge otherNodePool =>
      if otherNodePool ≠ currentNodePoolName then removeNodeNodePool node.name otherNodePool gauge else gauge)
    (setNodeNodePool node.name currentNodePoolName gauge)

/-- A NodePool that is listed was seen to by the update of the node. -/
def removePreviousNodePoolInCaseItWasDeleted (oldEventNode : Option WatchedNode) (newEventNode : WatchedNode)
    (gauge : Gauge) : Gauge :=
  match oldEventNode with
  | none => gauge
  | some oldEventNode =>
    let previousNodePoolNameOfEventNode := nodePoolOf cfg oldEventNode
    if previousNodePoolNameOfEventNode = nodePoolOf cfg newEventNode then gauge
    else if previousNodePoolNameOfEventNode ∈ nodePools then gauge
    else removeNodeNodePool newEventNode.name previousNodePoolNameOfEventNode gauge

def setMetricsOnAddUpdate (nodes : List WatchedNode) (oldEventNode : Option WatchedNode) (newEventNode : WatchedNode)
    (gauge : Gauge) : Gauge :=
  removePreviousNodePoolInCaseItWasDeleted cfg nodePools oldEventNode newEventNode
    (nodes.foldl (updateNodeMetrics cfg nodePools) gauge)

def setMetricsOnDelete (node : WatchedNode) (gauge : Gauge) : Gauge :=
  nodePools.foldl (fun gauge nodePool => removeNodeNodePool node.name nodePool gauge) gauge

def handleNodeChange (nodes : List WatchedNode) (notice : Notice WatchedNode) (gauge : Gauge) : Gauge :=
  match notice with
  | .added node => setMetricsOnAddUpdate cfg nodePools nodes none node gauge
  | .modified old new =>
    if !filterNodeUpdatesForNPController old new then gauge
    else setMetricsOnAddUpdate cfg nodePools nodes (some old) new gauge
  | .deleted node => setMetricsOnDelete nodePools node gauge

end

/-! ## Runs -/

structure MetricsHandler where
  nodes : Informer WatchedNode.key
  nodePools : List String
  gauge : Gauge

inductive MetricsEvent where
  | nodeAdded (node : WatchedNode)
  | nodeUpdated (node : WatchedNode)
  | nodeDeleted (name : String)
  /-- NodePools come and go; the handler is not told. -/
  | nodePoolsChanged (nodePools : List String)
  /-- The handler is told of the next change. -/
  | told
  /-- A failed list ends the process; the gauge starts empty. -/
  | restarted

def MetricsHandler.step (cfg : NodePoolControllerConfig) (h : MetricsHandler) : MetricsEvent → MetricsHandler
  | .nodeAdded node => { h with nodes := h.nodes.add node }
  | .nodeUpdated node => { h with nodes := h.nodes.update node }
  | .nodeDeleted name => { h with nodes := h.nodes.delete name }
  | .nodePoolsChanged nodePools => { h with nodePools := nodePools }
  | .told =>
    match h.nodes.notices with
    | [] => h
    | notice :: rest =>
      { h with
        nodes := { h.nodes with notices := rest }
        gauge := handleNodeChange cfg h.nodePools h.nodes.store.items notice h.gauge }
  | .restarted => { h with nodes := h.nodes.relist, gauge := ∅ }

def MetricsHandler.start (nodes : Store WatchedNode.key) (nodePools : List String) : MetricsHandler :=
  ⟨⟨nodes, nodes.items.map .added⟩, nodePools, ∅⟩

/-- What the gauge shows for a deleted node is still listed. -/
def MetricsHandler.Clears (h : MetricsHandler) : MetricsEvent → Prop
  | .told => ∀ node rest, h.nodes.notices = .deleted node :: rest →
      ∀ nodePool, h.gauge.Shows node.name nodePool → nodePool ∈ h.nodePools
  | _ => True

/-! ## What a change of a node does to the gauge -/

section

variable {cfg : NodePoolControllerConfig} {nodePools : List String} {gauge : Gauge} {nodeName nodePool : String}
  (nodeName' nodePool' : String)

@[simp] theorem setNodeNodePool_shows :
    (setNodeNodePool nodeName' nodePool' gauge).Shows nodeName nodePool ↔
      (nodeName = nodeName' ∧ nodePool = nodePool') ∨ gauge.Shows nodeName nodePool := by
  unfold Gauge.Shows setNodeNodePool
  by_cases h : (nodeName, nodePool) = (nodeName', nodePool')
  · rw [h, Finmap.lookup_insert]
    simp [Prod.mk.inj h]
  · rw [Finmap.lookup_insert_of_ne _ h]
    simpa using fun hname hpool => absurd (by rw [hname, hpool]) h

@[simp] theorem removeNodeNodePool_shows :
    (removeNodeNodePool nodeName' nodePool' gauge).Shows nodeName nodePool ↔
      gauge.Shows nodeName nodePool ∧ ¬ (nodeName = nodeName' ∧ nodePool = nodePool') := by
  unfold Gauge.Shows removeNodeNodePool
  by_cases h : (nodeName, nodePool) = (nodeName', nodePool')
  · rw [h, Finmap.lookup_insert]
    simp [Prod.mk.inj h]
  · rw [Finmap.lookup_insert_of_ne _ h]
    simpa using fun _ hname hpool => h (by rw [hname, hpool])

theorem foldl_remove_shows (p : String → Bool) (nodeName' : String) (l : List String) (gauge : Gauge)
    (nodeName nodePool : String) :
    (l.foldl (fun gauge other => if p other then removeNodeNodePool nodeName' other gauge else gauge) gauge).Shows
        nodeName nodePool ↔
      gauge.Shows nodeName nodePool ∧ ¬ (nodeName = nodeName' ∧ nodePool ∈ l ∧ p nodePool) := by
  induction l generalizing gauge with
  | nil => simp
  | cons other l ih =>
    rw [List.foldl_cons, ih, List.mem_cons]
    by_cases hother : p other
    · rw [if_pos hother, removeNodeNodePool_shows]
      by_cases heq : nodePool = other
      · subst heq
        simp [hother]
        tauto
      · simp [heq]
    · rw [if_neg hother]
      by_cases heq : nodePool = other
      · subst heq
        simp [hother]
      · simp [heq]

theorem updateNodeMetrics_shows (node : WatchedNode) :
    (updateNodeMetrics cfg nodePools gauge node).Shows nodeName nodePool ↔
      if nodeName = node.name then
        nodePool = nodePoolOf cfg node ∨ (gauge.Shows nodeName nodePool ∧ nodePool ∉ nodePools)
      else gauge.Shows nodeName nodePool := by
  have hfold := foldl_remove_shows (fun other => other ≠ nodePoolOf cfg node) node.name nodePools
    (setNodeNodePool node.name (nodePoolOf cfg node) gauge) nodeName nodePool
  simp only [decide_eq_true_eq] at hfold
  unfold updateNodeMetrics
  dsimp only
  rw [hfold, setNodeNodePool_shows]
  split_ifs with hname
  · by_cases hpool : nodePool = nodePoolOf cfg node <;> simp [hname, hpool]
  · simp [hname]

theorem setMetricsOnDelete_shows (node : WatchedNode) :
    (setMetricsOnDelete nodePools node gauge).Shows nodeName nodePool ↔
      gauge.Shows nodeName nodePool ∧ ¬ (nodeName = node.name ∧ nodePool ∈ nodePools) := by
  have hfold := foldl_remove_shows (fun _ => true) node.name nodePools gauge nodeName nodePool
  simpa [setMetricsOnDelete] using hfold

theorem updateAll_shows (nodes : Store WatchedNode.key) :
    (nodes.items.foldl (updateNodeMetrics cfg nodePools) gauge).Shows nodeName nodePool ↔
      match nodes.get nodeName with
      | some node => nodePool = nodePoolOf cfg node ∨ (gauge.Shows nodeName nodePool ∧ nodePool ∉ nodePools)
      | none => gauge.Shows nodeName nodePool := by
  -- The update of all nodes, for the name of one of them and for any other name.
  obtain ⟨items, hnodup⟩ := nodes
  unfold Store.get
  dsimp only
  induction items generalizing gauge with
  | nil => rfl
  | cons first items ih =>
    rw [List.map_cons, List.nodup_cons] at hnodup
    rw [List.foldl_cons, ih hnodup.2, List.find?_cons]
    by_cases hfirst : first.key = nodeName
    · have hname : nodeName = first.name := hfirst.symm
      have hothers : items.find? (fun node => node.key = nodeName) = none := by
        rw [List.find?_eq_none]
        intro node hnode heq
        refine hnodup.1 ?_
        rw [hfirst, ← of_decide_eq_true heq]
        exact List.mem_map_of_mem hnode
      simp only [hothers, updateNodeMetrics_shows, if_pos hname, hfirst, decide_true]
    · have hne : nodeName ≠ first.name := Ne.symm hfirst
      simp only [updateNodeMetrics_shows, if_neg hne, hfirst, decide_false]

end

/-! ## What is still to be told -/

section

variable (cfg : NodePoolControllerConfig)

/-- A notice on which the gauge is set for every node. -/
def SetsGauge : Notice WatchedNode → Prop
  | .added _ => True
  | .modified old new => filterNodeUpdatesForNPController old new = true
  | .deleted _ => False

/-- The node has had the NodePool since `told`, or its deletion is to be told. -/
def Accounted (notices : List (Notice WatchedNode)) (nodeName : String) (told : Option WatchedNode) (nodePool : String) :
    Prop :=
  (∃ e ∈ notices, e.object.name = nodeName ∧ e.after = none) ∨ told.map (nodePoolOf cfg) = some nodePool ∨
    ∃ e ∈ notices, e.object.name = nodeName ∧ e.after.map (nodePoolOf cfg) = some nodePool

/-- Only accounted NodePools are shown, and the node's own unless it is still to be set. -/
structure Tracked (h : MetricsHandler) (nodeName : String) (told : Option WatchedNode) : Prop where
  leads : Leads WatchedNode.key nodeName told h.nodes.notices (h.nodes.store.get nodeName)
  shown : ∀ nodePool, h.gauge.Shows nodeName nodePool → Accounted cfg h.nodes.notices nodeName told nodePool
  current : ∀ node, h.nodes.store.get nodeName = some node → h.gauge.Shows nodeName (nodePoolOf cfg node) ∨
    ∃ e ∈ h.nodes.notices, e.object.name = nodeName ∧ SetsGauge e

end

section

variable {cfg : NodePoolControllerConfig} {h : MetricsHandler} {nodeName : String} {told : Option WatchedNode}

theorem nodePoolOf_of_filtered {old new : WatchedNode} (hfilter : ¬ filterNodeUpdatesForNPController old new = true) :
    nodePoolOf cfg old = nodePoolOf cfg new := by
  simp only [filterNodeUpdatesForNPController, Bool.or_eq_true, decide_eq_true_eq, not_or, not_not] at hfilter
  rw [nodePoolOf, nodePoolOf, hfilter.2]

variable {e : Notice WatchedNode} {nodePool : String} {notices : List (Notice WatchedNode)} {gauge : Gauge}
  {nodePools : List String}

theorem setsGauge_of_change (hbefore : e.before.map (nodePoolOf cfg) ≠ some nodePool)
    (hafter : e.after.map (nodePoolOf cfg) = some nodePool) : SetsGauge e := by
  cases e with
  | added node => trivial
  | modified old new =>
    by_contra hfilter
    refine hbefore (Eq.trans ?_ hafter)
    simpa [Notice.before, Notice.after] using nodePoolOf_of_filtered hfilter
  | deleted node => cases hafter

theorem exists_setsGauge {node : WatchedNode} (hleads : Leads WatchedNode.key nodeName told notices (some node))
    (hne : told.map (nodePoolOf cfg) ≠ some (nodePoolOf cfg node)) :
    ∃ e ∈ notices, e.object.name = nodeName ∧ SetsGauge e ∧ e.after.map (nodePoolOf cfg) = some (nodePoolOf cfg node) := by
  -- Notices that lead to a stored node lead to its NodePool, or set the gauge on the way there.
  obtain ⟨e, he, hname, hbefore, hafter⟩ := hleads.exists_change (Option.map (nodePoolOf cfg)) hne
  exact ⟨e, he, hname, setsGauge_of_change hbefore hafter, hafter⟩

theorem accounted_current {node : WatchedNode} (hleads : Leads WatchedNode.key nodeName told notices (some node)) :
    Accounted cfg notices nodeName told (nodePoolOf cfg node) := by
  by_cases hpool : told.map (nodePoolOf cfg) = some (nodePoolOf cfg node)
  · exact .inr (.inl hpool)
  · obtain ⟨e, he, hname, -, hafter⟩ := exists_setsGauge hleads hpool
    exact .inr (.inr ⟨e, he, hname, hafter⟩)

theorem Tracked.grow {nodes : Informer WatchedNode.key} (htracked : Tracked cfg h nodeName told)
    (htells : Informer.Tells e h.nodes nodes) : Tracked cfg { h with nodes := nodes } nodeName told := by
  have hmem : ∀ {e'}, e' ∈ h.nodes.notices → e' ∈ nodes.notices := by
    intro e' he'
    rw [htells.1]
    exact List.mem_append_left _ he'
  have hpending : ∀ {P : Notice WatchedNode → Prop}, (∃ e' ∈ h.nodes.notices, P e') → ∃ e' ∈ nodes.notices, P e' :=
    fun ⟨e', he', hP⟩ => ⟨e', hmem he', hP⟩
  refine ⟨htells.leads htracked.leads, fun nodePool hshows => ?_, fun node hnode => ?_⟩
  · exact (htracked.shown nodePool hshows).imp hpending (Or.imp_right hpending)
  · have hkey := htells.2 nodeName
    dsimp only at hnode
    split_ifs at hkey with hname
    · by_cases hsets : SetsGauge e
      · refine .inr ⟨e, ?_, hname, hsets⟩
        rw [htells.1]
        exact List.mem_append_right _ (List.mem_singleton_self e)
      · -- the NodePool is the one the node had
        cases e with
        | added _ => exact absurd trivial hsets
        | deleted _ => cases hnode.symm.trans hkey.2
        | modified old new =>
          obtain rfl := Option.some.inj (hkey.2.symm.trans hnode)
          rw [← nodePoolOf_of_filtered hsets]
          exact (htracked.current old hkey.1).imp_right hpending
    · exact (htracked.current node (hkey.symm.trans hnode)).imp_right hpending

/-- What a notice removes because it is no longer listed. -/
def Forgets (cfg : NodePoolControllerConfig) (nodePools : List String) (e : Notice WatchedNode)
    (nodeName nodePool : String) : Prop :=
  e.object.name = nodeName ∧ e.before.map (nodePoolOf cfg) = some nodePool ∧
    e.after.map (nodePoolOf cfg) ≠ some nodePool ∧ nodePool ∉ nodePools

theorem removePrevious_shows (hsets : SetsGauge e) :
    (removePreviousNodePoolInCaseItWasDeleted cfg nodePools e.before e.object gauge).Shows nodeName nodePool ↔
      gauge.Shows nodeName nodePool ∧ ¬ Forgets cfg nodePools e nodeName nodePool := by
  cases e with
  | added node => simp [removePreviousNodePoolInCaseItWasDeleted, Notice.before, Forgets]
  | deleted node => cases hsets
  | modified old new =>
    show (removePreviousNodePoolInCaseItWasDeleted cfg nodePools (some old) new gauge).Shows nodeName nodePool ↔
      gauge.Shows nodeName nodePool ∧ ¬ (new.name = nodeName ∧ some (nodePoolOf cfg old) = some nodePool ∧
        some (nodePoolOf cfg new) ≠ some nodePool ∧ nodePool ∉ nodePools)
    unfold removePreviousNodePoolInCaseItWasDeleted
    simp only [ne_eq, Option.some.injEq]
    split_ifs with hsame hlisted
    · exact (and_iff_left fun hforgets => hforgets.2.2.1 (hsame ▸ hforgets.2.1)).symm
    · exact (and_iff_left fun hforgets => hforgets.2.2.2 (hforgets.2.1 ▸ hlisted)).symm
    · rw [removeNodeNodePool_shows]
      refine and_congr_right fun _ => not_congr ⟨?_, ?_⟩
      · rintro ⟨rfl, rfl⟩
        exact ⟨rfl, rfl, Ne.symm hsame, hlisted⟩
      · rintro ⟨rfl, rfl, -, -⟩
        exact ⟨rfl, rfl⟩

theorem handleNodeChange_shows (nodes : Store WatchedNode.key) (hsets : SetsGauge e) :
    (handleNodeChange cfg nodePools nodes.items e gauge).Shows nodeName nodePool ↔
      (match nodes.get nodeName with
        | some node => nodePool = nodePoolOf cfg node ∨ (gauge.Shows nodeName nodePool ∧ nodePool ∉ nodePools)
        | none => gauge.Shows nodeName nodePool) ∧ ¬ Forgets cfg nodePools e nodeName nodePool := by
  have hhandled : handleNodeChange cfg nodePools nodes.items e gauge =
      removePreviousNodePoolInCaseItWasDeleted cfg nodePools e.before e.object
        (nodes.items.foldl (updateNodeMetrics cfg nodePools) gauge) := by
    cases e with
    | added node => rfl
    | deleted node => cases hsets
    | modified old new =>
      have hpasses : filterNodeUpdatesForNPController old new = true := hsets
      simp [handleNodeChange, hpasses, setMetricsOnAddUpdate, Notice.before, Notice.object]
  rw [hhandled, removePrevious_shows hsets, updateAll_shows]

theorem handleNodeChange_shows_of_not_sets (nodes : List WatchedNode) (hsets : ¬ SetsGauge e) :
    (handleNodeChange cfg nodePools nodes e gauge).Shows nodeName nodePool ↔
      gauge.Shows nodeName nodePool ∧ ¬ (e.after = none ∧ nodeName = e.object.name ∧ nodePool ∈ nodePools) := by
  cases e with
  | added node => exact absurd trivial hsets
  | modified old new => simp [handleNodeChange, Bool.eq_false_iff.2 hsets, Notice.after]
  | deleted node => simp [handleNodeChange, setMetricsOnDelete_shows, Notice.after, Notice.object]

theorem told_eq {rest : List (Notice WatchedNode)} (hnotices : h.nodes.notices = e :: rest) :
    h.step cfg .told = ⟨⟨h.nodes.store, rest⟩, h.nodePools,
      handleNodeChange cfg h.nodePools h.nodes.store.items e h.gauge⟩ := by
  simp [MetricsHandler.step, hnotices]

theorem tracked_relist (h : MetricsHandler) (nodeName : String) :
    Tracked cfg { h with nodes := h.nodes.relist, gauge := ∅ } nodeName none where
  leads := Informer.leads_relist nodeName
  shown nodePool hshows := by cases hshows
  current node hnode := by
    have hname : node.key = nodeName := Store.get_key hnode
    exact .inr ⟨.added node, List.mem_map_of_mem (Store.get_mem hnode), hname, trivial⟩

/-! ## Being told -/

section

variable {e : Notice WatchedNode} {rest : List (Notice WatchedNode)} {P : Notice WatchedNode → Prop}

theorem mem_rest (hnot : ¬ P e) (h : ∃ e' ∈ e :: rest, P e') : ∃ e' ∈ rest, P e' := by
  obtain ⟨e', he', hP⟩ := h
  rcases List.mem_cons.1 he' with rfl | he'
  · exact absurd hP hnot
  · exact ⟨e', he', hP⟩

theorem mem_rest_of_other (hother : e.object.name ≠ nodeName) (h : ∃ e' ∈ e :: rest, e'.object.name = nodeName ∧ P e') :
    ∃ e' ∈ rest, e'.object.name = nodeName ∧ P e' :=
  mem_rest (fun hand => hother hand.1) h

theorem Tracked.told_other (htracked : Tracked cfg h nodeName told) (hnotices : h.nodes.notices = e :: rest)
    (hother : e.object.name ≠ nodeName) : Tracked cfg (h.step cfg .told) nodeName told := by
  obtain ⟨hleads, hshown, hcurrent⟩ := htracked
  rw [hnotices] at hleads hshown hcurrent
  rw [Leads.cons_other hother] at hleads
  have hforgets : ∀ nodePool, ¬ Forgets cfg h.nodePools e nodeName nodePool := fun _ hf => hother hf.1
  have hbefore : ∀ nodePool, h.gauge.Shows nodeName nodePool → Accounted cfg rest nodeName told nodePool :=
    fun nodePool hbefore =>
      (hshown nodePool hbefore).imp (mem_rest_of_other hother) (Or.imp_right (mem_rest_of_other hother))
  rw [told_eq hnotices]
  by_cases hsets : SetsGauge e
  · refine ⟨hleads, fun nodePool hshows => ?_, fun node hnode => .inl ?_⟩
    · rw [handleNodeChange_shows _ hsets] at hshows
      split at hshows
      · rename_i node hnode
        rcases hshows.1 with rfl | ⟨hshows, -⟩
        · exact accounted_current (hnode ▸ hleads)
        · exact hbefore nodePool hshows
      · exact hbefore nodePool hshows.1
    · rw [handleNodeChange_shows _ hsets, show h.nodes.store.get nodeName = some node from hnode]
      exact ⟨.inl rfl, hforgets _⟩
  · refine ⟨hleads, fun nodePool hshows => ?_, fun node hnode => ?_⟩
    · exact hbefore nodePool ((handleNodeChange_shows_of_not_sets _ hsets).1 hshows).1
    · refine (hcurrent node hnode).imp (fun hshows => ?_) (mem_rest_of_other hother)
      exact (handleNodeChange_shows_of_not_sets _ hsets).2 ⟨hshows, fun hcleared => hother hcleared.2.1.symm⟩

theorem Tracked.told_set (htracked : Tracked cfg h nodeName told) (hnotices : h.nodes.notices = e :: rest)
    (hname : e.object.name = nodeName) (hsets : SetsGauge e) : Tracked cfg (h.step cfg .told) nodeName e.after := by
  obtain ⟨hleads, hshown, -⟩ := htracked
  rw [hnotices] at hleads hshown
  obtain ⟨rfl, hrest⟩ := (Leads.cons_self hname).1 hleads
  have hafter : e.after ≠ none := by
    cases e with
    | added node => exact Option.some_ne_none _
    | modified old new => exact Option.some_ne_none _
    | deleted node => cases hsets
  rw [told_eq hnotices]
  refine ⟨hrest, fun nodePool hshows => ?_, fun node hnode => ?_⟩
  · rw [handleNodeChange_shows _ hsets] at hshows
    obtain ⟨hshows, hforgets⟩ := hshows
    -- what the gauge showed before stays accounted for, or was forgotten
    have hbefore (hbefore : h.gauge.Shows nodeName nodePool) (hlisted : nodePool ∉ h.nodePools) :
        Accounted cfg rest nodeName e.after nodePool := by
      by_cases hpool : e.after.map (nodePoolOf cfg) = some nodePool
      · exact .inr (.inl hpool)
      · rcases hshown nodePool hbefore with hdeleted | htold | hlater
        · exact .inl (mem_rest (fun hand => hafter hand.2) hdeleted)
        · exact absurd ⟨hname, htold, hpool, hlisted⟩ hforgets
        · exact .inr (.inr (mem_rest (fun hand => hpool hand.2) hlater))
    split at hshows
    · rename_i node hnode
      rcases hshows with rfl | ⟨hshows, hlisted⟩
      · exact accounted_current (hnode ▸ hrest)
      · exact hbefore hshows hlisted
    · -- the node is gone, which is still to be told
      rename_i hgone
      obtain ⟨e', he', hname', -, hafter'⟩ := hrest.exists_change Option.isSome (by
        rw [hgone]
        simpa [Option.isSome_iff_ne_none] using hafter)
      rw [hgone] at hafter'
      exact .inl ⟨e', he', hname', by simpa using hafter'⟩
  · rw [handleNodeChange_shows _ hsets, show h.nodes.store.get nodeName = some node from hnode]
    by_cases hforgets : Forgets cfg h.nodePools e nodeName (nodePoolOf cfg node)
    · obtain ⟨e', he', hname', hsets', -⟩ := exists_setsGauge (hnode ▸ hrest) hforgets.2.2.1
      exact .inr ⟨e', he', hname', hsets'⟩
    · exact .inl ⟨.inl rfl, hforgets⟩

theorem Tracked.told_deleted {node : WatchedNode} (htracked : Tracked cfg h node.name told)
    (hnotices : h.nodes.notices = .deleted node :: rest) (hclears : h.Clears .told) :
    Tracked cfg (h.step cfg .told) node.name none := by
  have hleads := htracked.leads
  rw [hnotices] at hleads
  obtain ⟨-, hrest⟩ := (Leads.cons_self (show WatchedNode.key _ = _ from rfl)).1 hleads
  rw [told_eq hnotices]
  refine ⟨hrest, fun nodePool hshows => ?_, fun stored hstored => .inr ?_⟩
  · obtain ⟨hshows, hnot⟩ := (handleNodeChange_shows_of_not_sets _ id).1 hshows
    exact absurd ⟨rfl, rfl, hclears node rest hnotices nodePool hshows⟩ hnot
  · have hne : (none : Option WatchedNode).map (nodePoolOf cfg) ≠ some (nodePoolOf cfg stored) := nofun
    obtain ⟨e, he, hname, hsets, -⟩ := exists_setsGauge (hstored ▸ hrest) hne
    exact ⟨e, he, hname, hsets⟩

theorem Tracked.told_filtered {old new : WatchedNode} (htracked : Tracked cfg h new.name told)
    (hnotices : h.nodes.notices = .modified old new :: rest) (hfilter : ¬ filterNodeUpdatesForNPController old new = true) :
    Tracked cfg (h.step cfg .told) new.name (some new) := by
  obtain ⟨hleads, hshown, hcurrent⟩ := htracked
  have hstep : h.step cfg .told = ⟨⟨h.nodes.store, rest⟩, h.nodePools, h.gauge⟩ := by
    simp [told_eq hnotices, handleNodeChange, Bool.eq_false_iff.2 hfilter]
  have hpool : nodePoolOf cfg old = nodePoolOf cfg new := nodePoolOf_of_filtered hfilter
  rw [hnotices] at hleads hshown hcurrent
  obtain ⟨rfl, hrest⟩ := (Leads.cons_self (show WatchedNode.key _ = _ from rfl)).1 hleads
  rw [hstep]
  refine ⟨hrest, fun nodePool hshows => ?_, fun node hnode => ?_⟩
  · rcases hshown nodePool hshows with hdeleted | htold | hlater
    · refine .inl (mem_rest ?_ hdeleted)
      exact fun hand => Option.some_ne_none new hand.2
    · refine .inr (.inl (Eq.trans ?_ htold))
      simp [Notice.before, hpool]
    · by_cases hnew : some (nodePoolOf cfg new) = some nodePool
      · exact .inr (.inl hnew)
      · refine .inr (.inr (mem_rest ?_ hlater))
        exact fun hand => hnew hand.2
  · refine (hcurrent node hnode).imp_right fun hsets => mem_rest ?_ hsets
    exact fun hand => hfilter hand.2

end

theorem tracked_step (htracked : ∀ nodeName, ∃ told, Tracked cfg h nodeName told) (event : MetricsEvent)
    (hclears : h.Clears event) (nodeName : String) : ∃ told, Tracked cfg (h.step cfg event) nodeName told := by
  obtain ⟨told, hnode⟩ := htracked nodeName
  cases event with
  | nodeAdded node =>
    rcases Informer.add_tells node h.nodes with hsame | htells
    · exact ⟨told, by simpa [MetricsHandler.step, hsame] using hnode⟩
    · exact ⟨told, hnode.grow htells⟩
  | nodeUpdated node =>
    rcases Informer.update_tells node h.nodes with hsame | ⟨old, htells⟩
    · exact ⟨told, by simpa [MetricsHandler.step, hsame] using hnode⟩
    · exact ⟨told, hnode.grow htells⟩
  | nodeDeleted name =>
    rcases Informer.delete_tells name h.nodes with hsame | ⟨old, htells⟩
    · exact ⟨told, by simpa [MetricsHandler.step, hsame] using hnode⟩
    · exact ⟨told, hnode.grow htells⟩
  | nodePoolsChanged nodePools => exact ⟨told, hnode.leads, hnode.shown, hnode.current⟩
  | told =>
    cases hnotices : h.nodes.notices with
    | nil => exact ⟨told, by simpa [MetricsHandler.step, hnotices] using hnode⟩
    | cons e rest =>
      by_cases hname : e.object.name = nodeName
      · subst hname
        cases e with
        | added node => exact ⟨_, hnode.told_set hnotices rfl trivial⟩
        | deleted node => exact ⟨_, hnode.told_deleted hnotices hclears⟩
        | modified old new =>
          by_cases hfilter : filterNodeUpdatesForNPController old new = true
          · exact ⟨_, hnode.told_set hnotices rfl hfilter⟩
          · exact ⟨_, hnode.told_filtered hnotices hfilter⟩
      · exact ⟨told, hnode.told_other hnotices hname⟩
  | restarted => exact ⟨none, tracked_relist h nodeName⟩

/-- Once everything was told, the gauge shows each node's NodePool only. -/
theorem gauge_shows_current_nodePools {nodes : Store WatchedNode.key} {nodePools : List String}
    {events : List MetricsEvent}
    (hclears : Along (MetricsHandler.step cfg) MetricsHandler.Clears (.start nodes nodePools) events)
    (htold : (run (MetricsHandler.step cfg) (.start nodes nodePools) events).nodes.notices = [])
    (nodeName nodePool : String) :
    (run (MetricsHandler.step cfg) (.start nodes nodePools) events).gauge.Shows nodeName nodePool ↔
      ∃ node ∈ (run (MetricsHandler.step cfg) (.start nodes nodePools) events).nodes.store.items,
        node.name = nodeName ∧ nodePoolOf cfg node = nodePool := by
  have hstart : ∀ nodeName, ∃ told, Tracked cfg (.start nodes nodePools) nodeName told := fun nodeName =>
    ⟨none, tracked_relist ⟨⟨nodes, []⟩, nodePools, ∅⟩ nodeName⟩
  obtain ⟨told, hleads, hshown, hcurrent⟩ := run_invariant (P := fun h => ∀ nodeName, ∃ told, Tracked cfg h nodeName told)
    (fun h event htracked hclears => tracked_step htracked event hclears) hstart hclears nodeName
  generalize run (MetricsHandler.step cfg) (.start nodes nodePools) events = h at *
  rw [htold] at hleads hshown hcurrent
  obtain rfl : told = h.nodes.store.get nodeName := hleads
  simp only [Accounted, List.not_mem_nil, false_and, exists_false, false_or, or_false] at hshown hcurrent
  constructor
  · intro hshows
    obtain ⟨node, hnode, hpool⟩ := Option.map_eq_some_iff.1 (hshown nodePool hshows)
    have hname : node.key = nodeName := Store.get_key hnode
    exact ⟨node, Store.get_mem hnode, hname, hpool⟩
  · rintro ⟨node, hmem, rfl, rfl⟩
    exact hcurrent node (Store.get_of_mem hmem)

end

/-! ## A node that moves after its NodePool is gone -/

namespace Metrics

def inPool (nodePool : String) : WatchedNode where
  name := "n"
  labels := (∅ : Labels).insert NodePoolControllerConfig.default.nodePoolNameLabel nodePool
  unschedulable := false
  phase := ""

def moved : MetricsHandler :=
  run (MetricsHandler.step .default) (.start (.single (inPool "a")) ["default", "a"])
    [.told, .nodePoolsChanged ["default"], .nodeUpdated (inPool "b"), .told]

end Metrics

open Metrics in
theorem moved_node_shown : moved.nodes.notices = [] ∧ moved.gauge.Shows "n" "b" ∧ ¬ moved.gauge.Shows "n" "a" := by
  have hclears : Along (MetricsHandler.step .default) MetricsHandler.Clears (.start (.single (inPool "a")) ["default", "a"])
      [.told, .nodePoolsChanged ["default"], .nodeUpdated (inPool "b"), .told] :=
    ⟨nofun, trivial, trivial, nofun, trivial⟩
  have hshows := gauge_shows_current_nodePools hclears rfl "n"
  refine ⟨rfl, (hshows "b").2 ⟨inPool "b", List.mem_singleton.2 rfl, rfl, by decide⟩, fun ha => ?_⟩
  obtain ⟨node, hmem, -, hpool⟩ := (hshows "a").1 ha
  obtain rfl : node = inPool "b" := List.mem_singleton.1 hmem
  exact absurd hpool (by decide)

/-! ## What a deletion leaves behind -/

section

variable {cfg : NodePoolControllerConfig} {h : MetricsHandler} {nodeName : String}

section

variable (cfg) (nodeName nodePool : String)

/-- An unlisted NodePool is shown for a node outside it, and nobody is told. -/
structure LeftBehind (h : MetricsHandler) : Prop where
  shows : h.gauge.Shows nodeName nodePool
  unlisted : nodePool ∉ h.nodePools
  elsewhere : (h.nodes.store.get nodeName).map (nodePoolOf cfg) ≠ some nodePool
  untold : ∀ e ∈ h.nodes.notices, e.object.name = nodeName → e.before.map (nodePoolOf cfg) ≠ some nodePool

/-- Nothing brings the node into the NodePool, or the NodePool back. -/
def StaysAway : MetricsEvent → Prop
  | .nodeAdded node => node.name = nodeName → nodePoolOf cfg node ≠ nodePool
  | .nodeUpdated node => node.name = nodeName → nodePoolOf cfg node ≠ nodePool
  | .nodeDeleted _ => True
  | .nodePoolsChanged nodePools => nodePool ∉ nodePools
  | .told => True
  | .restarted => False

end

variable {nodePool : String}

theorem LeftBehind.grow {nodes : Informer WatchedNode.key} {e : Notice WatchedNode}
    (hleft : LeftBehind cfg nodeName nodePool h) (htells : Informer.Tells e h.nodes nodes)
    (hafter : e.object.name = nodeName → e.after.map (nodePoolOf cfg) ≠ some nodePool) :
    LeftBehind cfg nodeName nodePool { h with nodes := nodes } := by
  obtain ⟨hshows, hunlisted, helsewhere, huntold⟩ := hleft
  have hkey := htells.2 nodeName
  refine ⟨hshows, hunlisted, ?_, fun e' he' hname => ?_⟩
  · split_ifs at hkey with hname
    · exact hkey.2 ▸ hafter hname
    · exact hkey ▸ helsewhere
  · rw [show nodes.notices = h.nodes.notices ++ [e] from htells.1] at he'
    rcases List.mem_append.1 he' with hold | hnew
    · exact huntold e' hold hname
    · obtain rfl := List.mem_singleton.1 hnew
      rw [if_pos (show e'.object.key = nodeName from hname)] at hkey
      exact hkey.1 ▸ helsewhere

theorem LeftBehind.step (hleft : LeftBehind cfg nodeName nodePool h) (event : MetricsEvent)
    (haway : StaysAway cfg nodeName nodePool event) : LeftBehind cfg nodeName nodePool (h.step cfg event) := by
  have hsomewhere : ∀ {node : WatchedNode}, (node.name = nodeName → nodePoolOf cfg node ≠ nodePool) →
      node.name = nodeName → (some node).map (nodePoolOf cfg) ≠ some nodePool := fun haway hname heq =>
    haway hname (Option.some.inj heq)
  cases event with
  | nodeAdded node =>
    rcases Informer.add_tells node h.nodes with hsame | htells
    · simpa [MetricsHandler.step, hsame] using hleft
    · exact hleft.grow htells (hsomewhere haway)
  | nodeUpdated node =>
    rcases Informer.update_tells node h.nodes with hsame | ⟨old, htells⟩
    · simpa [MetricsHandler.step, hsame] using hleft
    · exact hleft.grow htells (hsomewhere haway)
  | nodeDeleted name =>
    rcases Informer.delete_tells name h.nodes with hsame | ⟨old, htells⟩
    · simpa [MetricsHandler.step, hsame] using hleft
    · exact hleft.grow htells fun _ => nofun
  | nodePoolsChanged nodePools => exact ⟨hleft.shows, haway, hleft.elsewhere, hleft.untold⟩
  | restarted => exact haway.elim
  | told =>
    cases hnotices : h.nodes.notices with
    | nil => simpa [MetricsHandler.step, hnotices] using hleft
    | cons e rest =>
      obtain ⟨hshows, hunlisted, helsewhere, huntold⟩ := hleft
      rw [hnotices, List.forall_mem_cons] at huntold
      rw [told_eq hnotices]
      refine ⟨?_, hunlisted, helsewhere, huntold.2⟩
      by_cases hsets : SetsGauge e
      · rw [handleNodeChange_shows _ hsets]
        refine ⟨?_, fun hforgets => huntold.1 hforgets.1 hforgets.2.1⟩
        split
        · exact .inr ⟨hshows, hunlisted⟩
        · exact hshows
      · exact (handleNodeChange_shows_of_not_sets _ hsets).2 ⟨hshows, fun hcleared => hunlisted hcleared.2.2⟩

/-- A node that is deleted after its NodePool stays in the gauge for it. -/
theorem gauge_keeps_deleted_node {node : WatchedNode} {rest : List (Notice WatchedNode)} {events : List MetricsEvent}
    (hnotices : h.nodes.notices = .deleted node :: rest) (hrest : ∀ e ∈ rest, e.object.name ≠ node.name)
    (hgone : h.nodes.store.get node.name = none) (hshows : h.gauge.Shows node.name nodePool)
    (hunlisted : nodePool ∉ h.nodePools) (haway : ∀ event ∈ events, StaysAway cfg node.name nodePool event) :
    (run (MetricsHandler.step cfg) h (.told :: events)).gauge.Shows node.name nodePool := by
  have hleft : LeftBehind cfg node.name nodePool (h.step cfg .told) := by
    rw [told_eq hnotices]
    refine ⟨?_, hunlisted, ?_, fun e he hname => absurd hname (hrest e he)⟩
    · exact (handleNodeChange_shows_of_not_sets _ id).2 ⟨hshows, fun hcleared => hunlisted hcleared.2.2⟩
    · rw [show h.nodes.store.get node.name = none from hgone]
      exact nofun
  have halong : Along (MetricsHandler.step cfg) (fun _ => StaysAway cfg node.name nodePool) (h.step cfg .told) events :=
    .of_invariant (P := fun _ => True) (fun _ _ _ _ => trivial) (fun _ event hevent _ => haway event hevent) trivial
  exact (run_invariant (fun h event hleft haway => hleft.step event haway) hleft halong).shows

end

namespace Metrics

/-- The node was in `a`, which is gone; its deletion is told next. -/
def deleted : MetricsHandler where
  nodes := ⟨.empty, [.deleted (inPool "a")]⟩
  nodePools := ["default", "b"]
  gauge := setNodeNodePool "n" "a" ∅

end Metrics

open Metrics in
theorem returned_node_shown_twice :
    (run (MetricsHandler.step .default) deleted [.told, .nodeAdded (inPool "b"), .told]).gauge.Shows "n" "a" ∧
    (run (MetricsHandler.step .default) deleted [.told, .nodeAdded (inPool "b"), .told]).gauge.Shows "n" "b" := by
  -- The node comes back in `b` and is shown in both.
  refine ⟨?_, by decide +kernel⟩
  have hnotices : deleted.nodes.notices = [.deleted (inPool "a")] := rfl
  refine gauge_keeps_deleted_node hnotices nofun rfl (by decide) (by decide) ?_
  simp only [List.forall_mem_cons, StaysAway]
  exact ⟨fun _ => by decide, trivial, nofun⟩

end Krm.Nodes
