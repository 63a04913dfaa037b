import Krm.Lib.Runs
import Krm.Lib.Text
import Krm.Nodes.ManagedStatus
import Krm.Nodes.Waiting

/-! # What the Applied condition says of the nodes that wait to be excluded -/

open Krm.Lib

namespace Krm.Nodes.ManagedNodesConfigController

variable {cfg : NodePoolControllerConfig} {c : Cluster} {nodes : NodeStore}

/-! ## The condition -/

theorem setCondition_find (condition : MNCCondition) (conditions : List MNCCondition) :
    (setCondition condition conditions).2.find? (fun other => other.type = condition.type) = some condition := by
  induction conditions with
  | nil => simp [setCondition]
  | cons existCondition conditions ih =>
    rw [setCondition]
    split_ifs with htype
    · simp
    · simp [htype, ih]

theorem setCondition_changed (condition : MNCCondition) (conditions : List MNCCondition) :
    (setCondition condition conditions).1 =
      (conditions.find? fun other => other.type = condition.type).all fun existCondition =>
        decide (existCondition.reason ≠ condition.reason) || decide (existCondition.status ≠ condition.status) := by
  induction conditions with
  | nil => rfl
  | cons existCondition conditions ih =>
    rw [setCondition]
    split_ifs with htype
    · simp [htype]
    · simp [htype, ih]

/-- The first five names and the number of the others. -/
def drainMessage (waiting : List Node) : String :=
  "Some nodes need to be drained before gracefull exclusion: " ++
    (",".intercalate ((waiting.take 5).map Node.name) ++
      if 5 < waiting.length then " and " ++ toString (waiting.length - 5) ++ " more" else "")

theorem addNodeNames_toList {total i : Nat} (hi : i ≤ 5) (nodes : List Node) (nodeNames : String) :
    (addNodeNames total i nodes nodeNames).toList = nodeNames.toList ++
      (((nodes.take (5 - i)).map fun node => node.name.toList).flatMap ([','] ++ ·) ++
        (if 5 - i < nodes.length then " and " ++ toString (total - 5) ++ " more" else "").toList) := by
  induction nodes generalizing i nodeNames with
  | nil => simp [addNodeNames]
  | cons node nodes ih =>
    rw [addNodeNames]
    by_cases hfive : i = 5
    · subst hfive
      simp
    · have hrest : 5 - i = (5 - (i + 1)) + 1 := by omega
      rw [if_neg hfive, ih (by omega), hrest]
      simp

theorem appliedCondition_eq (waiting : List Node) :
    appliedCondition waiting =
      if waiting = [] then ⟨.applied, .isTrue, .allNodesIncludedCorrectly, ""⟩
      else ⟨.applied, .isFalse, .toBeExcludedNodes, drainMessage waiting⟩ := by
  cases waiting with
  | nil => rfl
  | cons node waiting =>
    have hnames : (addNodeNames (node :: waiting).length 0 (node :: waiting) "").toList.drop 1 =
        (",".intercalate (((node :: waiting).take 5).map Node.name) ++
          if 5 < (node :: waiting).length then " and " ++ toString ((node :: waiting).length - 5) ++ " more"
          else "").toList := by
      rw [addNodeNames_toList (by omega), String.toList_append, String.toList_intercalate, List.map_map,
        List.take_succ_cons, List.map_cons, List.map_cons, intercalate_cons]
      simp [Function.comp_def]
    unfold appliedCondition drainMessage
    rw [if_neg (by simp), if_neg (List.cons_ne_nil _ _), hnames, String.ofList_toList]

theorem appliedCondition_type (waiting : List Node) : (appliedCondition waiting).type = .applied := by
  rw [appliedCondition_eq]
  split_ifs <;> rfl

theorem drainMessage_congr {waiting waiting' : List Node} (h : waiting.map Node.name = waiting'.map Node.name) :
    drainMessage waiting = drainMessage waiting' := by
  have hlength : waiting.length = waiting'.length := by simpa using congrArg List.length h
  have hnames : (waiting.take 5).map Node.name = (waiting'.take 5).map Node.name := by
    rw [List.map_take, List.map_take, h]
  unfold drainMessage
  rw [hnames, hlength]

/-! ## What the stored condition says -/

def applied (mnc : ManagedNodesConfig) : Option MNCCondition :=
  mnc.conditions.find? fun condition => condition.type = .applied

/-- True if no node waits, and otherwise false with the nodes that wait. -/
def Reports (condition : Option MNCCondition) (waiting : List Node) : Prop :=
  ∃ stored, condition = some stored ∧ if waiting = [] then stored.status = .isTrue
    else stored.status = .isFalse ∧ stored.message = drainMessage waiting

/-- More than the message differs, or the generation is new. -/
def isNoticed (mnc : ManagedNodesConfig) (listed : List Node) : Bool :=
  ((applied mnc).all fun condition =>
    decide (condition.reason ≠ (appliedCondition listed).reason) ||
      decide (condition.status ≠ (appliedCondition listed).status)) ||
    decide (mnc.observedGeneration ≠ mnc.generation)

/-- Nodes are listed if some wait; the message is theirs, or stands unnoticed. -/
def Current (mnc : ManagedNodesConfig) (listed waiting : List Node) : Prop :=
  (listed = [] ↔ waiting = []) ∧ (waiting = [] ∨
    if isNoticed mnc listed then drainMessage listed = drainMessage waiting
    else (applied mnc).map MNCCondition.message = some (drainMessage waiting))

section

variable {mnc : ManagedNodesConfig} {listed waiting : List Node}

theorem reports_appliedCondition_iff : Reports (some (appliedCondition listed)) waiting ↔
    (listed = [] ↔ waiting = []) ∧ (waiting = [] ∨ drainMessage listed = drainMessage waiting) := by
  rw [appliedCondition_eq]
  unfold Reports
  by_cases hlisted : listed = [] <;> by_cases hwaiting : waiting = [] <;> simp [hlisted, hwaiting]

theorem applied_of_not_noticed (h : isNoticed mnc listed = false) :
    ∃ stored, applied mnc = some stored ∧ stored.status = if listed = [] then .isTrue else .isFalse := by
  unfold isNoticed at h
  rw [Bool.or_eq_false_iff] at h
  cases happlied : applied mnc with
  | none =>
    rw [happlied] at h
    cases h.1
  | some stored =>
    rw [happlied, Option.all_some, Bool.or_eq_false_iff, decide_eq_false_iff_not, decide_eq_false_iff_not, not_not,
      not_not, appliedCondition_eq] at h
    refine ⟨stored, rfl, h.1.2.trans ?_⟩
    split_ifs <;> rfl

theorem reports_iff : Reports (if isNoticed mnc listed then some (appliedCondition listed) else applied mnc) waiting ↔
    Current mnc listed waiting := by
  unfold Current
  cases hnoticed : isNoticed mnc listed with
  | true => simpa using reports_appliedCondition_iff
  | false =>
    obtain ⟨stored, happlied, hstatus⟩ := applied_of_not_noticed hnoticed
    unfold Reports
    by_cases hlisted : listed = [] <;> by_cases hwaiting : waiting = [] <;>
      simp [hlisted, hwaiting, happlied, hstatus]

theorem current_congr {listed' : List Node} (h : listed.map Node.name = listed'.map Node.name) :
    Current mnc listed waiting ↔ Current mnc listed' waiting := by
  have hnil : listed = [] ↔ listed' = [] := by rw [← List.map_eq_nil_iff (f := Node.name), h, List.map_eq_nil_iff]
  have hcondition : appliedCondition listed = appliedCondition listed' := by
    rw [appliedCondition_eq, appliedCondition_eq, drainMessage_congr h]
    simp only [hnil]
  unfold Current isNoticed
  rw [hnil, hcondition, drainMessage_congr h]

end

/-! ## The status of a reconcile -/

section

variable (cfg : NodePoolControllerConfig)

def markedNodes (nodes : List Node) : List Node :=
  nodes.filter fun node => node.labels.lookup cfg.shouldBeExcludedLabelKey = some "true"

/-- The nodes that the status of a request is made from. -/
def listedNodes (request : Option String) (toBeExcludedNodes nodes : List Node) : List Node :=
  match request with
  | none => toBeExcludedNodes
  | some _ => markedNodes cfg nodes

end

section

variable {request : Option String} {mnc : ManagedNodesConfig} {toBeExcludedNodes : List Node}
  {updateFault : Option ApiError}

theorem listNodes_marked {requirement : Requirement} {listed : List Node}
    (hrequirement : newRequirement cfg.shouldBeExcludedLabelKey .doubleEquals ["true"] = .ok requirement)
    (hlisted : listNodesWithRequirements c nodes [requirement] = .ok listed) : listed = markedNodes cfg nodes.items := by
  rw [mem_listNodes hlisted, newRequirement_ok hrequirement, markedNodes]
  apply List.filter_congr
  intro node _
  rw [Bool.eq_iff_iff, decide_eq_true_iff, ← Requirement.matches_doubleEquals]
  simp [Selector.Matches]

theorem calculateStatus_ok {changed : Bool} {after : ManagedNodesConfig}
    (h : calculateStatus cfg c request mnc toBeExcludedNodes nodes = .ok (changed, after)) :
    changed = isNoticed mnc (listedNodes cfg request toBeExcludedNodes nodes.items) ∧
      applied after = some (appliedCondition (listedNodes cfg request toBeExcludedNodes nodes.items)) ∧
      after.name = mnc.name ∧ after.inclusionCriteria = mnc.inclusionCriteria := by
  unfold calculateStatus at h
  obtain ⟨listed, hlisted, h⟩ := bind_ok h
  have hsame : listed = listedNodes cfg request toBeExcludedNodes nodes.items := by
    cases request with
    | none => exact (Except.ok.inj hlisted).symm
    | some name =>
      obtain ⟨requirement, hrequirement, hlisted⟩ := bind_ok hlisted
      exact listNodes_marked hrequirement hlisted
  obtain ⟨rfl, rfl⟩ := Prod.mk.inj (Except.ok.inj h)
  have hfind := setCondition_find (appliedCondition listed) mnc.conditions
  rw [appliedCondition_type] at hfind
  rw [← hsame, setCondition_changed, appliedCondition_type]
  exact ⟨rfl, hfind, rfl, rfl⟩

theorem reconcileStatus_ok (hname : mnc.name ≠ "")
    (h : (reconcileStatus cfg c updateFault request mnc toBeExcludedNodes nodes).1 = none) :
    ∃ after, ((reconcileStatus cfg c updateFault request mnc toBeExcludedNodes nodes).2.or (some mnc)) = some after ∧
      after.inclusionCriteria = mnc.inclusionCriteria ∧
      applied after =
        if isNoticed mnc (listedNodes cfg request toBeExcludedNodes nodes.items) then
          some (appliedCondition (listedNodes cfg request toBeExcludedNodes nodes.items))
        else applied mnc := by
  unfold reconcileStatus at h ⊢
  rw [if_neg hname] at h ⊢
  cases hstatus : calculateStatus cfg c request mnc toBeExcludedNodes nodes with
  | error e =>
    rw [hstatus] at h
    cases h
  | ok status =>
    obtain ⟨changed, after⟩ := status
    obtain ⟨hchanged, happlied, -, hcriteria⟩ := calculateStatus_ok hstatus
    rw [hstatus] at h
    rw [← hchanged]
    cases changed with
    | false => exact ⟨mnc, rfl, rfl, rfl⟩
    | true =>
      cases updateFault with
      | some e => cases h
      | none => exact ⟨after, rfl, hcriteria, happlied⟩

end

/-! ## Histories -/

structure State where
  nodes : NodeStore
  cluster : Cluster
  config : Option ManagedNodesConfig

inductive Event where
  | setNodes (nodes : NodeStore)
  /-- Pods, shards and whatever else a reconcile reads have changed. -/
  | setCluster (cluster : Cluster)
  /-- The config is created, edited or deleted. -/
  | setConfig (config : Option ManagedNodesConfig)
  | reconcile (request : Option String) (updateFault : Option ApiError)

section

variable (cfg : NodePoolControllerConfig)

def step (s : State) : Event → State
  | .setNodes nodes => { s with nodes := nodes }
  | .setCluster cluster => { s with cluster := cluster }
  | .setConfig config => { s with config := config }
  | .reconcile request updateFault =>
    let after := reconcile cfg s.cluster updateFault request s.config s.nodes
    ⟨after.nodes, s.cluster, after.stored⟩

/-- No error. A full reconcile's criteria read no label that it writes. -/
def Succeeds (s : State) : Event → Prop
  | .reconcile request updateFault =>
    s.cluster.fault .getManagedNodesConfig = none ∧
      (reconcile cfg s.cluster updateFault request s.config s.nodes).errs = [] ∧
      ∀ mnc ∈ s.config, mnc.name ≠ "" ∧ (request = none → OwnLabelsUnread cfg mnc.inclusionCriteria)
  | _ => True

/-- After a reconcile the stored condition reports the nodes that wait. -/
def Right (s : State) : Event → Prop
  | .reconcile request updateFault =>
    let after := step cfg s (.reconcile request updateFault)
    ∀ mnc ∈ after.config, Reports (applied mnc) (waitingNodes cfg (withCriteria after.cluster mnc) after.nodes)
  | _ => True

/-- Current for the nodes that wait once each has had its turn. -/
def UpToDate (s : State) : Event → Prop
  | .reconcile request _ =>
    ∀ mnc ∈ s.config,
      let turned := s.nodes.items.map (turnOf cfg (withCriteria s.cluster mnc) request)
      let waiting := turned.filter (waits cfg (withCriteria s.cluster mnc))
      Current mnc (listedNodes cfg request waiting turned) waiting
  | _ => True

end

section

variable {request : Option String} {updateFault : Option ApiError} {stored : Option ManagedNodesConfig}
  {mnc : ManagedNodesConfig}

theorem reconcile_eq (hconfig : c.fault .getManagedNodesConfig = none) :
    reconcile cfg c updateFault request (some mnc) nodes =
      let after := reconcileManaged cfg (withCriteria c mnc) request nodes
      let status := reconcileStatus cfg (withCriteria c mnc) updateFault request mnc after.toBeExcludedNodes after.nodes
      ⟨after.nodes, status.2.or (some mnc), after.errs ++ status.1.toList⟩ := by
  -- The nodes are reconciled as far as `reconcileManaged` goes, then the status is.
  have hconfig' : (withCriteria c mnc).fault .getManagedNodesConfig = none := hconfig
  unfold reconcile getManagedNodesConfig reconcileManaged
  rw [hconfig, hconfig']
  cases request with
  | none => rfl
  | some name => rfl

theorem reconcile_ok (hconfig : c.fault .getManagedNodesConfig = none) (hname : mnc.name ≠ "")
    (h : (reconcile cfg c updateFault request (some mnc) nodes).errs = []) :
    let after := reconcileManaged cfg (withCriteria c mnc) request nodes
    let listed := listedNodes cfg request after.toBeExcludedNodes after.nodes.items
    after.errs = [] ∧ (reconcile cfg c updateFault request (some mnc) nodes).nodes = after.nodes ∧
      ∃ mnc', (reconcile cfg c updateFault request (some mnc) nodes).stored = some mnc' ∧
        mnc'.inclusionCriteria = mnc.inclusionCriteria ∧
        applied mnc' = if isNoticed mnc listed then some (appliedCondition listed) else applied mnc := by
  rw [reconcile_eq hconfig] at h ⊢
  dsimp only at h ⊢
  rw [List.append_eq_nil_iff, Option.toList_eq_nil_iff] at h
  exact ⟨h.1, rfl, reconcileStatus_ok hname h.2⟩

theorem reconcile_absent (hconfig : c.fault .getManagedNodesConfig = none) :
    (reconcile cfg c updateFault request none nodes).stored = none := by
  unfold reconcile getManagedNodesConfig reconcileStatus
  rw [hconfig]
  rfl

theorem right_iff {s : State} {event : Event} (h : Succeeds cfg s event) :
    Right cfg s event ↔ UpToDate cfg s event := by
  cases event with
  | setNodes nodes => exact Iff.rfl
  | setCluster cluster => exact Iff.rfl
  | setConfig config => exact Iff.rfl
  | reconcile request updateFault =>
    obtain ⟨nodes, c, config⟩ := s
    obtain ⟨hconfig, hok, hmnc⟩ := h
    dsimp only at hconfig hok hmnc
    cases config with
    | none => simp [Right, UpToDate, step, reconcile_absent hconfig]
    | some mnc =>
      obtain ⟨hname, hunread⟩ := hmnc mnc rfl
      obtain ⟨herrs, hnodes, mnc', hstored, hcriteria, happlied⟩ := reconcile_ok hconfig hname hok
      have hcluster : withCriteria c mnc' = withCriteria c mnc := by rw [withCriteria, hcriteria, withCriteria]
      have hitems := reconcileManaged_items (c := withCriteria c mnc) hconfig herrs
      simp only [Right, UpToDate, step, hnodes, hstored, Option.mem_some_iff, forall_eq', hcluster, happlied]
      rw [reports_iff, ← hitems, ← waitingNodes]
      cases request with
      | some name => exact Iff.rfl
      | none =>
        have hfull : reconcileManaged cfg (withCriteria c mnc) none nodes =
            reconcileManagedNodesConfig cfg (withCriteria c mnc) nodes := by
          have hconfig' : (withCriteria c mnc).fault .getManagedNodesConfig = none := hconfig
          rw [reconcileManaged, hconfig']
        rw [hfull] at herrs ⊢
        exact current_congr (reconcileManagedNodesConfig_waiting hconfig herrs (hunread rfl))

end

/-- The condition is right throughout exactly if the status is up to date each time. -/
theorem applied_condition_right_iff {cfg : NodePoolControllerConfig} {s : State} {events : List Event}
    (h : Along (step cfg) (Succeeds cfg) s events) :
    Along (step cfg) (Right cfg) s events ↔ Along (step cfg) (UpToDate cfg) s events :=
  Along.congr_allowed (fun _ _ => right_iff) h

namespace Sample

open FailingNeighbour TwoNamespaces

/-- Two nodes are to be excluded, and the config has no status yet. -/
def start : State where
  nodes := twoNodes
  cluster := bareCluster [podOn "x", podOn "y"] podGroups []
  config := some ⟨"kai-managed-nodes-config", 1, [fun _ => .ok false], [], 0⟩

/-- The config is reconciled in full before and after the pods change. -/
def drain (pods : List Pod) : List Event :=
  [.reconcile none none, .setCluster (bareCluster pods podGroups []), .reconcile none none]

theorem unread : OwnLabelsUnread .default [fun _ => .ok false] := by
  intro term hterm node after _
  rw [List.mem_singleton.1 hterm]

theorem named {s : State} (h : s.config.map (fun mnc => (mnc.name, mnc.inclusionCriteria)) =
    some ("kai-managed-nodes-config", [fun _ => .ok false])) :
    ∀ mnc ∈ s.config, mnc.name ≠ "" ∧
      ((none : Option String) = none → OwnLabelsUnread .default mnc.inclusionCriteria) := by
  intro mnc hmnc
  rw [Option.mem_def.1 hmnc, Option.map_some, Option.some.injEq, Prod.mk.injEq] at h
  rw [h.1, h.2]
  exact ⟨by decide, fun _ => unread⟩

end Sample

open Sample FailingNeighbour TwoNamespaces in
theorem last_drained_node_reported : Along (step .default) (Right .default) start (drain []) := by
  refine (applied_condition_right_iff ?_).2 ?_
  · exact ⟨⟨rfl, by decide, named rfl⟩, trivial, ⟨rfl, by decide, named rfl⟩, trivial⟩
  · refine ⟨?_, trivial, ?_, trivial⟩
    · intro mnc hmnc
      cases hmnc
      exact ⟨Iff.rfl, .inr (by decide)⟩
    · intro mnc hmnc
      cases hmnc
      exact ⟨Iff.rfl, .inl (by decide)⟩

open Sample FailingNeighbour TwoNamespaces in
/-- One of the two nodes has left, but the message still names it. -/
theorem drained_node_still_named :
    Along (step .default) (Succeeds .default) start (drain [podOn "y"]) ∧
    let s := run (step .default) start (drain [podOn "y"])
    (s.config.bind applied).map MNCCondition.message =
      some "Some nodes need to be drained before gracefull exclusion: x,y" ∧
    (s.config.map fun mnc => (waitingNodes .default (withCriteria s.cluster mnc) s.nodes).map Node.name) =
      some ["y"] :=
  ⟨⟨⟨rfl, by decide, named rfl⟩, trivial, ⟨rfl, by decide, named rfl⟩, trivial⟩, by decide⟩

end Krm.Nodes.ManagedNodesConfigController
