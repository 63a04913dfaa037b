import Krm.Lib.Runs
import Krm.Nodes.Evolves

/-! # The node-pool labels settle -/

open Krm.Lib Relation

namespace Krm.Nodes.Assignment

variable {cfg : NodePoolControllerConfig} {w w' : World}

/-! ## The invariant -/

/-- What holds once these node pools have been reconciled. -/
structure Assigned (cfg : NodePoolControllerConfig) (done : String → Prop) (w : World) : Prop where
  available : ∀ nodePool ∈ w.pools, nodePool.deleted = false → done nodePool.name → isDeleting nodePool = false
  sorted : ∀ nodePool ∈ w.pools, nodePool.deleted = false → nodePool.name ≠ cfg.defaultNodepoolName →
    done nodePool.name → ∀ node ∈ w.nodes.items, Sorted cfg nodePool node.labels
  placed : done cfg.defaultNodepoolName →
    ∀ node ∈ w.nodes.items, Placed cfg w.pools node.labels ∨ Blank cfg node.labels

variable {done : String → Prop}

theorem Assigned.evolves (hproper : Proper cfg w) (h : Assigned cfg done w) (hstep : Evolves cfg w w') :
    Assigned cfg done w' := by
  cases hstep with
  | move hmoves =>
    constructor
    · exact h.available
    · intro nodePool hmem hlive hname hdone after hafter
      obtain ⟨node, hnode, hsame, hmoved⟩ := hmoves.get_before (Store.get_of_mem hafter)
      have hbefore := h.sorted nodePool hmem hlive hname hdone node (Store.get_mem hnode)
      rcases hmoved with hlabel | ⟨-, harrived⟩
      · exact hbefore.same hproper.keys hmem hsame hlabel
      · refine ⟨harrived.pair w.pools_nodup hmem, fun hnone => ?_⟩
        cases harrived with
        | claimed _ _ _ hlabel _ => cases hlabel.symm.trans hnone
        | unclaimed _ hpairs => exact hpairs nodePool hmem (h.available nodePool hmem hlive hdone)
    · intro hdone after hafter
      obtain ⟨node, hnode, -, hmoved⟩ := hmoves.get_before (Store.get_of_mem hafter)
      rcases hmoved with hlabel | ⟨-, harrived⟩
      · have hbefore := h.placed hdone node (Store.get_mem hnode)
        rwa [Placed, Blank, ← hlabel] at hbefore
      · exact .inl harrived.placed
  | update hkept =>
    constructor
    · intro after hafter hlive hdone
      obtain ⟨nodePool, hmem, hsame⟩ := hkept.before after hafter
      exact available_of_same hsame (h.available nodePool hmem (hsame.deleted ▸ hlive) (hsame.name ▸ hdone))
    · intro after hafter hlive hname hdone node hnode
      obtain ⟨nodePool, hmem, hsame⟩ := hkept.before after hafter
      exact (sorted_of_same hsame).2
        (h.sorted nodePool hmem (hsame.deleted ▸ hlive) (hsame.name ▸ hname) (hsame.name ▸ hdone) node hnode)
    · intro hdone node hnode
      exact (h.placed hdone node hnode).imp_left (placed_of_kept hkept)

theorem Assigned.reaches (hproper : Proper cfg w) (h : Assigned cfg done w) (hsteps : ReflTransGen (Evolves cfg) w w') :
    Assigned cfg done w' := by
  induction hsteps with
  | refl => exact h
  | tail hbefore hstep ih => exact ih.evolves (hproper.reaches hbefore) hstep

/-! ## Runs -/

structure Request where
  cluster : Cluster
  env : Surroundings
  name : String

/-- No unmanaged partitions, and no uninstall. -/
def Request.Quiet (request : Request) : Prop :=
  request.cluster.uninstalling = false ∧ ∀ shard ∈ request.cluster.shards, isUnmanaged shard = false

def Request.reconcile (cfg : NodePoolControllerConfig) (request : Request) (w : World) : List ApiError × World :=
  reconcileRequest cfg request.cluster request.env request.name w

def step (cfg : NodePoolControllerConfig) (w : World) (request : Request) : World := (request.reconcile cfg w).2

/-- The node pool is reconciled without errors in the run. -/
def Reconciled (cfg : NodePoolControllerConfig) (name : String) : World → List Request → Prop
  | _, [] => False
  | w, request :: requests =>
    request.name = name ∧ (request.reconcile cfg w).1 = [] ∨ Reconciled cfg name (step cfg w request) requests

theorem step_evolves (hproper : Proper cfg w) {request : Request} (hquiet : request.Quiet) :
    ReflTransGen (Evolves cfg) w (step cfg w request) :=
  reconcileRequest_evolves hproper hquiet.1 request.name

theorem run_evolves (hproper : Proper cfg w) {requests : List Request} (hquiet : ∀ request ∈ requests, request.Quiet) :
    ReflTransGen (Evolves cfg) w (run (step cfg) w requests) := by
  induction requests generalizing w with
  | nil => exact .refl
  | cons request requests ih =>
    have hstep := step_evolves hproper (hquiet request (by simp))
    exact hstep.trans (ih (hproper.reaches hstep) fun r hr => hquiet r (by simp [hr]))

theorem assigned_step (hproper : Proper cfg w) (h : Assigned cfg done w) {request : Request} (hquiet : request.Quiet) :
    Assigned cfg (fun name => done name ∨ request.name = name ∧ (request.reconcile cfg w).1 = [])
      (step cfg w request) := by
  have hsteps := step_evolves hproper hquiet
  have hkept := kept_of_reaches hsteps
  have hnext := h.reaches hproper hsteps
  have hstored {after : NodePool} (hafter : after ∈ (step cfg w request).pools) :
      ∃ stored : StoredNodePool, w.nodePools.get after.name = some stored ∧ SamePool stored.toNodePool after := by
    obtain ⟨nodePool, hmem, hsame⟩ := hkept.before after hafter
    obtain ⟨stored, hstored, rfl⟩ := List.mem_map.1 hmem
    exact ⟨stored, hsame.name ▸ Store.get_of_mem hstored, hsame⟩
  constructor
  · rintro after hafter hlive (hdone | ⟨hname, hok⟩)
    · exact hnext.available after hafter hlive hdone
    · obtain ⟨stored, hget, hsame⟩ := hstored hafter
      have hphase := reconcileRequest_phase (hname ▸ hget) (hsame.deleted ▸ hlive) hok after hafter hname.symm
      simp [isDeleting, hlive, hphase]
  · rintro after hafter hlive hne (hdone | ⟨hname, hok⟩)
    · exact hnext.sorted after hafter hlive hne hdone
    · obtain ⟨stored, hget, hsame⟩ := hstored hafter
      have hsorted := reconcileRequest_sorted (hname ▸ hget) (hsame.deleted ▸ hlive) hok hproper (hname ▸ hne)
      exact fun node hnode => (sorted_of_same hsame).2 (hsorted node hnode)
  · rintro (hdone | ⟨hname, hok⟩)
    · exact hnext.placed hdone
    · obtain ⟨nodePool, hmem, hdefault, havailable⟩ := hproper.available
      obtain ⟨stored, hstored, rfl⟩ := List.mem_map.1 hmem
      have hget : w.nodePools.get request.name = some stored := by
        rw [hname, ← hdefault]
        exact Store.get_of_mem hstored
      exact reconcileRequest_placed hget (live_of_available havailable) hok hproper hquiet.2 hname

theorem assigned_run (hproper : Proper cfg w) (h : Assigned cfg done w) {requests : List Request}
    (hquiet : ∀ request ∈ requests, request.Quiet) :
    Assigned cfg (fun name => done name ∨ Reconciled cfg name w requests) (run (step cfg) w requests) := by
  induction requests generalizing w done with
  | nil => exact ⟨fun p hp hl hd => h.available p hp hl (hd.resolve_right id),
      fun p hp hl hn hd => h.sorted p hp hl hn (hd.resolve_right id), fun hd => h.placed (hd.resolve_right id)⟩
  | cons request requests ih =>
    have hstep := step_evolves hproper (hquiet request (by simp))
    have hrest := ih (hproper.reaches hstep) (assigned_step hproper h (hquiet request (by simp)))
      fun r hr => hquiet r (by simp [hr])
    simpa only [Reconciled, or_assoc, run, List.foldl_cons] using hrest

/-! ## The result -/

def labelOf (cfg : NodePoolControllerConfig) (w : World) (name : String) : Option (Option String) :=
  (w.nodes.get name).map fun node => node.labels.lookup cfg.nodePoolNameLabel

/-- In a pool whose pair it matches, or matching none. -/
def Settled (cfg : NodePoolControllerConfig) (pools : List NodePool) (labels : Labels) : Prop :=
  labels.lookup cfg.nodePoolNameLabel = some cfg.excludedNodepoolName ∨
  (∃ nodePool ∈ pools, nodePool.deleted = false ∧ labels.lookup cfg.nodePoolNameLabel = some nodePool.name ∧
    MatchesPair nodePool labels) ∨
  labels.lookup cfg.nodePoolNameLabel = none ∧
    ∀ nodePool ∈ pools, nodePool.deleted = false → ¬ MatchesPair nodePool labels

theorem blank_not_astray (hproper : Proper cfg w) {labels : Labels} (hblank : Blank cfg labels) :
    ¬ Astray cfg w.pools labels := by
  obtain ⟨default, hdefault, hname, havailable⟩ := hproper.available
  have hpool : getNodePoolNameFromLabels cfg labels = cfg.defaultNodepoolName := by
    rcases hblank with h | h <;> simp [getNodePoolNameFromLabels, h]
  -- A pool that the label names is the default pool.
  have hnamed {nodePool : NodePool} (hmem : nodePool ∈ w.pools)
      (hlabel : labels.lookup cfg.nodePoolNameLabel = some nodePool.name) : nodePool = default := by
    have hpoolName := poolName_of_lookup hlabel nodePool.name_ne
    exact List.inj_on_of_nodup_map w.pools_nodup hmem hdefault (hpoolName.symm.trans (hpool.trans hname.symm))
  rintro (⟨hmem, -, hne, hlabel, -⟩ | ⟨-, -, hlabel, -⟩ | ⟨-, -, hpools⟩ | ⟨hmem, hdeleted, hlabel⟩)
  · exact hne (by rw [hnamed hmem hlabel, hname])
  · rcases hblank with h | h <;> cases h.symm.trans hlabel
  · exact hpools default hdefault havailable (hname.trans hpool.symm)
  · rw [hnamed hmem hlabel, live_of_available havailable] at hdeleted
    cases hdeleted

theorem blank_not_settled (hproper : Proper cfg w) {node : Node} (hnode : node ∈ w.nodes.items)
    (hblank : Blank cfg node.labels) : ¬ Settled cfg w.pools node.labels := by
  rintro (hexcluded | ⟨nodePool, hmem, -, hlabel, hpair⟩ | ⟨hnone, -⟩)
  · rcases hblank with h | h
    · exact (excluded_ne cfg).1 (Option.some.inj (hexcluded.symm.trans h))
    · exact (excluded_ne cfg).2 (Option.some.inj (hexcluded.symm.trans h))
  · rcases hblank with h | h
    · exact nodePool.name_ne (Option.some.inj (hlabel.symm.trans h))
    · exact hproper.unmatched node hnode nodePool hmem (Option.some.inj (hlabel.symm.trans h)) hpair
  · rcases hblank with h | h <;> cases hnone.symm.trans h

section

variable {done : String → Prop} (hproper : Proper cfg w) (h : Assigned cfg done w)
  (hdone : ∀ nodePool ∈ w.pools, done nodePool.name) {node : Node} (hnode : node ∈ w.nodes.items)
  (hblank : ¬ Blank cfg node.labels)
include hproper h hdone hnode hblank

theorem placed_of_done : Placed cfg w.pools node.labels := by
  obtain ⟨default, hdefault, hname, -⟩ := hproper.available
  exact (h.placed (hname ▸ hdone default hdefault) node hnode).resolve_right hblank

theorem not_astray : ¬ Astray cfg w.pools node.labels := by
  have hplaced := placed_of_done hproper h hdone hnode hblank
  rintro (⟨hmem, hlive, hne, hlabel, hpair⟩ | ⟨hmem, hlive, hlabel, hpair⟩ | ⟨hlabel, hexcluded, hpools⟩ |
    ⟨hmem, hdeleted, hlabel⟩)
  · exact hpair ((h.sorted _ hmem hlive hne (hdone _ hmem) node hnode).pair hlabel)
  · rename_i nodePool
    by_cases hname : nodePool.name = cfg.defaultNodepoolName
    · exact hproper.unmatched node hnode _ hmem hname hpair
    · exact (h.sorted _ hmem hlive hname (hdone _ hmem) node hnode).unclaimed hlabel hpair
  · rcases hplaced with hnone | hnamed | ⟨nodePool, hmem, hlive, -, hnamed⟩
    · simp [hnone] at hlabel
    · exact hexcluded (poolName_of_lookup hnamed (excluded_ne cfg).1)
    · exact hpools nodePool hmem (h.available nodePool hmem hlive (hdone nodePool hmem))
        (poolName_of_lookup hnamed nodePool.name_ne).symm
  · rcases hplaced with hnone | hnamed | ⟨nodePool, hmem', hlive, -, hnamed⟩
    · cases hnone.symm.trans hlabel
    · exact hproper.reserved _ hmem (Option.some.inj (hlabel.symm.trans hnamed))
    · have hsame := List.inj_on_of_nodup_map w.pools_nodup hmem hmem' (Option.some.inj (hlabel.symm.trans hnamed))
      rw [hsame, hlive] at hdeleted
      cases hdeleted

theorem settled_of_done : Settled cfg w.pools node.labels := by
  rcases placed_of_done hproper h hdone hnode hblank with hnone | hexcluded | ⟨nodePool, hmem, hlive, hne, hlabel⟩
  · refine .inr (.inr ⟨hnone, fun nodePool hmem hlive hpair => ?_⟩)
    exact not_astray hproper h hdone hnode hblank (.unclaimed hmem hlive hnone hpair)
  · exact .inl hexcluded
  · exact .inr (.inl ⟨nodePool, hmem, hlive, hlabel,
      (h.sorted nodePool hmem hlive hne (hdone nodePool hmem) node hnode).pair hlabel⟩)

end

theorem blank_stays (hproper : Proper cfg w) (hsteps : ReflTransGen (Evolves cfg) w w') {node : Node}
    (hnode : w.nodes.get node.name = some node) (hblank : Blank cfg node.labels) :
    ∃ after, w'.nodes.get node.name = some after ∧ Blank cfg after.labels := by
  -- The nodes that stand for the default pool by a label stay so.
  induction hsteps with
  | refl => exact ⟨node, hnode, hblank⟩
  | tail hbefore hstep ih =>
    obtain ⟨before, hget, hblank'⟩ := ih
    cases hstep with
    | move hmoves =>
      obtain ⟨after, hafter, -, hmoved⟩ := hmoves.get hget
      refine ⟨after, hafter, ?_⟩
      rcases hmoved with hlabel | ⟨hastray, -⟩
      · rwa [Blank, hlabel]
      · exact absurd hastray (blank_not_astray (hproper.reaches hbefore) hblank')
    | update _ => exact ⟨before, hget, hblank'⟩

theorem arrived_not_blank {pools : List NodePool} {labels : Labels} (h : Arrived cfg pools labels) :
    ¬ Blank cfg labels := by
  cases h with
  | claimed _ _ hname hlabel _ =>
    rintro (hblank | hblank)
    · exact NodePool.name_ne _ (Option.some.inj (hlabel.symm.trans hblank))
    · exact hname (Option.some.inj (hlabel.symm.trans hblank))
  | unclaimed hlabel _ => rintro (hblank | hblank) <;> cases hlabel.symm.trans hblank

theorem not_blank_stays (hsteps : ReflTransGen (Evolves cfg) w w') (h : ∀ node ∈ w.nodes.items, ¬ Blank cfg node.labels) :
    ∀ node ∈ w'.nodes.items, ¬ Blank cfg node.labels := by
  induction hsteps with
  | refl => exact h
  | tail _ hstep ih =>
    cases hstep with
    | move hmoves =>
      intro after hafter
      obtain ⟨node, hnode, -, hmoved⟩ := hmoves.get_before (Store.get_of_mem hafter)
      rcases hmoved with hlabel | ⟨-, harrived⟩
      · rw [Blank, hlabel]
        exact ih node (Store.get_mem hnode)
      · exact arrived_not_blank harrived
    | update _ => exact ih

theorem labels_stay (hproper : Proper cfg w) (h : Assigned cfg done w)
    (hdone : ∀ nodePool ∈ w.pools, done nodePool.name) (hblank : ∀ node ∈ w.nodes.items, ¬ Blank cfg node.labels)
    (hsteps : ReflTransGen (Evolves cfg) w w') (name : String) : labelOf cfg w' name = labelOf cfg w name := by
  induction hsteps with
  | refl => rfl
  | tail hbefore hstep ih =>
    rename_i before after
    have hdone' : ∀ nodePool ∈ before.pools, done nodePool.name := by
      intro nodePool hmem
      obtain ⟨old, hold, hsame⟩ := (kept_of_reaches hbefore).before nodePool hmem
      exact hsame.name ▸ hdone old hold
    rw [← ih]
    cases hstep with
    | move hmoves =>
      refine hmoves.map_get_eq (fun node hnode node' hmove => ?_) name
      rcases hmove.moved with hlabel | ⟨hastray, -⟩
      · exact hlabel
      · exact absurd hastray (not_astray (hproper.reaches hbefore) (h.reaches hproper hbefore) hdone' hnode
          (not_blank_stays hbefore hblank node hnode))
    | update _ => rfl

/-- Nodes end where they belong unless one came labelled for the default pool. -/
theorem node_labels_settle_iff {cfg : NodePoolControllerConfig} {w : World} {requests : List Request}
    (hproper : Proper cfg w) (hquiet : ∀ request ∈ requests, request.Quiet)
    (hreconciled : ∀ nodePool ∈ w.pools, Reconciled cfg nodePool.name w requests) :
    ((∀ node ∈ (run (step cfg) w requests).nodes.items,
        Settled cfg (run (step cfg) w requests).pools node.labels) ∧
      ∀ further : List Request, (∀ request ∈ further, request.Quiet) → ∀ name,
        labelOf cfg (run (step cfg) w (requests ++ further)) name = labelOf cfg (run (step cfg) w requests) name) ↔
      ∀ node ∈ w.nodes.items, ¬ Blank cfg node.labels := by
  have hsteps := run_evolves hproper hquiet
  have hproper' := hproper.reaches hsteps
  constructor
  · rintro ⟨hsettled, -⟩ node hnode hblank
    obtain ⟨after, hafter, hblank'⟩ := blank_stays hproper hsteps (Store.get_of_mem hnode) hblank
    exact blank_not_settled hproper' (Store.get_mem hafter) hblank' (hsettled after (Store.get_mem hafter))
  · intro hblank
    have hfirst : Assigned cfg (fun _ => False) w := ⟨by simp, by simp, by simp⟩
    have hassigned := assigned_run hproper hfirst hquiet
    have hdone : ∀ nodePool ∈ (run (step cfg) w requests).pools, False ∨ Reconciled cfg nodePool.name w requests := by
      intro nodePool hmem
      obtain ⟨old, hold, hsame⟩ := (kept_of_reaches hsteps).before nodePool hmem
      exact .inr (hsame.name ▸ hreconciled old hold)
    have hblank' := not_blank_stays hsteps hblank
    refine ⟨fun node hnode => settled_of_done hproper' hassigned hdone hnode (hblank' node hnode), ?_⟩
    intro further hfurther name
    rw [run, List.foldl_append]
    exact labels_stay hproper' hassigned hdone hblank' (run_evolves hproper' hfurther) name

namespace Sample

def reconcileOf (name : String) : Request := ⟨bareCluster [] ⟨[], List.nodup_nil⟩ [], allReady, name⟩

def rounds : List Request := [reconcileOf "default", reconcileOf "a", reconcileOf "default", reconcileOf "a"]

def zone (labels : Labels) : World where
  nodes := only ⟨"x", labels.insert "zone" "a", false⟩
  details := fun _ => ⟨∅, []⟩
  nodePools := ⟨[plainPool "default" "" "" default_ne, plainPool "a" "zone" "a" a_ne], by decide⟩

theorem zone_proper : Proper .default (zone ∅) where
  available := ⟨(plainPool "default" "" "" default_ne).toNodePool, .head _, rfl, rfl⟩
  keys := ⟨by decide, by decide⟩
  unmatched := by
    unfold DefaultUnmatched
    decide
  reserved := by decide

theorem rounds_quiet : ∀ request ∈ rounds, request.Quiet := by
  simp [rounds, reconcileOf, Request.Quiet, bareCluster]

end Sample

open Sample in
theorem unlabelled_node_settles :
    (∀ node ∈ (run (step .default) (zone ∅) rounds).nodes.items,
      Settled .default (run (step .default) (zone ∅) rounds).pools node.labels) ∧
    ∀ further : List Request, (∀ request ∈ further, request.Quiet) → ∀ name,
      labelOf .default (run (step .default) (zone ∅) (rounds ++ further)) name =
        labelOf .default (run (step .default) (zone ∅) rounds) name := by
  refine (node_labels_settle_iff zone_proper rounds_quiet ?_).2 ?_
  · simp only [World.pools, zone, List.map_cons, List.map_nil, List.forall_mem_cons]
    exact ⟨.inl ⟨rfl, by decide⟩, .inr (.inl ⟨rfl, by decide⟩), by simp⟩
  · unfold Blank
    decide

open Sample in
/-- The empty label stands for the default pool, so no reconcile looks at the node. -/
theorem empty_label_stays :
    Along (step .default) (fun w request => (request.reconcile .default w).1 = [])
      (zone ((∅ : Labels).insert "kai.scheduler/node-pool" "")) rounds ∧
    labelOf .default (run (step .default) (zone ((∅ : Labels).insert "kai.scheduler/node-pool" "")) rounds) "x" =
      some (some "") :=
  ⟨⟨by decide, by decide, by decide, by decide, trivial⟩, by decide⟩

end Krm.Nodes.Assignment
