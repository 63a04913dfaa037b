import Krm.Departments.WellFormed
import Krm.HelmHooks.ShardArgs
import Krm.HelmHooks.Uninstall
import Krm.Nodes.AdminCordon
import Krm.Nodes.AppliedCondition
import Krm.Nodes.Assignment
import Krm.Nodes.EventFilter
import Krm.Nodes.Metrics
import Krm.Nodes.Released
import Krm.Nodes.Unmanaged
import Krm.Operator.FailedDeployment
import Krm.Operator.Settled
import Krm.Operator.Started
import Krm.PodGroups.FirstCycle
import Krm.PodGroups.MissingPool
import Krm.PodGroups.NamedPools
import Krm.PodGroups.OwnQueue
import Krm.PodGroups.Retry
import Krm.PodGroups.UserTopology
import Krm.Projects.Exclusive
import Krm.Projects.RoleBindings
import Krm.Queues.Idempotent
import Krm.Queues.Names
import Krm.Queues.ParentQueue
import Krm.Shards.FairShare
import Krm.Shards.OwnShard
import Krm.Status.Quota
import Krm.Topologies.Sync
