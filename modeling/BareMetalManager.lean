import BareMetalManager.ApiDb.InstanceAddress.Collision
import BareMetalManager.ApiDb.WorkLockManager.LeaseSafety
import BareMetalManager.Authn.SiteCriteria
import BareMetalManager.Authn.Middleware
import BareMetalManager.StateController.Exclusion
import BareMetalManager.StateController.Atomicity
import BareMetalManager.Flow.RackExclusivity
import BareMetalManager.Flow.FinishedTasks
import BareMetalManager.Flow.CancelledRun
import BareMetalManager.Flow.Rollout
import BareMetalManager.Flow.PlanPartition
import BareMetalManager.Ipam.Clients
import BareMetalManager.MeasuredBoot.Resubmission
import BareMetalManager.Health.AllocationAlerts
import BareMetalManager.ApiDb.ResourcePool.Ownership
import BareMetalManager.CredentialRotation.Fencing
import BareMetalManager.CredentialRotation.Lockout
import BareMetalManager.ApiCore.PrefixAllocator.NextFit
import BareMetalManager.Dhcpv6.MessageType
import BareMetalManager.ApiCore.Instance.PrefixLockOrder
import BareMetalManager.Ipxe.Substitution
import BareMetalManager.RestAuth.RoleRequests
import BareMetalManager.ApiModel.Instance.NetworkStatus
import BareMetalManager.ApiModel.Instance.NetworkUpdate
import BareMetalManager.IbFabric.CleanupAlert
import BareMetalManager.IbFabric.Retirement
import BareMetalManager.ApiCore.PrefixOverlap.Exclusion
import BareMetalManager.SshConsole.EscapeFilter
import BareMetalManager.SshConsole.LogTail
import BareMetalManager.DhcpServer.MachineCache
import BareMetalManager.Flow.ConflictRetry
import BareMetalManager.Flow.StepBudget
import BareMetalManager.ApiModel.DpuOrder
import BareMetalManager.CredentialRotation.Redaction
import BareMetalManager.Logfmt.FieldOrder
import BareMetalManager.EventRule.Lane
