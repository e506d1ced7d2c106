import CsiProvisioner.Lib.Transition
import CsiProvisioner.Lib.WorkQueue
import CsiProvisioner.Lib.RateLimiter
import CsiProvisioner.Lib.GoMap
import CsiProvisioner.Lib.GoStrings
import CsiProvisioner.Lib.GoErrors
import CsiProvisioner.Lib.Revisions
import CsiProvisioner.Lib.ApiServer
import CsiProvisioner.Api.Core
import CsiProvisioner.Api.Storage
import CsiProvisioner.Api.Validation
import CsiProvisioner.Controller.DataSource
import CsiProvisioner.Controller.CloneProtection
import CsiProvisioner.Controller.NodeOwnership
import CsiProvisioner.Controller.Secrets
import CsiProvisioner.Controller.Topology
import CsiProvisioner.Capacity.Topology
import CsiProvisioner.Capacity.NodeTopology
import CsiProvisioner.Capacity.TopologySync
import CsiProvisioner.Capacity.Controller
import CsiProvisioner.Capacity.Refresh
import CsiProvisioner.Capacity.Cluster
import CsiProvisioner.Capacity.Store
import CsiProvisioner.Capacity.Invariants
import CsiProvisioner.Controller.Parameters
import CsiProvisioner.Controller.Provisioning
import CsiProvisioner.Controller.TopologyTerm
import CsiProvisioner.Controller.Spreading
import CsiProvisioner.Controller.Accessibility
import CsiProvisioner.Cmd.Naming
import CsiProvisioner.Owner.Lookup
import CsiProvisioner.ProvisionController.ClaimWorker
import CsiProvisioner.Controller.RateLimiter
import CsiProvisioner.Controller.CloningProtection
import CsiProvisioner.ProvisionController.VolumeWorker
import CsiProvisioner.ProvisionController.VolumeStore
