import CsiProvisioner.Api.Core

/-!
The messages of the CSI controller service that the provisioner sends and receives
(`github.com/container-storage-interface/spec`), and the status codes of gRPC, with the
fields that the modelled code reads or writes.

A topology is a map from topology keys to values. The accessible topologies of a volume are
read only by a loop over each map, and are given here as their pairs in the order that loop
visits them, as `GenerateVolumeNodeAffinity` takes them.
-/

namespace CsiProvisioner.Api

open Go

/-- `csi.Topology`: the segments of a topology, a nil map for none. -/
structure Topology where
  segments : Map String String
  deriving DecidableEq, Repr

/-- `csi.TopologyRequirement`: the topologies a new volume must be accessible from, and those
it should be accessible from, in the order of preference. -/
structure TopologyRequirement where
  requisite : List Topology
  preferred : List Topology
  deriving DecidableEq, Repr

/-- `csi.GetCapacityRequest`, without its volume capabilities: the parameters of the storage
class and the topology the capacity is asked for. -/
structure GetCapacityRequest where
  parameters : StrMap
  accessibleTopology : Option Topology
  deriving DecidableEq, Repr

/-- The status codes of gRPC. -/
inductive Code
  | ok
  | canceled
  | unknown
  | invalidArgument
  | deadlineExceeded
  | notFound
  | alreadyExists
  | permissionDenied
  | resourceExhausted
  | failedPrecondition
  | aborted
  | outOfRange
  | unimplemented
  | internal
  | unavailable
  | dataLoss
  | unauthenticated
  deriving DecidableEq, Repr

/-- How `codes.Code` prints. -/
def Code.format : Code → String
  | .ok => "OK"
  | .canceled => "Canceled"
  | .unknown => "Unknown"
  | .invalidArgument => "InvalidArgument"
  | .deadlineExceeded => "DeadlineExceeded"
  | .notFound => "NotFound"
  | .alreadyExists => "AlreadyExists"
  | .permissionDenied => "PermissionDenied"
  | .resourceExhausted => "ResourceExhausted"
  | .failedPrecondition => "FailedPrecondition"
  | .aborted => "Aborted"
  | .outOfRange => "OutOfRange"
  | .unimplemented => "Unimplemented"
  | .internal => "Internal"
  | .unavailable => "Unavailable"
  | .dataLoss => "DataLoss"
  | .unauthenticated => "Unauthenticated"

/-- The error of a gRPC call: a status with its code, or an error that carries none, which
the client returns when the call failed before it reached the server. -/
inductive CallError
  | status (code : Code) (message : String)
  | other (message : String)
  deriving DecidableEq, Repr

/-- `Error()` of a call's error. -/
def CallError.message : CallError → String
  | .status code message => "rpc error: code = " ++ code.format ++ " desc = " ++ message
  | .other message => message

/-- `csi.VolumeContentSource`: the snapshot or the volume a new volume was filled from. -/
inductive VolumeContentSource
  | snapshot (snapshotId : String)
  | volume (volumeId : String)
  deriving DecidableEq, Repr

/-- `csi.Volume`, as `CreateVolume` returns it. -/
structure Volume where
  /-- `capacity_bytes`, zero when the driver does not know it. -/
  capacityBytes : Int
  volumeId : String
  volumeContext : StrMap
  contentSource : Option VolumeContentSource
  accessibleTopology : List (List (String × String))
  deriving DecidableEq, Repr

end CsiProvisioner.Api
