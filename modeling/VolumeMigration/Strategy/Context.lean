import VolumeMigration.Cluster.Directory
import VolumeMigration.Key.Pair
import VolumeMigration.Plan
import VolumeMigration.Request
import VolumeMigration.Transfer.Pacing

/-!
# What an attempt works with

The request, the clusters, the pacing, and what was drawn for this attempt: a short identifier that
all its objects carry, and a key pair that only it uses.
-/

namespace VolumeMigration

/-- What is drawn at random for one attempt. -/
structure AttemptDraw where
  attemptId : String
  keyPair : KeyPair

/-- What one attempt works with. -/
structure AttemptContext where
  request : Request
  clusters : ClusterSet ClusterHandle
  pacing : Pacing
  draw : AttemptDraw

namespace AttemptContext

/-- The identifier of an attempt. -/
def attemptId (context : AttemptContext) : String := context.draw.attemptId

/-- The name of the object that plays a role in an attempt. -/
def resourceName (context : AttemptContext) (role : String) : String :=
  "pv-migrate-" ++ context.attemptId ++ "-" ++ role

/-- The cluster of the source. -/
def sourceCluster (context : AttemptContext) : Except Failure ClusterHandle :=
  context.clusters.get context.request.source.access

/-- The cluster of the destination. -/
def destinationCluster (context : AttemptContext) : Except Failure ClusterHandle :=
  context.clusters.get context.request.destination.access

end AttemptContext

end VolumeMigration
