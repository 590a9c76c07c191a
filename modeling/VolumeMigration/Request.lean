import VolumeMigration.Volume.Locator
import VolumeMigration.Json.Value

/-!
# Migration requests

A request asks to copy the contents of one volume to another.
-/

namespace VolumeMigration

/-- How the copy treats what it finds. -/
structure TransferOptions where
  /-- Delete files of the destination that the source does not have. -/
  deleteExtraneous : Bool
  /-- Go on even if a running workload mounts one of the volumes. -/
  ignoreMounted : Bool
  deriving DecidableEq

/-- The image of a copying pod, unless the request names another one. -/
def defaultRsyncImage : String := "docker.io/instrumentisto/rsync-ssh:alpine"

/-- The image of a relay, unless the request names another one. -/
def defaultSshdImage : String := "docker.io/panubo/sshd:1.3.0"

/-- A migration to perform. -/
structure Request where
  source : VolumeLocator
  destination : VolumeLocator
  options : TransferOptions
  /-- The strategies to try, in order; none of them asks for every known strategy. -/
  strategies : List String
  rsyncImage : String
  sshdImage : String

/-- The access as reports record it. -/
def ClusterAccess.toJson (access : ClusterAccess) : Json :=
  .object [("kubeconfig", Json.ofText? (access.kubeconfig.map LocalPath.text)),
    ("context", Json.ofText? access.context)]

/-- The volume as reports record it. -/
def VolumeLocator.toJson (volume : VolumeLocator) : Json :=
  .object [("access", volume.access.toJson), ("namespace", .string volume.ns),
    ("name", .string volume.name)]

/-- The request as reports record it. -/
def Request.toJson (request : Request) : Json :=
  .object [("source", request.source.toJson), ("destination", request.destination.toJson),
    ("options", .object
      [("delete_extraneous", .bool request.options.deleteExtraneous),
        ("ignore_mounted", .bool request.options.ignoreMounted)]),
    ("strategies", Json.ofTexts request.strategies),
    ("rsync_image", .string request.rsyncImage), ("sshd_image", .string request.sshdImage)]

end VolumeMigration
