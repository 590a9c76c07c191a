import VolumeMigration.Main
import VolumeMigration.Simulation.FileTree
import VolumeMigration.Simulation.Script
import VolumeMigration.Simulation.Strategy
import VolumeMigration.Proofs.Cluster.Connector
import VolumeMigration.Proofs.Plan.Course
import VolumeMigration.Proofs.Run.Chronicle
import VolumeMigration.Proofs.Run.Attempts
import VolumeMigration.Proofs.Run.Fallback
import VolumeMigration.Proofs.Plan.Resources
import VolumeMigration.Proofs.Strategy.Transfers
import VolumeMigration.Proofs.Run.Record
import VolumeMigration.Proofs.Run.Executions
import VolumeMigration.Proofs.Run.Scenario
import VolumeMigration.Proofs.Run.Teardown
import VolumeMigration.Proofs.Run.MountGate
import VolumeMigration.Proofs.Plan.Heed
import VolumeMigration.Proofs.Run.Heed
import VolumeMigration.Proofs.Strategy.Completion
import VolumeMigration.Proofs.Run.Cancellation
import VolumeMigration.Proofs.Plan.Building
import VolumeMigration.Proofs.Run.Success
import VolumeMigration.Proofs.Strategy.RelayFirst
import VolumeMigration.Proofs.Strategy.Fitting
import VolumeMigration.Proofs.Run.Publishing
import VolumeMigration.Proofs.Run.Story
import VolumeMigration.Proofs.Strategy.Pinning
import VolumeMigration.Proofs.Volume.Leftovers
import VolumeMigration.Proofs.Run.SourceProtection
import VolumeMigration.Proofs.Plan.Sightings
import VolumeMigration.Proofs.Plan.Achieving
import VolumeMigration.Proofs.Strategy.Favourable
import VolumeMigration.Proofs.Run.Stages
import VolumeMigration.Proofs.Run.Topology
import VolumeMigration.Proofs.Run.Limits
import VolumeMigration.Proofs.Run.Secrecy
import VolumeMigration.Proofs.Plan.Schedule
import VolumeMigration.Proofs.Volume.Attachment
import VolumeMigration.Proofs.Volume.Reachability
import VolumeMigration.Proofs.Strategy.Addressing
import VolumeMigration.Proofs.Strategy.Candidates
import VolumeMigration.Proofs.Plan.Timing
import VolumeMigration.Proofs.Plan.Truthfulness
import VolumeMigration.Proofs.Kubernetes.PodReads
import VolumeMigration.Proofs.Key.Base64
import VolumeMigration.Proofs.Key.File
import VolumeMigration.Proofs.Shell.Syntax
import VolumeMigration.Proofs.Shell.Semantics
import VolumeMigration.Proofs.Transfer.Reading
import VolumeMigration.Proofs.Transfer.Retrying
import VolumeMigration.Proofs.Strategy.Serving
