import BuildHarvest.Main
import BuildHarvest.Proofs.Confinement
import BuildHarvest.Proofs.EarlyFailure
import BuildHarvest.Proofs.ExactImage
import BuildHarvest.Proofs.FailedDownloads
import BuildHarvest.Proofs.Feed
import BuildHarvest.Proofs.Staleness
import BuildHarvest.Proofs.Verdict
import BuildHarvest.Proofs.ArtifactUrl
import BuildHarvest.Proofs.Agreement
import BuildHarvest.Proofs.Independence
import BuildHarvest.Proofs.Frame
import BuildHarvest.Proofs.Survival
import BuildHarvest.Proofs.DirectoryUrl
import BuildHarvest.Proofs.Flags
import BuildHarvest.Proofs.NameRecovery
import BuildHarvest.Proofs.Making
import BuildHarvest.Proofs.Obstruction
import BuildHarvest.Proofs.Clearing
import BuildHarvest.Proofs.Soundness
import BuildHarvest.Proofs.Order
import BuildHarvest.Proofs.Rereading
import BuildHarvest.Proofs.TwoPaths
import BuildHarvest.Proofs.Requests
import BuildHarvest.Proofs.Containment
import BuildHarvest.Proofs.Separators
import BuildHarvest.Proofs.Refusals
import BuildHarvest.Proofs.FurtherBuilds
import BuildHarvest.Proofs.Rendering
import BuildHarvest.Proofs.Telling
