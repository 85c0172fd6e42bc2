import CrossBuild.Fixture
import CrossBuild.Main
import CrossBuild.Rehearsal
import CrossBuild.Proofs.Backend.Command
import CrossBuild.Proofs.Backend.Verdict
import CrossBuild.Proofs.Path.Components
import CrossBuild.Proofs.Path.Parent
import CrossBuild.Proofs.Backend.LibrarySearch
import CrossBuild.Proofs.Backend.ProgramPath
import CrossBuild.Proofs.Scenario.LastOutput
import CrossBuild.Proofs.Scenario.Verification
import CrossBuild.Proofs.Backend.Repetition
import CrossBuild.Proofs.Build.Arguments
import CrossBuild.Proofs.Build.ProjectFile
import CrossBuild.Proofs.Settings.Layers
import CrossBuild.Proofs.Scenario.Preparation
import CrossBuild.Proofs.Files.Directory
import CrossBuild.Proofs.Scenario.Workdir
import CrossBuild.Proofs.CommandLine.Availability
import CrossBuild.Proofs.Backend.ArtifactPath
import CrossBuild.Proofs.Staging.Fixture
import CrossBuild.Proofs.CommandLine.ExitStatus
import CrossBuild.Proofs.Xcode.Insertion
import CrossBuild.Proofs.Settings.Stack
import CrossBuild.Proofs.Text.Cut
import CrossBuild.Proofs.Text.Words
import CrossBuild.Proofs.Backend.Announcement
import CrossBuild.Proofs.VisualStudio.ProjectCount
import CrossBuild.Proofs.Backend.EmptyTool
import CrossBuild.Proofs.Backend.ToolPath
import CrossBuild.Proofs.Format.Filter
import CrossBuild.Proofs.Backend.DistinctPaths
import CrossBuild.Proofs.Scenario.Generator
import CrossBuild.Proofs.Backend.Rejection
import CrossBuild.Proofs.Scenario.Makefile
import CrossBuild.Proofs.Scenario.Assertion
import CrossBuild.Proofs.Staging.Relocation
