import Clinker.Main
import Clinker.Proofs.Dependency.Importing
import Clinker.Proofs.Dependency.Notes
import Clinker.Proofs.Compile.DependencyFile
import Clinker.Proofs.Compile.Leftovers
import Clinker.Proofs.Setup.Establish
import Clinker.Proofs.Build.Linking
import Clinker.Proofs.Database.History
import Clinker.Proofs.Variables.Settings
import Clinker.Proofs.Configuration.Precedence
import Clinker.Proofs.Dependency.Spelling
import Clinker.Proofs.Environment.Listing
import Clinker.Proofs.Dependency.Beneath
import Clinker.Proofs.Database.ReadBack
import Clinker.Proofs.Dependency.ReportText
import Clinker.Proofs.Build.SameForm
import Clinker.Proofs.Encoding.Strict
import Clinker.Proofs.Setup.Selection
import Clinker.Proofs.Link.ShorterLine
import Clinker.Proofs.CommandLine.Composition
import Clinker.Proofs.Dependency.Core
import Clinker.Proofs.Configuration.Merging
import Clinker.Proofs.Dependency.Stable
import Clinker.Proofs.Diagnostic.FailedTool
import Clinker.Proofs.Environment.ToolVariables
import Clinker.Proofs.Dependency.MakeRules
import Clinker.Proofs.Path.Order
import Clinker.Proofs.Glob.Finding
import Clinker.Proofs.Glob.Files
