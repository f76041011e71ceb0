import StaticInjection.Main
import StaticInjection.Files.Tree
import StaticInjection.Proofs.Plan.Flatten
import StaticInjection.Proofs.Emission.Reference
import StaticInjection.Proofs.Emission.Inputs
import StaticInjection.Proofs.Emission.Members
import StaticInjection.Proofs.Build.Schedule
import StaticInjection.Proofs.Wire.Selection
import StaticInjection.Proofs.Output.Directory
import StaticInjection.Proofs.Build.Cycle
import StaticInjection.Proofs.Emission.Cell
import StaticInjection.Proofs.Emission.Shutdown
import StaticInjection.Proofs.Model.Arrangement
import StaticInjection.Proofs.Wire.Privacy
import StaticInjection.Proofs.Output.Replacement
import StaticInjection.Proofs.Build.Reordered
import StaticInjection.Proofs.Wire.Answer
import StaticInjection.Proofs.Build.Rounds
import StaticInjection.Proofs.Declaration.RoundTrip
import StaticInjection.Proofs.Plan.Construction
import StaticInjection.Proofs.Build.Order
import StaticInjection.Proofs.Model.Collision
import StaticInjection.Proofs.Naming.Identifier
import StaticInjection.Proofs.Build.Identifiers
import StaticInjection.Proofs.Graph.ShortestCycle
import StaticInjection.Proofs.Model.Ancestry
import StaticInjection.Proofs.Diagnostic.Sorting
import StaticInjection.Proofs.Build.Line
import StaticInjection.Proofs.Plan.Counted
import StaticInjection.Proofs.Emission.Capture
