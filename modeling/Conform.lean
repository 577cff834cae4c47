import Conform.Schema.Check
import Conform.Schema.Equality
import Conform.Main
import Conform.Proofs.Schema.Walk
import Conform.Proofs.Schema.Verdict
import Conform.Proofs.CheckFile
import Conform.Proofs.Location
import Conform.Proofs.Schema.Judgement
import Conform.Proofs.Schema.Looser
import Conform.Proofs.Number.Rounding
import Conform.Proofs.Schema.Validate
import Conform.Proofs.Schema.Faults
import Conform.Proofs.Value.SameKey
import Conform.Proofs.Schema.Sameness
import Conform.Proofs.Loader
import Conform.Proofs.Source.Positions
import Conform.Proofs.Source.Kept
import Conform.Proofs.Json.Loading
import Conform.Proofs.Report.Annotations
import Conform.Proofs.CommandLine.Output
import Conform.Proofs.CommandLine.ExitCode
import Conform.Proofs.Value.Reflexivity
import Conform.Proofs.Value.Endless
import Conform.Proofs.Value.Structural
import Conform.Proofs.Schema.Bounds
import Conform.Proofs.Report.Lossless
import Conform.Proofs.Schema.Candidates
import Conform.Proofs.Source.Closest
import Conform.Proofs.Source.Aliases
import Conform.Proofs.Schema.Fields
import Conform.Proofs.Source.Root
import Conform.Proofs.Report.Shape
import Conform.Proofs.Source.Drawn
import Conform.Proofs.File.Search
import Conform.Proofs.Reference
import Conform.Proofs.Schema.Pattern
