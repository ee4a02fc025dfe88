import CompileOrder.DesignUnit.Extractor
import CompileOrder.Template
import CompileOrder.Text.Utf8
import CompileOrder.Corpus.Selection
import CompileOrder.Corpus.Closure
import CompileOrder.FileGraph.BuildOrder
import CompileOrder.Failure
import CompileOrder.Listing
import CompileOrder.Listing.Json
import CompileOrder.Project.Decode
import CompileOrder.Project.Load
import CompileOrder.Main
import CompileOrder.Proofs.CommandLine.Routing
import CompileOrder.Proofs.Corpus.Closure
import CompileOrder.Proofs.Corpus.Findings
import CompileOrder.Proofs.Corpus.Lookup
import CompileOrder.Proofs.Corpus.Narrowing
import CompileOrder.Proofs.Corpus.Restriction
import CompileOrder.Proofs.Corpus.Selection
import CompileOrder.Proofs.Corpus.Targets
import CompileOrder.Proofs.DesignUnit.Annotation
import CompileOrder.Proofs.DesignUnit.Boundaries
import CompileOrder.Proofs.DesignUnit.CanonicalForm
import CompileOrder.Proofs.DesignUnit.CaseInsensitivity
import CompileOrder.Proofs.DesignUnit.ClauseGrammar
import CompileOrder.Proofs.DesignUnit.Concatenation
import CompileOrder.Proofs.DesignUnit.Ending
import CompileOrder.Proofs.DesignUnit.Faithful
import CompileOrder.Proofs.DesignUnit.Feeding
import CompileOrder.Proofs.DesignUnit.Instantiation
import CompileOrder.Proofs.DesignUnit.Layout
import CompileOrder.Proofs.DesignUnit.Origin
import CompileOrder.Proofs.DesignUnit.Printing
import CompileOrder.Proofs.DesignUnit.Renumbering
import CompileOrder.Proofs.DesignUnit.RoundTrip
import CompileOrder.Proofs.DesignUnit.Spans
import CompileOrder.Proofs.DesignUnit.Visibility
import CompileOrder.Proofs.FileGraph.BuildOrder
import CompileOrder.Proofs.FileGraph.ChainLevels
import CompileOrder.Proofs.FileGraph.ClosureOrder
import CompileOrder.Proofs.FileGraph.Cycles
import CompileOrder.Proofs.FileGraph.Layering
import CompileOrder.Proofs.FileGraph.Links
import CompileOrder.Proofs.FileGraph.Propagation
import CompileOrder.Proofs.FileGraph.Records
import CompileOrder.Proofs.FileGraph.SameUnits
import CompileOrder.Proofs.FileGraph.StrategyAgreement
import CompileOrder.Proofs.FileGraph.Stratification
import CompileOrder.Proofs.FileGraph.Units
import CompileOrder.Proofs.FileTree.Changes
import CompileOrder.Proofs.FileTree.Collection
import CompileOrder.Proofs.FileTree.Places
import CompileOrder.Proofs.FileTree.Resolution
import CompileOrder.Proofs.Graph.Condensation
import CompileOrder.Proofs.Graph.Reachability
import CompileOrder.Proofs.Instance.Display
import CompileOrder.Proofs.Instance.Openings
import CompileOrder.Proofs.Instance.Shapes
import CompileOrder.Proofs.Instance.Statements
import CompileOrder.Proofs.Output.Archive
import CompileOrder.Proofs.Path.Components
import CompileOrder.Proofs.Plan.Files
import CompileOrder.Proofs.Plan.Groups
import CompileOrder.Proofs.Project.Merging
import CompileOrder.Proofs.Request.Display
import CompileOrder.Proofs.Request.Grammar
import CompileOrder.Proofs.Runs
import CompileOrder.Proofs.Template.SinglePass
import CompileOrder.Proofs.Text.Case
import CompileOrder.Proofs.Text.Order
import CompileOrder.Proofs.Text.Split
import CompileOrder.Proofs.Text.Trim
import CompileOrder.Proofs.Token.Adjacency
import CompileOrder.Proofs.Token.Case
import CompileOrder.Proofs.Token.Comments
import CompileOrder.Proofs.Token.Lexemes
import CompileOrder.Proofs.Token.Relexing
import CompileOrder.Proofs.Token.Scanning
