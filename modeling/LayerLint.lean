import LayerLint.Text.Blank
import LayerLint.Text.Lowercase
import LayerLint.Text.Search
import LayerLint.Text.Line
import LayerLint.Json.Value
import LayerLint.Symbols
import LayerLint.Snapshot
import LayerLint.Layer
import LayerLint.Descriptor
import LayerLint.Scan
import LayerLint.Metrics
import LayerLint.Rule
import LayerLint.Catalog
import LayerLint.Analyzer
import LayerLint.ConfigFile
import LayerLint.Discovery
import LayerLint.ConfigSearch
import LayerLint.Main
import LayerLint.Proofs.Restriction
import LayerLint.Proofs.Determinism
import LayerLint.Proofs.Lexing
import LayerLint.Proofs.Grammar
import LayerLint.Proofs.Records
import LayerLint.Proofs.RoundTrip
import LayerLint.Proofs.Rewriting
import LayerLint.Proofs.Messages
import LayerLint.Proofs.Answers
import LayerLint.Proofs.Faults
import LayerLint.Proofs.Findings
import LayerLint.Proofs.Comparison
import LayerLint.Proofs.Limits
import LayerLint.Proofs.Resolution
import LayerLint.Proofs.Renaming
import LayerLint.Proofs.Unassigned
import LayerLint.Proofs.Histories
import LayerLint.Proofs.Validity
import LayerLint.Proofs.SingleLines
import LayerLint.Proofs.ConfigText
import LayerLint.Proofs.Offsets
import LayerLint.Proofs.Reporting
import LayerLint.Proofs.Sizes
import LayerLint.Proofs.Entities
import LayerLint.Proofs.Keywords
import LayerLint.Proofs.LiteralMatches
import LayerLint.Proofs.Contents
import LayerLint.Proofs.Imports
import LayerLint.Proofs.Paths
import LayerLint.Proofs.Placeholders
import LayerLint.Proofs.SortKeys
import LayerLint.Proofs.Couplings
import LayerLint.Proofs.Discovering
import LayerLint.Proofs.Traversal
