import CykChart.Derivation
import CykChart.Main
import CykChart.Recogniser
import CykChart.Proofs.LetterCase
import CykChart.Proofs.Building
import CykChart.Proofs.Requests
import CykChart.Proofs.Refusals
import CykChart.Proofs.Reachability
import CykChart.Proofs.Masks
import CykChart.Proofs.Recognition
import CykChart.Proofs.Lines
import CykChart.Proofs.TextFormat
import CykChart.Proofs.Pieces
import CykChart.Proofs.LineScanner
import CykChart.Proofs.Loading
import CykChart.Proofs.Lookups
import CykChart.Proofs.Queries
import CykChart.Proofs.Retention
import CykChart.Proofs.Rearranging
import CykChart.Proofs.Renaming
import CykChart.Proofs.PrintedLines
import CykChart.Proofs.RoundTrip
import CykChart.Proofs.Outlines
import CykChart.Proofs.Layouts
import CykChart.Proofs.CommandLines
import CykChart.Proofs.Effects
import CykChart.Proofs.Sessions
import CykChart.Proofs.Replaying
import CykChart.Proofs.Isolation
import CykChart.Proofs.Cells
import CykChart.Proofs.Sameness
import CykChart.Proofs.Reprinting
import CykChart.Proofs.DotReader
import CykChart.Proofs.Drawings
import CykChart.Proofs.Coverage
import CykChart.Proofs.Subwords
import CykChart.Proofs.Decoding
import CykChart.Proofs.TableReader
import CykChart.Proofs.Growth
import CykChart.Proofs.Addresses
import CykChart.Proofs.Summaries
import CykChart.Proofs.SingleFiles
import CykChart.Proofs.RulelessTexts
import CykChart.Proofs.SequenceBodies
import CykChart.Proofs.IntegerMasks
