import SourceSurvey.Text.Blank
import SourceSurvey.Decimal.Shortest
import SourceSurvey.Survey
import SourceSurvey.Config
import SourceSurvey.ParsedFile
import SourceSurvey.Summary
import SourceSurvey.Proofs.Survey.Calls
import SourceSurvey.Proofs.Survey.Totals
import SourceSurvey.Proofs.Survey.Faults
import SourceSurvey.Proofs.Walk.Order
import SourceSurvey.Proofs.Walk.Listing
import SourceSurvey.Proofs.Exclusion.LastMatch
import SourceSurvey.Proofs.Exclusion.Roots
import SourceSurvey.Proofs.Glob.Names
import SourceSurvey.Proofs.Exclusion.Lines
import SourceSurvey.Proofs.Exclusion.Names
import SourceSurvey.Proofs.Exclusion.Combining
import SourceSurvey.Proofs.Glob.Opening
import SourceSurvey.Proofs.Exclusion.Here
import SourceSurvey.Proofs.Exclusion.Directories
import SourceSurvey.Proofs.Exclusion.Malformed
import SourceSurvey.Proofs.Glob.Wildcards
import SourceSurvey.Proofs.Exclusion.Wildcards
import SourceSurvey.Proofs.FileTree.Directories
import SourceSurvey.Proofs.Walk.Descent
import SourceSurvey.Proofs.Walk.Termination
import SourceSurvey.Proofs.Walk.Sights
import SourceSurvey.Proofs.FileTree.Part
import SourceSurvey.Proofs.Walk.Unseen
import SourceSurvey.Proofs.Walk.Failures
import SourceSurvey.Proofs.Parsing.Trees
import SourceSurvey.Proofs.Parsing.Automaton
import SourceSurvey.Proofs.Parsing.Stack
import SourceSurvey.Proofs.Parsing.Ways
import SourceSurvey.Proofs.Parsing.Reducing
import SourceSurvey.Proofs.Parsing.Recovery
import SourceSurvey.Proofs.Parsing.Parser
import SourceSurvey.Proofs.SyntaxTree.Errors
import SourceSurvey.Proofs.SyntaxTree.Preorder
import SourceSurvey.Proofs.Json.RoundTrip
import SourceSurvey.Proofs.Settings.Overlay
import SourceSurvey.Proofs.SyntaxTree.SourceOrder
import SourceSurvey.Proofs.Survey.FileTypes
import SourceSurvey.Proofs.Survey.AllTypes
import SourceSurvey.Proofs.Settings.Canonical
import SourceSurvey.Proofs.Walk.Contents
import SourceSurvey.Proofs.Walk.FileNames
