import Multitape.Configuration
import Multitape.Description.Layout
import Multitape.Description.Printer
import Multitape.Machine.History
import Multitape.Main
import Multitape.Tape.History
import Multitape.Proofs.Assembly
import Multitape.Proofs.MachineHistory
import Multitape.Proofs.MachineInvariant
import Multitape.Proofs.TextbookMachine
import Multitape.Proofs.DescriptionReader
import Multitape.Proofs.DescriptionFormat
import Multitape.Proofs.Redeclaration
import Multitape.Proofs.DescriptionRoundTrip
import Multitape.Proofs.MatchedPairs
import Multitape.Proofs.TallyTape
import Multitape.Proofs.Defects
import Multitape.Proofs.Tabulation
import Multitape.Proofs.Erasure
import Multitape.Proofs.HaltCertificate
import Multitape.Proofs.EvaluationLoop
import Multitape.Proofs.StepLimit
import Multitape.Proofs.Observation
import Multitape.Proofs.WarningMeanings
import Multitape.Proofs.WildcardExpansion
import Multitape.Proofs.RuleOrder
import Multitape.Proofs.Lockstep
import Multitape.Proofs.InputReach
import Multitape.Proofs.Translation
import Multitape.Proofs.TranslatedRuns
import Multitape.Proofs.Rewording
import Multitape.Proofs.StateOrder
import Multitape.Proofs.InputIndependence
import Multitape.Proofs.DirectoryRuns
import Multitape.Proofs.DeclarationOrder
import Multitape.Proofs.Recurrence
import Multitape.Proofs.InputLoading
import Multitape.Proofs.HeadPosition
import Multitape.Proofs.EndlessTape
import Multitape.Proofs.VisitedCells
import Multitape.Proofs.SummaryRoundTrip
import Multitape.Proofs.RulePrefixes
import Multitape.Proofs.MalformedRules
import Multitape.Proofs.DirectoryListing
import Multitape.Proofs.TypedInputs
import Multitape.Proofs.BinaryWords
import Multitape.Proofs.IdleTape
import Multitape.Proofs.DocumentRoundTrip
import Multitape.Proofs.TapeByTape
import Multitape.Proofs.HeadViews
