import Backchain.Diagnostic.Report
import Backchain.Proofs.AttemptBudget
import Backchain.Proofs.BinderRenaming
import Backchain.Proofs.CheckInvariance
import Backchain.Proofs.FingerprintEquality
import Backchain.Proofs.Idempotence
import Backchain.Proofs.LocalNames
import Backchain.Proofs.RecursiveWalk
import Backchain.Proofs.RulebookExtension
import Backchain.Proofs.SearchCompleteness
import Backchain.Proofs.SearchCounters
import Backchain.Proofs.SearchTreeSize
import Backchain.Proofs.SettingsDocuments
import Backchain.Proofs.SolveSteps
import Backchain.Proofs.SourcePositions
import Backchain.Proofs.StampGrowth
import Backchain.Proofs.Subgoals
import Backchain.Proofs.TreeListings
import Backchain.Proofs.UnaryArithmetic
import Backchain.Proofs.UngroundedRules
import Backchain.Proofs.WidthAndColor
