import Unbundle.EntryPoint
import Unbundle.Main
import Unbundle.Proofs.ByteOrderMark
import Unbundle.Proofs.CarriedRows
import Unbundle.Proofs.Complaints
import Unbundle.Proofs.CrashSafety
import Unbundle.Proofs.Decisions
import Unbundle.Proofs.DirectiveLines
import Unbundle.Proofs.DirectiveSearch
import Unbundle.Proofs.DryRun
import Unbundle.Proofs.Endings
import Unbundle.Proofs.ExitCodes
import Unbundle.Proofs.FailedBackup
import Unbundle.Proofs.FirstCome
import Unbundle.Proofs.Guard
import Unbundle.Proofs.Histories
import Unbundle.Proofs.Layers
import Unbundle.Proofs.LineEndings
import Unbundle.Proofs.Literals
import Unbundle.Proofs.Marks
import Unbundle.Proofs.ModulePath
import Unbundle.Proofs.PartialExtraction
import Unbundle.Proofs.PlannedFiles
import Unbundle.Proofs.Quoting
import Unbundle.Proofs.Reports
import Unbundle.Proofs.Rerun
import Unbundle.Proofs.RowLayout
import Unbundle.Proofs.SettingsSection
import Unbundle.Proofs.SoundTrees
import Unbundle.Proofs.SpanRemoval
import Unbundle.Proofs.Stripping
import Unbundle.Proofs.TextFiles
import Unbundle.Proofs.TreeCursor
