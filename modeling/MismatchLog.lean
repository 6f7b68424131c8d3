import MismatchLog.Main
import MismatchLog.Proofs.Scan.Grouping
import MismatchLog.Proofs.Key.Leftmost
import MismatchLog.Proofs.Line.Marker
import MismatchLog.Proofs.Filtered.Partition
import MismatchLog.Proofs.Filtered.Idempotence
import MismatchLog.Proofs.Run.Summary
import MismatchLog.Proofs.Run.Effect
import MismatchLog.Proofs.Run.Failure
import MismatchLog.Proofs.Report.Records
import MismatchLog.Proofs.Report.Objects
import MismatchLog.Proofs.Report.Rescan
import MismatchLog.Proofs.Sink.Bounded
import MismatchLog.Proofs.Line.Terminated
import MismatchLog.Proofs.Scan.LineEnds
import MismatchLog.Proofs.Tally.Operations
import MismatchLog.Proofs.Tally.Merge
import MismatchLog.Proofs.CommandLine.Choices
import MismatchLog.Proofs.Scan.Concatenation
import MismatchLog.Proofs.Event.Tearing
import MismatchLog.Proofs.Session.Reporting
import MismatchLog.Proofs.Sink.Stages
import MismatchLog.Proofs.Report.Failure
import MismatchLog.Proofs.FileTree.Contents
import MismatchLog.Proofs.Run.Overwriting
import MismatchLog.Proofs.Run.InPlace
import MismatchLog.Proofs.Session.FullOutput
import MismatchLog.Proofs.Line.Decoding
import MismatchLog.Proofs.Settings.AllOrNothing
import MismatchLog.Proofs.Settings.Spellings
import MismatchLog.Proofs.Settings.UnknownTables
import MismatchLog.Proofs.Path.Dash
import MismatchLog.Proofs.Scan.Unpaired
import MismatchLog.Proofs.Run.Telling
import MismatchLog.Proofs.Session.Telling
import MismatchLog.Proofs.Settings.Standard
