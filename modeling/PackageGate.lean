import PackageGate.Main
import PackageGate.Disk.Assembled
import PackageGate.Proofs.Validation.OwnTags
import PackageGate.Proofs.Checklist.RoundTrip
import PackageGate.Proofs.Schema.Report
import PackageGate.Proofs.Validation.Verdict
import PackageGate.Proofs.Validation.Order
import PackageGate.Proofs.CommandLine.Ending
import PackageGate.Proofs.Source.Stored
import PackageGate.Proofs.Validation.Unambiguous
import PackageGate.Proofs.Checklist.Invariant
import PackageGate.Proofs.CommandLine.Interference
import PackageGate.Proofs.Source.Defects
import PackageGate.Proofs.Source.Directive
import PackageGate.Proofs.Source.Bytes
import PackageGate.Proofs.Validation.SingleFile
import PackageGate.Proofs.Source.Joined
import PackageGate.Proofs.Validation.MissingFeatures
import PackageGate.Proofs.Validation.Table
import PackageGate.Proofs.CommandLine.BaseDirectory
import PackageGate.Proofs.Source.Balance
