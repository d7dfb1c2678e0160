import AsmTarget.Emission.Action
import AsmTarget.Event
import AsmTarget.FileTree
import AsmTarget.Json.Decode
import AsmTarget.Main
import AsmTarget.Proofs.Alias.Translation
import AsmTarget.Proofs.Command.Dialect
import AsmTarget.Proofs.Command.Listing
import AsmTarget.Proofs.Command.Refusal
import AsmTarget.Proofs.Descriptor.Prefix
import AsmTarget.Proofs.Emission.Conflict
import AsmTarget.Proofs.Emission.Order
import AsmTarget.Proofs.Expr.Folding
import AsmTarget.Proofs.Fingerprint.Text
import AsmTarget.Proofs.Flavor.Format
import AsmTarget.Proofs.Frame.Entry
import AsmTarget.Proofs.PointerEncoding.Combination
import AsmTarget.Proofs.Section.Flags
import AsmTarget.Proofs.Settings.Document
import AsmTarget.Proofs.Settings.Source
import AsmTarget.Proofs.Triple.Normal
