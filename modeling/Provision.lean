import Provision.Main
import Provision.Proofs.Agreement
import Provision.Proofs.BinaryData
import Provision.Proofs.BlockLines
import Provision.Proofs.CatalogText
import Provision.Proofs.Checking
import Provision.Proofs.Compilable
import Provision.Proofs.Course
import Provision.Proofs.Delivery
import Provision.Proofs.Documents
import Provision.Proofs.Drives
import Provision.Proofs.Emission
import Provision.Proofs.Excerpt
import Provision.Proofs.FewDigits
import Provision.Proofs.Files
import Provision.Proofs.FirstMentions
import Provision.Proofs.Gates
import Provision.Proofs.Headers
import Provision.Proofs.Linking
import Provision.Proofs.Listing
import Provision.Proofs.LiveValues
import Provision.Proofs.Loading
import Provision.Proofs.Lookup
import Provision.Proofs.Matched
import Provision.Proofs.MissingEntry
import Provision.Proofs.Nesting
import Provision.Proofs.Override
import Provision.Proofs.Partition
import Provision.Proofs.ReadBack
import Provision.Proofs.Readers
import Provision.Proofs.Refusals
import Provision.Proofs.RemovalScript
import Provision.Proofs.Report
import Provision.Proofs.Section
import Provision.Proofs.TargetDocument
import Provision.Proofs.TaskTable
import Provision.Proofs.Titles
import Provision.Proofs.UserDrive
import Provision.Proofs.Verbatim
import Provision.Proofs.Warnings
import Provision.Script.Buffer
