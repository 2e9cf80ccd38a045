import ClusterConfig.Main
import ClusterConfig.Session
import ClusterConfig.Json.Parse
import ClusterConfig.Proofs.Filling
import ClusterConfig.Proofs.Sources
import ClusterConfig.Proofs.Asking
import ClusterConfig.Proofs.Stages
import ClusterConfig.Proofs.Precedence
import ClusterConfig.Proofs.Diagnostics
import ClusterConfig.Proofs.Documents
import ClusterConfig.Proofs.Failures
import ClusterConfig.Proofs.Readers
import ClusterConfig.Proofs.History
import ClusterConfig.Proofs.Lookups
import ClusterConfig.Proofs.LongNumbers
import ClusterConfig.Proofs.UnusableFiles
import ClusterConfig.Proofs.Stability
import ClusterConfig.Proofs.Likeness
import ClusterConfig.Proofs.Secrecy
import ClusterConfig.Proofs.Numerals
import ClusterConfig.Proofs.JsonReading
import ClusterConfig.Proofs.CommandLines
import ClusterConfig.Proofs.Environments
import ClusterConfig.Proofs.Inspector
import ClusterConfig.Proofs.Disabled
import ClusterConfig.Proofs.Referents
import ClusterConfig.Proofs.Accessors
import ClusterConfig.Proofs.Renderings
import ClusterConfig.Proofs.Addresses
import ClusterConfig.Proofs.Merges
import ClusterConfig.Proofs.Reports
import ClusterConfig.Proofs.Provenance
import ClusterConfig.Proofs.Overwriting
import ClusterConfig.Proofs.Collected
import ClusterConfig.Proofs.Builders
import ClusterConfig.Proofs.Encodings
import ClusterConfig.Proofs.Reshaping
import ClusterConfig.Proofs.Trimming
import ClusterConfig.Proofs.MountedAccounts
import ClusterConfig.Proofs.Rewriting
import ClusterConfig.Proofs.Arguments
import ClusterConfig.Proofs.Verbosity
import ClusterConfig.Proofs.UnknownNames
import ClusterConfig.Proofs.CommaLists
import ClusterConfig.Proofs.WrittenNumbers
