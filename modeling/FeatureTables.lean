import FeatureTables.Configuration
import FeatureTables.Connection.Memory
import FeatureTables.Connection.Scripted
import FeatureTables.Operation
import FeatureTables.Proofs.Names
import FeatureTables.Proofs.Reading
import FeatureTables.Proofs.Passage
import FeatureTables.Proofs.Effects
import FeatureTables.Proofs.Bootstrap
import FeatureTables.Proofs.Coexistence
import FeatureTables.Proofs.Duplication
import FeatureTables.Proofs.Indexing
import FeatureTables.Proofs.Recovery
import FeatureTables.Proofs.Convergence
import FeatureTables.Proofs.Ledger
import FeatureTables.Proofs.Interference
import FeatureTables.Proofs.Concurrency
import FeatureTables.Proofs.Paths
import FeatureTables.Proofs.Release
import FeatureTables.Proofs.Account
import FeatureTables.Proofs.Attribution
import FeatureTables.Proofs.Discipline
import FeatureTables.Proofs.Reporting
import FeatureTables.Proofs.Verbs
import FeatureTables.Proofs.Plan
import FeatureTables.Proofs.Addition
import FeatureTables.Proofs.Agreement
import FeatureTables.Proofs.Lineage
import FeatureTables.Proofs.Subclasses
import FeatureTables.Proofs.Confinement
import FeatureTables.Proofs.IndexNames
import FeatureTables.Proofs.Declaration
import FeatureTables.Proofs.Features
import FeatureTables.Proofs.Bounds
import FeatureTables.Proofs.Decoders
import FeatureTables.Proofs.Curves
import FeatureTables.Proofs.Codes
import FeatureTables.Proofs.Numerals
import FeatureTables.Proofs.References
import FeatureTables.Proofs.Paging
import FeatureTables.Proofs.Buffers
import FeatureTables.Proofs.Determination
import FeatureTables.Proofs.Undoing
import FeatureTables.Proofs.Quoting
