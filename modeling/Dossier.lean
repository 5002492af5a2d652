import Dossier.Json.Read
import Dossier.Json.Text
import Dossier.Entity.Typed
import Dossier.Chain.Collection
import Dossier.Proofs.Schema.Grammar
import Dossier.Proofs.Schema.Compatibility
import Dossier.Proofs.Schema.Fallback
import Dossier.Proofs.Entity.Writing
import Dossier.Proofs.Entity.Commuting
import Dossier.Proofs.Entity.Folding
import Dossier.Proofs.Entity.Frame
import Dossier.Proofs.Entity.Order
import Dossier.Proofs.Entity.Nesting
import Dossier.Proofs.Chain.Walk
import Dossier.Proofs.Chain.Lineage
import Dossier.Proofs.Chain.Collection
import Dossier.Proofs.Chain.Requests
import Dossier.Proofs.Chain.Local
import Dossier.Proofs.Chain.Descent
import Dossier.Proofs.Chain.Final
import Dossier.Proofs.Chain.Course
import Dossier.Proofs.Chain.Recurrence
import Dossier.Proofs.Chain.Order
import Dossier.Proofs.Chain.Vetting
import Dossier.Proofs.Chain.Depth
import Dossier.Proofs.Chain.Enlargement
import Dossier.Proofs.Chain.Merged
import Dossier.Proofs.Number.Rounding
import Dossier.Proofs.Schema.Enumeration
import Dossier.Proofs.Entity.Equality
import Dossier.Proofs.Schema.Construction
import Dossier.Proofs.Schema.Outline
import Dossier.Proofs.Schema.Admission
import Dossier.Proofs.Schema.Sharing
import Dossier.Proofs.Entity.Conversion
import Dossier.Proofs.Entity.ReadBack
import Dossier.Text.Cluster
import Dossier.Text.SnakeCase
