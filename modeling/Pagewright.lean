import Pagewright.Editor.Edits
import Pagewright.Main
import Pagewright.Proofs.Conforming
import Pagewright.Proofs.Expansion
import Pagewright.Proofs.Layouts
import Pagewright.Proofs.Compiling
import Pagewright.Proofs.Imports
import Pagewright.Proofs.Bindings
import Pagewright.Proofs.Escaping
import Pagewright.Proofs.Indenting
import Pagewright.Proofs.Pieces
import Pagewright.Proofs.Values
import Pagewright.Proofs.Orphans
import Pagewright.Proofs.Identifiers
import Pagewright.Proofs.Tables
import Pagewright.Proofs.Manifests
import Pagewright.Proofs.Bundles
import Pagewright.Proofs.Payloads
import Pagewright.Proofs.Pruning
import Pagewright.Proofs.Notices
import Pagewright.Proofs.Forest
import Pagewright.Proofs.Checking
import Pagewright.Proofs.Totality
import Pagewright.Proofs.Installing
import Pagewright.Proofs.ElementIds
import Pagewright.Proofs.Resolving
import Pagewright.Proofs.Writing
import Pagewright.Proofs.Settings
import Pagewright.Proofs.Reading
import Pagewright.Proofs.Grammar
import Pagewright.Proofs.Addressing
import Pagewright.Proofs.Literals
import Pagewright.Proofs.Naming
import Pagewright.Proofs.Projecting
import Pagewright.Proofs.Cutting
import Pagewright.Proofs.Searching
import Pagewright.Proofs.Merging
import Pagewright.Proofs.Grouping
import Pagewright.Proofs.Cells
import Pagewright.Proofs.Sessions
import Pagewright.Proofs.Amounts
