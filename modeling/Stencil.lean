import Stencil.Options.Yaml
import Stencil.Proofs.Agreement
import Stencil.Proofs.Chain
import Stencil.Proofs.Completeness
import Stencil.Proofs.Errors
import Stencil.Proofs.Nesting
import Stencil.Proofs.Precedence.Walk
import Stencil.Proofs.Recursion
import Stencil.Proofs.Stability
import Stencil.Proofs.Termination
import Stencil.Proofs.Monotone
import Stencil.Proofs.Policies
import Stencil.Proofs.Renaming
import Stencil.Proofs.Occurrences
import Stencil.Proofs.Tokens
import Stencil.Proofs.Traversal
import Stencil.Proofs.Context
import Stencil.Proofs.Literals
import Stencil.Proofs.Declarations
import Stencil.Proofs.Duplicates
import Stencil.Proofs.Objects
import Stencil.Proofs.Prepared
import Stencil.Proofs.Recognition
import Stencil.Proofs.StrictStrings
