import Mathlib.Data.List.Forall2
import GuidAudit.Proofs.Gate
import GuidAudit.Proofs.Shadowing
import GuidAudit.Proofs.Writing

namespace GuidAudit

variable {σ : Type} [FileSystem σ] {w : σ} {keys more : KeySet} {file key root : String}
variable {p : Property} {found : List Property} {options : Options} {report : Report}

section Lists

variable {α β : Type} {f g : α → Option β}

end Lists

/-- The lists into which an audit sorts the members of a file. -/
inductive Bucket where
  | valid
  | invalid
  | suppressed
  deriving DecidableEq, Repr

/-- The members in one of the lists. -/
def FileAudit.members (audit : FileAudit) : Bucket → List Property
  | .valid => audit.valid
  | .invalid => audit.invalid.map (·.property)
  | .suppressed => audit.suppressed.map (·.property)

namespace Property

variable (h : ∀ k ∈ keys, k ∈ more)
include h

end Property

section Audits

variable (h : ∀ k ∈ keys, k ∈ more)
include h

end Audits

section Exit

variable {other : Option String}

end Exit

end GuidAudit
