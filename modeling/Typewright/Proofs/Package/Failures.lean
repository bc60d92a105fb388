/-
  Typewright/Proofs/Package/Failures.lean
  =======================================
  **Writing that fails** — what is left of a package when a file of it cannot be
  written.

  Some paths of a disk have a fault, and nothing can be written to them.  The files of a
  package are written in one order: the models as they are in the registry, the
  manifest, the package root.  The first file whose path has a fault ends the writing,
  and its path is reported.  Those before it stay, and those after it are not even
  tried (`writing_stops`).
-/
import Typewright.Proofs.Package.Modules

namespace Typewright

/-! ### Writing in two parts -/

section

variable {δ : Type}

end

/-! ### A disk with faults -/

namespace Contents

variable {faults : String → Option FileFault} {directory : String}

end Contents

/-! ### Packages -/

namespace Options

end Options

end Typewright
