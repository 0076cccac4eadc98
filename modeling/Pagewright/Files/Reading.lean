import Pagewright.Files.Path

/-!
# What reading a file gives

A path leads to nothing, to a folder, or to a file, which is a sequence of bytes. A path with a name
that is too long cannot be looked up at all.
-/

namespace Pagewright

/-- What a path leads to. -/
inductive FileState where
  | missing
  | longName
  | folder
  | bytes (content : List UInt8)
deriving DecidableEq

end Pagewright
