set_option autoImplicit false

namespace DirectoryServer.Text

def inRanges (ranges : List (Nat × Nat)) (code : Nat) : Bool :=
  ranges.any fun range => range.1 ≤ code && code ≤ range.2

end DirectoryServer.Text
