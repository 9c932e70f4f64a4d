import ControlPlane.Proofs.Attribute.Filling
import ControlPlane.Proofs.Text.Percent
import ControlPlane.Proofs.Text.Split

namespace ControlPlane

example : pathPieces none "/\x7ba\x7bb\x7d\x7bc".toList =
    [.literal ['/'], .slot "a\x7bb", .literal ['{', 'c']] := rfl

namespace PathPiece

def own : PathPiece → List Char
  | .literal text => text
  | .slot _ => []

end PathPiece

namespace Schema

variable {s : Schema} {values : Dict Value} {name : String}

end Schema

end ControlPlane
