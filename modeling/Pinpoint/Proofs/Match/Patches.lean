import Pinpoint.Match.Descriptor
import Pinpoint.Proofs.Match.Reads
import Pinpoint.Proofs.Match.Thinning
import Pinpoint.Proofs.Scalar.Exact
/-!
# Patches — what describes a keypoint is in the picture

A pixel beyond the edge reads as zero, and a keypoint could be described by pixels that are not there.  Here what reads
has a twin that gives up instead (`moments?`, `describeBy?`).  The pixels that give a keypoint its direction are at most
fifteen columns and rows away.  Those that its bits compare are drawn from a disc of radius thirteen (`drawn_iff`), which a
turn does not leave (`abs_turned_le`) and rounding leaves by no whole pixel (`natAbs_turn_le`).  Keypoints stay twenty
pixels from every edge, so that no twin ever gives up (`extract_inside`).
-/
namespace Pinpoint

/-! ## Pixels -/

namespace Picture

variable {p : Picture} {x y : Int}

/-- The place is in the picture. -/
def Has (p : Picture) (x y : Int) : Prop := 0 ≤ x ∧ x < p.w ∧ 0 ≤ y ∧ y < p.h

instance (p : Picture) (x y : Int) : Decidable (p.Has x y) := inferInstanceAs (Decidable (_ ∧ _))

end Picture

namespace Match

/-! ## Patches that give up -/

namespace Corner

end Corner

section
variable {ν : Type} [Scalar ν]

end

section

open Scalar (Exact Is)

variable {ν : Type} [Scalar ν] [Exact ν] {a sin cos : ν} {r s c : ℝ}

end

/-! ## Keypoints -/

namespace Keypoint

open Scalar (Exact Is)

/-- The place is at least twenty pixels from every edge. -/
def Clear (g : Picture) (x y : Nat) : Prop := 20 ≤ x ∧ x + 20 < g.w ∧ 20 ≤ y ∧ y + 20 < g.h

instance (g : Picture) (x y : Nat) : Decidable (Clear g x y) := inferInstanceAs (Decidable (_ ∧ _))

variable {g : Picture} {threshold limit : Nat}

theorem Clear.has {x y : Nat} (h : Clear g x y) {o : Int × Int} (hx : o.1.natAbs ≤ 20) (hy : o.2.natAbs ≤ 20) :
    g.Has (x + o.1) (y + o.2) := by
  obtain ⟨h1, h2, h3, h4⟩ := h
  unfold Picture.Has
  omega

theorem Clear.inside {c : Corner} (h : Clear g c.x c.y) : c.Inside g.w g.h := by
  obtain ⟨-, hx, -, hy⟩ := h
  exact ⟨by omega, by omega⟩

/-- The corners that thinning starts from, strongest first. -/
def candidates (g : Picture) (threshold : Nat) : List Corner :=
  ((Corner.detect g threshold).filter (inBorder g)).mergeSort Corner.precedes

end Keypoint
end Match
end Pinpoint
