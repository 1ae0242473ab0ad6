import Pinpoint.Proofs.Search.Steps
/-!
# Questions — what a search asks of the world

Before its end a search leaves the stop signal as it is, and it asks for matching only where it has a picture of the
element to match (`search_mayAsk`).  That is so in every world; what it asks beyond that depends on the replies.
-/
namespace Pinpoint
namespace Locator

open Dialogue

/-- **The questions of a search** before its end: matchers are asked only where matching may be. -/
def MayAsk (matching : Bool) : Query → Prop
  | .clearStop => False
  | .gather .. => matching = true
  | _          => True

variable {ν α : Type} [Scalar ν] [Scalar α] {c : LocatorSettings ν α} {e : Element} {data : String} {p : Picture}
  {shot : Capture α} {reference : Option Picture} {matching : Bool}

theorem MayAsk.mono {m : Bool} (h : m = true → matching = true) : ∀ q, MayAsk m q → MayAsk matching q
  | .stopped, _     => trivial
  | .letters, _     => trivial
  | .poll _, _      => trivial
  | .gather .., hq  => h hq

theorem gather_mayAsk : AsksOnly (MayAsk reference.isSome) (gather c e data p reference) := by
  refine AsksOnly.bind trivial fun q => ?_
  cases reference with
  | none =>
    refine AsksOnly.bind (asksOnly_query trivial) fun j => AsksOnly.bind trivial fun v => ?_
    split <;> trivial
  | some r =>
    refine AsksOnly.bind (asksOnly_query rfl) fun g => AsksOnly.bind trivial fun v => ?_
    dsimp only
    split <;> trivial

theorem choose_mayAsk (l : List Candidate) : AsksOnly (MayAsk matching) (choose c e data p l) := by
  unfold choose
  split
  · trivial
  · trivial
  · refine AsksOnly.bind (asksOnly_query trivial) fun letters => AsksOnly.bind ?_ fun v => ?_
    · unfold Quorum.select
      split
      · trivial
      · exact AsksOnly.bind trivial fun q => AsksOnly.bind (asksOnly_query trivial) fun j => trivial
    · split <;> trivial

theorem detect_mayAsk : AsksOnly (MayAsk reference.isSome) (detect c e data p reference) :=
  gather_mayAsk.bind fun _ => (choose_mayAsk _).bind fun _ => trivial

theorem zoomIn_mayAsk : AsksOnly (MayAsk e.reference?.isSome) (zoomIn c e data p) := by
  refine AsksOnly.bind (gather_mayAsk.mono (MayAsk.mono fun h => ?_)) fun l => ?_
  · split at h
    · exact h
    · cases h
  · split
    · trivial
    · dsimp only [lookCloser]
      -- Whichever closeup it is, if there is one at all.
      generalize Zoom.look c.zoom p _ = closer
      refine AsksOnly.bind trivial fun part => ?_
      refine AsksOnly.bind (detect_mayAsk.mono (MayAsk.mono fun h => ?_)) fun f => trivial
      split at h
      · rwa [Option.isSome_map] at h
      · cases h

/-- **A search asks for matching only where it has a picture to match**, and leaves the signal as it is. -/
theorem search_mayAsk : AsksOnly (MayAsk e.reference?.isSome) (search c e data shot) := by
  rw [search_eq]
  refine ⟨trivial, fun (stopped : Bool) => ?_⟩
  cases stopped with
  | true => trivial
  | false =>
    refine AsksOnly.bind ?_ fun _ => trivial
    split
    · exact zoomIn_mayAsk
    · exact detect_mayAsk

end Locator
end Pinpoint
