import Pinpoint.Fusion
import Pinpoint.Proofs.Box.Pixels
import Pinpoint.Proofs.Fusion.Collapse
/-!
# Tiers — fusion as set algebra on pixels

The detectors answer with lists of boxes and fusion works on lists of pairwise regions, but which tier it reaches and
where its candidates lie depends only on the sets of pixels that the three lists cover, and on which lists have boxes at
all (`fuse_tier_region`).  A tier is named for a region (`Tier.region`); fusion takes the first tier whose region holds
a pixel, and below agreement everything that was seen.

Fusion is opened twice, for the tier it reaches (`fuse_reached`) and for what that tier lists (`fuse_candidates`); the
rest is one case a tier.
-/
namespace Pinpoint
namespace Fusion

/-- **The pixels a tier stands for**, given those of the three detectors. -/
def Tier.region (v f t : Set (Int × Int)) : Tier → Set (Int × Int)
  | tripleAgreement      => v ∩ f ∩ t
  | visionAgreement      => v ∩ (f ∪ t)
  | rawUnion             => v ∪ f ∪ t
  | algorithmicAgreement => f ∩ t
  | algorithmicUnion     => f ∪ t
  | empty                => ∅

def Fused.covered (r : Fused) : Set (Int × Int) := Box.pixels (r.candidates.map (·.box))

theorem map_box_tag (s : Sources) (l : List Box) : (tag s l).map (·.box) = l := by
  simp [tag, Function.comp_def]

theorem pixels_collapse (l : List Candidate) :
    Box.pixels ((Candidate.collapse l).map (·.box)) = Box.pixels (l.map (·.box)) :=
  Box.pixels_congr (Candidate.box_mem_collapse l)

/-- A silent matcher has no pixels, so leaving it out early changes nothing. -/
theorem tripleRegions_eq (V F T : List Box) :
    tripleRegions V F T = Box.pairwiseInter (Box.pairwiseInter V F) (Box.pairwiseInter V T) := by
  unfold tripleRegions
  split
  · rename_i h
    symm
    rw [Box.pairwiseInter_eq_nil_iff, Box.pixels_pairwiseInter, Box.pixels_pairwiseInter]
    simp only [Bool.or_eq_true, List.isEmpty_iff] at h
    rcases h with rfl | rfl <;> simp
  · rfl

theorem pixels_tripleRegions (V F T : List Box) :
    Box.pixels (tripleRegions V F T) = Box.pixels V ∩ Box.pixels F ∩ Box.pixels T := by
  rw [tripleRegions_eq, Box.pixels_pairwiseInter, Box.pixels_pairwiseInter, Box.pixels_pairwiseInter]
  ext p
  simp only [Set.mem_inter_iff]
  tauto

theorem tripleRegions_eq_nil_iff (V F T : List Box) :
    tripleRegions V F T = [] ↔ Box.pixels V ∩ Box.pixels F ∩ Box.pixels T = ∅ := by
  rw [← pixels_tripleRegions, tripleRegions_eq, Box.pairwiseInter_eq_nil_iff, Box.pixels_pairwiseInter V F,
    Box.pixels_pairwiseInter V T, Box.pixels_pairwiseInter, Box.pixels_pairwiseInter, Box.pixels_pairwiseInter]

theorem pixels_agreed (V F T : List Box) :
    Box.pixels (Box.pairwiseInter V F ++ Box.pairwiseInter V T) = Box.pixels V ∩ (Box.pixels F ∪ Box.pixels T) := by
  rw [Box.pixels_append, Box.pixels_pairwiseInter, Box.pixels_pairwiseInter, Set.inter_union_distrib_left]

theorem agreed_eq_nil_iff (V F T : List Box) :
    Box.pairwiseInter V F ++ Box.pairwiseInter V T = [] ↔
      Box.pixels V ∩ (Box.pixels F ∪ Box.pixels T) = ∅ := by
  rw [List.append_eq_nil_iff, Box.pairwiseInter_eq_nil_iff, Box.pairwiseInter_eq_nil_iff, Set.inter_union_distrib_left,
    Set.union_empty_iff]

/-! ## When a tier is reached -/

/-- **What it takes for a tier**: pixels in its region and none in those of the tiers above it. -/
def Tier.Reached (V F T : List Box) : Tier → Prop
  | tripleAgreement      => (Box.pixels V ∩ Box.pixels F ∩ Box.pixels T).Nonempty
  | visionAgreement      => Box.pixels V ∩ Box.pixels F ∩ Box.pixels T = ∅ ∧
      (Box.pixels V ∩ (Box.pixels F ∪ Box.pixels T)).Nonempty
  | rawUnion             => V ≠ [] ∧ Box.pixels V ∩ (Box.pixels F ∪ Box.pixels T) = ∅
  | algorithmicAgreement => V = [] ∧ (Box.pixels F ∩ Box.pixels T).Nonempty
  | algorithmicUnion     => V = [] ∧ ¬ (F = [] ∧ T = []) ∧ Box.pixels F ∩ Box.pixels T = ∅
  | empty                => V = [] ∧ F = [] ∧ T = []

theorem ne_nil_of_pixels {l : List Box} (h : (Box.pixels l).Nonempty) : l ≠ [] := by
  rintro rfl
  simp at h

/-- **At most one tier is reached.** -/
theorem Tier.Reached.unique {V F T : List Box} {t t' : Tier} (h : t.Reached V F T) (h' : t'.Reached V F T) :
    t = t' := by
  -- agreement of vision needs a box of vision, and triple agreement is agreement with either matcher
  have hV : (Box.pixels V ∩ (Box.pixels F ∪ Box.pixels T)).Nonempty → V ≠ [] := fun hp =>
    ne_nil_of_pixels hp.left
  have hF : (Box.pixels F ∩ Box.pixels T).Nonempty → F ≠ [] := fun hp => ne_nil_of_pixels hp.left
  have hsub : (Box.pixels V ∩ Box.pixels F ∩ Box.pixels T).Nonempty →
      (Box.pixels V ∩ (Box.pixels F ∪ Box.pixels T)).Nonempty := by
    rintro ⟨p, ⟨hv, hf⟩, -⟩
    exact ⟨p, hv, Or.inl hf⟩
  simp only [Set.nonempty_iff_ne_empty] at hV hF hsub
  cases t <;> cases t' <;> simp only [Tier.Reached, Set.nonempty_iff_ne_empty] at h h' <;> first | rfl | tauto

theorem withVision_reached {V : List Box} (F T : List Box) (hV : V ≠ []) :
    (withVision V F T).tier.Reached V F T := by
  unfold withVision
  dsimp only
  split
  · rename_i h
    simp only [Bool.not_eq_true', List.isEmpty_eq_false_iff, ne_eq, tripleRegions_eq_nil_iff] at h
    exact Set.nonempty_iff_ne_empty.2 h
  · rename_i h
    simp only [Bool.not_eq_true', List.isEmpty_eq_false_iff, ne_eq, not_not, tripleRegions_eq_nil_iff] at h
    split
    · rename_i ha
      simp only [Bool.not_eq_true', List.isEmpty_eq_false_iff, ne_eq, Candidate.collapse_eq_nil_iff] at ha
      refine ⟨h, Set.nonempty_iff_ne_empty.2 fun he => ha ?_⟩
      rw [← agreed_eq_nil_iff] at he
      simp only [List.append_eq_nil_iff] at he
      rw [he.1, he.2]
      rfl
    · rename_i ha
      simp only [Bool.not_eq_true', List.isEmpty_eq_false_iff, ne_eq, not_not, Candidate.collapse_eq_nil_iff] at ha
      refine ⟨hV, (agreed_eq_nil_iff V F T).1 ?_⟩
      have hm := congrArg (List.map Candidate.box) ha
      rwa [List.map_append, map_box_tag, map_box_tag] at hm

theorem withoutVision_reached {F T : List Box} (h : ¬ (F = [] ∧ T = [])) :
    (withoutVision F T).tier.Reached [] F T := by
  unfold withoutVision
  dsimp only
  split
  · rename_i ha
    simp only [Bool.not_eq_true', List.isEmpty_eq_false_iff, ne_eq, Box.pairwiseInter_eq_nil_iff] at ha
    exact ⟨rfl, Set.nonempty_iff_ne_empty.2 ha⟩
  · rename_i ha
    simp only [Bool.not_eq_true', List.isEmpty_eq_false_iff, ne_eq, not_not, Box.pairwiseInter_eq_nil_iff] at ha
    exact ⟨rfl, h, ha⟩

/-- **Fusion reaches its tier.** -/
theorem fuse_reached (V F T : List Box) : (fuse V F T).tier.Reached V F T := by
  unfold fuse
  split
  · rename_i hV
    exact withVision_reached F T (by simpa using hV)
  · rename_i hV
    obtain rfl : V = [] := by simpa using hV
    split
    · rename_i h
      simp only [Bool.and_eq_true, List.isEmpty_iff] at h
      exact ⟨rfl, h⟩
    · rename_i h
      simp only [Bool.and_eq_true, List.isEmpty_iff] at h
      exact withoutVision_reached h

/-! ## Where the candidates lie -/

/-- **What a tier lists**, before entries of one box are merged. -/
def Tier.listed (V F T : List Box) : Tier → List Candidate
  | tripleAgreement      => tag (.ofVision ∪ .ofFeature ∪ .ofTemplate) (tripleRegions V F T)
  | visionAgreement      =>
    tag (.ofVision ∪ .ofFeature) (Box.pairwiseInter V F) ++ tag (.ofVision ∪ .ofTemplate) (Box.pairwiseInter V T)
  | rawUnion             => tag .ofVision V ++ tag .ofFeature F ++ tag .ofTemplate T
  | algorithmicAgreement => tag (.ofFeature ∪ .ofTemplate) (Box.pairwiseInter F T)
  | algorithmicUnion     => tag .ofFeature F ++ tag .ofTemplate T
  | empty                => []

/-- **The candidates are what the tier lists.** -/
theorem fuse_candidates (V F T : List Box) :
    (fuse V F T).candidates = Candidate.collapse ((fuse V F T).tier.listed V F T) := by
  unfold fuse
  split
  · unfold withVision
    dsimp only
    split
    · rfl
    · split <;> rfl
  · split
    · rfl
    · unfold withoutVision
      dsimp only
      split <;> rfl

theorem Tier.pixels_listed (V F T : List Box) (t : Tier) :
    Box.pixels ((t.listed V F T).map (·.box)) = t.region (Box.pixels V) (Box.pixels F) (Box.pixels T) := by
  cases t <;> simp only [listed, region, List.map_append, List.map_nil, map_box_tag]
  case tripleAgreement => exact pixels_tripleRegions V F T
  case visionAgreement => exact pixels_agreed V F T
  case rawUnion => rw [Box.pixels_append, Box.pixels_append]
  case algorithmicAgreement => exact Box.pixels_pairwiseInter F T
  case algorithmicUnion => exact Box.pixels_append F T
  case empty => exact Box.pixels_nil

theorem fuse_covered (V F T : List Box) :
    (fuse V F T).covered = (fuse V F T).tier.region (Box.pixels V) (Box.pixels F) (Box.pixels T) := by
  rw [Fused.covered, fuse_candidates, pixels_collapse, Tier.pixels_listed]

/-- Boxes without area are listed too, so that only silence of all three leaves nothing. -/
theorem Tier.Reached.listed_eq_nil_iff {V F T : List Box} {t : Tier} (h : t.Reached V F T) :
    t.listed V F T = [] ↔ t = .empty := by
  have hp : ∀ {p : Set (Int × Int)}, p.Nonempty → p ≠ ∅ := fun hp => Set.nonempty_iff_ne_empty.1 hp
  cases t <;> simp only [Tier.Reached] at h <;>
    simp only [listed, tag, List.append_eq_nil_iff, List.map_eq_nil_iff, reduceCtorEq, iff_false]
  case tripleAgreement => exact fun hn => hp h ((tripleRegions_eq_nil_iff V F T).1 hn)
  case visionAgreement => exact fun hn => hp h.2 ((agreed_eq_nil_iff V F T).1 (List.append_eq_nil_iff.2 hn))
  case rawUnion => exact fun hn => h.1 hn.1.1
  case algorithmicAgreement => exact fun hn => hp h.2 ((Box.pairwiseInter_eq_nil_iff F T).1 hn)
  case algorithmicUnion => exact fun hn => h.2.1 hn

theorem fuse_candidates_eq_nil_iff (V F T : List Box) :
    (fuse V F T).candidates = [] ↔ (fuse V F T).tier = .empty := by
  rw [fuse_candidates, Candidate.collapse_eq_nil_iff, (fuse_reached V F T).listed_eq_nil_iff]

/-- What vision alone proposes has no other source. -/
theorem fuse_vision_alone (V : List Box) : ∀ d ∈ (fuse V [] []).candidates, d.sources = .ofVision := by
  have hunion : ∀ s t : Sources, s = .ofVision → t = .ofVision → s ∪ t = .ofVision := by
    rintro _ _ rfl rfl
    rfl
  have hnone : Box.pairwiseInter V [] = [] := (Box.pairwiseInter_eq_nil_iff V []).2 (by simp)
  rw [fuse_candidates]
  refine Candidate.sources_collapse hunion ?_
  cases (fuse V [] []).tier with
  | rawUnion => simp [Tier.listed, tag]
  | tripleAgreement => simp [Tier.listed, tag, tripleRegions]
  | visionAgreement => simp [Tier.listed, tag, hnone]
  | algorithmicAgreement => simp [Tier.listed, tag, Box.pairwiseInter]
  | algorithmicUnion => simp [Tier.listed, tag]
  | empty => simp [Tier.listed]

/-- **Fusion as set algebra**: a tier is the result exactly when what it takes is there, the candidates cover exactly
the region of the tier, and there is no candidate only where nothing was seen. -/
theorem fuse_tier_region (V F T : List Box) :
    (∀ t, (fuse V F T).tier = t ↔ t.Reached V F T) ∧
      (fuse V F T).covered = (fuse V F T).tier.region (Box.pixels V) (Box.pixels F) (Box.pixels T) ∧
      ((fuse V F T).candidates = [] ↔ (fuse V F T).tier = .empty) := by
  refine ⟨fun t => ⟨?_, fun h => (fuse_reached V F T).unique h⟩, fuse_covered V F T, fuse_candidates_eq_nil_iff V F T⟩
  rintro rfl
  exact fuse_reached V F T

end Fusion
end Pinpoint
