import Pinpoint.Proofs.Fusion.Tiers
/-!
# Provenance — which detectors stand behind a candidate

A tier says of a candidate which boxes it may have and, box by box, which sources: `Tier.Proposes` gives both without the
lists in which fusion collects them.  The candidates are exactly what the tier reached proposes, one a box
(`fuse_provenance`).  Since the tiers and their proposals speak of the detectors' boxes only as sets, neither the order of
an answer nor a box said twice shows.
-/
namespace Pinpoint
namespace Fusion

/-- **A region that a box of the one list shares with a box of the other.** -/
def Shared (L M : List Box) (b : Box) : Prop := ∃ x ∈ L, ∃ y ∈ M, x.inter? y = some b

/-- **A region of vision and feature within one of vision and template**, not always with the same box of vision. -/
def SharedByAll (V F T : List Box) (b : Box) : Prop := ∃ v ∈ V, ∃ f ∈ F, ∃ v' ∈ V, ∃ t ∈ T, ∃ r s,
  v.inter? f = some r ∧ v'.inter? t = some s ∧ r.inter? s = some b

/-- **What a tier proposes**: the box of a candidate and the sources it has. -/
def Tier.Proposes (V F T : List Box) (c : Candidate) : Tier → Prop
  | tripleAgreement => SharedByAll V F T c.box ∧ c.sources = ⟨true, true, true⟩
  | visionAgreement =>
    (Shared V F c.box ∨ Shared V T c.box) ∧ c.sources.vision = true ∧
      (c.sources.feature = true ↔ Shared V F c.box) ∧ (c.sources.template = true ↔ Shared V T c.box)
  | algorithmicAgreement => Shared F T c.box ∧ c.sources = ⟨false, true, true⟩
  | rawUnion | algorithmicUnion =>
    (c.box ∈ V ∨ c.box ∈ F ∨ c.box ∈ T) ∧ (c.sources.vision = true ↔ c.box ∈ V) ∧
      (c.sources.feature = true ↔ c.box ∈ F) ∧ (c.sources.template = true ↔ c.box ∈ T)
  | empty => False

variable {V F T V' F' T' L M : List Box} {b : Box} {c : Candidate} {t : Tier}

theorem mem_pairwiseInter_iff : b ∈ Box.pairwiseInter L M ↔ Shared L M b := Box.mem_pairwiseInter

theorem mem_tripleRegions_iff : b ∈ tripleRegions V F T ↔ SharedByAll V F T b := by
  rw [tripleRegions_eq, mem_pairwiseInter_iff]
  constructor
  · rintro ⟨r, hr, s, hs, hb⟩
    obtain ⟨v, hv, f, hf, hvf⟩ := mem_pairwiseInter_iff.1 hr
    obtain ⟨v', hv', t, ht, hvt⟩ := mem_pairwiseInter_iff.1 hs
    exact ⟨v, hv, f, hf, v', hv', t, ht, r, s, hvf, hvt, hb⟩
  · rintro ⟨v, hv, f, hf, v', hv', t, ht, r, s, hvf, hvt, hb⟩
    exact ⟨r, mem_pairwiseInter_iff.2 ⟨v, hv, f, hf, hvf⟩, s, mem_pairwiseInter_iff.2 ⟨v', hv', t, ht, hvt⟩, hb⟩

/-! ## Box by box -/

theorem sources_eq_iff {s t : Sources} : s = t ↔ (s.vision = true ↔ t.vision = true) ∧
    (s.feature = true ↔ t.feature = true) ∧ (s.template = true ↔ t.template = true) := by
  constructor
  · rintro rfl
    exact ⟨Iff.rfl, Iff.rfl, Iff.rfl⟩
  · rintro ⟨hv, hf, ht⟩
    cases s
    cases t
    simp only [Sources.mk.injEq]
    exact ⟨Bool.eq_iff_iff.2 hv, Bool.eq_iff_iff.2 hf, Bool.eq_iff_iff.2 ht⟩

/-- **An entry has a flag exactly if an entry of its box had it before merging.** -/
theorem mem_collapse_iff_flags {l : List Candidate} : c ∈ Candidate.collapse l ↔ c.box ∈ l.map (·.box) ∧
    (c.sources.vision = true ↔ ∃ d ∈ l, d.box = c.box ∧ d.sources.vision = true) ∧
    (c.sources.feature = true ↔ ∃ d ∈ l, d.box = c.box ∧ d.sources.feature = true) ∧
    (c.sources.template = true ↔ ∃ d ∈ l, d.box = c.box ∧ d.sources.template = true) := by
  rw [Candidate.mem_collapse_iff, sources_eq_iff, Candidate.isFlag_vision.sourcesOf_iff,
    Candidate.isFlag_feature.sourcesOf_iff, Candidate.isFlag_template.sourcesOf_iff]

theorem exists_mem_tag {s : Sources} {flag : Sources → Bool} :
    (∃ d ∈ tag s L, d.box = b ∧ flag d.sources = true) ↔ b ∈ L ∧ flag s = true := by
  constructor
  · rintro ⟨d, hd, rfl, hflag⟩
    obtain ⟨b, hb, rfl⟩ := List.mem_map.1 hd
    exact ⟨hb, hflag⟩
  · rintro ⟨hb, hflag⟩
    exact ⟨⟨b, s⟩, List.mem_map_of_mem hb, rfl, hflag⟩

theorem box_mem_append {l m : List Candidate} :
    b ∈ (l ++ m).map (·.box) ↔ b ∈ l.map (·.box) ∨ b ∈ m.map (·.box) := by
  rw [List.map_append, List.mem_append]

theorem exists_mem_append {l m : List Candidate} {P : Candidate → Prop} :
    (∃ d ∈ l ++ m, P d) ↔ (∃ d ∈ l, P d) ∨ ∃ d ∈ m, P d := by
  simp only [List.mem_append, or_and_right, exists_or]

/-- **The candidates of a tier are what it proposes.** -/
theorem Tier.Reached.mem_collapse_iff (h : t.Reached V F T) :
    c ∈ Candidate.collapse (t.listed V F T) ↔ t.Proposes V F T c := by
  rw [mem_collapse_iff_flags]
  cases t with
  | tripleAgreement =>
    simp only [listed, map_box_tag, exists_mem_tag, mem_tripleRegions_iff, Tier.Proposes, sources_eq_iff]
    refine and_congr_right fun hbox => ?_
    simp [hbox, Sources.ofVision, Sources.ofFeature, Sources.ofTemplate]
  | visionAgreement =>
    simp only [listed, box_mem_append, map_box_tag, exists_mem_append, exists_mem_tag, mem_pairwiseInter_iff,
      Tier.Proposes]
    refine and_congr_right fun hbox => ?_
    simp [hbox, Sources.ofVision, Sources.ofFeature, Sources.ofTemplate]
  | rawUnion =>
    simp only [listed, box_mem_append, map_box_tag, exists_mem_append, exists_mem_tag, Tier.Proposes, or_assoc]
    refine and_congr_right fun _ => ?_
    simp [Sources.ofVision, Sources.ofFeature, Sources.ofTemplate]
  | algorithmicAgreement =>
    simp only [listed, map_box_tag, exists_mem_tag, mem_pairwiseInter_iff, Tier.Proposes, sources_eq_iff]
    refine and_congr_right fun hbox => ?_
    simp [hbox, Sources.ofFeature, Sources.ofTemplate]
  | algorithmicUnion =>
    obtain ⟨rfl, -⟩ := h
    simp only [listed, box_mem_append, map_box_tag, exists_mem_append, exists_mem_tag, Tier.Proposes]
    simp [Sources.ofFeature, Sources.ofTemplate]
  | empty => simp [listed, Tier.Proposes]

/-! ## Only sets of boxes matter -/

section
variable (hV : ∀ b, b ∈ V' ↔ b ∈ V) (hF : ∀ b, b ∈ F' ↔ b ∈ F) (hT : ∀ b, b ∈ T' ↔ b ∈ T)
include hV hF hT

theorem Tier.reached_congr (t : Tier) : t.Reached V' F' T' ↔ t.Reached V F T := by
  have hnil : ∀ {l m : List Box}, (∀ b, b ∈ l ↔ b ∈ m) → (l = [] ↔ m = []) := fun h => by
    simp only [List.eq_nil_iff_forall_not_mem, h]
  cases t <;> simp only [Reached, Box.pixels_congr hV, Box.pixels_congr hF, Box.pixels_congr hT, ne_eq, hnil hV,
    hnil hF, hnil hT]

theorem Tier.proposes_congr (t : Tier) (c : Candidate) : t.Proposes V' F' T' c ↔ t.Proposes V F T c := by
  cases t <;> simp only [Proposes, SharedByAll, Shared, hV, hF, hT]

end

theorem mem_fuse_iff (V F T : List Box) (c : Candidate) :
    c ∈ (fuse V F T).candidates ↔ (fuse V F T).tier.Proposes V F T c := by
  rw [fuse_candidates, (fuse_reached V F T).mem_collapse_iff]

/-- **Every candidate tells who found it.**  No box is listed twice; the candidates are exactly those the tier proposes,
with exactly the sources it says; and answers with the same boxes, in whatever order and however often, lead to the same
tier and the same candidates. -/
theorem fuse_provenance (V F T : List Box) :
    ((fuse V F T).candidates.map (·.box)).Nodup ∧
      (∀ c, c ∈ (fuse V F T).candidates ↔ (fuse V F T).tier.Proposes V F T c) ∧
      ∀ V' F' T' : List Box, (∀ b, b ∈ V' ↔ b ∈ V) → (∀ b, b ∈ F' ↔ b ∈ F) → (∀ b, b ∈ T' ↔ b ∈ T) →
        (fuse V' F' T').tier = (fuse V F T).tier ∧
          ∀ c, c ∈ (fuse V' F' T').candidates ↔ c ∈ (fuse V F T).candidates := by
  refine ⟨?_, mem_fuse_iff V F T, fun V' F' T' hV hF hT => ?_⟩
  · rw [fuse_candidates]
    exact Candidate.nodup_collapse _
  · have htier : (fuse V' F' T').tier = (fuse V F T).tier :=
      ((Tier.reached_congr hV hF hT _).1 (fuse_reached V' F' T')).unique (fuse_reached V F T)
    refine ⟨htier, fun c => ?_⟩
    rw [mem_fuse_iff, mem_fuse_iff, htier]
    exact Tier.proposes_congr hV hF hT _ c

/-- Two boxes of vision share one and the same region with a box of the features. -/
example : fuse [⟨0, 0, 10, 10⟩, ⟨0, 0, 8, 20⟩] [⟨2, 2, 4, 4⟩] [⟨30, 0, 9, 9⟩] =
    ⟨.visionAgreement, [⟨⟨2, 2, 4, 4⟩, ⟨true, true, false⟩⟩]⟩ := by decide

end Fusion
end Pinpoint
