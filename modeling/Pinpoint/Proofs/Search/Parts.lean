import Pinpoint.Search.Locator
import Pinpoint.Proofs.Fusion.Tiers
import Pinpoint.Proofs.Match.Answers
import Pinpoint.Proofs.Search.Steps
/-!
# Parts — one pass answers with a part of its picture

Whatever models and matchers say, every box that a pass handles is a part of the picture it looks at: what a model sees
is cut to the picture and averaged, what the matchers find lies on it, and fusion takes shared regions or the boxes as
they are.  A vote can only name one of them, so the winner of a pass is such a part (`Locator.detect_isPart`).
-/
namespace Pinpoint

variable {w h : UInt32}

/-! ## What a model sees -/

theorem Cluster.mem_averageBoxes {α : Type} [Scalar α] {l : List Box} {iou : α} {m : Nat} {b : Box}
    (hb : b ∈ averageBoxes l iou m) : ∃ k : List Box, (∀ a ∈ k, a ∈ l) ∧ Box.average (α := α) k = some b := by
  obtain ⟨members, -, hm⟩ := List.mem_filterMap.1 hb
  refine ⟨_, fun a ha => ?_, hm⟩
  obtain ⟨i, -, rfl⟩ := List.mem_map.1 ha
  exact Array.mem_toList_iff.2 (Array.getElem_mem i.2)

namespace Grounding

variable {α : Type} [Scalar α]

theorem place_eq_bind (s : GroundingSettings α) (q : Question α) (p : Picture) (b : Normalized α) :
    place s q p b = (b.toPixels s.scale q.poll.picture.width q.poll.picture.height q.ratio).bind fun c =>
      c.clip? p.width p.height := by
  unfold place
  cases b.toPixels s.scale q.poll.picture.width q.poll.picture.height q.ratio <;> rfl

theorem place_isPart {s : GroundingSettings α} {q : Question α} {p : Picture} {n : Normalized α} {b : Box}
    (hb : place s q p n = some b) : Box.IsPart p.width p.height b := by
  rw [place_eq_bind] at hb
  obtain ⟨_, -, hclip⟩ := Option.bind_eq_some_iff.1 hb
  exact Box.isPart_of_clip? hclip

variable [Scalar.Exact α]

theorem join_isPart (s : GroundingSettings α) (votes : Nat) {l : List Box} (hl : ∀ b ∈ l, Box.IsPart w h b) :
    ∀ b ∈ join s votes l, Box.IsPart w h b := by
  intro b hb
  unfold join at hb
  split at hb
  · obtain ⟨k, hk, hb⟩ := Cluster.mem_averageBoxes hb
    exact Box.IsPart.average (fun a ha => hl a (hk a ha)) hb
  · exact hl b (List.mem_eraseDups.1 hb)

/-- **What models propose are parts of the picture**, whatever they answer. -/
theorem propose_isPart {s : GroundingSettings α} {q : Question α} {p : Picture} {j : Joins String} {v : Proposal}
    (hv : propose s q p j = .ok v) : ∀ b ∈ v.boxes, Box.IsPart p.width p.height b := by
  obtain ⟨harvest, -, rfl⟩ := Except.map_eq_ok.1 hv
  refine join_isPart s _ fun b hb => ?_
  obtain ⟨n, -, hn⟩ := List.mem_filterMap.1 hb
  exact place_isPart hn

end Grounding

/-! ## What is left to choose from -/

theorem Candidate.forall_collapse (P : Box → Prop) (l : List Candidate) :
    (∀ c ∈ collapse l, P c.box) ↔ ∀ c ∈ l, P c.box := by
  rw [← List.forall_mem_map (f := Candidate.box) (P := P), ← List.forall_mem_map (f := Candidate.box) (P := P)]
  simp only [box_mem_collapse]

theorem Box.pairwiseInter_isPart {l : List Box} (hl : ∀ b ∈ l, IsPart w h b) (m : List Box) :
    ∀ b ∈ pairwiseInter l m, IsPart w h b := by
  intro b hb
  obtain ⟨a, ha, c, -, hc⟩ := mem_pairwiseInter.1 hb
  exact (hl a ha).inter? hc

theorem Fusion.forall_tag {P : Box → Prop} (s : Sources) {l : List Box} (hl : ∀ b ∈ l, P b) :
    ∀ c ∈ tag s l, P c.box := by
  intro c hc
  obtain ⟨b, hb, rfl⟩ := List.mem_map.1 hc
  exact hl b hb

/-- **Candidates are parts where all boxes are.** -/
theorem Fusion.fuse_isPart {V F T : List Box} (hV : ∀ b ∈ V, Box.IsPart w h b) (hF : ∀ b ∈ F, Box.IsPart w h b)
    (hT : ∀ b ∈ T, Box.IsPart w h b) : ∀ c ∈ (fuse V F T).candidates, Box.IsPart w h c.box := by
  rw [fuse_candidates, Candidate.forall_collapse]
  have hVF := Box.pairwiseInter_isPart hV F
  have hVT := Box.pairwiseInter_isPart hV T
  cases (fuse V F T).tier with
  | tripleAgreement =>
    rw [Tier.listed, tripleRegions_eq]
    exact forall_tag _ (Box.pairwiseInter_isPart hVF _)
  | visionAgreement => exact List.forall_mem_append.2 ⟨forall_tag _ hVF, forall_tag _ hVT⟩
  | rawUnion =>
    exact List.forall_mem_append.2 ⟨List.forall_mem_append.2 ⟨forall_tag _ hV, forall_tag _ hF⟩, forall_tag _ hT⟩
  | algorithmicAgreement => exact forall_tag _ (Box.pairwiseInter_isPart hF T)
  | algorithmicUnion => exact List.forall_mem_append.2 ⟨forall_tag _ hF, forall_tag _ hT⟩
  | empty => exact fun c hc => absurd hc List.not_mem_nil

/-! ## What a vote can name -/

namespace Ballot

theorem mem_assign {σ : Type} (next : σ → Fin 36 × σ) (len retry : Nat) {c : Labelled} :
    ∀ (taken : List String) (l : List Candidate) (g : σ), c ∈ (assign next len retry taken l g).1 → c.candidate ∈ l
  | _, [], _, hc => by cases hc
  | taken, d :: l, g, hc => by
    rcases List.mem_cons.1 hc with rfl | hc
    · exact List.mem_cons_self
    · exact List.mem_cons_of_mem _ (mem_assign next len retry _ l _ hc)

theorem foldl_larger_mem (l : List Labelled) {c : Labelled} (hc : l.foldl larger none = some c) : c ∈ l := by
  refine List.foldlRecOn (motive := fun best => ∀ c ∈ best, c ∈ l) l larger (by simp) (fun best hb d hd c hc => ?_) c hc
  cases best with
  | none =>
    obtain rfl := Option.some.inj hc
    exact hd
  | some b =>
    unfold larger at hc
    dsimp only at hc
    split at hc
    · exact hb c hc
    · obtain rfl := Option.some.inj hc
      exact hd

theorem winner_mem {b : Ballot} {votes : List String} {c : Labelled} (hc : b.winner votes = some c) : c ∈ b.items := by
  unfold winner at hc
  dsimp only at hc
  split at hc
  · cases hc
  · exact (List.mem_filter.1 (foldl_larger_mem _ hc)).1

theorem mem_draw {σ : Type} {next : σ → Fin 36 × σ} {len retry : Nat} {l : List Candidate} {g : σ} {c : Labelled}
    (hc : c ∈ (draw next len retry l g).1.items) : c.candidate ∈ Candidate.collapse l :=
  mem_assign next len retry [] _ g hc

end Ballot

open Dialogue

/-- **A vote names a candidate** on the ballot, or none. -/
theorem Quorum.select_mem {ν α : Type} [Scalar α] {s : GroundingSettings α} {e : Element} {data : String} {b : Ballot}
    {p : Picture} {votes : Nat} {t : List (Exchange ν)} {v : Verdict}
    (h : Run (select s e data b p votes) t (.ok v)) : ∀ c ∈ v.winner, c ∈ b.items := by
  rcases run_select_ok h with ⟨-, -, rfl⟩ | ⟨-, q, j, -, -, hd⟩
  · simp
  · obtain ⟨harvest, -, rfl⟩ := Except.map_eq_ok.1 hd
    exact fun c hc => Ballot.winner_mem hc

/-! ## One pass -/

namespace Locator

theorem any_eq_true_iff {ν : Type} (m : Match.Matched ν) :
    m.any = true ↔ m.feature.boxes ≠ [] ∨ m.template.boxes ≠ [] := by
  simp [Match.Matched.any]

/-- Fusion drops nothing where something was seen. -/
theorem fuse_eq_nil_iff {ν : Type} (m : Proposals ν) :
    fuse m = [] ↔ m.vision = [] ∧ m.matched.feature.boxes = [] ∧ m.matched.template.boxes = [] := by
  unfold fuse
  rw [Fusion.fuse_candidates_eq_nil_iff]
  have hreached := Fusion.fuse_reached m.vision m.matched.feature.boxes m.matched.template.boxes
  constructor
  · intro h
    rwa [h] at hreached
  · intro h
    exact hreached.unique (show Fusion.Tier.empty.Reached _ _ _ from h)

/-- The candidates of a fusion have one entry a box, so that a ballot lists them as they are. -/
theorem collapse_fuse {ν : Type} (m : Proposals ν) : Candidate.collapse (fuse m) = fuse m := by
  unfold fuse
  rw [Fusion.fuse_candidates, Candidate.collapse_collapse]

variable {ν α : Type} [Scalar ν] [Scalar α] {c : LocatorSettings ν α} {e : Element} {data : String} {p : Picture}
  {reference : Option Picture} {t : List (Exchange ν)}

theorem choose_mem {l : List Candidate} {d : Candidate} (h : Run (choose c e data p l) t (.ok (some d))) :
    d ∈ Candidate.collapse l := by
  rcases run_choose_ok h with ⟨-, -, hd⟩ | ⟨d', rfl, -, hd⟩ | ⟨-, h⟩
  · cases hd
  · obtain rfl := Option.some.inj hd
    exact List.mem_singleton_self d
  · obtain ⟨letters, u, v, -, hv, -, hd⟩ := run_arbitrate_ok h
    obtain ⟨w, hw, rfl⟩ := Option.map_eq_some_iff.1 hd.symm
    exact Ballot.mem_draw (Quorum.select_mem hv w hw)

variable [Widening ν α]

/-- The matchers behind a reply are the two of the library. -/
def Genuine (c : LocatorSettings ν α) : Exchange ν → Prop
  | ⟨.gather _ whole reference, g⟩ => Match.Answer c.feature c.template whole reference (g : Gathered ν).matched
  | _                              => True

variable [Scalar.Exact α]

/-- **What is gathered lies on the picture.** -/
theorem gather_inside (hp : p.Addressable) {l : Proposals ν}
    (h : Run (gather c e data p reference) t (.ok l)) (hg : ∀ x ∈ t, Genuine c x) :
    (∀ b ∈ l.vision, Box.IsPart p.width p.height b) ∧ l.matched.Inside p := by
  cases reference with
  | none =>
    obtain ⟨q, j, v, -, -, hv, -, rfl⟩ := run_gather_none_ok h
    exact ⟨Grounding.propose_isPart hv, Match.Matched.nothing_inside p⟩
  | some r =>
    obtain ⟨q, g, v, -, rfl, hv, hm, -, -, hl⟩ := run_gather_some_ok h
    have ha : Match.Answer c.feature c.template p r g.matched := hg ⟨.gather q.poll p r, g⟩ List.mem_cons_self
    rw [hm] at ha
    rw [hl]
    exact ⟨Grounding.propose_isPart hv, ha.inside hp⟩

theorem detect_isPart (hp : p.Addressable) {f : Finding}
    (h : Run (detect c e data p reference) t (.ok f)) (hg : ∀ x ∈ t, Genuine c x) :
    ∀ d ∈ f.winner, Box.IsPart p.width p.height d.box := by
  obtain ⟨t₁, t₂, l, winner, rfl, hl, hwin, rfl⟩ := run_detect_ok h
  intro d hd
  obtain rfl : winner = some d := hd
  obtain ⟨hv, hm⟩ := gather_inside hp hl fun x hx => hg x (List.mem_append_left _ hx)
  exact (Candidate.forall_collapse _ _).2 (Fusion.fuse_isPart hv hm.feature hm.template) d (choose_mem hwin)

end Locator
end Pinpoint
