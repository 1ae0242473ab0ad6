import Pinpoint.Proofs.Ballot.Count
import Pinpoint.Proofs.Fanout.Joining
import Pinpoint.Proofs.Search.Found
/-!
# Direct — what a search without a closer look answers

A direct search is one pass over the screen: boxes are gathered, fused into candidates, and a vote decides where several
are left.  What it answers follows from the boxes gathered and from the labels that the votes name, and so does how often
models are asked (`direct_answer`).
-/
namespace Pinpoint

open Dialogue

variable {ν : Type}

/-! ## Requests to models -/

/-- How often models are asked for a shape in an exchange: once for every vote. -/
def requestsOf (s : Schema) : Exchange ν → Nat
  | ⟨.poll q, _⟩ | ⟨.gather q .., _⟩ => if q.schema = s then q.votes else 0
  | _                                => 0

def requests (s : Schema) (t : List (Exchange ν)) : Nat := (t.map (requestsOf s)).sum

theorem requests_cons (s : Schema) (y : Exchange ν) (t : List (Exchange ν)) :
    requests s (y :: t) = requestsOf s y + requests s t := by
  rw [requests, List.map_cons, List.sum_cons, ← requests]

theorem requests_append (s : Schema) (t u : List (Exchange ν)) :
    requests s (t ++ u) = requests s t + requests s u := by
  rw [requests, List.map_append, List.sum_append, ← requests, ← requests]

namespace Quorum

/-- The labels that the answers to a vote name. -/
def named (j : Joins String) : List String := j.ends.filterMap fun x => (x.2.andThen Reply.label).value?

/-- **An uninterrupted vote goes by the labels named.** -/
theorem winner_of_decide {b : Ballot} {j : Joins String} {v : Verdict} (h : decide b j = .ok v)
    (hv : v.interrupted = false) : v.winner = b.winner (named j) := by
  obtain ⟨before, how, hj⟩ := j.exists_ending
  rw [decide, Harvest.collect_of_endsAfter (hj.andThen Reply.isFatal_of_label)] at h
  cases how with
  | failed text => cases h
  | stopped =>
    obtain rfl := Except.ok.inj h
    cases hv
  | closed =>
    obtain rfl := Except.ok.inj h
    obtain ⟨-, rfl, -⟩ := hj
    show b.winner (Joins.valuesOf _) = _
    rw [Joins.valuesOf, List.filterMap_map]
    rfl

end Quorum

namespace Locator

variable {α : Type} [Scalar ν] [Scalar α] {c : LocatorSettings ν α} {e : Element} {data : String} {p : Picture}
  {shot : Capture α} {reference : Option Picture} {t : List (Exchange ν)}

/-! ## A vote between candidates -/

/-- **A vote between candidates as it went**: the ballot lists just them, every voter is asked about it, and these labels
are named. -/
structure Vote (c : LocatorSettings ν α) (e : Element) (data : String) (p : Picture) (l : List Candidate)
    (t : List (Exchange ν)) (b : Ballot) (labels : List String) : Prop where
  lists : b.items.map (·.candidate) = l
  asks  : ∃ letters q j, b = (Ballot.draw (letterAt letters) c.quorum.labelLength c.quorum.retryLimit l 0).1 ∧
    Quorum.question c.grounding e data b p c.quorum.votes = .ok q ∧ t = [⟨.letters, letters⟩, ⟨.poll q, j⟩] ∧
    labels = Quorum.named j

theorem vote_of_arbitrate {l : List Candidate} {w : Option Candidate} (hl : Candidate.collapse l = l) (hne : l ≠ [])
    (h : Run (arbitrate c e data p l) t (.ok w)) :
    ∃ b labels, Vote c e data p l t b labels ∧ w = (b.winner labels).map (·.candidate) := by
  obtain ⟨letters, u, v, rfl, hv, hi, rfl⟩ := run_arbitrate_ok h
  have hlists := Ballot.candidates_draw (letterAt letters) c.quorum.labelLength c.quorum.retryLimit l 0
  rw [hl] at hlists
  rcases Quorum.run_select_ok hv with ⟨hempty, -, -⟩ | ⟨-, q, j, hq, rfl, hd⟩
  · -- a ballot without entries lists no candidates
    rw [Ballot.isEmpty, List.isEmpty_iff] at hempty
    rw [hempty] at hlists
    exact absurd hlists.symm hne
  · exact ⟨_, _, ⟨hlists, letters, q, j, rfl, hq, rfl, rfl⟩, by rw [Quorum.winner_of_decide hd hi]⟩

theorem Vote.requests {l : List Candidate} {b : Ballot} {labels : List String} (h : Vote c e data p l t b labels) :
    requests .vote t = max 1 c.quorum.votes ∧ requests .grounding t = 0 := by
  obtain ⟨letters, q, j, -, hq, rfl, -⟩ := h.asks
  obtain ⟨_, -, rfl⟩ := Except.map_eq_ok.1 hq
  simp [Pinpoint.requests, requestsOf, Nat.max_comm]

theorem gather_requests {m : Proposals ν} (h : Run (gather c e data p reference) t (.ok m)) :
    requests .grounding t = max 1 c.grounding.votes ∧ requests .vote t = 0 := by
  cases reference with
  | none =>
    obtain ⟨q, j, v, hq, rfl, -⟩ := run_gather_none_ok h
    obtain ⟨_, -, rfl⟩ := Except.map_eq_ok.1 hq
    simp [requests, requestsOf, Nat.max_comm]
  | some r =>
    obtain ⟨q, g, v, hq, rfl, -⟩ := run_gather_some_ok h
    obtain ⟨_, -, rfl⟩ := Except.map_eq_ok.1 hq
    simp [requests, requestsOf, Nat.max_comm]

/-! ## The answer -/

/-- **What follows from the boxes gathered and the labels named.** -/
structure Settles (shot : Capture α) (e : Element) (m : Proposals ν) (b : Ballot) (labels : List String)
    (l : Location) : Prop where
  found_iff : l.isFound = true ↔ (fuse m).length = 1 ∨
    2 ≤ (fuse m).length ∧ ∃ v ∈ labels, ∃ x ∈ b.items, x.label = Ballot.canonical v
  found     : ∀ box logical s el, l = .found box logical s el → ∃ d,
    (fuse m = [d] ∨ 2 ≤ (fuse m).length ∧ (b.winner labels).map (·.candidate) = some d) ∧
    box = (d.box.clip? shot.picture.width shot.picture.height).getD d.box ∧ s = d.sources ∧ el = e
  missed    : ∀ algorithmic visual el, l = .missed algorithmic visual el →
    (visual = true ↔ m.vision ≠ []) ∧
    (algorithmic = true ↔ m.matched.feature.boxes ≠ [] ∨ m.matched.template.boxes ≠ []) ∧ el = e
  nothing   : l = .missed false false e ↔
    m.vision = [] ∧ m.matched.feature.boxes = [] ∧ m.matched.template.boxes = []

/-- The candidate that is left. -/
def chosen (l : List Candidate) (b : Ballot) (labels : List String) : Option Candidate :=
  match l with
  | []  => none
  | [d] => some d
  | _   => (b.winner labels).map (·.candidate)

theorem chosen_eq_some_iff {l : List Candidate} {b : Ballot} {labels : List String} {d : Candidate} :
    chosen l b labels = some d ↔ l = [d] ∨ 2 ≤ l.length ∧ (b.winner labels).map (·.candidate) = some d := by
  match l with
  | []           => simp [chosen]
  | [d']         => simp [chosen]
  | d₁ :: d₂ :: l => simp [chosen]

theorem isSome_chosen_iff {l : List Candidate} {b : Ballot} {labels : List String} :
    (chosen l b labels).isSome = true ↔
      l.length = 1 ∨ 2 ≤ l.length ∧ ∃ v ∈ labels, ∃ x ∈ b.items, x.label = Ballot.canonical v := by
  have hvote : (∃ d, (b.winner labels).map (·.candidate) = some d) ↔
      ∃ v ∈ labels, ∃ x ∈ b.items, x.label = Ballot.canonical v := by
    rw [← Option.isSome_iff_exists, Option.isSome_map, Ballot.winner_isSome_iff]
    simp only [Ballot.get?_isSome_iff]
  rw [Option.isSome_iff_exists, ← hvote, List.length_eq_one_iff]
  simp only [chosen_eq_some_iff, exists_or, exists_and_left]

omit [Scalar ν] in
theorem settles_report (shot : Capture α) (e : Element) (m : Proposals ν) (b : Ballot) (labels : List String) :
    Settles shot e m b labels
      (report shot e ⟨chosen (fuse m) b labels, !m.vision.isEmpty, m.matched.any⟩) := by
  have hvisual : (!m.vision.isEmpty) = true ↔ m.vision ≠ [] := by simp
  have hmatched := any_eq_true_iff m.matched
  cases hw : chosen (fuse m) b labels with
  | none =>
    have hl : report shot e ⟨none, !m.vision.isEmpty, m.matched.any⟩ =
        .missed m.matched.any (!m.vision.isEmpty) e := rfl
    rw [hl]
    refine ⟨?_, ?_, ?_, ?_⟩
    · rw [← isSome_chosen_iff, hw]
      simp [Location.isFound]
    · intro _ _ _ _ h
      cases h
    · intro _ _ _ h
      cases h
      exact ⟨hvisual, hmatched, rfl⟩
    · rw [Location.missed.injEq, ← Bool.not_eq_true, ← Bool.not_eq_true, hvisual, hmatched]
      tauto
  | some d =>
    have hl : report shot e ⟨some d, !m.vision.isEmpty, m.matched.any⟩ =
        .found ((d.box.clip? shot.picture.width shot.picture.height).getD d.box)
          ((Scaling.ofDisplay shot.display).boxToLogical
            ((d.box.clip? shot.picture.width shot.picture.height).getD d.box)) d.sources e := rfl
    rw [hl]
    refine ⟨?_, ?_, ?_, ?_⟩
    · rw [← isSome_chosen_iff, hw]
      simp [Location.isFound]
    · intro _ _ _ _ h
      cases h
      exact ⟨d, chosen_eq_some_iff.1 hw, rfl, rfl, rfl⟩
    · intro _ _ _ h
      cases h
    · constructor
      · intro h
        cases h
      · intro h
        rw [(fuse_eq_nil_iff m).2 h] at hw
        cases hw

theorem chosen_of_choose {m : Proposals ν} {w : Option Candidate}
    (h : Run (choose c e data p (fuse m)) t (.ok w)) : ∃ b labels, w = chosen (fuse m) b labels ∧
      (2 ≤ (fuse m).length → Vote c e data p (fuse m) t b labels) ∧ ((fuse m).length < 2 → t = []) := by
  rcases run_choose_ok h with ⟨hl, rfl, rfl⟩ | ⟨d, hl, rfl, rfl⟩ | ⟨hl, h⟩
  · exact ⟨⟨[]⟩, [], by rw [hl]; rfl, by rw [hl]; simp, fun _ => rfl⟩
  · exact ⟨⟨[]⟩, [], by rw [hl]; rfl, by rw [hl]; simp, fun _ => rfl⟩
  · have hne : fuse m ≠ [] := by
      rintro hnil
      rw [hnil] at hl
      cases hl
    obtain ⟨b, labels, hvote, rfl⟩ := vote_of_arbitrate (collapse_fuse m) hne h
    refine ⟨b, labels, ?_, fun _ => hvote, fun hlt => absurd hl (by omega)⟩
    match hm : fuse m with
    | [] => exact absurd hm hne
    | [d] => rw [hm] at hl; simp at hl
    | d₁ :: d₂ :: l => rfl

/-- **What a direct search answers, and whom it asks for it**, whatever models and matchers say: one call in which nobody
saw a stop request and nothing failed. -/
theorem direct_answer {l : Location} (hz : e.zoom = false) (h : Run (locateIn c e data shot) t (.ok l)) :
    ∃ gathered asked m b labels, t = ⟨.stopped, false⟩ :: (gathered ++ asked) ∧
      Run (gather c e data shot.picture e.reference?) gathered (.ok m) ∧
      (e.reference? = none → m.matched.feature.boxes = [] ∧ m.matched.template.boxes = []) ∧
      (2 ≤ (fuse m).length → Vote c e data shot.picture (fuse m) asked b labels) ∧
      Settles shot e m b labels l ∧
      requests .grounding t = max 1 c.grounding.votes ∧
      requests .vote t = if 2 ≤ (fuse m).length then max 1 c.quorum.votes else 0 := by
  obtain ⟨u, f, rfl, rfl, hf⟩ := run_locateIn_ok h
  rw [hz] at hf
  obtain ⟨gathered, asked, m, w, rfl, hm, hw, rfl⟩ := run_detect_ok hf
  obtain ⟨b, labels, rfl, hvote, hnone⟩ := chosen_of_choose hw
  obtain ⟨hground, hgroundvote⟩ := gather_requests hm
  have hoff : e.reference? = none → m.matched.feature.boxes = [] ∧ m.matched.template.boxes = [] := by
    intro href
    rw [href] at hm
    obtain ⟨q, j, v, -, -, -, -, rfl⟩ := run_gather_none_ok hm
    exact ⟨rfl, rfl⟩
  refine ⟨gathered, asked, m, b, labels, rfl, hm, hoff, hvote, settles_report shot e m b labels, ?_⟩
  rw [requests_cons, requests_cons, requests_append, requests_append, hground, hgroundvote]
  by_cases hl : 2 ≤ (fuse m).length
  · obtain ⟨hv, hg⟩ := (hvote hl).requests
    rw [if_pos hl, hv, hg]
    simp [requestsOf]
  · rw [if_neg hl, hnone (by omega)]
    simp [requestsOf, requests]

/-- Two boxes are seen on the grey screen, and no voter can tell which of them it is. -/
theorem direct_answer_undecided : ∃ t l, Run (locateIn oneVote (button false) "" grey) t (.ok l) ∧
    (button false).zoom = false ∧ l.isFound = false ∧ requests .grounding t = 1 ∧ requests .vote t = 3 := by
  have hrun : (Dialogue.run scripted (locateIn oneVote (button false) "" grey)
      ["\x7b\"boxes\":[[100,100,200,200],[400,400,500,450]]\x7d", "I cannot tell."]).1.toOption.map
        (fun l => (l.isFound, l.diagnostic?)) =
      some (false, some "candidates were found but no single one won the selection vote") := by
    decide +kernel
  obtain ⟨t, l, ht, hl, -⟩ := exists_run_ok _ _ _ hrun
  obtain ⟨hmissed, hwhy⟩ := Prod.mk.inj hl
  obtain ⟨gathered, asked, m, b, labels, -, -, -, -, hsettles, hground, hvote⟩ := direct_answer rfl ht
  -- it was missed although something was seen, so there were several candidates
  have hsome : fuse m ≠ [] := by
    intro hnil
    rw [hsettles.nothing.2 ((fuse_eq_nil_iff m).1 hnil)] at hwhy
    exact absurd hwhy (by decide)
  have hmany : (fuse m).length ≠ 1 := fun hone => by
    rw [hsettles.found_iff.2 (Or.inl hone)] at hmissed
    cases hmissed
  have hpos := List.length_pos_iff.2 hsome
  rw [if_pos (by omega)] at hvote
  exact ⟨t, l, ht, rfl, hmissed, hground, hvote⟩

end Locator
end Pinpoint
