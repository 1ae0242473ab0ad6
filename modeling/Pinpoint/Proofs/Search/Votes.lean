import Pinpoint.Proofs.Cluster.Order
import Pinpoint.Proofs.Fanout.Joining
import Pinpoint.Proofs.Search.Steps
/-!
# Votes — what several answers to one question come to

A reply that cannot be read only costs its vote, as a vote that fails or breaks off does; none of the three ends the
asking.  So, as long as nobody asks to stop and no failure is final, the boxes of the answers that can be read are all
there is (`propose_ended`), and where several votes are asked and two neighbours make a core, neither the order in which
they end nor the votes that fail make a difference (`detect_any_order`).
-/
namespace Pinpoint

/-! ## Tasks that all end -/

/-- Tasks that end in some order while nobody asks to stop. -/
def Joins.ended {β : Type} {k : Nat} (outcome : Fin k → TaskEnd β) (order : Equiv.Perm (Fin k)) : Joins β :=
  Joins.ofEnds false (List.ofFn fun i => outcome (order i))

theorem Harvest.collect_ofEnds {β : Type} {l : List (TaskEnd β)} (hl : ∀ o ∈ l, o.isCalm = true) :
    ∃ failed, collect (Joins.ofEnds false l) = .ok ⟨l.filterMap TaskEnd.value?, failed, false⟩ := by
  have hq : Joins.Quiet (Joins.ofEnds false l).ends := by
    intro x hx
    obtain ⟨o, ho, rfl⟩ := List.mem_map.1 hx
    exact ⟨rfl, hl o ho⟩
  have hclosed : (Joins.ofEnds false l).EndsAfter (Joins.ofEnds false l).ends .closed := ⟨hq, rfl, rfl⟩
  refine ⟨Joins.misses (Joins.ofEnds false l).ends, ?_⟩
  rw [collect_of_endsAfter hclosed, result, Joins.valuesOf_eq_filterMap]
  simp only [Joins.ofEnds, List.map_map, Function.comp_def, List.map_id']

namespace Grounding

variable {ν α : Type} [Scalar α]

/-- The boxes of all answers that can be read. -/
def answered (l : List (TaskEnd String)) : List (Normalized α) :=
  (l.filterMap fun o => (o.andThen (Reply.boxes (α := α))).value?).flatten

/-- A vote that fails, answered with `silent` instead. -/
def orSilent (α : Type) [Scalar α] (silent : String) (o : TaskEnd String) : TaskEnd String :=
  match o.andThen (Reply.boxes (α := α)) with
  | .value _ => o
  | _        => .value silent

theorem answered_perm {l l' : List (TaskEnd String)} (h : l.Perm l') :
    (answered l : List (Normalized α)).Perm (answered l') :=
  (h.filterMap _).flatten

theorem answered_cons (o : TaskEnd String) (l : List (TaskEnd String)) :
    (answered (o :: l) : List (Normalized α)) = (o.andThen Reply.boxes).value?.getD [] ++ answered l := by
  unfold answered
  cases h : (o.andThen (Reply.boxes (α := α))).value? with
  | none => simp only [List.filterMap_cons, h, Option.getD_none, List.nil_append]
  | some boxes => simp only [List.filterMap_cons, h, Option.getD_some, List.flatten_cons]

theorem answered_orSilent {silent : String} (hs : Reply.boxes (α := α) silent = .ok []) (l : List (TaskEnd String)) :
    (answered (l.map (orSilent α silent)) : List (Normalized α)) = answered l := by
  induction l with
  | nil => rfl
  | cons o l ih =>
    rw [List.map_cons, answered_cons, answered_cons, ih]
    congr 1
    unfold orSilent
    cases ho : o.andThen (Reply.boxes (α := α)) with
    | value boxes => dsimp only; rw [ho]
    | fault | crash => dsimp only; rw [TaskEnd.andThen_value_ok hs]; rfl

theorem isCalm_orSilent (silent : String) {o : TaskEnd String} (ho : o.isCalm = true) :
    (orSilent α silent o).isCalm = true := by
  unfold orSilent
  split
  · exact ho
  · rfl

/-- **What calm votes propose.** -/
theorem propose_ended (s : GroundingSettings α) (q : Question α) (p : Picture) {l : List (TaskEnd String)}
    (hl : ∀ o ∈ l, o.isCalm = true) :
    propose s q p (Joins.ofEnds false l) =
      .ok ⟨join s q.poll.votes ((answered l).filterMap (place s q p)), false⟩ := by
  have hcalm : ∀ o ∈ l.map (TaskEnd.andThen (Reply.boxes (α := α))), o.isCalm = true := by
    intro o' ho'
    obtain ⟨o, ho, rfl⟩ := List.mem_map.1 ho'
    rw [TaskEnd.isCalm_andThen Reply.isFatal_of_boxes]
    exact hl o ho
  obtain ⟨failed, hc⟩ := Harvest.collect_ofEnds hcalm
  have hmap : (Joins.ofEnds false l).map (TaskEnd.andThen (Reply.boxes (α := α))) =
      Joins.ofEnds false (l.map (TaskEnd.andThen Reply.boxes)) := by
    simp only [Joins.map, Joins.ofEnds, List.map_map, Function.comp_def]
  rw [propose, hmap, hc, List.filterMap_map]
  rfl

theorem join_perm [Scalar.Exact α] (s : GroundingSettings α) (hm : s.minPoints ≤ 2) {votes : Nat} (hv : 1 < votes)
    {l l' : List Box} (h : l.Perm l') : (join s votes l).Perm (join s votes l') := by
  rw [join, join, if_pos hv, if_pos hv]
  exact Cluster.averageBoxes_perm h s.iou hm

/-- A world in which every poll goes the same way. -/
def answering (j : Joins String) : (q : Query) → Id (q.Reply ν)
  | .stopped   => false
  | .clearStop => ()
  | .letters   => fun _ => ⟨0, Nat.zero_lt_succ 35⟩
  | .poll _    => j
  | .gather .. => ⟨j, .ok Match.Matched.nothing, false⟩

theorem run_detect (s : GroundingSettings α) (e : Element) (data : String) (p : Picture) (votes : Nat)
    (j : Joins String) : Dialogue.run (answering (ν := ν) j) (detect s e data p votes) =
      (question s e data p votes).bind fun q => propose s q p j := by
  unfold detect
  cases question s e data p votes <;> rfl

/-- **Neither the order of the votes nor the votes that fail make a difference**: whatever each of several votes comes to,
as long as no failure is final and nobody asks to stop, there is one multiset of boxes that is proposed for every order in
which the votes end, and also if every vote that fails had answered without boxes. -/
theorem detect_any_order [Scalar.Exact α] (s : GroundingSettings α) (hm : s.minPoints ≤ 2) (e : Element) (data : String)
    (p : Picture) {votes : Nat} (hv : 2 ≤ votes) (outcome : Fin votes → TaskEnd String)
    (hcalm : ∀ i, (outcome i).isCalm = true) {silent : String} (hs : Reply.boxes (α := α) silent = .ok []) :
    ∃ boxes : Multiset Box, ∀ o, o = outcome ∨ o = (fun i => orSilent α silent (outcome i)) →
      ∀ order : Equiv.Perm (Fin votes),
        (Dialogue.run (answering (ν := ν) (Joins.ended o order)) (detect s e data p votes)).map
            (fun v => (Multiset.ofList v.boxes, v.interrupted)) =
          (question s e data p votes).map fun _ => (boxes, false) := by
  cases hq : question s e data p votes with
  | error f =>
    refine ⟨0, fun o _ order => ?_⟩
    rw [run_detect, hq]
    rfl
  | ok q =>
    have hvotes : 1 < q.poll.votes := by
      rw [question_votes hq]
      omega
    refine ⟨join s q.poll.votes ((answered (List.ofFn outcome)).filterMap (place s q p)), fun o ho order => ?_⟩
    have hsame : (answered (List.ofFn o) : List (Normalized α)) = answered (List.ofFn outcome) := by
      rcases ho with rfl | rfl
      · rfl
      · have := answered_orSilent hs (List.ofFn outcome)
        rwa [List.map_ofFn] at this
    have hcalm' : ∀ x ∈ List.ofFn fun i => o (order i), x.isCalm = true := by
      intro x hx
      obtain ⟨i, rfl⟩ := List.mem_ofFn.1 hx
      rcases ho with rfl | rfl
      · exact hcalm _
      · exact isCalm_orSilent silent (hcalm _)
    have hperm : (answered (List.ofFn fun i => o (order i)) : List (Normalized α)).Perm
        (answered (List.ofFn outcome)) := by
      rw [← hsame]
      exact answered_perm (order.ofFn_comp_perm o)
    have hboxes := join_perm s hm hvotes (hperm.filterMap (place s q p))
    rw [run_detect, hq]
    show (propose s q p (Joins.ended o order)).map _ = .ok (_, false)
    rw [Joins.ended, propose_ended s q p hcalm', ← Multiset.coe_eq_coe.2 hboxes]
    rfl

/-! Three votes about a grey picture: two boxes that overlap, and a text without an answer between them. -/

def greyPicture : Picture := Picture.ofFn 20 10 .luma fun _ _ _ => 240

def okButton : Element := { id := "b", name := "button", description := "OK button" }

def pairs : GroundingSettings ℚ := { votes := 3, minPoints := 2 }

def threeVotes : Fin 3 → TaskEnd String
  | 0 => .value "\x7b\"boxes\":[[100,100,600,600]]\x7d"
  | 1 => .value "I cannot see it."
  | 2 => .value "\x7b\"boxes\":[[200,100,700,600]]\x7d"

theorem detect_any_order_three : pairs.minPoints ≤ 2 ∧ 2 ≤ 3 ∧ (∀ i, (threeVotes i).isCalm = true) ∧
    Reply.boxes (α := ℚ) "\x7b\"boxes\":[]\x7d" = .ok [] ∧
    ∀ order : Equiv.Perm (Fin 3),
      (Dialogue.run (answering (ν := ℚ) (Joins.ended threeVotes order)) (detect pairs okButton "" greyPicture 3)).map
          (fun v => (Multiset.ofList v.boxes, v.interrupted)) = .ok ({⟨3, 1, 10, 5⟩}, false) := by
  have hcalm : ∀ i, (threeVotes i).isCalm = true := by decide
  have hs : Reply.boxes (α := ℚ) "\x7b\"boxes\":[]\x7d" = .ok [] := by decide +kernel
  refine ⟨by decide, by decide, hcalm, hs, fun order => ?_⟩
  obtain ⟨boxes, hboxes⟩ := detect_any_order (ν := ℚ) pairs (by decide) okButton "" greyPicture (by decide : 2 ≤ 3)
    threeVotes hcalm hs
  -- what the votes say is read in their own order, and the theorem carries it to any other
  have hplaced : (question pairs okButton "" greyPicture 3).toOption.map (fun q =>
      (q.poll.votes, (answered (List.ofFn threeVotes)).filterMap (place pairs q greyPicture))) =
        some (3, [⟨2, 1, 10, 5⟩, ⟨4, 1, 10, 5⟩]) := by
    decide +kernel
  have hjoin : join pairs 3 [⟨2, 1, 10, 5⟩, ⟨4, 1, 10, 5⟩] = [⟨3, 1, 10, 5⟩] := by
    show (Cluster.clustersFrom (n := 2) _ _ [0, 1] [0, 1]).filterMap _ = _
    rw [Cluster.clustersFrom_flood (c := [0, 1]) (r := []) (by decide +kernel) (by decide +kernel),
      List.mergeSort_of_pairwise (by decide), Cluster.clustersFrom_skip (by decide +kernel), Cluster.clustersFrom]
    decide +kernel
  have hown := hboxes threeVotes (Or.inl rfl) 1
  rw [hboxes threeVotes (Or.inl rfl) order, ← hown]
  cases hq : question pairs okButton "" greyPicture 3 with
  | error f =>
    rw [hq] at hplaced
    cases hplaced
  | ok q =>
    rw [hq] at hplaced
    obtain ⟨hvotes, hl⟩ := Prod.ext_iff.1 (Option.some.inj hplaced)
    dsimp only at hvotes hl
    have hended : Joins.ended threeVotes 1 = Joins.ofEnds false (List.ofFn threeVotes) := rfl
    have hall : ∀ o ∈ List.ofFn threeVotes, o.isCalm = true := by
      intro o ho
      obtain ⟨i, rfl⟩ := List.mem_ofFn.1 ho
      exact hcalm i
    rw [run_detect, hq]
    show (propose pairs q greyPicture (Joins.ended threeVotes 1)).map _ = _
    rw [hended, propose_ended pairs q greyPicture hall, hvotes, hl, hjoin]
    rfl

end Grounding
end Pinpoint
