import Pinpoint.Proofs.Cluster.Copies
import Pinpoint.Proofs.Search.Parts
import Pinpoint.Proofs.Search.Votes
/-!
# Unanimous — one answer, given once or many times

Votes that all say the same repeat every box as often as there are votes.  Where different boxes overlap too little to be
one, that is enough for every box to be a core, and the clusters are the boxes of a single answer, each once and in the
order of that answer (`join_replicate`).  So asking several times and being told the same comes to what asking once does
(`detect_unanimous`).
-/
namespace Pinpoint
namespace Grounding

variable {ν α : Type} [Scalar α]

/-- **What an answer says**; nothing if it cannot be read. -/
def said (raw : String) : List (Normalized α) := (Reply.boxes raw).toOption.getD []

/-- What of a box of an answer is on the picture. -/
def seen (s : GroundingSettings α) (p : Picture) (b : Normalized α) : Option Box :=
  let f : Picture.Fitted α := p.fit s.maxSide s.maxPixels
  (b.toPixels s.scale f.picture.width f.picture.height f.ratio).bind fun b => b.clip? p.width p.height

/-- The boxes of an answer on the picture, each once and in the order in which they come first. -/
def sights (s : GroundingSettings α) (p : Picture) (boxes : List (Normalized α)) : List Box :=
  (boxes.filterMap (seen s p)).eraseDups

theorem place_eq_seen {s : GroundingSettings α} {e : Element} {data : String} {p : Picture} {votes : Nat}
    {q : Question α} (h : question s e data p votes = .ok q) : place s q p = seen s p := by
  obtain ⟨_, -, rfl⟩ := Except.map_eq_ok.1 h
  exact funext (place_eq_bind s _ p)

theorem nonempty_of_seen {s : GroundingSettings α} {p : Picture} {boxes : List (Normalized α)} {b : Box}
    (h : b ∈ boxes.filterMap (seen s p)) : b.isEmpty = false := by
  obtain ⟨_, -, hb⟩ := List.mem_filterMap.1 h
  obtain ⟨_, -, hclip⟩ := Option.bind_eq_some_iff.1 hb
  exact (Box.isPart_of_clip? hclip).nonempty

/-! ## Repeated answers -/

theorem said_eq (raw : String) :
    ((TaskEnd.value raw).andThen (Reply.boxes (α := α))).value?.getD [] = said raw := by
  unfold said
  cases h : Reply.boxes (α := α) raw with
  | error f =>
    rw [TaskEnd.andThen_value_error h]
    rfl
  | ok boxes =>
    rw [TaskEnd.andThen_value_ok h]
    rfl

theorem answered_same {boxes : List (Normalized α)} {texts : List String} (h : ∀ raw ∈ texts, said raw = boxes) :
    answered (texts.map .value) = (List.replicate texts.length boxes).flatten := by
  induction texts with
  | nil => rfl
  | cons raw texts ih =>
    obtain ⟨hraw, htexts⟩ := List.forall_mem_cons.1 h
    rw [List.map_cons, answered_cons, said_eq, hraw, ih htexts, List.length_cons, List.replicate_succ,
      List.flatten_cons]

/-- **Joining repeated answers** leaves every box once, whether there is one answer or enough for a core. -/
theorem join_replicate [Scalar.Exact α] {s : GroundingSettings α} {t : ℝ} (hiou : Scalar.Is s.iou t) (ht : t ≤ 1)
    {votes : Nat} (hv : 1 ≤ votes) (hm : votes = 1 ∨ s.minPoints ≤ votes) {l : List Box}
    (hne : ∀ b ∈ l, b.isEmpty = false) (hapart : ∀ a ∈ l, ∀ b ∈ l, a ≠ b → (a.iou b : α) < s.iou) :
    join s votes (List.replicate votes l).flatten = l.eraseDups := by
  have hmem : ∀ b ∈ (List.replicate votes l).flatten, b ∈ l := fun _ hb => mem_of_mem_replicate hb
  unfold join
  split
  · rename_i hmany
    have hcount : ∀ b ∈ (List.replicate votes l).flatten, s.minPoints ≤ (List.replicate votes l).flatten.count b :=
      fun b hb => (hm.resolve_left (by omega)).trans (le_count_replicate votes (hmem b hb))
    rw [Cluster.averageBoxes_copies hiou ht (fun b hb => hne b (hmem b hb))
      (fun a ha b hb => hapart a (hmem a ha) b (hmem b hb)) hcount, eraseDups_replicate hv]
  · exact eraseDups_replicate hv l

/-! ## Asking once and asking often -/

/-- What votes come to that all say the same; a single one needs no core. -/
theorem run_unanimous [Scalar.Exact α] {s : GroundingSettings α} {t : ℝ} (hiou : Scalar.Is s.iou t) (ht : t ≤ 1)
    (e : Element) (data : String) (p : Picture) {votes : Nat} (hv : 1 ≤ votes)
    (hm : votes = 1 ∨ s.minPoints ≤ votes) {boxes : List (Normalized α)}
    (hapart : ∀ a ∈ sights s p boxes, ∀ b ∈ sights s p boxes, a ≠ b → (a.iou b : α) < s.iou) {text : Fin votes → String}
    (htext : ∀ i, said (text i) = boxes) (order : Equiv.Perm (Fin votes)) :
    Dialogue.run (answering (ν := ν) (Joins.ended (fun i => .value (text i)) order)) (detect s e data p votes) =
      (question s e data p votes).map fun _ => ⟨sights s p boxes, false⟩ := by
  have hended : Joins.ended (fun i => TaskEnd.value (text i)) order =
      Joins.ofEnds false ((List.ofFn fun i => text (order i)).map .value) := by
    rw [Joins.ended, List.map_ofFn]
    rfl
  have hcalm : ∀ o ∈ (List.ofFn fun i => text (order i)).map TaskEnd.value, o.isCalm = true := by
    intro o ho
    obtain ⟨_, -, rfl⟩ := List.mem_map.1 ho
    rfl
  have hall : ∀ raw ∈ List.ofFn fun i => text (order i), said raw = boxes := by
    intro raw hraw
    obtain ⟨i, rfl⟩ := List.mem_ofFn.1 hraw
    exact htext _
  rw [run_detect]
  cases hq : question s e data p votes with
  | error f => rfl
  | ok q =>
    show propose s q p _ = .ok _
    rw [hended, propose_ended s q p hcalm, question_votes hq, max_eq_left hv, answered_same hall, List.length_ofFn,
      place_eq_seen hq, List.filterMap_flatten, List.map_replicate]
    rw [join_replicate hiou ht hv hm (fun b hb => nonempty_of_seen hb) fun a ha b hb =>
      hapart a (List.mem_eraseDups.2 ha) b (List.mem_eraseDups.2 hb)]
    rfl

/-- **Several votes that say the same come to what one of them comes to**: the boxes it says, as far as they are on the
picture, each once and in its order.  Different boxes have to overlap less than the threshold, which is at most one, and
there have to be as many votes as a core has boxes. -/
theorem detect_unanimous [Scalar.Exact α] {s : GroundingSettings α} {t : ℝ} (hiou : Scalar.Is s.iou t) (ht : t ≤ 1)
    (e : Element) (data : String) (p : Picture) {votes : Nat} (hv : 2 ≤ votes) (hm : s.minPoints ≤ votes)
    {one : String} {text : Fin votes → String} (htext : ∀ i, said (α := α) (text i) = said one)
    (hapart : ∀ a ∈ sights s p (said one), ∀ b ∈ sights s p (said one), a ≠ b → (a.iou b : α) < s.iou)
    (order : Equiv.Perm (Fin votes)) :
    Dialogue.run (answering (ν := ν) (Joins.ended (fun i => .value (text i)) order)) (detect s e data p votes) =
        ((Png.check (p.fit s.maxSide s.maxPixels : Picture.Fitted α).picture).map fun _ =>
          ⟨sights s p (said one), false⟩) ∧
      Dialogue.run (answering (ν := ν) (Joins.ended (fun _ : Fin 1 => .value one) 1)) (detect s e data p 1) =
        ((Png.check (p.fit s.maxSide s.maxPixels : Picture.Fitted α).picture).map fun _ =>
          ⟨sights s p (said one), false⟩) := by
  have hasked : ∀ k, (question s e data p k).map (fun _ => (⟨sights s p (said one), false⟩ : Proposal)) =
      (Png.check (p.fit s.maxSide s.maxPixels : Picture.Fitted α).picture).map fun _ =>
        ⟨sights s p (said one), false⟩ := fun k => by
    unfold question
    dsimp only
    cases Png.check (p.fit s.maxSide s.maxPixels : Picture.Fitted α).picture <;> rfl
  constructor
  · rw [run_unanimous hiou ht e data p (by omega) (Or.inr hm) hapart htext, hasked]
  · rw [run_unanimous hiou ht e data p le_rfl (Or.inl rfl) hapart (fun _ => rfl), hasked]

/-! Three votes about a grey picture that say the same two boxes, the first of them twice. -/

def twoButtons : String := "\x7b\"boxes\":[[100,100,300,300],[600,600,900,900],[100,100,300,300]]\x7d"

def oneVoice : Fin 3 → String
  | 0 => twoButtons
  | 1 => "I see " ++ twoButtons
  | 2 => "```json\n" ++ twoButtons ++ "\n```"

theorem detect_unanimous_three : Scalar.Is pairs.iou ((3 / 5 : ℚ) : ℝ) ∧ ((3 / 5 : ℚ) : ℝ) ≤ 1 ∧ 2 ≤ 3 ∧
    pairs.minPoints ≤ 3 ∧ (∀ i, said (α := ℚ) (oneVoice i) = said twoButtons) ∧
    (∀ a ∈ sights pairs greyPicture (said twoButtons), ∀ b ∈ sights pairs greyPicture (said twoButtons),
      a ≠ b → (a.iou b : ℚ) < pairs.iou) ∧
    (∀ order : Equiv.Perm (Fin 3),
      Dialogue.run (answering (ν := ℚ) (Joins.ended (fun i => .value (oneVoice i)) order))
        (detect pairs okButton "" greyPicture 3) = .ok ⟨[⟨2, 1, 4, 2⟩, ⟨12, 6, 6, 3⟩], false⟩) ∧
    Dialogue.run (answering (ν := ℚ) (Joins.ended (fun _ : Fin 1 => .value twoButtons) 1))
      (detect pairs okButton "" greyPicture 1) = .ok ⟨[⟨2, 1, 4, 2⟩, ⟨12, 6, 6, 3⟩], false⟩ := by
  have hiou : Scalar.Is pairs.iou ((3 / 5 : ℚ) : ℝ) := ⟨rfl, congrArg Rat.cast (by decide +kernel)⟩
  have ht : ((3 / 5 : ℚ) : ℝ) ≤ 1 := by norm_num
  have hsaid : ∀ i, said (α := ℚ) (oneVoice i) = said twoButtons := by decide +kernel
  have hsights : sights pairs greyPicture (said twoButtons) = [⟨2, 1, 4, 2⟩, ⟨12, 6, 6, 3⟩] := by decide +kernel
  have hapart : ∀ a ∈ sights pairs greyPicture (said twoButtons), ∀ b ∈ sights pairs greyPicture (said twoButtons),
      a ≠ b → (a.iou b : ℚ) < pairs.iou := by
    rw [hsights]
    decide +kernel
  have hsent : Png.check (greyPicture.fit pairs.maxSide pairs.maxPixels : Picture.Fitted ℚ).picture = .ok () := by
    decide +kernel
  have hrun := detect_unanimous (ν := ℚ) hiou ht okButton "" greyPicture (by decide : 2 ≤ 3)
    (by decide : pairs.minPoints ≤ 3) hsaid hapart
  rw [hsights, hsent] at hrun
  exact ⟨hiou, ht, by decide, by decide, hsaid, hapart, fun order => (hrun order).1, (hrun 1).2⟩

end Grounding
end Pinpoint
