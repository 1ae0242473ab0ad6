import Mathlib.Algebra.BigOperators.Group.List.Basic
import Mathlib.Algebra.Ring.Nat
import Pinpoint.Proofs.Ballot.Lookup
/-!
# Election — who wins, and what it does not depend on

A vote counts for the candidate whose label is its canonical form.  The winner has most votes, the largest box among those
with most and the first place among those (`Elected`), and there is only one such candidate (`Elected.unique`).  Since all
of it is said by the number of votes for each candidate, nothing else about the votes matters: not their order, not the
blanks around them, not those for nobody, and not which labels the candidates go by.
-/
namespace Pinpoint
namespace Ballot

/-- **The votes for a candidate**: those whose canonical form is its label. -/
def votesFor (votes : List String) (c : Labelled) : Nat := votes.countP fun v => canonical v == c.label

/-- A vote that names somebody. -/
def Names (b : Ballot) (v : String) : Prop := ∃ c ∈ b.items, canonical v = c.label

instance (b : Ballot) : DecidablePred b.Names := fun v =>
  inferInstanceAs (Decidable (∃ c ∈ b.items, canonical v = c.label))

/-- **Who is elected**: most votes, but not none; then the largest box; then the first place. -/
structure Elected (b : Ballot) (votes : List String) (c : Labelled) : Prop where
  named   : 0 < votesFor votes c
  most    : ∀ d ∈ b.items, votesFor votes d ≤ votesFor votes c
  largest : ∀ d ∈ b.items, votesFor votes d = votesFor votes c → d.box.area ≤ c.box.area
  first   : ∃ pre post, b.items = pre ++ c :: post ∧
    ∀ d ∈ pre, votesFor votes d = votesFor votes c → d.box.area ≠ c.box.area

variable {b b' : Ballot} {votes votes' : List String} {c d : Labelled} {l : List Labelled}

/-! ## The tally -/

theorem votesFor_nil (c : Labelled) : votesFor [] c = 0 := rfl

theorem votesFor_cons (v : String) (votes : List String) (c : Labelled) :
    votesFor (v :: votes) c = votesFor votes c + if canonical v = c.label then 1 else 0 := by
  rw [votesFor, List.countP_cons, votesFor]
  simp only [beq_iff_eq]

theorem count_eq (hc : c ∈ b.items) (votes : List String) : b.count votes c = votesFor votes c := by
  refine List.countP_congr fun v _ => ?_
  rw [beq_iff_eq, beq_iff_eq]
  constructor
  · intro h
    obtain ⟨d, hd, hlabel⟩ := Option.map_eq_some_iff.1 h
    rw [← label_of_get? hd, hlabel]
  · intro h
    obtain ⟨d, hd⟩ := Option.isSome_iff_exists.1 (get?_isSome_iff.2 ⟨c, hc, h.symm⟩)
    rw [hd, Option.map_some, label_of_get? hd, h]

theorem tally_eq (b : Ballot) (votes : List String) :
    b.tally votes = b.items.map fun c => (c.label, votesFor votes c) :=
  List.map_congr_left fun c hc => by rw [count_eq hc]

/-- Of labels that differ a text is at most one. -/
theorem sum_label_eq (s : String) : ∀ {l : List Labelled}, (l.map (·.label)).Nodup →
    (l.map fun c => if s = c.label then 1 else 0).sum = if ∃ c ∈ l, s = c.label then 1 else 0
  | [], _     => by simp
  | c :: l, h => by
    obtain ⟨hc, hl⟩ := List.nodup_cons.1 h
    rw [List.map_cons, List.sum_cons, sum_label_eq s hl]
    by_cases hs : s = c.label
    · have hnone : ¬ ∃ d ∈ l, s = d.label := by
        rintro ⟨d, hd, hlabel⟩
        exact hc (List.mem_map.2 ⟨d, hd, hlabel.symm.trans hs⟩)
      rw [if_neg hnone, if_pos hs, if_pos ⟨c, List.mem_cons_self, hs⟩]
    · simp [hs]

/-- **Every vote that names somebody is counted once.** -/
theorem sum_votesFor (h : (b.items.map (·.label)).Nodup) (votes : List String) :
    (b.items.map (votesFor votes)).sum = votes.countP fun v => b.Names v := by
  induction votes with
  | nil =>
    have hnone : votesFor [] = fun _ => 0 := funext votesFor_nil
    simp [hnone]
  | cons v votes ih =>
    have hsplit : votesFor (v :: votes) = fun c => votesFor votes c + if canonical v = c.label then 1 else 0 :=
      funext (votesFor_cons v votes)
    rw [hsplit, List.sum_map_add, ih, sum_label_eq _ h, List.countP_cons]
    simp only [decide_eq_true_eq]
    rfl

/-! ## The winner -/

/-- The first of the largest. -/
def FirstLargest (l : List Labelled) (c : Labelled) : Prop := ∃ pre post, l = pre ++ c :: post ∧
  (∀ d ∈ pre, d.box.area < c.box.area) ∧ ∀ d ∈ post, d.box.area ≤ c.box.area

theorem FirstLargest.le (h : FirstLargest l c) (hd : d ∈ l) : d.box.area ≤ c.box.area := by
  obtain ⟨pre, post, rfl, hpre, hpost⟩ := h
  rcases List.mem_append.1 hd with hd | hd
  · exact Nat.le_of_lt (hpre d hd)
  · rcases List.mem_cons.1 hd with rfl | hd
    · exact Nat.le_refl _
    · exact hpost d hd

theorem firstLargest_foldl (l : List Labelled) : ∀ c, l.foldl larger none = some c → FirstLargest l c := by
  induction l using List.reverseRecOn with
  | nil => exact fun c h => by cases h
  | append_singleton l d ih =>
    intro c h
    rw [List.foldl_append] at h
    cases hbest : l.foldl larger none with
    | none =>
      have hl : l = [] := by
        by_contra hl
        have hsome := isSome_foldl_larger hl
        rw [hbest] at hsome
        cases hsome
      rw [hbest] at h
      obtain rfl : d = c := Option.some.inj h
      exact ⟨[], [], by rw [hl], List.forall_mem_nil _, List.forall_mem_nil _⟩
    | some e =>
      have hfirst := ih e hbest
      rw [hbest] at h
      by_cases hle : d.box.area ≤ e.box.area
      · obtain rfl : e = c := Option.some.inj ((if_pos hle).symm.trans h)
        obtain ⟨pre, post, rfl, hpre, hpost⟩ := hfirst
        refine ⟨pre, post ++ [d], by simp, hpre, fun f hf => ?_⟩
        rcases List.mem_append.1 hf with hf | hf
        · exact hpost f hf
        · rwa [List.mem_singleton.1 hf]
      · obtain rfl : d = c := Option.some.inj ((if_neg hle).symm.trans h)
        refine ⟨l, [], rfl, fun f hf => ?_, List.forall_mem_nil _⟩
        exact Nat.lt_of_le_of_lt (hfirst.le hf) (Nat.lt_of_not_le hle)

theorem FirstLargest.mem (h : FirstLargest l c) : c ∈ l := by
  obtain ⟨pre, post, rfl, -, -⟩ := h
  simp

/-- The first of the largest of a kind has none of its kind and size before it. -/
theorem FirstLargest.of_filter {p : Labelled → Bool} (h : FirstLargest (l.filter p) c) :
    ∃ pre post, l = pre ++ c :: post ∧ ∀ d ∈ pre, p d = true → d.box.area ≠ c.box.area := by
  obtain ⟨pre, post, hsplit, hpre, -⟩ := h
  obtain ⟨l₁, l₂, rfl, hl₁, hl₂⟩ := List.filter_eq_append_iff.1 hsplit
  obtain ⟨m₁, m₂, rfl, hm₁, -, -⟩ := List.filter_eq_cons_iff.1 hl₂
  refine ⟨l₁ ++ m₁, m₂, by simp, fun d hd hp => ?_⟩
  rcases List.mem_append.1 hd with hd | hd
  · refine Nat.ne_of_lt (hpre d ?_)
    rw [← hl₁]
    exact List.mem_filter.2 ⟨hd, hp⟩
  · exact absurd hp (hm₁ d hd)

/-- **The winner is elected.** -/
theorem elected_of_winner (h : b.winner votes = some c) : b.Elected votes c := by
  rw [winner_eq] at h
  by_cases hzero : b.most votes = 0
  · rw [if_pos hzero] at h
    cases h
  rw [if_neg hzero] at h
  have hfirst := firstLargest_foldl _ c h
  obtain ⟨hc, hcount⟩ := List.mem_filter.1 hfirst.mem
  rw [beq_iff_eq, count_eq hc] at hcount
  -- whoever is tied with the winner was compared with it
  have htied : ∀ d ∈ b.items, votesFor votes d = votesFor votes c → (b.count votes d == b.most votes) = true := by
    intro d hd hvotes
    rw [beq_iff_eq, count_eq hd, hvotes, hcount]
  constructor
  case named =>
    rw [hcount]
    exact Nat.pos_of_ne_zero hzero
  case most =>
    intro d hd
    rw [hcount, ← count_eq hd]
    exact count_le_most hd
  case largest => exact fun d hd hvotes => hfirst.le (List.mem_filter.2 ⟨hd, htied d hd hvotes⟩)
  case first =>
    obtain ⟨pre, post, hitems, hpre⟩ := hfirst.of_filter
    refine ⟨pre, post, hitems, fun d hd hvotes => hpre d hd (htied d ?_ hvotes)⟩
    rw [hitems]
    exact List.mem_append_left _ hd

theorem Elected.mem (h : b.Elected votes c) : c ∈ b.items := by
  obtain ⟨pre, post, hitems, -⟩ := h.first
  rw [hitems]
  simp

/-- Of two places in a list one is the first. -/
theorem eq_or_mem_of_append_eq {pre post pre' post' : List Labelled} (h : pre ++ c :: post = pre' ++ d :: post') :
    c = d ∨ c ∈ pre' ∨ d ∈ pre := by
  rcases List.append_eq_append_iff.1 h with ⟨ws, rfl, hrest⟩ | ⟨ws, rfl, hrest⟩
  · cases ws with
    | nil       => exact Or.inl (List.cons.inj hrest).1
    | cons e ws => exact Or.inr (Or.inl (by simp [(List.cons.inj hrest).1]))
  · cases ws with
    | nil       => exact Or.inl (List.cons.inj hrest).1.symm
    | cons e ws => exact Or.inr (Or.inr (by simp [(List.cons.inj hrest).1]))

/-- **One candidate is elected.** -/
theorem Elected.unique (hc : b.Elected votes c) (hd : b.Elected votes d) : c = d := by
  have hvotes : votesFor votes c = votesFor votes d := Nat.le_antisymm (hd.most c hc.mem) (hc.most d hd.mem)
  have harea : c.box.area = d.box.area :=
    Nat.le_antisymm (hd.largest c hc.mem hvotes) (hc.largest d hd.mem hvotes.symm)
  obtain ⟨pre, post, hitems, hpre⟩ := hc.first
  obtain ⟨pre', post', hitems', hpre'⟩ := hd.first
  rcases eq_or_mem_of_append_eq (hitems.symm.trans hitems') with heq | hmem | hmem
  · exact heq
  · exact absurd harea (hpre' c hmem hvotes)
  · exact absurd harea.symm (hpre d hmem hvotes.symm)

/-- **Nobody wins exactly if no candidate has a vote.** -/
theorem winner_eq_none_iff : b.winner votes = none ↔ ∀ c ∈ b.items, votesFor votes c = 0 := by
  rw [← Option.not_isSome_iff_eq_none, winner_isSome_iff]
  simp only [get?_isSome_iff, votesFor, List.countP_eq_zero, beq_iff_eq]
  constructor
  · exact fun h c hc v hv hlabel => h ⟨v, hv, c, hc, hlabel.symm⟩
  · rintro h ⟨v, hv, c, hc, hlabel⟩
    exact h c hc v hv hlabel.symm

/-- **Who is elected wins.** -/
theorem winner_eq_some_iff : b.winner votes = some c ↔ b.Elected votes c := by
  refine ⟨elected_of_winner, fun h => ?_⟩
  cases hwinner : b.winner votes with
  | none   => exact absurd (winner_eq_none_iff.1 hwinner c h.mem) (Nat.ne_of_gt h.named)
  | some d => rw [(elected_of_winner hwinner).unique h]

/-! ## What does not matter -/

theorem foldl_larger_map {f : Labelled → Labelled} (hf : ∀ c, (f c).box = c.box) (l : List Labelled) :
    (l.map f).foldl larger none = (l.foldl larger none).map f := by
  have hstep : ∀ best c, larger (best.map f) (f c) = (larger best c).map f := by
    intro best c
    cases best with
    | none => rfl
    | some d =>
      have hc : (f c).candidate.box = c.candidate.box := hf c
      have hd : (f d).candidate.box = d.candidate.box := hf d
      simp only [larger, Option.map_some, hc, hd]
      split <;> rfl
  rw [List.foldl_map]
  exact @List.foldl_hom _ _ _ (Option.map f) larger _ l none hstep

/-- **Only the numbers of votes and the boxes decide**, place by place. -/
theorem winner_map {f : Labelled → Labelled} (hitems : b'.items = b.items.map f) (hf : ∀ c, (f c).box = c.box)
    (hvotes : ∀ c ∈ b.items, votesFor votes' (f c) = votesFor votes c) :
    b'.winner votes' = (b.winner votes).map f := by
  have hcount : ∀ c ∈ b.items, b'.count votes' (f c) = b.count votes c := by
    intro c hc
    rw [count_eq (by rw [hitems]; exact List.mem_map_of_mem hc), count_eq hc, hvotes c hc]
  have hmost : b'.most votes' = b.most votes := by
    rw [most, hitems, List.map_map, most]
    exact congrArg (List.foldl max 0) (List.map_congr_left hcount)
  have hfilter : (b'.items.filter fun c => b'.count votes' c == b'.most votes') =
      (b.items.filter fun c => b.count votes c == b.most votes).map f := by
    rw [hmost, hitems, List.filter_map]
    exact congrArg _ (List.filter_congr fun c hc => by rw [Function.comp_apply, hcount c hc])
  rw [winner_eq, winner_eq, hfilter, hmost, foldl_larger_map hf, apply_ite (Option.map f), Option.map_none]

/-- Two lists of votes with one answer. -/
def Agrees (b : Ballot) (votes votes' : List String) : Prop :=
  b.winner votes' = b.winner votes ∧ b.tally votes' = b.tally votes

theorem Agrees.of_votesFor (h : ∀ c ∈ b.items, votesFor votes' c = votesFor votes c) : b.Agrees votes votes' := by
  constructor
  · rw [winner_map (f := id) (List.map_id _).symm (fun _ => rfl) h, Option.map_id, id_eq]
  · rw [tally_eq, tally_eq]
    exact List.map_congr_left fun c hc => by rw [h c hc]

/-- **Neither order nor votes for nobody matter.** -/
theorem agrees_of_perm {idle : List String} (h : votes'.Perm (votes ++ idle)) (hidle : ∀ v ∈ idle, ¬ b.Names v) :
    b.Agrees votes votes' := by
  refine .of_votesFor fun c hc => ?_
  have hnone : votesFor idle c = 0 :=
    List.countP_eq_zero.2 fun v hv hlabel => hidle v hv ⟨c, hc, beq_iff_eq.1 hlabel⟩
  have hsum : votesFor votes' c = votesFor votes c + votesFor idle c := (h.countP_eq _).trans List.countP_append
  rw [hsum, hnone, Nat.add_zero]

theorem votesFor_pad (h : List.Forall₂ Padded votes votes') (c : Labelled) : votesFor votes' c = votesFor votes c := by
  induction h with
  | nil => rfl
  | cons hv _ ih =>
    rw [votesFor_cons, votesFor_cons, ih, canonical_pad hv]

/-! ## Other labels -/

/-- A candidate under another label. -/
def renamed (ρ : String → String) (c : Labelled) : Labelled := { c with label := ρ c.label }

theorem label_renamed (ρ : String → String) (c : Labelled) : (renamed ρ c).label = ρ c.label := rfl

/-- The ballot with other labels. -/
def relabel (b : Ballot) (ρ : String → String) : Ballot := ⟨b.items.map (renamed ρ)⟩

/-- **A vote recast for other labels** names the same candidate, or nobody where nobody was named. -/
inductive Recast (b : Ballot) (ρ : String → String) : String → String → Prop where
  | named {c : Labelled} {v v' : String} (hc : c ∈ b.items) (hv : canonical v = c.label)
      (hv' : canonical v' = ρ c.label) : Recast b ρ v v'
  | idle {v v' : String} (hv : ¬ b.Names v) (hv' : ¬ (b.relabel ρ).Names v') : Recast b ρ v v'

variable {ρ : String → String} {v v' : String}

theorem Recast.names_iff (h : b.Recast ρ v v') (hlabels : ((b.relabel ρ).items.map (·.label)).Nodup)
    (hc : c ∈ b.items) : canonical v' = ρ c.label ↔ canonical v = c.label := by
  cases h with
  | @named d _ _ hd hv hv' =>
    rw [hv, hv']
    constructor
    · intro hlabel
      rw [relabel, List.map_map] at hlabels
      rw [List.inj_on_of_nodup_map hlabels hd hc hlabel]
    · exact congrArg ρ
  | idle hv hv' =>
    constructor
    · exact fun hlabel => absurd ⟨renamed ρ c, List.mem_map_of_mem hc, hlabel⟩ hv'
    · exact fun hlabel => absurd ⟨c, hc, hlabel⟩ hv

theorem votesFor_recast (hlabels : ((b.relabel ρ).items.map (·.label)).Nodup)
    (h : List.Forall₂ (b.Recast ρ) votes votes') (hc : c ∈ b.items) :
    votesFor votes' (renamed ρ c) = votesFor votes c := by
  induction h with
  | nil => rw [votesFor_nil, votesFor_nil]
  | cons hv _ ih =>
    rw [votesFor_cons, votesFor_cons, ih]
    simp only [label_renamed, hv.names_iff hlabels hc]

/-- **Labels do not matter.** -/
theorem answer_relabel (hlabels : ((b.relabel ρ).items.map (·.label)).Nodup)
    (h : List.Forall₂ (b.Recast ρ) votes votes') :
    (b.relabel ρ).winner votes' = (b.winner votes).map (renamed ρ) ∧
      (b.relabel ρ).tally votes' = (b.tally votes).map (Prod.map ρ id) := by
  have hvotes : ∀ c ∈ b.items, votesFor votes' (renamed ρ c) = votesFor votes c :=
    fun c hc => votesFor_recast hlabels h hc
  constructor
  · exact winner_map rfl (fun _ => rfl) hvotes
  · rw [tally_eq, tally_eq, relabel, List.map_map, List.map_map]
    exact List.map_congr_left fun c hc => congrArg (Prod.mk (ρ c.label)) (hvotes c hc)

/-! ## The answer -/

/-- **What the votes decide where labels differ.**  The tally gives every candidate its votes, and its numbers add up to
the votes that name somebody.  Nobody wins exactly if all of them are 0, and the winner is who is elected.  Order, votes
for nobody and blanks do not matter, nor do labels: other labels, and votes recast for them, give the same candidate. -/
theorem answer_by_votes (hlabels : (b.items.map (·.label)).Nodup) (votes : List String) :
    b.tally votes = b.items.map (fun c => (c.label, votesFor votes c)) ∧
      ((b.tally votes).map (·.2)).sum = votes.countP (fun v => b.Names v) ∧
      (b.winner votes = none ↔ ∀ c ∈ b.items, votesFor votes c = 0) ∧
      (∀ c, b.winner votes = some c ↔ b.Elected votes c) ∧
      (∀ votes' idle : List String, votes'.Perm (votes ++ idle) → (∀ v ∈ idle, ¬ b.Names v) → b.Agrees votes votes') ∧
      (∀ votes', List.Forall₂ Padded votes votes' → b.Agrees votes votes') ∧
      ∀ ρ votes', ((b.relabel ρ).items.map (·.label)).Nodup → List.Forall₂ (b.Recast ρ) votes votes' →
        (b.relabel ρ).winner votes' = (b.winner votes).map (renamed ρ) ∧
          (b.relabel ρ).tally votes' = (b.tally votes).map (Prod.map ρ id) := by
  refine ⟨tally_eq b votes, ?_, winner_eq_none_iff, fun c => winner_eq_some_iff, fun votes' idle => agrees_of_perm,
    fun votes' h => .of_votesFor fun c _ => votesFor_pad h c, fun ρ votes' => answer_relabel⟩
  rw [tally_eq, List.map_map]
  exact sum_votesFor hlabels votes

/-! A vote each for the last two of three, who are equally large, and one for nobody; then with another such vote in
another order, with blanks, and with the labels handed round. -/

def second : Labelled := ⟨"b", ⟨⟨5, 0, 3, 3⟩, .ofFeature⟩⟩
def three : Ballot := ⟨[⟨"a", ⟨⟨0, 0, 2, 2⟩, .ofVision⟩⟩, second, ⟨"c", ⟨⟨9, 0, 3, 3⟩, .ofVision⟩⟩]⟩

def handedRound (s : String) : String := if s = "a" then "b" else if s = "b" then "c" else "a"

theorem answer_by_votes_three : (three.items.map (·.label)).Nodup ∧ three.winner ["c", "x", "B"] = some second ∧
    three.winner ["B", "y", "c", "x"] = some second ∧ three.winner [" c\n", "x", "B\t"] = some second ∧
    (three.relabel handedRound).winner ["A ", "x", "c"] = some (renamed handedRound second) := by
  have hlabels : (three.items.map (·.label)).Nodup := by decide
  obtain ⟨-, -, -, -, hperm, hpad, hrelabel⟩ := answer_by_votes hlabels ["c", "x", "B"]
  have hwinner : three.winner ["c", "x", "B"] = some second := by decide
  have horder : three.Agrees ["c", "x", "B"] ["B", "y", "c", "x"] := hperm _ ["y"] (by decide) (by decide)
  have hpadded : three.Agrees ["c", "x", "B"] [" c\n", "x", "B\t"] :=
    hpad _ (.cons ⟨" ", "\n", by decide⟩ (.cons ⟨"", "", by decide⟩ (.cons ⟨"", "\t", by decide⟩ .nil)))
  have hrecast : List.Forall₂ (three.Recast handedRound) ["c", "x", "B"] ["A ", "x", "c"] :=
    .cons (.named (c := ⟨"c", ⟨⟨9, 0, 3, 3⟩, .ofVision⟩⟩) (by decide) (by decide) (by decide))
      (.cons (.idle (by decide) (by decide)) (.cons (.named (c := second) (by decide) (by decide) (by decide)) .nil))
  obtain ⟨hrenamed, -⟩ := hrelabel handedRound _ (by decide) hrecast
  refine ⟨hlabels, hwinner, horder.1.trans hwinner, hpadded.1.trans hwinner, ?_⟩
  rw [hrenamed, hwinner, Option.map_some]

end Ballot
end Pinpoint
