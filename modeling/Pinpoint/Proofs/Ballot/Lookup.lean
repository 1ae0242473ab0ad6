import Mathlib.Data.List.Induction
import Mathlib.Data.List.Nodup
import Pinpoint.Proofs.Ballot.Canonical
import Pinpoint.Proofs.Ballot.Count
import Pinpoint.Proofs.Label.Fresh
/-!
# Lookup — two ways to a ballot, and finding a candidate on it

Labels are drawn for the candidates, boxes merged first, or they are given, and what clashes is left out.  Both ways lead to
a *sound* ballot: one candidate a box, one label a candidate, every label in canonical form.  On a sound ballot a text
finds the candidate whose label is its canonical form and nobody else, so that every candidate is found by its label
(`ballots_sound`).
-/
namespace Pinpoint
namespace Ballot

/-- **A sound ballot.** -/
structure Sound (b : Ballot) : Prop where
  boxes     : (b.items.map (·.box)).Nodup
  labels    : (b.items.map (·.label)).Nodup
  canonical : ∀ c ∈ b.items, canonical c.label = c.label

variable {b : Ballot} {c : Labelled} {s : String}

theorem label_of_get? (h : b.get? s = some c) : c.label = canonical s := by
  have hlabel := List.find?_some h
  exact beq_iff_eq.1 hlabel

/-- **Where labels differ, a text finds the candidate it names.** -/
theorem get?_eq_some_iff (h : (b.items.map (·.label)).Nodup) :
    b.get? s = some c ↔ c ∈ b.items ∧ canonical s = c.label := by
  constructor
  · exact fun hget => ⟨mem_of_get? hget, (label_of_get? hget).symm⟩
  · rintro ⟨hc, hlabel⟩
    obtain ⟨d, hget⟩ := Option.isSome_iff_exists.1 (get?_isSome_iff.2 ⟨c, hc, hlabel.symm⟩)
    rw [hget, List.inj_on_of_nodup_map h (mem_of_get? hget) hc ((label_of_get? hget).trans hlabel)]

theorem Sound.get?_label (h : b.Sound) (hc : c ∈ b.items) : b.get? c.label = some c :=
  (get?_eq_some_iff h.labels).2 ⟨hc, h.canonical c hc⟩

/-! ## Drawn labels -/

section
variable {σ : Type} (next : σ → Fin 36 × σ) (len retry : Nat)

theorem exists_fresh_of_mem_assign : ∀ (taken : List String) (l : List Candidate) (g : σ),
    c ∈ (assign next len retry taken l g).1 → ∃ taken' g', c.label = (Label.fresh next taken' len retry g').1
  | _, [], _, h         => by cases h
  | taken, d :: l, g, h => by
    rcases List.mem_cons.1 h with rfl | h
    · exact ⟨taken, g, rfl⟩
    · exact exists_fresh_of_mem_assign _ l _ h

/-- Drawn labels differ from each other and from those taken. -/
theorem labels_assign : ∀ (taken : List String) (l : List Candidate) (g : σ),
    ((assign next len retry taken l g).1.map (·.label)).Nodup ∧
      ∀ c ∈ (assign next len retry taken l g).1, c.label ∉ taken
  | _, [], _         => ⟨List.nodup_nil, List.forall_mem_nil _⟩
  | taken, d :: l, g => by
    have hnew := Label.fresh_not_mem next taken len retry g
    rw [assign]
    generalize Label.fresh next taken len retry g = w at hnew ⊢
    obtain ⟨hnodup, hfree⟩ := labels_assign (w.1 :: taken) l w.2
    refine ⟨List.nodup_cons.2 ⟨fun hmem => ?_, hnodup⟩, List.forall_mem_cons.2 ⟨hnew, fun c hc => ?_⟩⟩
    · obtain ⟨c, hc, hlabel⟩ := List.mem_map.1 hmem
      exact hfree c hc (by rw [hlabel]; exact List.mem_cons_self)
    · exact fun hmem => hfree c hc (List.mem_cons_of_mem _ hmem)

theorem canonical_fresh (taken : List String) (g : σ) :
    canonical (Label.fresh next taken len retry g).1 = (Label.fresh next taken len retry g).1 := by
  have hletters := Label.exists_letter_of_mem_fresh next taken len retry g
  generalize (Label.fresh next taken len retry g).1 = s at hletters
  have hascii : ∀ i, (Label.letter i).toNat < 128 := by decide
  have hblank : ∀ i, Text.isBlank (Label.letter i) = false := by decide
  have hlower : ∀ i, (Label.letter i).toLower = Label.letter i := by decide
  refine canonical_eq_self (fun c hc => ?_) ⟨fun c hc => ?_, fun c hc => ?_⟩ fun c hc => ?_
  · obtain ⟨i, rfl⟩ := hletters c hc
    exact hascii i
  · obtain ⟨i, rfl⟩ := hletters c (List.mem_of_mem_head? hc)
    exact hblank i
  · obtain ⟨i, rfl⟩ := hletters c (List.mem_of_getLast? hc)
    exact hblank i
  · obtain ⟨i, rfl⟩ := hletters c hc
    exact hlower i

theorem map_box_draw (l : List Candidate) (g : σ) :
    (draw next len retry l g).1.items.map (·.box) = (Candidate.collapse l).map (·.box) := by
  rw [← candidates_draw next len retry l g, List.map_map]
  rfl

/-- **A drawn ballot is sound.** -/
theorem draw_sound (l : List Candidate) (g : σ) : (draw next len retry l g).1.Sound where
  boxes := by
    rw [map_box_draw]
    exact Candidate.nodup_collapse l
  labels := (labels_assign next len retry [] _ g).1
  canonical c hc := by
    obtain ⟨taken, g', hlabel⟩ := exists_fresh_of_mem_assign next len retry [] _ g hc
    rw [hlabel, canonical_fresh]

theorem label_draw_ne_empty (l : List Candidate) (g : σ) : ∀ c ∈ (draw next len retry l g).1.items, c.label ≠ "" := by
  intro c hc
  obtain ⟨taken, g', hlabel⟩ := exists_fresh_of_mem_assign next len retry [] _ g hc
  rw [hlabel]
  exact Label.fresh_ne_empty next taken len retry g'

end

/-! ## Given labels -/

section
variable {α : Type} (clash : α → α → Bool)

/-- What a scan keeps: all that clash with nothing kept before. -/
def sieve (l : List α) : List α := l.foldl (fun kept a => if kept.any (clash a) then kept else kept ++ [a]) []

theorem sieve_concat (l : List α) (a : α) : sieve clash (l ++ [a]) =
    if (sieve clash l).any (clash a) then sieve clash l else sieve clash l ++ [a] := by
  unfold sieve
  rw [List.foldl_append]
  rfl

theorem mem_of_mem_sieve {a : α} (l : List α) : a ∈ sieve clash l → a ∈ l := by
  induction l using List.reverseRecOn with
  | nil => exact id
  | append_singleton l d ih =>
    rw [sieve_concat]
    split
    · exact fun h => List.mem_append_left [d] (ih h)
    · intro h
      rcases List.mem_append.1 h with h | h
      · exact List.mem_append_left [d] (ih h)
      · exact List.mem_append_right l h

theorem pairwise_sieve (l : List α) : (sieve clash l).Pairwise fun a d => clash d a = false := by
  induction l using List.reverseRecOn with
  | nil => exact .nil
  | append_singleton l d ih =>
    rw [sieve_concat]
    by_cases hany : (sieve clash l).any (clash d) = true
    · rw [if_pos hany]
      exact ih
    · rw [if_neg hany]
      rw [List.any_eq_true] at hany
      refine List.pairwise_append.2 ⟨ih, List.pairwise_singleton _ _, fun a ha e he => ?_⟩
      rw [List.mem_singleton.1 he]
      simpa using fun hclash => hany ⟨a, ha, hclash⟩

/-- **The places a scan keeps**: those whose element clashes with none at an earlier place kept. -/
structure Keeps (keep : Nat → Bool) (l : List α) : Prop where
  places : ∀ p ∈ l.zipIdx, keep p.2 = true ↔
    ∀ q ∈ l.zipIdx, q.2 < p.2 → keep q.2 = true → clash p.1 q.1 = false
  sieve  : sieve clash l = (l.zipIdx.filter fun p => keep p.2).map (·.1)

variable {clash} {keep : Nat → Bool} {l : List α}

theorem Keeps.any_eq_false_iff (h : Keeps clash keep l) (d : α) : (Ballot.sieve clash l).any (clash d) = false ↔
    ∀ q ∈ l.zipIdx, keep q.2 = true → clash d q.1 = false := by
  rw [h.sieve, List.any_eq_false]
  constructor
  · intro hnone q hq hkq
    simpa using hnone q.1 (List.mem_map_of_mem (List.mem_filter.2 ⟨hq, hkq⟩))
  · intro hnone a ha
    obtain ⟨q, hq, rfl⟩ := List.mem_map.1 ha
    obtain ⟨hq, hkq⟩ := List.mem_filter.1 hq
    simpa using hnone q hq hkq

theorem lt_of_mem_zipIdx {p : α × Nat} (h : p ∈ l.zipIdx) : p.2 < l.length := by
  simpa using List.snd_lt_of_mem_zipIdx h

theorem zipIdx_concat (l : List α) (d : α) : (l ++ [d]).zipIdx = l.zipIdx ++ [(d, l.length)] := by
  rw [List.zipIdx_append, Nat.zero_add]
  rfl

/-- The last place is before none. -/
theorem forall_before_concat {P : α × Nat → Prop} {n : Nat} (hn : n ≤ l.length) (d : α) :
    (∀ q ∈ (l ++ [d]).zipIdx, q.2 < n → P q) ↔ ∀ q ∈ l.zipIdx, q.2 < n → P q := by
  rw [zipIdx_concat]
  constructor
  · exact fun hall q hq => hall q (List.mem_append_left _ hq)
  · intro hall q hq hqn
    rcases List.mem_append.1 hq with hq | hq
    · exact hall q hq hqn
    · rw [List.mem_singleton.1 hq] at hqn
      exact absurd hqn (Nat.not_lt.2 hn)

/-- The places before stay as they are, and the last one is kept if it fits. -/
theorem Keeps.concat (h : Keeps clash keep l) (d : α) : Keeps clash
    (fun n => if n < l.length then keep n else !(Ballot.sieve clash l).any (clash d)) (l ++ [d]) := by
  generalize hkeep' : (fun n => if n < l.length then keep n else !(Ballot.sieve clash l).any (clash d)) = keep'
  have hold : ∀ p ∈ l.zipIdx, keep' p.2 = keep p.2 := fun p hp => by
    rw [← hkeep']
    exact if_pos (lt_of_mem_zipIdx hp)
  have hlast : keep' l.length = !(Ballot.sieve clash l).any (clash d) := by
    rw [← hkeep']
    exact if_neg (Nat.lt_irrefl _)
  constructor
  · intro p hp
    have hp' : p ∈ l.zipIdx ∨ p = (d, l.length) := by
      rwa [zipIdx_concat, List.mem_append, List.mem_singleton] at hp
    have hle : p.2 ≤ l.length := by
      rcases hp' with hp | rfl
      · exact Nat.le_of_lt (lt_of_mem_zipIdx hp)
      · exact Nat.le_refl _
    have hbefore : (∀ q ∈ (l ++ [d]).zipIdx, q.2 < p.2 → keep' q.2 = true → clash p.1 q.1 = false) ↔
        ∀ q ∈ l.zipIdx, q.2 < p.2 → keep q.2 = true → clash p.1 q.1 = false :=
      (forall_before_concat hle d).trans (forall₂_congr fun q hq => by rw [hold q hq])
    rw [hbefore]
    rcases hp' with hp | rfl
    · rw [hold p hp]
      exact h.places p hp
    · rw [hlast, Bool.not_eq_true', h.any_eq_false_iff]
      exact forall₂_congr fun q hq => ⟨fun hnone _ => hnone, fun hnone => hnone (lt_of_mem_zipIdx hq)⟩
  · have hfilter : (l.zipIdx.filter fun p => keep' p.2) = l.zipIdx.filter fun p => keep p.2 := List.filter_congr hold
    rw [sieve_concat, zipIdx_concat, List.filter_append, List.map_append, hfilter, ← h.sieve]
    by_cases hany : (Ballot.sieve clash l).any (clash d) = true <;> simp [hany, hlast]

variable (clash) in
theorem exists_keeps (l : List α) : ∃ keep : Nat → Bool, Keeps clash keep l := by
  induction l using List.reverseRecOn with
  | nil => exact ⟨fun _ => false, List.forall_mem_nil _, rfl⟩
  | append_singleton l d ih =>
    obtain ⟨keep, h⟩ := ih
    exact ⟨_, h.concat d⟩

end

/-- A candidate with its label in canonical form. -/
def canonized (c : Labelled) : Labelled := { c with label := canonical c.label }

theorem label_canonized (c : Labelled) : (canonized c).label = canonical c.label := rfl
theorem box_canonized (c : Labelled) : (canonized c).box = c.box := by simp only [Labelled.box, canonized]

theorem items_ofLabelled (l : List Labelled) : (ofLabelled l).items = sieve clashes (l.map canonized) := by
  unfold sieve
  rw [List.foldl_map]
  rfl

theorem clashes_eq_false_iff {c d : Labelled} : clashes c d = false ↔ d.label ≠ c.label ∧ d.box ≠ c.box := by
  simp only [clashes, Bool.or_eq_false_iff, beq_eq_false_iff_ne, Labelled.box, ne_comm]

/-- **What is left of labels that are given**: what clashes with nothing kept before, in neither label nor box. -/
theorem exists_keep_ofLabelled (l : List Labelled) : ∃ keep : Nat → Bool,
    (∀ p ∈ l.zipIdx, keep p.2 = true ↔ ∀ q ∈ l.zipIdx, q.2 < p.2 → keep q.2 = true →
      canonical q.1.label ≠ canonical p.1.label ∧ q.1.box ≠ p.1.box) ∧
      (ofLabelled l).items = (l.zipIdx.filter fun p => keep p.2).map fun p => canonized p.1 := by
  obtain ⟨keep, h⟩ := exists_keeps clashes (l.map canonized)
  have hzip : (l.map canonized).zipIdx = l.zipIdx.map (Prod.map canonized id) := List.zipIdx_map
  refine ⟨keep, fun p hp => ?_, ?_⟩
  · have hplace := h.places (Prod.map canonized id p) (by rw [hzip]; exact List.mem_map_of_mem hp)
    rw [hzip] at hplace
    simpa only [List.forall_mem_map, Prod.map_fst, Prod.map_snd, id_eq, clashes_eq_false_iff, label_canonized,
      box_canonized] using hplace
  · rw [items_ofLabelled, h.sieve, hzip, List.filter_map, List.map_map]
    simp only [Function.comp_def, Prod.map_fst, Prod.map_snd, id_eq]

/-- **A ballot of given ASCII labels is sound.** -/
theorem ofLabelled_sound {l : List Labelled} (hl : ∀ c ∈ l, Text.IsAscii c.label) : (ofLabelled l).Sound := by
  have hpairs : (ofLabelled l).items.Pairwise fun c d => c.label ≠ d.label ∧ c.box ≠ d.box := by
    rw [items_ofLabelled]
    exact (pairwise_sieve clashes _).imp fun h => clashes_eq_false_iff.1 h
  constructor
  · exact List.pairwise_map.2 (hpairs.imp fun h => h.2)
  · exact List.pairwise_map.2 (hpairs.imp fun h => h.1)
  · intro c hc
    rw [items_ofLabelled] at hc
    obtain ⟨d, hd, rfl⟩ := List.mem_map.1 (mem_of_mem_sieve clashes _ hc)
    rw [label_canonized, canonical_canonical (hl d hd)]

/-! ## Both ways -/

/-- **Ballots and what is found on them.**  A drawn ballot has every box once, where it is first seen and with all of its
sources, under labels that are not empty.  A ballot of given labels keeps exactly what clashes with nothing kept before.  On
both, boxes and labels differ, a text finds the candidate whose label is its canonical form, and every label its own
candidate. -/
theorem ballots_sound {σ : Type} (next : σ → Fin 36 × σ) (len retry : Nat) (cs : List Candidate) (g : σ)
    (ls : List Labelled) (hls : ∀ c ∈ ls, Text.IsAscii c.label) :
    (draw next len retry cs g).1.items.map (·.candidate) =
        (cs.map (·.box)).eraseDups.map (fun x => ⟨x, Candidate.sourcesOf cs x⟩) ∧
      (∀ c ∈ (draw next len retry cs g).1.items, c.label ≠ "") ∧
      (∃ keep : Nat → Bool,
        (∀ p ∈ ls.zipIdx, keep p.2 = true ↔ ∀ q ∈ ls.zipIdx, q.2 < p.2 → keep q.2 = true →
          canonical q.1.label ≠ canonical p.1.label ∧ q.1.box ≠ p.1.box) ∧
        (ofLabelled ls).items = (ls.zipIdx.filter fun p => keep p.2).map fun p => canonized p.1) ∧
      ∀ b : Ballot, b = (draw next len retry cs g).1 ∨ b = ofLabelled ls → b.Sound ∧
        (∀ s c, b.get? s = some c ↔ c ∈ b.items ∧ canonical s = c.label) ∧ ∀ c ∈ b.items, b.get? c.label = some c := by
  refine ⟨?_, label_draw_ne_empty next len retry cs g, exists_keep_ofLabelled ls, fun b hb => ?_⟩
  · rw [candidates_draw, Candidate.collapse_eq]
  · have hsound : b.Sound := by
      rcases hb with rfl | rfl
      · exact draw_sound next len retry cs g
      · exact ofLabelled_sound hls
    exact ⟨hsound, fun s c => get?_eq_some_iff hsound.labels, fun c hc => hsound.get?_label hc⟩

/-! Four given labels, of which the second has the box of the first, and the third its label in other case. -/

def given : List Labelled :=
  [⟨" Ok ", ⟨⟨0, 0, 9, 9⟩, .ofVision⟩⟩, ⟨"no", ⟨⟨0, 0, 9, 9⟩, .ofFeature⟩⟩, ⟨"oK", ⟨⟨5, 5, 9, 9⟩, .ofVision⟩⟩,
    ⟨"NO", ⟨⟨20, 0, 4, 4⟩, .ofTemplate⟩⟩]

theorem ballots_sound_given : (∀ c ∈ given, Text.IsAscii c.label) ∧
    (ofLabelled given).items = [⟨"ok", ⟨⟨0, 0, 9, 9⟩, .ofVision⟩⟩, ⟨"no", ⟨⟨20, 0, 4, 4⟩, .ofTemplate⟩⟩] ∧
    (ofLabelled given).get? "ok" = some ⟨"ok", ⟨⟨0, 0, 9, 9⟩, .ofVision⟩⟩ ∧
    (draw (fun n : Nat => (Fin.ofNat 36 (n / 2), n + 1)) 1 1 (given.map (·.candidate)) 0).1.items.map (·.candidate) =
      [⟨⟨0, 0, 9, 9⟩, ⟨true, true, false⟩⟩, ⟨⟨5, 5, 9, 9⟩, .ofVision⟩, ⟨⟨20, 0, 4, 4⟩, .ofTemplate⟩] := by
  have hascii : ∀ c ∈ given, Text.IsAscii c.label := by decide
  have hitems : (ofLabelled given).items =
      [⟨"ok", ⟨⟨0, 0, 9, 9⟩, .ofVision⟩⟩, ⟨"no", ⟨⟨20, 0, 4, 4⟩, .ofTemplate⟩⟩] := by decide
  obtain ⟨hdrawn, -, -, hsound⟩ := ballots_sound (fun n : Nat => (Fin.ofNat 36 (n / 2), n + 1)) 1 1
    (given.map (·.candidate)) 0 given hascii
  obtain ⟨-, -, hfinds⟩ := hsound (ofLabelled given) (Or.inr rfl)
  have hok := hfinds ⟨"ok", ⟨⟨0, 0, 9, 9⟩, .ofVision⟩⟩ (by rw [hitems]; exact List.mem_cons_self)
  refine ⟨hascii, hitems, hok, ?_⟩
  rw [hdrawn]
  decide

end Ballot
end Pinpoint
