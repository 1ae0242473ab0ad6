import Pinpoint.Proofs.Match.Answers
import Pinpoint.Proofs.Search.Run
import Pinpoint.Search.Locator
/-!
# Steps — what an answer of each step takes

One lemma for each step of a search: which questions it asked, what it was told, and what it made of that, given that it
came to an answer.  What holds of answers is proved from these lemmas, so that a change of a step changes one of them.  A
reply that cannot be read never ends the asking (`Reply.isFatal_of_decode`).
-/
namespace Pinpoint

/-! ## Reading a reply -/

namespace Reply

theorem isFatal_of_decode {β : Type} {s : Schema} {read : Json → Option β} {flaw : β → Option String} {raw : String}
    {f : Fault} (h : decode s read flaw raw = .error f) : f.isFatal = false := by
  unfold decode at h
  split at h
  · cases h
    rfl
  · split at h
    · cases h
      rfl
    · split at h
      · cases h
        rfl
      · cases h

theorem isFatal_of_label (raw : String) (f : Fault) (h : label raw = .error f) : f.isFatal = false := isFatal_of_decode h

theorem isFatal_of_boxes {α : Type} [Scalar α] (raw : String) (f : Fault) (h : boxes (α := α) raw = .error f) :
    f.isFatal = false :=
  isFatal_of_decode h

end Reply

/-! ## One question -/

open Dialogue

variable {ν α : Type} [Scalar α] {e : Element} {data : String} {p : Picture} {t : List (Exchange ν)}

theorem Grounding.question_votes {s : GroundingSettings α} {e : Element} {data : String} {p : Picture} {votes : Nat}
    {q : Question α} (h : question s e data p votes = .ok q) : q.poll.votes = max votes 1 := by
  obtain ⟨_, -, rfl⟩ := Except.map_eq_ok.1 h
  rfl

theorem Quorum.run_select_ok {s : GroundingSettings α} {b : Ballot} {votes : Nat} {v : Verdict}
    (h : Run (select s e data b p votes) t (.ok v)) :
    (b.isEmpty = true ∧ t = [] ∧ v = ⟨none, [], false⟩) ∨
      (b.isEmpty = false ∧ ∃ q j, question s e data b p votes = .ok q ∧ t = [⟨.poll q, j⟩] ∧ decide b j = .ok v) := by
  unfold select at h
  split at h
  · rename_i hb
    exact Or.inl ⟨hb, run_pure_ok.1 h⟩
  · rename_i hb
    obtain ⟨q, hq, h⟩ := run_lift_bind_ok.1 h
    obtain ⟨j, u, rfl, hj⟩ := run_query_bind_ok.1 h
    obtain ⟨rfl, hd⟩ := run_lift_ok.1 hj
    exact Or.inr ⟨Bool.not_eq_true _ ▸ hb, q, j, hq, rfl, hd⟩

namespace Locator

theorem combine_eq_ok {v : Except Fault Grounding.Proposal} {m : Except Fault (Match.Matched ν)}
    {first : Bool} {r : Grounding.Proposal × Match.Matched ν} (h : combine v m first = .ok r) :
    v = .ok r.1 ∧ m = .ok r.2 := by
  cases v <;> cases m <;> cases h
  exact ⟨rfl, rfl⟩

variable [Scalar ν] {c : LocatorSettings ν α} {reference : Option Picture} {shot : Capture α}

/-! ## Gathering -/

theorem run_gather_none_ok {m : Proposals ν} (h : Run (gather c e data p none) t (.ok m)) :
    ∃ q j v, Grounding.question c.grounding e data p c.grounding.votes = .ok q ∧ t = [⟨.poll q.poll, j⟩] ∧
      Grounding.propose c.grounding q p j = .ok v ∧ v.interrupted = false ∧ m = ⟨v.boxes, Match.Matched.nothing⟩ := by
  unfold gather at h
  obtain ⟨q, hq, h⟩ := run_lift_bind_ok.1 h
  obtain ⟨j, u, rfl, hj⟩ := run_query_bind_ok.1 h
  obtain ⟨v, hv, h⟩ := run_lift_bind_ok.1 hj
  obtain ⟨hi, hu, rfl⟩ := run_unless_ok.1 h
  exact ⟨q, j, v, hq, by rw [hu], hv, hi, rfl⟩

theorem run_gather_some_ok {r : Picture} {m : Proposals ν} (h : Run (gather c e data p (some r)) t (.ok m)) :
    ∃ q, ∃ g : Gathered ν, ∃ v, Grounding.question c.grounding e data p c.grounding.votes = .ok q ∧
      t = [⟨.gather q.poll p r, g⟩] ∧ Grounding.propose c.grounding q p g.votes = .ok v ∧ g.matched = .ok m.matched ∧
      v.interrupted = false ∧ m.matched.interrupted = false ∧ m.vision = v.boxes := by
  unfold gather at h
  obtain ⟨q, hq, h⟩ := run_lift_bind_ok.1 h
  obtain ⟨g, u, rfl, hg⟩ := run_query_bind_ok.1 h
  obtain ⟨⟨v, m'⟩, hvm, h⟩ := run_lift_bind_ok.1 hg
  obtain ⟨hv, hm⟩ := combine_eq_ok hvm
  obtain ⟨hi, hu, rfl⟩ := run_unless_ok.1 h
  obtain ⟨hvi, hmi⟩ := Bool.or_eq_false_iff.1 hi
  exact ⟨q, g, v, hq, by rw [hu], hv, hm, hvi, hmi, rfl⟩

/-! ## Choosing -/

theorem run_arbitrate_ok {l : List Candidate} {w : Option Candidate} (h : Run (arbitrate c e data p l) t (.ok w)) :
    ∃ letters u v, t = ⟨.letters, letters⟩ :: u ∧
      Run (Quorum.select c.grounding e data
        (Ballot.draw (letterAt letters) c.quorum.labelLength c.quorum.retryLimit l 0).1 p c.quorum.votes) u (.ok v) ∧
      v.interrupted = false ∧ w = v.winner.map (·.candidate) := by
  obtain ⟨letters, u, rfl, hu⟩ := run_query_bind_ok.1 h
  obtain ⟨u, v, u', rfl, hv, hw⟩ := run_bind_ok.1 hu
  obtain ⟨hi, rfl, rfl⟩ := run_unless_ok.1 hw
  exact ⟨letters, u, v, by rw [List.append_nil], hv, hi, rfl⟩

theorem run_choose_ok {l : List Candidate} {w : Option Candidate} (h : Run (choose c e data p l) t (.ok w)) :
    (l = [] ∧ t = [] ∧ w = none) ∨ (∃ d, l = [d] ∧ t = [] ∧ w = some d) ∨
      (2 ≤ l.length ∧ Run (arbitrate c e data p l) t (.ok w)) := by
  match l with
  | [] =>
    obtain ⟨ht, hw⟩ := run_pure_ok.1 h
    exact Or.inl ⟨rfl, ht, hw⟩
  | [d] =>
    obtain ⟨ht, hw⟩ := run_pure_ok.1 h
    exact Or.inr (Or.inl ⟨d, rfl, ht, hw⟩)
  | d :: d' :: l => exact Or.inr (Or.inr ⟨by simp, h⟩)

/-! ## Passes -/

theorem run_detect_ok {f : Finding} (h : Run (detect c e data p reference) t (.ok f)) :
    ∃ t₁ t₂ m w, t = t₁ ++ t₂ ∧ Run (gather c e data p reference) t₁ (.ok m) ∧
      Run (choose c e data p (fuse m)) t₂ (.ok w) ∧ f = ⟨w, !m.vision.isEmpty, m.matched.any⟩ := by
  obtain ⟨t₁, m, t₂, rfl, hm, h⟩ := run_bind_ok.1 h
  obtain ⟨t₂, w, t₃, rfl, hw, h⟩ := run_bind_ok.1 h
  obtain ⟨rfl, rfl⟩ := run_pure_ok.1 h
  exact ⟨t₁, t₂, m, w, by rw [List.append_nil], hm, hw, rfl⟩

theorem run_lookCloser_ok {coarse : Box} {f : Finding} (h : Run (lookCloser c e data p coarse) t (.ok f)) :
    ∃ part f', Zoom.look c.zoom p
        (Zoom.extend c.zoom.margin coarse (e.screenshot.map fun r => (r.width, r.height)) p.width p.height) = .ok part ∧
      Run (detect c e data part.picture (if c.zoom.matchInside then e.reference?.map (stretch part.lens) else none)) t
        (.ok f') ∧
      f = { f' with winner := f'.winner.map fun d => { d with box := part.lens.toWhole d.box } } := by
  obtain ⟨part, hpart, h⟩ := run_lift_bind_ok.1 h
  obtain ⟨t₁, f', t₂, rfl, hf', h⟩ := run_bind_ok.1 h
  obtain ⟨rfl, rfl⟩ := run_pure_ok.1 h
  exact ⟨part, f', hpart, by rwa [List.append_nil], rfl⟩

theorem run_zoomIn_ok {f : Finding} (h : Run (zoomIn c e data p) t (.ok f)) :
    ∃ t₁ t₂ m, t = t₁ ++ t₂ ∧ Run (gather c e data p (if c.zoom.matchBefore then e.reference? else none)) t₁ (.ok m) ∧
      match Box.hullOf (coarseBoxes (if c.zoom.matchBefore then e.reference? else none).isSome m) with
      | none        => t₂ = [] ∧ f = Finding.nothing
      | some coarse => Run (lookCloser c e data p coarse) t₂ (.ok f) := by
  obtain ⟨t₁, m, t₂, rfl, hm, h⟩ := run_bind_ok.1 h
  refine ⟨t₁, t₂, m, rfl, hm, ?_⟩
  have h' : Run (match Box.hullOf (coarseBoxes (if c.zoom.matchBefore then e.reference? else none).isSome m) with
      | none        => pure Finding.nothing
      | some coarse => lookCloser c e data p coarse) t₂ (.ok f) := h
  cases hcoarse : Box.hullOf (coarseBoxes (if c.zoom.matchBefore then e.reference? else none).isSome m) with
  | none =>
    rw [hcoarse] at h'
    exact run_pure_ok.1 h'
  | some coarse =>
    rw [hcoarse] at h'
    exact h'

/-! ## The whole search -/

/-- A search looks at the signal once, and then passes over the screen on one of two ways. -/
theorem search_eq : search c e data shot = .ask .stopped fun (stopped : Bool) =>
    if stopped then Dialogue.fail .interrupted
    else (if e.zoom then zoomIn c e data shot.picture else detect c e data shot.picture e.reference?) >>= fun f =>
      pure (report shot e f) := by
  unfold search
  cases e.zoom <;> rfl

theorem run_search_ok {l : Location} (h : Run (search c e data shot) t (.ok l)) :
    ∃ u f, t = ⟨.stopped, false⟩ :: u ∧ l = report shot e f ∧
      Run (if e.zoom then zoomIn c e data shot.picture else detect c e data shot.picture e.reference?) u (.ok f) := by
  rw [search_eq] at h
  obtain ⟨stopped, u, rfl, hs⟩ := run_ask.1 h
  cases stopped with
  | true => exact absurd hs run_fail_ok
  | false =>
    obtain ⟨t₁, f, t₂, rfl, hf, hl⟩ := run_bind_ok.1 hs
    obtain ⟨rfl, rfl⟩ := run_pure_ok.1 hl
    exact ⟨t₁, f, by rw [List.append_nil], rfl, hf⟩

theorem locateIn_of_invalid {f : Fault} (hv : e.validate = .error f) : locateIn c e data shot = .done (.error f) := by
  unfold locateIn
  rw [hv]
  rfl

theorem locateIn_of_valid (hv : e.validate = .ok ()) :
    locateIn c e data shot = (search c e data shot).onEnd consumeStop := by
  unfold locateIn
  rw [hv]
  rfl

/-- **The ways a whole search can end**: without a question where nothing can be looked for; with the signal cleared after
an interruption; and otherwise as the search within ends. -/
theorem run_locateIn {r : Except Fault Location} (h : Run (locateIn c e data shot) t r) :
    (∃ f, e.validate = .error f ∧ t = [] ∧ r = .error f) ∨
      (e.validate = .ok () ∧ r = .error .interrupted ∧
        ∃ u, t = u ++ [⟨.clearStop, ()⟩] ∧ Run (search c e data shot) u r) ∨
      (e.validate = .ok () ∧ r ≠ .error .interrupted ∧ Run (search c e data shot) t r) := by
  cases hv : e.validate with
  | error f =>
    rw [locateIn_of_invalid hv] at h
    exact Or.inl ⟨f, rfl, run_done.1 h⟩
  | ok =>
    rw [locateIn_of_valid hv] at h
    obtain ⟨u, s, t', rfl, hs, hend⟩ := run_onEnd.1 h
    by_cases hi : s = .error .interrupted
    · subst hi
      obtain ⟨_, t'', rfl, hfail⟩ := run_ask.1 hend
      obtain ⟨rfl, rfl⟩ := run_done.1 hfail
      exact Or.inr (Or.inl ⟨rfl, rfl, u, rfl, hs⟩)
    · have hs' : consumeStop (ν := ν) s = .done s := by
        unfold consumeStop
        split
        · exact absurd rfl hi
        · rfl
      rw [hs'] at hend
      obtain ⟨rfl, rfl⟩ := run_done.1 hend
      rw [List.append_nil]
      exact Or.inr (Or.inr ⟨rfl, hi, hs⟩)

theorem run_locateIn_ok {l : Location} (h : Run (locateIn c e data shot) t (.ok l)) :
    ∃ u f, t = ⟨.stopped, false⟩ :: u ∧ l = report shot e f ∧
      Run (if e.zoom then zoomIn c e data shot.picture else detect c e data shot.picture e.reference?) u (.ok f) := by
  rcases run_locateIn h with ⟨f, -, -, hf⟩ | ⟨-, hf, -⟩ | ⟨-, -, hs⟩
  · cases hf
  · cases hf
  · exact run_search_ok hs

theorem run_locateIn_report (hv : e.validate = .ok ()) (shot : Capture α) {f : Finding}
    (h : Run (if e.zoom then zoomIn c e data shot.picture else detect c e data shot.picture e.reference?) t (.ok f)) :
    Run (locateIn c e data shot) (⟨.stopped, false⟩ :: t) (.ok (report shot e f)) := by
  have hsearch : Run (search c e data shot) (⟨.stopped, false⟩ :: t) (.ok (report shot e f)) := by
    rw [search_eq]
    exact .ask (q := .stopped) false (run_bind_ok.2 ⟨t, f, [], (List.append_nil t).symm, h, .done _⟩)
  rw [locateIn_of_valid hv]
  exact run_onEnd.2 ⟨_, _, [], (List.append_nil _).symm, hsearch, .done _⟩

end Locator
end Pinpoint
