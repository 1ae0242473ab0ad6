import Pinpoint.Proofs.Ballot.Count
import Pinpoint.Proofs.Search.Found
import Pinpoint.Proofs.Search.Questions
/-!
# Unmatched — the search for an element whose picture cannot be trusted

A picture of an element that shows data of the run is of no use for matching.  Whatever the settings are, a search for
such an element asks for no matching, and what it finds is what vision saw (`unmatched`).  Of the picture only the size
matters, for the part of a closer look: with another picture of that size the search is the same tree of questions, and
answers the same about another record (`locateIn_picture`).  What it goes by besides is what models and voters answer,
the labels of the candidates and the stop signal (`Told`).
-/
namespace Pinpoint

open Dialogue

/-- An answer as one about another record. -/
def Location.about (e : Element) : Location → Location
  | found box logical s _      => found box logical s e
  | missed algorithmic visual _ => missed algorithmic visual e

namespace Locator

variable {ν α : Type} [Scalar ν] [Scalar α] {c : LocatorSettings ν α} {e : Element} {data : String} {p : Picture}
  {shot : Capture α} {t : List (Exchange ν)}

/-! ## Passes without matching -/

theorem reference?_eq_none (hd : e.isDataDependent = true) : e.reference? = none := if_pos hd

theorem lookCloser_unmatched (href : e.reference? = none) (coarse : Box) : lookCloser c e data p coarse = (do
    let part ← Zoom.look c.zoom p
      (Zoom.extend c.zoom.margin coarse (e.screenshot.map fun r => (r.width, r.height)) p.width p.height)
    let f ← detect c e data part.picture none
    pure { f with winner := f.winner.map fun d => { d with box := part.lens.toWhole d.box } } : Dialogue ν Finding) := by
  unfold lookCloser
  rw [href]
  simp only [Option.map_none, ite_self]

theorem zoomIn_unmatched (href : e.reference? = none) : zoomIn c e data p = (do
    let l ← gather c e data p none
    match Box.hullOf l.vision with
    | none        => pure Finding.nothing
    | some coarse => lookCloser c e data p coarse : Dialogue ν Finding) := by
  unfold zoomIn
  rw [href]
  simp only [ite_self]
  rfl

/-! ## Which sources a winner has -/

theorem detect_unmatched_sources {f : Finding} (h : Run (detect c e data p none) t (.ok f)) :
    ∀ d ∈ f.winner, d.sources = .ofVision := by
  obtain ⟨t₁, t₂, m, w, rfl, hm, hw, rfl⟩ := run_detect_ok h
  obtain ⟨q, j, v, -, -, -, -, rfl⟩ := run_gather_none_ok hm
  intro d hd
  obtain rfl : w = some d := hd
  have hmem := choose_mem hw
  rw [collapse_fuse] at hmem
  exact Fusion.fuse_vision_alone v.boxes d hmem

theorem zoomIn_unmatched_sources (href : e.reference? = none) {f : Finding} (h : Run (zoomIn c e data p) t (.ok f)) :
    ∀ d ∈ f.winner, d.sources = .ofVision := by
  obtain ⟨t₁, t₂, m, rfl, -, h⟩ := run_zoomIn_ok h
  split at h
  · rw [h.2]
    intro d hd
    cases hd
  · obtain ⟨part, f', -, hf', rfl⟩ := run_lookCloser_ok h
    rw [href, Option.map_none, ite_self] at hf'
    intro d hd
    obtain ⟨d', hd', rfl⟩ := Option.map_eq_some_iff.1 hd
    exact detect_unmatched_sources hf' d' hd'

theorem found_unmatched_sources (href : e.reference? = none) {box logical : Box} {s : Sources} {el : Element}
    (h : Run (locateIn c e data shot) t (.ok (.found box logical s el))) : s = .ofVision := by
  obtain ⟨u, f, rfl, hl, hf⟩ := run_locateIn_ok h
  obtain ⟨d, hd, -, rfl⟩ := report_eq_found hl
  split at hf
  · exact zoomIn_unmatched_sources href hf d hd
  · rw [href] at hf
    exact detect_unmatched_sources hf d hd

/-! ## What such a search goes by -/

/-- What a search is told, whatever matchers say: letters tell the labels that they give to any number of candidates. -/
inductive Told where
  | stopped (b : Bool)
  | labels (l : Nat → List String)
  | answers (j : Joins String)

def told (c : LocatorSettings ν α) : Exchange ν → Option Told
  | ⟨.stopped, b⟩       => some (.stopped b)
  | ⟨.clearStop, _⟩     => none
  | ⟨.letters, letters⟩ => some (.labels fun n =>
      Ballot.labels (letterAt letters) c.quorum.labelLength c.quorum.retryLimit [] n 0)
  | ⟨.poll _, j⟩        => some (.answers j)
  | ⟨.gather .., g⟩     => some (.answers (Gathered.votes g))

theorem isSome_told (q : Query) (a a' : q.Reply ν) : (told c ⟨q, a⟩).isSome = (told c ⟨q, a'⟩).isSome := by
  cases q <;> rfl

theorem goesBy_poll_bind {β : Type} {q : Poll} {f : Joins String → Dialogue ν β} (hf : ∀ j, GoesBy (told c) (f j)) :
    GoesBy (told c) (query (.poll q) >>= f) :=
  goesBy_query_bind (fun _ _ h => congrArg f (Told.answers.inj (Option.some.inj h))) hf

theorem gather_goesBy : GoesBy (told c) (gather c e data p none) := by
  refine GoesBy.bind trivial fun q => goesBy_poll_bind fun j => GoesBy.bind trivial fun v => ?_
  split <;> trivial

theorem arbitrate_goesBy (l : List Candidate) : GoesBy (told c) (arbitrate c e data p l) := by
  refine goesBy_query_bind (fun letters letters' h => ?_) fun letters => GoesBy.bind ?_ fun v => ?_
  · have hlabels := congrFun (Told.labels.inj (Option.some.inj h))
    have hdraw := Ballot.draw_congr hlabels l
    dsimp only
    rw [hdraw]
  · unfold Quorum.select
    split
    · trivial
    · exact GoesBy.bind trivial fun q => goesBy_poll_bind fun j => trivial
  · split <;> trivial

theorem detect_goesBy : GoesBy (told c) (detect c e data p none) := by
  refine gather_goesBy.bind fun l => GoesBy.bind ?_ fun _ => trivial
  unfold choose
  split
  · trivial
  · trivial
  · exact arbitrate_goesBy _

theorem zoomIn_goesBy (href : e.reference? = none) : GoesBy (told c) (zoomIn c e data p) := by
  rw [zoomIn_unmatched href]
  refine gather_goesBy.bind fun l => ?_
  split
  · trivial
  · rw [lookCloser_unmatched href]
    -- Whichever closeup it is, if there is one at all.
    generalize Zoom.look c.zoom p _ = closer
    exact GoesBy.bind trivial fun part => detect_goesBy.bind fun f => trivial

theorem search_goesBy (href : e.reference? = none) : GoesBy (told c) (search c e data shot) := by
  rw [search_eq]
  refine ⟨fun a a' h => ?_, fun (stopped : Bool) => ?_⟩
  · rw [Told.stopped.inj (Option.some.inj h)]
  · cases stopped with
    | true => trivial
    | false =>
      refine GoesBy.bind ?_ fun _ => trivial
      rw [href]
      split
      · exact zoomIn_goesBy href
      · exact detect_goesBy

theorem locateIn_goesBy (href : e.reference? = none) : GoesBy (told c) (locateIn c e data shot) := by
  refine GoesBy.bind trivial fun _ => (search_goesBy href).onEnd fun r => ?_
  unfold consumeStop
  split
  · exact ⟨fun _ _ _ => rfl, fun _ => trivial⟩
  · trivial

/-! ## What such a search sees of the picture -/

theorem report_about (e el : Element) (f : Finding) : report shot el f = (report shot e f).about el := by
  unfold report
  split <;> rfl

section
variable {x : Option Picture} (hd : e.isDataDependent = true)
  (hx : x.map (fun r => (r.width, r.height)) = e.screenshot.map fun r => (r.width, r.height))
include hd hx

theorem zoomIn_picture : zoomIn c { e with screenshot := x } data p = zoomIn c e data p := by
  have href := reference?_eq_none hd
  have href' : Element.reference? { e with screenshot := x } = none := reference?_eq_none hd
  rw [zoomIn_unmatched href, zoomIn_unmatched href']
  simp only [lookCloser_unmatched href, lookCloser_unmatched href']
  rw [hx]
  rfl

theorem search_picture : search c { e with screenshot := x } data shot =
    Location.about { e with screenshot := x } <$> search c e data shot := by
  have href' : Element.reference? { e with screenshot := x } = none := reference?_eq_none hd
  rw [search_eq, search_eq, map_eq_onEnd]
  refine congrArg (ask .stopped) (funext fun (stopped : Bool) => ?_)
  cases stopped with
  | true => rfl
  | false =>
    dsimp only
    rw [zoomIn_picture hd hx, href', reference?_eq_none hd]
    simp only [report_about e { e with screenshot := x }]
    exact (map_bind_pure ..).symm.trans (map_eq_onEnd ..)

/-- **With another picture of its size** an element that shows data of the run is searched for in the same way: by the
same questions, to the same answer about the other record. -/
theorem locateIn_picture : locateIn c { e with screenshot := x } data shot =
    Location.about { e with screenshot := x } <$> locateIn c e data shot := by
  -- the signal is cleared for the one answer as for the other
  have hend : ∀ r, (consumeStop r).onEnd (fun s => done (s.map (Location.about { e with screenshot := x }))) =
      (consumeStop (r.map (Location.about { e with screenshot := x })) : Dialogue ν Location) := by
    rintro (f | l)
    · cases f <;> rfl
    · rfl
  cases hv : e.validate with
  | error f =>
    rw [locateIn_of_invalid hv, locateIn_of_invalid (e := { e with screenshot := x }) hv]
    rfl
  | ok =>
    rw [locateIn_of_valid hv, locateIn_of_valid (e := { e with screenshot := x }) hv, search_picture hd hx, map_eq_onEnd,
      map_eq_onEnd, onEnd_onEnd, onEnd_onEnd]
    simp only [hend]
    rfl

end

/-! ## Such a search as a whole -/

theorem locateIn_asks_no_matching (href : e.reference? = none) :
    AsksOnly (fun q => ∀ poll whole reference, q ≠ .gather poll whole reference) (locateIn c e data shot) := by
  have hsearch : AsksOnly (MayAsk e.reference?.isSome) (search c e data shot) := search_mayAsk
  rw [href] at hsearch
  refine AsksOnly.bind trivial fun _ => AsksOnly.onEnd (hsearch.mono ?_) fun r => ?_
  · rintro q hq poll whole reference rfl
    cases hq
  · unfold consumeStop
    split
    · exact ⟨by simp, fun _ => trivial⟩
    · trivial

/-- **An element that shows data of the run is found by vision alone**, on either path and whatever the settings are.
No run asks for matching; what is found is what vision saw; and with another picture of the same size a run that is told
the same, as far as both come, asks the same and ends the same about its own record, whatever matchers would say. -/
theorem vision_alone {x : Option Picture} (hd : e.isDataDependent = true)
    (hx : x.map (fun r => (r.width, r.height)) = e.screenshot.map fun r => (r.width, r.height))
    {r : Except Fault Location} (h : Run (locateIn c e data shot) t r) :
    (∀ y ∈ t, ∀ poll whole reference, y.1 ≠ .gather poll whole reference) ∧
      (∀ box logical s el, r = .ok (.found box logical s el) → s = .ofVision) ∧
      ∀ t' r' script, Run (locateIn c { e with screenshot := x } data shot) t' r' →
        t.filterMap (told c) <+: script → t'.filterMap (told c) <+: script →
        t'.map (·.1) = t.map (·.1) ∧ r' = r.map (Location.about { e with screenshot := x }) := by
  have href := reference?_eq_none hd
  refine ⟨h.forall_asked (locateIn_asks_no_matching href), ?_, ?_⟩
  · rintro box logical s el rfl
    exact found_unmatched_sources href h
  · intro t' r' script h' hs hs'
    rw [locateIn_picture hd hx] at h'
    obtain ⟨s, hrun, rfl⟩ := run_map.1 h'
    obtain ⟨hasked, rfl⟩ := h.same_of_told isSome_told (locateIn_goesBy href) hrun hs hs'
    exact ⟨hasked, rfl⟩

/-! A cell of a table, once with a black picture and once with a white one. -/

def blank (shade : UInt8) : Picture := Picture.ofFn 20 8 .luma fun _ _ _ => shade

def cell (p : Picture) : Element := { button true with screenshot := some p, dataAttributes := ["order_number"] }

theorem vision_alone_cell : ∃ t logical el,
    Run (locateIn oneVote (cell (blank 0)) "" grey) t (.ok (.found ⟨90, 65, 8, 3⟩ logical .ofVision el)) ∧
      (cell (blank 0)).isDataDependent = true ∧ (blank 0).byte 0 0 0 ≠ (blank 255).byte 0 0 0 ∧
      ∃ r, Run (locateIn oneVote (cell (blank 255)) "" grey) t r ∧
        r = .ok (.found ⟨90, 65, 8, 3⟩ logical .ofVision (cell (blank 255))) := by
  have hsize : ∀ s, (blank s).width = 20 ∧ (blank s).height = 8 := fun s => ⟨rfl, rfl⟩
  have hx : (some (blank 255)).map (fun r => (r.width, r.height)) =
      (cell (blank 0)).screenshot.map fun r => (r.width, r.height) := by
    simp only [cell, Option.map_some, hsize]
  have hcell : ∀ p q, { cell p with screenshot := some q } = cell q := fun _ _ => rfl
  obtain ⟨t, logical, s, el, h, -⟩ := exists_run_found (cell (blank 0))
    ["\x7b\"boxes\":[[400,400,500,450]]\x7d", "\x7b\"boxes\":[[500,400,600,500]]\x7d"] ⟨90, 65, 8, 3⟩
    (by decide +kernel)
  obtain ⟨r, h'⟩ : ∃ r, Run (locateIn oneVote (cell (blank 255)) "" grey) t r := by
    rw [← hcell (blank 0), locateIn_picture rfl hx]
    exact ⟨_, run_map.2 ⟨_, h, rfl⟩⟩
  obtain ⟨-, hvision, hsame⟩ := vision_alone rfl hx h
  obtain rfl := hvision _ _ _ _ rfl
  rw [hcell] at hsame
  obtain ⟨-, hr⟩ := hsame t r _ h' (List.prefix_refl _) (List.prefix_refl _)
  exact ⟨t, logical, el, h, rfl, by decide +kernel, r, h', hr⟩

end Locator
end Pinpoint
