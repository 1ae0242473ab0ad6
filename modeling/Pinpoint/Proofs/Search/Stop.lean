import Pinpoint.Proofs.Search.History
import Pinpoint.Proofs.Search.Questions
import Pinpoint.Proofs.Search.Steps
/-!
# Stop — what a search makes of a request to stop

A look at a request interrupts the fan-out that takes it, and each step between the fan-outs passes an interruption on.
So an answer means that nobody saw a request (`search_saw_none`).  No step clears the signal (`search_keeps`); that is
left to the end of the whole search (`run_locateIn`).
-/
namespace Pinpoint

open Dialogue

variable {ν α : Type} [Scalar α] {e : Element} {data : String} {p : Picture} {t : List (Exchange ν)}

/-! ## What comes of a request that is seen -/

theorem Harvest.collect_of_look {γ : Type} {f : String → Except Fault γ}
    (hf : ∀ v e, f v = .error e → e.isFatal = false) {j : Joins String} (h : true ∈ j.looks) :
    ∃ r, collect (j.map (TaskEnd.andThen f)) = .ok r ∧ r.interrupted = true := by
  obtain ⟨before, hb⟩ := Joins.exists_stopped_of_look h
  exact ⟨_, collect_of_endsAfter (hb.andThen hf), rfl⟩

theorem Grounding.look_not_mem {s : GroundingSettings α} {q : Question α} {p : Picture} {j : Joins String} {v : Proposal}
    (h : propose s q p j = .ok v) (hv : v.interrupted = false) : true ∉ j.looks := by
  intro hl
  obtain ⟨r, hr, hi⟩ := Harvest.collect_of_look (Reply.isFatal_of_boxes (α := α)) hl
  rw [propose, hr] at h
  obtain rfl := Except.ok.inj h
  exact absurd (hi.symm.trans hv) (by decide)

theorem Quorum.look_not_mem {b : Ballot} {j : Joins String} {v : Verdict} (h : decide b j = .ok v)
    (hv : v.interrupted = false) : true ∉ j.looks := by
  intro hl
  obtain ⟨r, hr, hi⟩ := Harvest.collect_of_look Reply.isFatal_of_label hl
  rw [decide, hr] at h
  obtain rfl := Except.ok.inj h
  exact absurd (hi.symm.trans hv) (by simp)

theorem Match.look_not_mem {j : Joins (Signal ν)} {m : Matched ν} (h : ofJoins j = .ok m)
    (hm : m.interrupted = false) : true ∉ j.looks := by
  intro hl
  obtain ⟨before, hb⟩ := Joins.exists_stopped_of_look hl
  rw [ofJoins, Harvest.collect_of_endsAfter hb] at h
  obtain rfl := Except.ok.inj h
  cases hm

/-! ## An answer means that nobody saw a request -/

namespace Locator

theorem sawNone_poll {q : Poll} {j : Joins String} (h : true ∉ j.looks) : SawNone (⟨.poll q, j⟩ : Exchange ν) := by
  rintro _ rfl hl
  exact h (by simpa using hl)

theorem select_saw_none {s : GroundingSettings α} {b : Ballot} {votes : Nat} {v : Quorum.Verdict}
    (h : Run (Quorum.select s e data b p votes) t (.ok v)) (hv : v.interrupted = false) : ∀ y ∈ t, SawNone y := by
  rcases Quorum.run_select_ok h with ⟨-, rfl, -⟩ | ⟨-, q, j, -, rfl, hd⟩
  · exact List.forall_mem_nil _
  · exact List.forall_mem_singleton.2 (sawNone_poll (Quorum.look_not_mem hd hv))

variable [Scalar ν] {c : LocatorSettings ν α} {shot : Capture α} {reference : Option Picture}

theorem gather_saw_none {l : Proposals ν} (h : Run (gather c e data p reference) t (.ok l)) : ∀ y ∈ t, SawNone y := by
  cases reference with
  | none =>
    obtain ⟨q, j, v, -, rfl, hv, hi, -⟩ := run_gather_none_ok h
    exact List.forall_mem_singleton.2 (sawNone_poll (Grounding.look_not_mem hv hi))
  | some r =>
    obtain ⟨q, g, v, -, rfl, hv, hm, hvi, hmi, -⟩ := run_gather_some_ok h
    refine List.forall_mem_singleton.2 ?_
    rintro _ ⟨seen, ⟨j, l, m', hj, hmix, hl, hm', -⟩, rfl⟩ hlook
    rw [hm] at hj
    have hseen : true ∈ seen := by simpa using hlook
    rcases hmix.mem hseen with hin | hin
    · exact Grounding.look_not_mem hv hvi (hl.subset hin)
    · exact Match.look_not_mem hj.symm hmi (hm'.subset hin)

theorem choose_saw_none {l : List Candidate} {w : Option Candidate} (h : Run (choose c e data p l) t (.ok w)) :
    ∀ y ∈ t, SawNone y := by
  rcases run_choose_ok h with ⟨-, rfl, -⟩ | ⟨d, -, rfl, -⟩ | ⟨-, h⟩
  · exact List.forall_mem_nil _
  · exact List.forall_mem_nil _
  · obtain ⟨letters, u, v, rfl, hv, hi, -⟩ := run_arbitrate_ok h
    refine List.forall_mem_cons.2 ⟨?_, select_saw_none hv hi⟩
    rintro _ rfl hl
    cases hl

theorem detect_saw_none {f : Finding} (h : Run (detect c e data p reference) t (.ok f)) : ∀ y ∈ t, SawNone y := by
  obtain ⟨t₁, t₂, m, w, rfl, hm, hw, -⟩ := run_detect_ok h
  exact List.forall_mem_append.2 ⟨gather_saw_none hm, choose_saw_none hw⟩

theorem zoomIn_saw_none {f : Finding} (h : Run (zoomIn c e data p) t (.ok f)) : ∀ y ∈ t, SawNone y := by
  obtain ⟨t₁, t₂, m, rfl, hm, h⟩ := run_zoomIn_ok h
  refine List.forall_mem_append.2 ⟨gather_saw_none hm, ?_⟩
  split at h
  · rw [h.1]
    exact List.forall_mem_nil _
  · obtain ⟨part, f', -, hf', -⟩ := run_lookCloser_ok h
    exact detect_saw_none hf'

/-- **An answer means that nobody saw a request** on the way to it. -/
theorem search_saw_none {l : Location} (h : Run (search c e data shot) t (.ok l)) : ∀ y ∈ t, SawNone y := by
  obtain ⟨u, f, rfl, -, hf⟩ := run_search_ok h
  refine List.forall_mem_cons.2 ⟨?_, ?_⟩
  · rintro _ rfl hl
    simp at hl
  · split at hf
    · exact zoomIn_saw_none hf
    · exact detect_saw_none hf

/-! ## Only the end of a search clears the signal -/

/-- A search that leaves the signal as it is. -/
abbrev Keeps {β : Type} (d : Dialogue ν β) : Prop := AsksOnly (· ≠ .clearStop) d

theorem search_keeps : Keeps (search c e data shot) := by
  refine search_mayAsk.mono fun q hq => ?_
  rintro rfl
  exact hq

end Locator
end Pinpoint
