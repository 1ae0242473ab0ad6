import Pinpoint.Proofs.Search.Unmatched
/-!
# Passes — what a zoomed search says of its passes

A zoomed search gathers boxes on the whole screen, and again inside a part of it if there was any box to look at closely.
When it misses the element, its flags are those of the last pass alone (`missed_closely`).  So they tell nothing that
was not seen; but what only the rough pass saw is left out, and the diagnostic then denies it (`missed_what_was_seen`).
-/
namespace Pinpoint

theorem Box.hullOf_eq_none_iff {l : List Box} : hullOf l = none ↔ l = [] := by
  cases l <;> simp [hullOf]

theorem Location.diagnostic?_eq_neither_iff {algorithmic visual : Bool} {e : Element} :
    (missed algorithmic visual e).diagnostic? =
        some "neither visual grounding nor algorithmic matching produced candidates" ↔
      algorithmic = false ∧ visual = false := by
  cases algorithmic <;> cases visual <;> simp [diagnostic?]

namespace Locator

open Dialogue

variable {ν α : Type} [Scalar ν] [Scalar α] {c : LocatorSettings ν α} {e : Element} {data : String} {p : Picture}
  {shot : Capture α} {t : List (Exchange ν)} {m n : Proposals ν} {inside : Option (Proposals ν)}

/-- Models saw a box. -/
def Proposals.Sees (m : Proposals ν) : Prop := m.vision ≠ []

/-- Matchers found a box. -/
def Proposals.Matches (m : Proposals ν) : Prop := m.matched.feature.boxes ≠ [] ∨ m.matched.template.boxes ≠ []

/-- **The passes of a zoomed search**: what was gathered on the whole picture, and, if there was anything to look at
closely, what was gathered in an enlarged part around it. -/
inductive Passes (c : LocatorSettings ν α) (e : Element) (data : String) (p : Picture) :
    List (Exchange ν) → Proposals ν → Option (Proposals ν) → Prop
  | rough {t : List (Exchange ν)} {m : Proposals ν}
    (hm : Run (gather c e data p (if c.zoom.matchBefore then e.reference? else none)) t (.ok m))
    (hnone : Box.hullOf (coarseBoxes (if c.zoom.matchBefore then e.reference? else none).isSome m) = none) :
    Passes c e data p t m none
  | close {t₁ t₂ asked : List (Exchange ν)} {m n : Proposals ν} {coarse : Box} {part : Closeup α}
    (hm : Run (gather c e data p (if c.zoom.matchBefore then e.reference? else none)) t₁ (.ok m))
    (hsome : Box.hullOf (coarseBoxes (if c.zoom.matchBefore then e.reference? else none).isSome m) = some coarse)
    (hlook : Zoom.look c.zoom p
      (Zoom.extend c.zoom.margin coarse (e.screenshot.map fun r => (r.width, r.height)) p.width p.height) = .ok part)
    (hn : Run (gather c e data part.picture
      (if c.zoom.matchInside then e.reference?.map (stretch part.lens) else none)) t₂ (.ok n)) :
    Passes c e data p (t₁ ++ (t₂ ++ asked)) m (some n)

theorem coarseBoxes_eq_nil_iff {reference : Option Picture} (h : Run (gather c e data p reference) t (.ok m)) :
    coarseBoxes reference.isSome m = [] ↔ ¬ m.Sees ∧ ¬ m.Matches := by
  cases reference with
  | none =>
    obtain ⟨q, j, v, -, -, -, -, rfl⟩ := run_gather_none_ok h
    simp [coarseBoxes, Proposals.Sees, Proposals.Matches, Match.Matched.nothing]
  | some r =>
    rw [Option.isSome_some, coarseBoxes, if_pos rfl, List.map_eq_nil_iff, fuse_eq_nil_iff]
    simp only [Proposals.Sees, Proposals.Matches, not_or, not_not]

/-- A closer look is taken exactly if the rough pass came to anything. -/
theorem Passes.inside_eq_none_iff (h : Passes c e data p t m inside) : inside = none ↔ ¬ m.Sees ∧ ¬ m.Matches := by
  cases h with
  | rough hm hnone => simpa only [true_iff] using (coarseBoxes_eq_nil_iff hm).1 (Box.hullOf_eq_none_iff.1 hnone)
  | close hm hsome =>
    rw [← coarseBoxes_eq_nil_iff hm, ← Box.hullOf_eq_none_iff, hsome]
    simp

/-- **The flags of a zoomed search are those of its last pass.** -/
theorem zoomIn_passes {f : Finding} (h : Run (zoomIn c e data p) t (.ok f)) :
    ∃ m inside, Passes c e data p t m inside ∧ (f.visual = true ↔ ∃ n ∈ inside, n.Sees) ∧
      (f.algorithmic = true ↔ ∃ n ∈ inside, n.Matches) := by
  obtain ⟨t₁, t₂, m, rfl, hm, h⟩ := run_zoomIn_ok h
  split at h
  · rename_i hnone
    obtain ⟨rfl, rfl⟩ := h
    rw [List.append_nil]
    exact ⟨m, none, .rough hm hnone, by simp [Finding.nothing], by simp [Finding.nothing]⟩
  · rename_i coarse hsome
    obtain ⟨part, f', hlook, hf', rfl⟩ := run_lookCloser_ok h
    obtain ⟨t₃, t₄, n, w, rfl, hn, -, rfl⟩ := run_detect_ok hf'
    refine ⟨m, some n, .close hm hsome hlook hn, by simp [Proposals.Sees], ?_⟩
    simp only [Option.mem_some_iff, exists_eq_left']
    exact any_eq_true_iff n.matched

theorem report_eq_missed {f : Finding} {algorithmic visual : Bool} {el : Element}
    (h : .missed algorithmic visual el = report shot e f) :
    f.algorithmic = algorithmic ∧ f.visual = visual ∧ el = e := by
  unfold report at h
  split at h
  · cases h
    exact ⟨rfl, rfl, rfl⟩
  · cases h

/-- **What a zoomed search says that misses the element.**  Its flags are those of its last pass, and the diagnostic says
that neither signal produced anything exactly if the last pass came to nothing.  About the call as a whole a flag is right
exactly if the closer look came to boxes of its kind wherever the rough pass did. -/
theorem missed_closely (hz : e.zoom = true) {algorithmic visual : Bool} {el : Element}
    (h : Run (locateIn c e data shot) t (.ok (.missed algorithmic visual el))) :
    ∃ u m inside, t = ⟨.stopped, false⟩ :: u ∧ Passes c e data shot.picture u m inside ∧ el = e ∧
      (inside = none ↔ ¬ m.Sees ∧ ¬ m.Matches) ∧
      (visual = true ↔ ∃ n ∈ inside, n.Sees) ∧ (algorithmic = true ↔ ∃ n ∈ inside, n.Matches) ∧
      ((visual = true ↔ m.Sees ∨ ∃ n ∈ inside, n.Sees) ↔ (m.Sees → ∃ n ∈ inside, n.Sees)) ∧
      ((algorithmic = true ↔ m.Matches ∨ ∃ n ∈ inside, n.Matches) ↔ (m.Matches → ∃ n ∈ inside, n.Matches)) ∧
      ((Location.missed algorithmic visual el).diagnostic? =
          some "neither visual grounding nor algorithmic matching produced candidates" ↔
        ∀ n ∈ inside, ¬ n.Sees ∧ ¬ n.Matches) := by
  obtain ⟨u, f, rfl, hl, hf⟩ := run_locateIn_ok h
  obtain ⟨rfl, rfl, rfl⟩ := report_eq_missed hl
  rw [hz] at hf
  obtain ⟨m, inside, hpasses, hvisual, hmatched⟩ := zoomIn_passes hf
  refine ⟨u, m, inside, rfl, hpasses, rfl, hpasses.inside_eq_none_iff, hvisual, hmatched, ?_, ?_, ?_⟩
  · rw [hvisual]
    exact iff_comm.trans or_iff_right_iff_imp
  · rw [hmatched]
    exact iff_comm.trans or_iff_right_iff_imp
  · rw [Location.diagnostic?_eq_neither_iff, ← Bool.not_eq_true, ← Bool.not_eq_true, hvisual, hmatched]
    simp only [not_exists, not_and]
    exact ⟨fun h n hn => ⟨h.2 n hn, h.1 n hn⟩, fun h => ⟨fun n hn => (h n hn).2, fun n hn => (h n hn).1⟩⟩

/-! Something is seen on the grey screen, and nothing in the part around it. -/

theorem exists_run_nothing_inside : ∃ t m n, Run (locateIn oneVote (button true) "" grey) (⟨.stopped, false⟩ :: t)
    (.ok (.missed false false (button true))) ∧ Passes oneVote (button true) "" grey.picture t m (some n) ∧
      m.vision = [⟨80, 64, 20, 8⟩] := by
  have hrough : (Dialogue.run scripted (gather oneVote (button true) "" grey.picture none)
      ["\x7b\"boxes\":[[400,400,500,450]]\x7d"]).1.toOption.map (·.vision) = some [⟨80, 64, 20, 8⟩] := by
    decide +kernel
  have hclose : (Dialogue.run scripted (lookCloser oneVote (button true) "" grey.picture ⟨80, 64, 20, 8⟩)
      ["\x7b\"boxes\":[]\x7d"]).1.toOption.map (fun f => (f.winner, f.visual, f.algorithmic)) =
      some (none, false, false) := by
    decide +kernel
  obtain ⟨t₁, m, hm, hvision, -⟩ := exists_run_ok _ _ _ hrough
  obtain ⟨t₂, ⟨winner, visual, algorithmic⟩, hf, hnone, -⟩ := exists_run_ok _ _ _ hclose
  cases hnone
  have hzoom : Run (zoomIn oneVote (button true) "" grey.picture) (t₁ ++ t₂) (.ok ⟨none, false, false⟩) := by
    rw [zoomIn_unmatched rfl]
    refine run_bind_ok.2 ⟨t₁, m, t₂, rfl, hm, ?_⟩
    rw [hvision]
    exact hf
  obtain ⟨part, f, hpart, hf, -⟩ := run_lookCloser_ok hf
  obtain ⟨t₃, t₄, n, w, rfl, hn, -, -⟩ := run_detect_ok hf
  have hhull : Box.hullOf (coarseBoxes false m) = some ⟨80, 64, 20, 8⟩ := by
    rw [coarseBoxes, if_neg Bool.false_ne_true, hvision]
    rfl
  exact ⟨_, m, n, run_locateIn_report (e := button true) rfl grey hzoom, .close hm hhull hpart hn, hvision⟩

theorem missed_closely_nothing_inside : ∃ t u m inside,
    Run (locateIn oneVote (button true) "" grey) t (.ok (.missed false false (button true))) ∧
      (button true).zoom = true ∧ t = ⟨.stopped, false⟩ :: u ∧
      Passes oneVote (button true) "" grey.picture u m inside ∧ ∀ n ∈ inside, ¬ n.Sees ∧ ¬ n.Matches := by
  obtain ⟨t, m, n, h, -, -⟩ := exists_run_nothing_inside
  obtain ⟨u, m', inside, ht, hpasses, -, -, -, -, -, -, hneither⟩ := missed_closely rfl h
  exact ⟨_, u, m', inside, h, rfl, ht, hpasses, hneither.1 rfl⟩

/-- **A miss that denies what was seen**: a box was seen on the screen and none in the part around it, and the answer says
that neither signal produced anything. -/
theorem missed_what_was_seen : ∃ t m n l, Run (locateIn oneVote (button true) "" grey) (⟨.stopped, false⟩ :: t) (.ok l) ∧
    (button true).zoom = true ∧ Passes oneVote (button true) "" grey.picture t m (some n) ∧ m.Sees ∧
    l = .missed false false (button true) ∧
    l.diagnostic? = some "neither visual grounding nor algorithmic matching produced candidates" := by
  obtain ⟨t, m, n, h, hpasses, hvision⟩ := exists_run_nothing_inside
  exact ⟨t, m, n, _, h, rfl, hpasses, by simp [Proposals.Sees, hvision], rfl, rfl⟩

end Locator
end Pinpoint
