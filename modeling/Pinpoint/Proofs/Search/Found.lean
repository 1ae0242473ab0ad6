import Pinpoint.Proofs.Search.Parts
import Pinpoint.Proofs.Zoom.Closeup
/-!
# Found — where a found element is said to be

On either way the answer is the winner of a pass, and on the zoom path its box comes back through the lens of the
closeup (`LooksCloser`).  In both cases no edge of the reported box is beyond the screen (`found_within`), so that the
last clipping changes nothing.  Area is another matter: a box found directly has some, a box that comes back through a
lens has some exactly if its edges do not round to the same pixel (`found_nonempty_iff`).
-/
namespace Pinpoint
namespace Locator

open Dialogue

/-! ## The whole search -/

variable {ν α : Type} [Scalar ν] [Scalar α] {c : LocatorSettings ν α} {e : Element} {data : String}
  {t : List (Exchange ν)}

theorem report_eq_found {shot : Capture α} {f : Finding} {box logical : Box} {s : Sources} {el : Element}
    (h : .found box logical s el = report shot e f) :
    ∃ d ∈ f.winner, box = (d.box.clip? shot.picture.width shot.picture.height).getD d.box ∧ s = d.sources := by
  unfold report at h
  split at h
  · cases h
  · rename_i d hd
    cases h
    exact ⟨d, hd, rfl, rfl⟩

/-! ## The way of the closer look -/

/-- **A box that comes back from a closer look**: a closeup of some region of the picture, a pass over the closeup, and
the winner of that pass taken back through the lens. -/
structure LooksCloser (c : LocatorSettings ν α) (e : Element) (data : String) (p : Picture) (t : List (Exchange ν))
    (part : Closeup α) (inside back : Box) : Prop where
  look : ∃ region, Zoom.look c.zoom p region = .ok part ∧ part.Shows p region
  pass : ∃ u f, u <:+: t ∧ (∃ d ∈ f.winner, inside = d.box) ∧ Run (detect c e data part.picture
    (if c.zoom.matchInside then e.reference?.map (stretch part.lens) else none)) u (.ok f)
  back : back = part.lens.toWhole inside

theorem LooksCloser.mono {p : Picture} {u : List (Exchange ν)} {part : Closeup α} {inside back : Box}
    (h : LooksCloser c e data p u part inside back) (hu : u <:+: t) : LooksCloser c e data p t part inside back := by
  obtain ⟨v, f, hv, hd, hf⟩ := h.pass
  exact ⟨h.look, ⟨v, f, hv.trans hu, hd, hf⟩, h.back⟩

variable [Scalar.Exact α] {p : Picture}

theorem zoomIn_winner {f : Finding} (h : Run (zoomIn c e data p) t (.ok f)) :
    ∀ d ∈ f.winner, ∃ part inside, LooksCloser c e data p t part inside d.box := by
  intro d hd
  obtain ⟨t₁, t₂, m, rfl, -, h⟩ := run_zoomIn_ok h
  split at h
  · rw [h.2] at hd
    cases hd
  · obtain ⟨part, f', hlook, hf', rfl⟩ := run_lookCloser_ok h
    obtain ⟨d', hd', rfl⟩ := Option.map_eq_some_iff.1 hd
    have hshows := Zoom.look_shows (Zoom.extend_isPart_of_look hlook) hlook
    exact ⟨part, d'.box, ⟨_, hlook, hshows⟩, ⟨t₂, f', ⟨t₁, [], by simp⟩, ⟨d', hd', rfl⟩, hf'⟩, rfl⟩

variable [Widening ν α]

theorem LooksCloser.isPart {part : Closeup α} {inside back : Box} (h : LooksCloser c e data p t part inside back)
    (hp : p.Addressable) (hg : ∀ x ∈ t, Genuine c x) :
    Box.IsPart part.picture.width part.picture.height inside := by
  obtain ⟨region, -, hs⟩ := h.look
  obtain ⟨u, f, hu, ⟨d, hd, rfl⟩, hf⟩ := h.pass
  exact detect_isPart (hs.addressable hp) hf (fun x hx => hg x (hu.subset hx)) d hd

theorem LooksCloser.within {part : Closeup α} {inside back : Box} (h : LooksCloser c e data p t part inside back)
    (hp : p.Addressable) (hg : ∀ x ∈ t, Genuine c x) : back.Within p.width p.height := by
  obtain ⟨region, -, hs⟩ := h.look
  rw [h.back]
  exact hs.toWhole_within hp (h.isPart hp hg)

/-! ## Where the answer lies -/

variable {shot : Capture α} {box logical : Box} {s : Sources} {el : Element}

theorem found_cases (hp : shot.picture.Addressable)
    (h : Run (locateIn c e data shot) t (.ok (.found box logical s el))) (hg : ∀ x ∈ t, Genuine c x) :
    (e.zoom = false ∧ Box.IsPart shot.picture.width shot.picture.height box) ∨
      (e.zoom = true ∧ ∃ part inside, LooksCloser c e data shot.picture t part inside box) := by
  obtain ⟨u, f, rfl, hl, hf⟩ := run_locateIn_ok h
  have hu : u <:+: ⟨.stopped, false⟩ :: u := (List.suffix_cons _ u).isInfix
  obtain ⟨d, hd, rfl, -⟩ := report_eq_found hl
  have hgu : ∀ x ∈ u, Genuine c x := fun x hx => hg x (hu.subset hx)
  cases hz : e.zoom with
  | false =>
    rw [hz] at hf
    have hpart := detect_isPart hp hf hgu d hd
    rw [Box.clip?_getD hpart.within]
    exact Or.inl ⟨rfl, hpart⟩
  | true =>
    rw [hz] at hf
    obtain ⟨part, inside, hc⟩ := zoomIn_winner hf d hd
    rw [Box.clip?_getD (hc.within hp hgu)]
    exact Or.inr ⟨rfl, part, inside, hc.mono hu⟩

/-- **No edge of a found element is beyond the screen**, whatever models answer and in whatever order, whenever a stop
is seen and whatever the settings are: on the direct path and on the zoom path, for a screen whose pixels the corner
of a box can name. -/
theorem found_within (hp : shot.picture.Addressable)
    (h : Run (locateIn c e data shot) t (.ok (.found box logical s el))) (hg : ∀ x ∈ t, Genuine c x) :
    box.Within shot.picture.width shot.picture.height := by
  rcases found_cases hp h hg with ⟨-, hpart⟩ | ⟨-, part, inside, hc⟩
  · exact hpart.within
  · exact hc.within hp hg

/-! A grey screen, an element on it, and models that give the answers of a list one after the other. -/

def grey : Capture ℚ := Capture.ofPicture (Picture.ofFn 200 160 .luma fun _ _ _ => 240) 1

def button (zoom : Bool) : Element := { id := "b", name := "button", description := "OK button", zoom := zoom }

def oneVote : LocatorSettings ℚ ℚ := { grounding := { votes := 1 } }

def scripted : (q : Query) → StateM (List String) (q.Reply ℚ)
  | .stopped    => pure false
  | .clearStop  => pure ()
  | .letters    => pure fun _ => Fin.last 35
  | .poll _     => fun answers => (Joins.ofEnds false [.value (answers.headD "")], answers.tail)
  | .gather _ whole reference => fun answers =>
    (⟨Joins.ofEnds false [.value (answers.headD "")],
      Match.detect oneVote.feature oneVote.template false whole reference, false⟩, answers.tail)

theorem scripted_genuine (q : Query) (answers : List String) : Genuine oneVote ⟨q, (scripted q answers).1⟩ := by
  cases q with
  | gather _ whole reference => exact Match.answer_detect oneVote.feature oneVote.template false whole reference
  | _ => trivial

theorem exists_run_ok {β γ : Type} (d : Dialogue ℚ β) (answers : List String) (f : β → γ) {y : γ}
    (h : (Dialogue.run scripted d answers).1.toOption.map f = some y) :
    ∃ t v, Run d t (.ok v) ∧ f v = y ∧ ∀ x ∈ t, Genuine oneVote x := by
  obtain ⟨t, ht, hg⟩ := exists_run scripted (Genuine oneVote) scripted_genuine d answers
  cases hr : (Dialogue.run scripted d answers).1 with
  | error e =>
    rw [hr] at h
    cases h
  | ok v =>
    rw [hr] at h ht
    exact ⟨t, v, ht, Option.some.inj h, hg⟩

theorem exists_run_found (e : Element) (answers : List String) (box : Box)
    (h : (Dialogue.run scripted (locateIn oneVote e "" grey) answers).1.toOption.map Location.box? = some (some box)) :
    ∃ t logical s el, Run (locateIn oneVote e "" grey) t (.ok (.found box logical s el)) ∧
      ∀ x ∈ t, Genuine oneVote x := by
  obtain ⟨t, l, ht, hbox, hg⟩ := exists_run_ok _ _ _ h
  cases l with
  | missed => cases hbox
  | found b logical s el =>
    obtain rfl := Option.some.inj hbox
    exact ⟨t, logical, s, el, ht, hg⟩

theorem found_within_grey : ∃ t logical s el,
    Run (locateIn oneVote (button false) "" grey) t (.ok (.found ⟨80, 64, 20, 8⟩ logical s el)) ∧
      (∀ x ∈ t, Genuine oneVote x) ∧ Box.Within grey.picture.width grey.picture.height ⟨80, 64, 20, 8⟩ := by
  obtain ⟨t, logical, s, el, h, hg⟩ := exists_run_found (button false) ["\x7b\"boxes\":[[400,400,500,450]]\x7d"]
    ⟨80, 64, 20, 8⟩ (by decide +kernel)
  exact ⟨t, logical, s, el, h, hg, found_within ⟨by decide, by decide⟩ h hg⟩

/-- **When a found element has area**: always on the direct path; on the zoom path exactly if both pairs of edges of
the box in the closeup stay apart on the way back. -/
theorem found_nonempty_iff (hp : shot.picture.Addressable)
    (h : Run (locateIn c e data shot) t (.ok (.found box logical s el))) (hg : ∀ x ∈ t, Genuine c x) :
    (e.zoom = false ∧ box.isEmpty = false) ∨
      (e.zoom = true ∧ ∃ part inside, LooksCloser c e data shot.picture t part inside box ∧
        Box.IsPart part.picture.width part.picture.height inside ∧ (box.isEmpty = false ↔ part.Keeps inside)) := by
  rcases found_cases hp h hg with ⟨hz, hpart⟩ | ⟨hz, part, inside, hc⟩
  · exact Or.inl ⟨hz, hpart.nonempty⟩
  · have hin := hc.isPart hp hg
    obtain ⟨region, -, hs⟩ := hc.look
    refine Or.inr ⟨hz, part, inside, hc, hin, ?_⟩
    rw [hc.back]
    exact hs.toWhole_nonempty_iff hp hin

theorem found_nonempty_iff_grey : ∃ t logical s el,
    Run (locateIn oneVote (button true) "" grey) t (.ok (.found ⟨90, 65, 8, 3⟩ logical s el)) ∧
      (∀ x ∈ t, Genuine oneVote x) ∧ (((button true).zoom = false ∧ Box.isEmpty ⟨90, 65, 8, 3⟩ = false) ∨
        ((button true).zoom = true ∧ ∃ part inside,
          LooksCloser oneVote (button true) "" grey.picture t part inside ⟨90, 65, 8, 3⟩ ∧
          Box.IsPart part.picture.width part.picture.height inside ∧
          (Box.isEmpty ⟨90, 65, 8, 3⟩ = false ↔ part.Keeps inside))) := by
  obtain ⟨t, logical, s, el, h, hg⟩ := exists_run_found (button true)
    ["\x7b\"boxes\":[[400,400,500,450]]\x7d", "\x7b\"boxes\":[[500,400,600,500]]\x7d"] ⟨90, 65, 8, 3⟩
    (by decide +kernel)
  exact ⟨t, logical, s, el, h, hg, found_nonempty_iff ⟨by decide, by decide⟩ h hg⟩

/-- **A found element without area**: a box one pixel wide in the closeup, which is two and a half times as large as the
part it shows, comes back without width. -/
theorem found_without_area : ∃ t logical s el,
    Run (locateIn oneVote (button true) "" grey) t (.ok (.found ⟨90, 65, 0, 3⟩ logical s el)) ∧
      (∀ x ∈ t, Genuine oneVote x) ∧ Box.isEmpty ⟨90, 65, 0, 3⟩ = true := by
  obtain ⟨t, logical, s, el, h, hg⟩ := exists_run_found (button true)
    ["\x7b\"boxes\":[[400,400,500,450]]\x7d", "\x7b\"boxes\":[[500,400,505,500]]\x7d"] ⟨90, 65, 0, 3⟩
    (by decide +kernel)
  exact ⟨t, logical, s, el, h, hg, rfl⟩

end Locator
end Pinpoint
