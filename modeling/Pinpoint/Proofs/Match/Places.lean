import Mathlib.Data.List.Basic
import Pinpoint.Match.Template
import Pinpoint.Proofs.Box.Bounds
import Pinpoint.Proofs.Match.Peaks
import Pinpoint.Proofs.Picture.Sizes
/-!
# Places — where a search by template can answer

A search has as many places as a window of the size of the reference can be moved to (`Search.Has`).  Whatever the
scores, thresholds and factors are, every place that a search proposes is one of them: peaks are cells of the score map,
also the blank ones (`Peak.pick_has`), and what is looked at again around a coarse peak is held to the map
(`Search.refine_has`).  The windows at such places are parts of the scene, and so are the boxes they are merged into
(`findTemplate_isPart`).
-/
namespace Pinpoint
namespace Match

variable {ν ω : Type} [Scalar ν]

/-! ## Peaks -/

namespace Peak

theorem mod_div_lt {w n i : Nat} (h : i < w * n) : i % w < w ∧ i / w < n := by
  have hw : 0 < w := Nat.pos_of_mul_pos_right (Nat.zero_lt_of_lt h)
  exact ⟨Nat.mod_lt _ hw, Nat.div_lt_of_lt_mul h⟩

/-- **Peaks are cells of the map**, whatever the threshold. -/
theorem pick_has (w h : Nat) (threshold : ν) {n : Nat} :
    ∀ (limit : Nat) (m : Map ν), m.cells.size = m.width * n →
      ∀ p ∈ pick w h threshold limit m, p.x < m.width ∧ p.y < n
  | 0, _, _, p, hp => by cases hp
  | limit + 1, m, hm, p, hp => by
    -- a peak is the best cell or one of the map without it, which has the same rows
    have take : ∀ (i : Nat) (s : ν), i < m.cells.size → p ∈ (⟨s, i % m.width, i / m.width⟩ : Peak ν) ::
        pick w h threshold limit (m.blank w h (i % m.width) (i / m.width)) → p.x < m.width ∧ p.y < n := by
      intro i s hi hp
      rcases List.mem_cons.1 hp with rfl | hp
      · exact mod_div_lt (hm ▸ hi)
      · exact pick_has w h threshold limit (m.blank w h (i % m.width) (i / m.width))
          (by rw [Map.blank, Array.size_mapIdx, hm]) p hp
    rw [pick] at hp
    split at hp
    · rename_i i s hbest
      split at hp
      · cases hp
      · exact take i s (Map.best_lt hbest) hp
    · rename_i i hbest
      split at hp
      · cases hp
      · exact take i threshold (Map.best_lt hbest) hp
    · cases hp

end Peak

/-! ## Searches -/

/-- A template has the size of its plane and as many values. -/
theorem Template.ofPlane?_eq_some [Scalar ω] [Widening ν ω] {p : Plane ν} {t : Template ν ω}
    (h : Template.ofPlane? p = some t) :
    t.width = p.width ∧ t.height = p.height ∧ ∃ f : ν → ν, t.rows = p.rows.map fun r => r.map f := by
  unfold Template.ofPlane? at h
  dsimp only at h
  split at h
  · obtain rfl := Option.some.inj h
    exact ⟨rfl, rfl, _, rfl⟩
  · cases h

namespace Search

/-- The place is one to which the window can be moved. -/
def Has (s : Search ν ω) (p : Peak ν) : Prop := p.x < s.across ∧ p.y < s.down

variable [Scalar ω] [Widening ν ω]

theorem pick_scoreMap_has (s : Search ν ω) (w h limit : Nat) (threshold : ν) :
    ∀ p ∈ Peak.pick w h threshold limit s.scoreMap, s.Has p :=
  Peak.pick_has w h threshold limit s.scoreMap (by simp [scoreMap])

theorem mem_upTo {lo hi i : Nat} : i ∈ upTo lo hi ↔ lo ≤ i ∧ i ≤ hi := by
  rw [upTo, List.mem_range'_1]
  omega

/-- What holds of every place of the map with its score holds of what looking again finds. -/
theorem refine_induction {P : Peak ν → Prop} (s : Search ν ω)
    (hP : ∀ x y, x < s.across → y < s.down → P ⟨s.scoreAt x y, x, y⟩) (radius x y : Nat) :
    ∀ p ∈ s.refine radius x y, P p := by
  have hx : 0 < s.across := Nat.succ_pos _
  have hy : 0 < s.down := Nat.succ_pos _
  unfold refine
  refine List.foldlRecOn (motive := fun best => ∀ p ∈ best, P p) _ _ (by simp) fun best hbest y hy' => ?_
  refine List.foldlRecOn (motive := fun best => ∀ p ∈ best, P p) _ _ hbest fun best hbest x hx' p hp => ?_
  rw [mem_upTo] at hx' hy'
  have hnew : P ⟨s.scoreAt x y, x, y⟩ := hP x y (by omega) (by omega)
  cases best with
  | none =>
    obtain rfl := Option.some.inj hp
    exact hnew
  | some b =>
    dsimp only at hp
    split at hp
    · obtain rfl := Option.some.inj hp
      exact hnew
    · exact hbest p hp

/-- **Looking again stays on the map.** -/
theorem refine_has (s : Search ν ω) : ∀ radius x y, ∀ p ∈ s.refine radius x y, s.Has p :=
  s.refine_induction fun _ _ hx hy => ⟨hx, hy⟩

theorem refine_score (s : Search ν ω) : ∀ radius x y, ∀ p ∈ s.refine radius x y, p.score = s.scoreAt p.x p.y :=
  s.refine_induction fun _ _ _ _ => rfl

/-- **What a search is made of**: a scene, its tables and a template that is no larger. -/
theorem make?_eq_some {scene reference : Picture} {s : Search ν ω} (h : make? scene reference = some s) :
    s.scene = Plane.ofPicture scene ∧ s.integral = Integral.ofPlane s.scene ∧
      Template.ofPlane? (Plane.ofPicture reference) = some s.template ∧
      s.template.width ≤ s.scene.width ∧ s.template.height ≤ s.scene.height := by
  unfold make? at h
  split at h
  · cases h
  · rename_i hle
    obtain ⟨t, ht, rfl⟩ := Option.map_eq_some_iff.1 h
    obtain ⟨hw, hh, -⟩ := Template.ofPlane?_eq_some ht
    rw [UInt32.lt_iff_toNat_lt, UInt32.lt_iff_toNat_lt] at hle
    refine ⟨rfl, rfl, ht, ?_, ?_⟩
    · rw [hw]
      show reference.toLuma.width.toNat ≤ scene.toLuma.width.toNat
      rw [reference.width_toLuma, scene.width_toLuma]
      omega
    · rw [hh]
      show reference.toLuma.height.toNat ≤ scene.toLuma.height.toNat
      rw [reference.height_toLuma, scene.height_toLuma]
      omega

theorem size_ofPicture (p : Picture) : (Plane.ofPicture p : Plane ν).width = p.w ∧
    (Plane.ofPicture p : Plane ν).height = p.h :=
  ⟨congrArg UInt32.toNat p.width_toLuma, congrArg UInt32.toNat p.height_toLuma⟩

theorem make?_sizes {scene reference : Picture} {s : Search ν ω} (h : make? scene reference = some s) :
    s.scene.width = scene.w ∧ s.scene.height = scene.h ∧ s.template.width = reference.w ∧
      s.template.height = reference.h := by
  obtain ⟨hscene, -, htemplate, -, -⟩ := make?_eq_some h
  obtain ⟨hw, hh, -⟩ := Template.ofPlane?_eq_some htemplate
  rw [hscene, hw, hh]
  exact ⟨(size_ofPicture scene).1, (size_ofPicture scene).2, (size_ofPicture reference).1, (size_ofPicture reference).2⟩

/-- **The places of a search** are those at which a window of the size of the reference lies in the scene. -/
theorem has_iff {scene reference : Picture} {s : Search ν ω} (h : make? scene reference = some s) {p : Peak ν} :
    s.Has p ↔ p.x + reference.w ≤ scene.w ∧ p.y + reference.h ≤ scene.h := by
  obtain ⟨-, -, -, hwle, hhle⟩ := make?_eq_some h
  obtain ⟨hsw, hsh, htw, hth⟩ := make?_sizes h
  unfold Has across down
  omega

end Search

/-! ## From coarse to fine -/

variable [Scalar ω] [Widening ν ω]

theorem mem_of_mem_accept (w h limit : Nat) (l : List (Peak ν)) : ∀ p ∈ accept w h limit l, p ∈ l := by
  refine List.foldlRecOn (motive := fun kept => ∀ p ∈ kept, p ∈ l) _ _ (by simp) fun kept hkept q hq p hp => ?_
  split at hp
  · rcases List.mem_append.1 hp with hp | hp
    · exact hkept p hp
    · rw [List.mem_singleton.1 hp]
      exact List.mem_mergeSort.1 hq
  · exact hkept p hp

/-- **Every place that is proposed is one of the full search**, whichever way it was come by. -/
theorem places_has (c : TemplateSettings ν ω) (scene reference : Picture) (full : Search ν ω) :
    ∀ p ∈ places c scene reference full, full.Has p := by
  intro p hp
  unfold places at hp
  dsimp only at hp
  split at hp
  · obtain ⟨q, -, hq⟩ := List.mem_filterMap.1 hp
    exact full.refine_has _ _ _ p (Option.mem_filter_iff.1 hq).1
  · exact full.pick_scoreMap_has _ _ _ _ p hp

theorem isPart_window {scene reference : Picture} (hp : scene.Addressable)
    (hne : reference.isEmpty = false) {x y : Nat} (hx : x + reference.w ≤ scene.w) (hy : y + reference.h ≤ scene.h) :
    Box.IsPart scene.width scene.height ⟨Int32.ofInt x, Int32.ofInt y, reference.width, reference.height⟩ := by
  obtain ⟨hw, hh⟩ := hp
  have hl : (Int32.ofInt x).toInt = x := Int32.toInt_ofInt_of_le (by omega) (by omega)
  have ht : (Int32.ofInt y).toInt = y := Int32.toInt_ofInt_of_le (by omega) (by omega)
  refine ⟨⟨?_, ?_, ?_, ?_⟩, hne⟩ <;> simp only [Box.left, Box.right, Box.top, Box.bottom, hl, ht] <;>
    unfold Picture.w Picture.h at * <;> omega

/-- **What the template is found in are parts of the scene.** -/
theorem findTemplate_isPart (c : TemplateSettings ν ω) (scene reference : Picture) (hp : scene.Addressable) :
    ∀ b ∈ (findTemplate c scene reference).boxes, Box.IsPart scene.width scene.height b := by
  unfold findTemplate
  dsimp only
  split
  · simp
  · rename_i hne
    split
    · simp
    · rename_i full hfull
      rw [← scene.width_toLuma, ← scene.height_toLuma]
      refine Box.IsPart.mergeOverlapping fun b hb => ?_
      simp only [List.map_map, List.mem_map, Function.comp_apply] at hb
      obtain ⟨q, hq, rfl⟩ := hb
      have hwin := (Search.has_iff hfull).1 (places_has c _ _ full q (mem_of_mem_accept _ _ _ _ q hq))
      simp only [Bool.or_eq_true, not_or, Bool.not_eq_true] at hne
      exact isPart_window hp.toLuma hne.1 hwin.1 hwin.2

end Match
end Pinpoint
