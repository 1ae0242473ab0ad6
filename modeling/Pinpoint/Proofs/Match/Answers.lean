import Pinpoint.Match.Matcher
import Pinpoint.Proofs.Match.Places
/-!
# Answers — what the two matchers can say

The matchers work on their own and are joined in some order, perhaps with a stop seen in between, and either may break
off (`Answer`).  Every box of such an answer is a part of the picture that was searched (`Answer.inside`): a region of
features is cut to the picture, a window of the template is at a place in it.
-/
namespace Pinpoint

theorem Except.map_eq_ok {β γ : Type} {f : β → γ} {r : Except Fault β} {w : γ} :
    r.map f = .ok w ↔ ∃ v, r = .ok v ∧ f v = w := by
  cases r with
  | error e => simp [Except.map]
  | ok v => simp [Except.map]

/-! ## What is joined -/

namespace Harvest

variable {β : Type}

theorem mem_collectFrom (close : Bool) (values : List β) (failed : Nat) (ends : List (Bool × TaskEnd β)) {h : Harvest β}
    (hc : collectFrom close values failed ends = .ok h) :
    ∀ v ∈ h.values, v ∈ values ∨ ∃ s, (s, TaskEnd.value v) ∈ ends := by
  fun_induction collectFrom close values failed ends with
  | case1 | case2 | case4 =>
    obtain rfl := Except.ok.inj hc
    exact fun v hv => Or.inl (List.mem_reverse.1 hv)
  | case3 values failed w l ih =>
    intro v hv
    rcases ih hc v hv with hv | ⟨s, hs⟩
    · rcases List.mem_cons.1 hv with rfl | hv
      · exact Or.inr ⟨false, List.mem_cons_self⟩
      · exact Or.inl hv
    · exact Or.inr ⟨s, List.mem_cons_of_mem _ hs⟩
  | case5 => cases hc
  | case6 _ _ _ _ _ _ ih | case7 _ _ _ ih =>
    intro v hv
    rcases ih hc v hv with hv | ⟨s, hs⟩
    · exact Or.inl hv
    · exact Or.inr ⟨s, List.mem_cons_of_mem _ hs⟩

/-- **Every value that comes in is the value of a task.** -/
theorem mem_collect {j : Joins β} {h : Harvest β} (hc : collect j = .ok h) :
    ∀ v ∈ h.values, ∃ s, (s, TaskEnd.value v) ∈ j.ends := by
  intro v hv
  rcases mem_collectFrom j.stopAtClose [] 0 j.ends hc v hv with hv | hv
  · cases hv
  · exact hv

end Harvest

namespace Match

/-- All boxes are parts of a picture. -/
structure Matched.Inside {ν : Type} (p : Picture) (m : Matched ν) : Prop where
  feature  : ∀ b ∈ m.feature.boxes, Box.IsPart p.width p.height b
  template : ∀ b ∈ m.template.boxes, Box.IsPart p.width p.height b

theorem Matched.nothing_inside {ν : Type} (p : Picture) : (nothing : Matched ν).Inside p :=
  ⟨by simp [nothing], by simp [nothing]⟩

variable {ν ω : Type} [Scalar ν] [Scalar ω]

/-! ## Features -/

theorem regionOf_isPart {c : FeatureSettings ν ω} {scene reference : Picture} {l : List (PointPair ω)} {r : Box × Nat}
    (h : regionOf c scene reference l = some r) : Box.IsPart scene.width scene.height r.1 := by
  simp only [regionOf, Option.bind_eq_bind, Option.bind_eq_some_iff] at h
  obtain ⟨_, -, region, -, h⟩ := h
  split at h
  · cases h
  · obtain ⟨clipped, hc, h⟩ := Option.bind_eq_some_iff.1 h
    obtain rfl := Option.some.inj h
    exact Box.isPart_of_clip? hc

/-- **Regions of features are parts of the scene**, whatever mapping was agreed on. -/
theorem findFeatures_isPart (c : FeatureSettings ν ω) (scene reference : Picture) :
    ∀ b ∈ (findFeatures c scene reference).boxes, Box.IsPart scene.width scene.height b := by
  unfold findFeatures
  dsimp only
  split
  · simp
  · split
    · simp
    · intro b hb
      obtain ⟨r, hr, rfl⟩ := List.mem_map.1 hb
      obtain ⟨l, -, hl⟩ := List.mem_filterMap.1 hr
      exact regionOf_isPart hl

/-! ## Both -/

variable [Widening ν ω]

/-- **An answer of the matchers**: what comes of joining their tasks in some order. -/
def Answer (f : FeatureSettings ν ω) (t : TemplateSettings ν ω) (whole reference : Picture)
    (m : Except Fault (Matched ν)) : Prop :=
  ∃ j : Joins (Signal ν), m = ofJoins j ∧
    ∀ e ∈ j.ends, e.2 = featureTask f whole reference ∨ e.2 = templateTask t whole reference ∨ e.2 = .crash

theorem answer_detect (f : FeatureSettings ν ω) (t : TemplateSettings ν ω) (stop : Bool) (whole reference : Picture) :
    Answer f t whole reference (detect f t stop whole reference) := by
  cases stop with
  | true => exact ⟨Joins.ofEnds true [], rfl, by simp [Joins.ofEnds]⟩
  | false =>
    refine ⟨Joins.ofEnds false [featureTask f whole reference, templateTask t whole reference], rfl, ?_⟩
    simp [Joins.ofEnds]

theorem taskEnd_eq_value {β : Type} {r : Except Fault β} {v : β} (h : TaskEnd.value v = taskEnd r) : r = .ok v := by
  cases r with
  | ok w => rw [TaskEnd.value.inj h]
  | error e => cases h

theorem Matched.Inside.place {f : FeatureSettings ν ω} {t : TemplateSettings ν ω} {whole reference : Picture}
    (hp : whole.Addressable) {m : Matched ν} (hm : m.Inside whole) {s : Signal ν}
    (hs : TaskEnd.value s = featureTask f whole reference ∨ TaskEnd.value s = templateTask t whole reference) :
    (Match.place m s).Inside whole := by
  rcases hs with hs | hs
  · obtain ⟨_, -, rfl⟩ := Except.map_eq_ok.1 (taskEnd_eq_value hs)
    exact ⟨findFeatures_isPart f whole reference, hm.template⟩
  · obtain ⟨_, -, rfl⟩ := Except.map_eq_ok.1 (taskEnd_eq_value hs)
    exact ⟨hm.feature, findTemplate_isPart t whole reference hp⟩

/-- **All boxes of an answer are parts of the picture.** -/
theorem Answer.inside {f : FeatureSettings ν ω} {t : TemplateSettings ν ω} {whole reference : Picture}
    (hp : whole.Addressable) {m : Matched ν} (ha : Answer f t whole reference (.ok m)) :
    m.Inside whole := by
  obtain ⟨j, hj, hends⟩ := ha
  obtain ⟨h, hc, rfl⟩ := Except.map_eq_ok.1 hj.symm
  have hall : (h.values.foldl Match.place Matched.nothing).Inside whole := by
    refine List.foldlRecOn _ _ (Matched.nothing_inside whole) fun m hm s hs => ?_
    obtain ⟨b, hb⟩ := Harvest.mem_collect hc s hs
    rcases hends _ hb with he | he | he
    · exact hm.place (f := f) (t := t) hp (Or.inl he)
    · exact hm.place (f := f) (t := t) hp (Or.inr he)
    · cases he
  exact ⟨hall.feature, hall.template⟩

end Match
end Pinpoint
