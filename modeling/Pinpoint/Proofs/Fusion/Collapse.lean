import Mathlib.Data.List.Basic
import Pinpoint.Signal
/-!
# Collapse — what merging candidates of one box keeps

Merging changes which sources an entry carries and how often a box is listed, never which boxes are listed
(`box_mem_collapse`); and it makes up no sources (`sources_collapse`).  What it comes to can be said at once: the boxes in
first-seen order, each with all sources of its entries (`collapse_eq`), so that the order and the number of the entries
of a box matter to nothing but the order of the boxes (`mem_collapse_iff`).
-/
namespace Pinpoint
namespace Candidate

theorem box_mem_push (c : Candidate) (b : Box) :
    ∀ l : List Candidate, b ∈ (push c l).map (·.box) ↔ b = c.box ∨ b ∈ l.map (·.box)
  | [] => by simp [push]
  | d :: l => by
    by_cases h : d.box = c.box
    · rw [push, if_pos h, ← h]
      simp only [List.map_cons, List.mem_cons]
      tauto
    · rw [push, if_neg h]
      simp only [List.map_cons, List.mem_cons, box_mem_push c b l]
      tauto

theorem box_mem_pushAll (b : Box) :
    ∀ l out : List Candidate, b ∈ (pushAll out l).map (·.box) ↔ b ∈ out.map (·.box) ∨ b ∈ l.map (·.box)
  | [], out => by simp [pushAll]
  | c :: l, out => by
    rw [pushAll, List.foldl_cons, ← pushAll, box_mem_pushAll b l (push c out), box_mem_push, List.map_cons,
      List.mem_cons]
    tauto

/-- **Merging lists the same boxes.** -/
theorem box_mem_collapse (l : List Candidate) (b : Box) : b ∈ (collapse l).map (·.box) ↔ b ∈ l.map (·.box) := by
  rw [collapse, box_mem_pushAll]
  simp

theorem collapse_eq_nil_iff (l : List Candidate) : collapse l = [] ↔ l = [] := by
  rw [← List.map_eq_nil_iff (f := Candidate.box), ← List.map_eq_nil_iff (f := Candidate.box) (l := l),
    List.eq_nil_iff_forall_not_mem, List.eq_nil_iff_forall_not_mem]
  simp only [box_mem_collapse]

/-! ## Which sources entries have -/

section
variable {P : Sources → Prop} (hP : ∀ s t, P s → P t → P (s ∪ t))
include hP

theorem sources_push {c : Candidate} (hc : P c.sources) :
    ∀ {l : List Candidate}, (∀ d ∈ l, P d.sources) → ∀ d ∈ push c l, P d.sources
  | [], _     => List.forall_mem_singleton.2 hc
  | d :: l, h => by
    obtain ⟨hd, hl⟩ := List.forall_mem_cons.1 h
    rw [push]
    split
    · exact List.forall_mem_cons.2 ⟨hP _ _ hd hc, hl⟩
    · exact List.forall_mem_cons.2 ⟨hd, sources_push hc hl⟩

theorem sources_pushAll : ∀ (l : List Candidate) {out : List Candidate}, (∀ d ∈ out, P d.sources) →
    (∀ d ∈ l, P d.sources) → ∀ d ∈ pushAll out l, P d.sources
  | [], _, hout, _    => hout
  | _ :: l, _, hout, h => by
    obtain ⟨hc, hl⟩ := List.forall_mem_cons.1 h
    exact sources_pushAll l (sources_push hP hc hout) hl

/-- **Merging only unites sources.** -/
theorem sources_collapse {l : List Candidate} (hl : ∀ d ∈ l, P d.sources) : ∀ d ∈ collapse l, P d.sources :=
  sources_pushAll hP l (List.forall_mem_nil _) hl

end

/-! ## What has one entry a box already -/

theorem push_eq_append {c : Candidate} : ∀ {l : List Candidate}, c.box ∉ l.map (·.box) → push c l = l ++ [c]
  | [], _     => rfl
  | d :: l, h => by
    rw [List.map_cons, List.mem_cons, not_or] at h
    rw [push, if_neg (Ne.symm h.1), push_eq_append h.2, List.cons_append]

theorem pushAll_eq_append : ∀ {l out : List Candidate}, ((out ++ l).map (·.box)).Nodup → pushAll out l = out ++ l
  | [], out, _     => by rw [pushAll, List.foldl_nil, List.append_nil]
  | c :: l, out, h => by
    have hnew : c.box ∉ out.map (·.box) := by
      rw [List.map_append, List.map_cons, List.nodup_append] at h
      exact fun hc => h.2.2 c.box hc c.box List.mem_cons_self rfl
    rw [List.append_cons] at h
    rw [pushAll, List.foldl_cons, ← pushAll, push_eq_append hnew, pushAll_eq_append h, ← List.append_cons]

theorem nodup_push (c : Candidate) :
    ∀ {l : List Candidate}, (l.map (·.box)).Nodup → ((push c l).map (·.box)).Nodup
  | [], _     => List.nodup_cons.2 ⟨List.not_mem_nil, List.nodup_nil⟩
  | d :: l, h => by
    obtain ⟨hd, hl⟩ := List.nodup_cons.1 h
    by_cases hbox : d.box = c.box
    · rw [push, if_pos hbox]
      exact h
    · rw [push, if_neg hbox]
      refine List.nodup_cons.2 ⟨fun hmem => ?_, nodup_push c hl⟩
      exact ((box_mem_push c d.box l).1 hmem).elim hbox hd

theorem nodup_pushAll :
    ∀ (l : List Candidate) {out : List Candidate}, (out.map (·.box)).Nodup → ((pushAll out l).map (·.box)).Nodup
  | [], _, h     => h
  | c :: l, _, h => nodup_pushAll l (nodup_push c h)

theorem nodup_collapse (l : List Candidate) : ((collapse l).map (·.box)).Nodup := nodup_pushAll l List.nodup_nil

/-- **Merging leaves one entry a box**, so that merging once more changes nothing. -/
theorem collapse_collapse (l : List Candidate) : collapse (collapse l) = collapse l :=
  pushAll_eq_append (nodup_collapse l)

/-! ## All sources of a box -/

/-- **Everything that stands behind a box** in a list. -/
def sourcesOf (l : List Candidate) (b : Box) : Sources :=
  ((l.filter fun c => c.box = b).map (·.sources)).foldl (· ∪ ·) .none

variable {b : Box} {c : Candidate} {k l out : List Candidate}

theorem none_union (s : Sources) : Sources.none ∪ s = s := rfl

@[simp] theorem vision_union (s t : Sources) : (s ∪ t).vision = (s.vision || t.vision) := rfl
@[simp] theorem feature_union (s t : Sources) : (s ∪ t).feature = (s.feature || t.feature) := rfl
@[simp] theorem template_union (s t : Sources) : (s ∪ t).template = (s.template || t.template) := rfl

theorem sourcesOf_concat (l : List Candidate) (c : Candidate) (b : Box) :
    sourcesOf (l ++ [c]) b = if c.box = b then sourcesOf l b ∪ c.sources else sourcesOf l b := by
  unfold sourcesOf
  rw [List.filter_append, List.map_append, List.foldl_append]
  by_cases h : c.box = b <;> simp [h]

theorem sourcesOf_of_not_mem (h : b ∉ l.map (·.box)) : sourcesOf l b = .none := by
  have hnone : l.filter (fun c => c.box = b) = [] := List.filter_eq_nil_iff.2 fun c hc hcb => by
    simp only [decide_eq_true_eq] at hcb
    exact h (List.mem_map.2 ⟨c, hc, hcb⟩)
  unfold sourcesOf
  rw [hnone]
  rfl

/-- **A flag of sources that a union has if one of the two has it.** -/
structure IsFlag (flag : Sources → Bool) : Prop where
  none  : flag .none = false
  union : ∀ s t, flag (s ∪ t) = (flag s || flag t)

theorem isFlag_vision : IsFlag Sources.vision := ⟨rfl, vision_union⟩
theorem isFlag_feature : IsFlag Sources.feature := ⟨rfl, feature_union⟩
theorem isFlag_template : IsFlag Sources.template := ⟨rfl, template_union⟩

theorem IsFlag.foldl {flag : Sources → Bool} (h : IsFlag flag) :
    ∀ (ss : List Sources) (s : Sources), flag (ss.foldl (· ∪ ·) s) = (flag s || ss.any flag)
  | [], s      => by simp
  | t :: ss, s => by rw [List.foldl_cons, h.foldl ss, h.union, List.any_cons, Bool.or_assoc]

theorem IsFlag.sourcesOf_iff {flag : Sources → Bool} (h : IsFlag flag) (l : List Candidate) (b : Box) :
    flag (sourcesOf l b) = true ↔ ∃ c ∈ l, c.box = b ∧ flag c.sources = true := by
  unfold sourcesOf
  rw [h.foldl, h.none, Bool.false_or, List.any_eq_true]
  constructor
  · rintro ⟨s, hs, hflag⟩
    obtain ⟨c, hc, rfl⟩ := List.mem_map.1 hs
    obtain ⟨hcl, hcb⟩ := List.mem_filter.1 hc
    exact ⟨c, hcl, by simpa using hcb, hflag⟩
  · rintro ⟨c, hcl, hcb, hflag⟩
    exact ⟨c.sources, List.mem_map_of_mem (List.mem_filter.2 ⟨hcl, by simpa using hcb⟩), hflag⟩

/-- **What merging has made of a list so far.** -/
structure Merged (out l : List Candidate) : Prop where
  boxes   : out.map (·.box) = (l.map (·.box)).eraseDups
  nodup   : (out.map (·.box)).Nodup
  sources : ∀ d ∈ out, d.sources = sourcesOf l d.box

theorem map_box_push (c : Candidate) : ∀ l : List Candidate,
    (push c l).map (·.box) = if c.box ∈ l.map (·.box) then l.map (·.box) else l.map (·.box) ++ [c.box]
  | []     => rfl
  | d :: l => by
    by_cases hd : d.box = c.box
    · rw [push, if_pos hd]
      simp [hd]
    · have hmem : c.box ∈ (d :: l).map (·.box) ↔ c.box ∈ l.map (·.box) := by simp [Ne.symm hd]
      rw [push, if_neg hd, List.map_cons, map_box_push c l]
      by_cases hl : c.box ∈ l.map (·.box)
      · rw [if_pos hl, if_pos (hmem.2 hl), List.map_cons]
      · rw [if_neg hl, if_neg fun h => hl (hmem.1 h), List.map_cons, List.cons_append]

/-- One more candidate changes the sources of its own box, and of no other. -/
theorem sources_push_eq (hnew : c.box ∉ out.map (·.box) → sourcesOf l c.box = .none) :
    (out.map (·.box)).Nodup → (∀ d ∈ out, d.sources = sourcesOf l d.box) →
      ∀ d ∈ push c out, d.sources = sourcesOf (l ++ [c]) d.box := by
  induction out with
  | nil =>
    intro _ _ d hd
    rw [List.mem_singleton.1 hd, sourcesOf_concat, if_pos rfl, hnew List.not_mem_nil, none_union]
  | cons e out ih =>
    intro hnodup hout
    obtain ⟨he, hnodup⟩ := List.nodup_cons.1 hnodup
    obtain ⟨hes, hout⟩ := List.forall_mem_cons.1 hout
    rw [push]
    by_cases hbox : e.box = c.box
    · rw [if_pos hbox]
      refine List.forall_mem_cons.2 ⟨?_, fun d hd => ?_⟩
      · show e.sources ∪ c.sources = _
        rw [sourcesOf_concat, if_pos hbox.symm, hes]
      · have hne : c.box ≠ d.box := fun heq => he (List.mem_map.2 ⟨d, hd, (hbox.trans heq).symm⟩)
        rw [sourcesOf_concat, if_neg hne]
        exact hout d hd
    · rw [if_neg hbox]
      have hnew' : c.box ∉ out.map (·.box) → sourcesOf l c.box = .none := fun h => hnew fun hmem => by
        rcases List.mem_cons.1 hmem with heq | hmem
        · exact hbox heq.symm
        · exact h hmem
      refine List.forall_mem_cons.2 ⟨?_, ih hnew' hnodup hout⟩
      rw [sourcesOf_concat, if_neg (Ne.symm hbox)]
      exact hes

theorem Merged.push (h : Merged out l) (c : Candidate) : Merged (push c out) (l ++ [c]) where
  boxes := by
    rw [map_box_push, h.boxes, List.map_append, List.map_singleton, List.eraseDups_append]
    by_cases hc : c.box ∈ l.map (·.box)
    · have hnone : [c.box].removeAll (l.map (·.box)) = [] := List.filter_eq_nil_iff.2 (by simpa using hc)
      rw [if_pos (List.mem_eraseDups.2 hc), hnone, List.eraseDups_nil, List.append_nil]
    · have hall : [c.box].removeAll (l.map (·.box)) = [c.box] := List.filter_eq_self.2 (by simpa using hc)
      rw [if_neg fun hmem => hc (List.mem_eraseDups.1 hmem), hall]
      rfl
  nodup := nodup_push c h.nodup
  sources := by
    refine sources_push_eq (fun hnew => sourcesOf_of_not_mem fun hmem => hnew ?_) h.nodup h.sources
    rw [h.boxes]
    exact List.mem_eraseDups.2 hmem

theorem Merged.pushAll : ∀ {k l out : List Candidate}, Merged out l → Merged (pushAll out k) (l ++ k)
  | [], l, _, h     => by rwa [List.append_nil]
  | c :: k, l, _, h => by
    rw [List.append_cons]
    exact (h.push c).pushAll

theorem merged_collapse (l : List Candidate) : Merged (collapse l) l :=
  Merged.pushAll (l := []) ⟨rfl, List.nodup_nil, List.forall_mem_nil _⟩

/-- **Merging, said at once**: every box where it is first seen, with all of its sources. -/
theorem collapse_eq (l : List Candidate) :
    collapse l = (l.map (·.box)).eraseDups.map fun b => ⟨b, sourcesOf l b⟩ := by
  have hmerged := merged_collapse l
  have hself : ∀ d ∈ collapse l, d = ⟨d.box, sourcesOf l d.box⟩ := fun d hd => by rw [← hmerged.sources d hd]
  rw [← hmerged.boxes, List.map_map]
  exact (List.map_id' _).symm.trans (List.map_congr_left hself)

theorem mem_collapse_iff : c ∈ collapse l ↔ c.box ∈ l.map (·.box) ∧ c.sources = sourcesOf l c.box := by
  rw [collapse_eq]
  constructor
  · intro hc
    obtain ⟨b, hb, rfl⟩ := List.mem_map.1 hc
    exact ⟨List.mem_eraseDups.1 hb, rfl⟩
  · rintro ⟨hb, hs⟩
    exact List.mem_map.2 ⟨c.box, List.mem_eraseDups.2 hb, by rw [← hs]⟩

end Candidate
end Pinpoint
