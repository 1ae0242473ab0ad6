import Mathlib.Data.List.Pairwise
import Mathlib.Data.List.Perm.Basic
import Pinpoint.Proofs.Box.Merge
/-!
# Least — merging leaves the least cover, in whatever order

Which boxes a pass joins depends on the order of the list, and so does every list on the way.  The end does not.  Two
boxes that overlap lie in one box of any cover, so their hull lies there too, and no pass leaves a cover
(`Covers.mergeOverlapping`).  What comes out is a cover itself, hence the least, and of those there is one
(`Covers.mem_of_mem`).  Boxes without area overlap nothing and are handed through (`Gathers`).
-/
namespace Pinpoint
namespace Box

/-- **A cover of a list**: no two of its boxes overlap, and each box of the list that has area is inside one of them. -/
structure Covers (cover l : List Box) : Prop where
  apart  : Apart cover
  around : ∀ b ∈ l, b.isEmpty = false → ∃ g ∈ cover, b.Inside g

variable {a b frame g : Box} {p : Int × Int} {cover k l m out : List Box}

theorem Inside.mem (h : a.Inside b) (hp : p ∈ a) : p ∈ b := by
  obtain ⟨hl, hr, ht, hb⟩ := h
  rw [mem_iff] at hp ⊢
  omega

theorem Inside.antisymm (h : a.Inside b) (h' : b.Inside a) : a = b := by
  obtain ⟨hl, hr, ht, hb⟩ := h
  obtain ⟨hl', hr', ht', hb'⟩ := h'
  exact ext_edges (by omega) (by omega) (by omega) (by omega)

theorem isEmpty_of_mem (hp : p ∈ b) : b.isEmpty = false := by
  rw [mem_iff] at hp
  rw [isEmpty_eq_false_iff]
  omega

theorem Inside.isEmpty (h : a.Inside b) (ha : a.isEmpty = false) : b.isEmpty = false :=
  isEmpty_of_mem (h.mem (corner_mem ha))

theorem exists_mem_of_overlaps (h : a.overlaps b = true) : ∃ p, p ∈ a ∧ p ∈ b := by
  by_contra hnone
  have hfalse : a.overlaps b = false := overlaps_eq_false_iff.2 fun p hp => hnone ⟨p, hp⟩
  rw [h] at hfalse
  cases hfalse

/-- A pixel belongs to one box of a cover only. -/
theorem Apart.eq_of_mem (h : Apart l) (ha : a ∈ l) (hb : b ∈ l) (hpa : p ∈ a) (hpb : p ∈ b) : a = b := by
  by_contra hne
  have hsymm : Std.Symm fun a b : Box => ∀ p, ¬ (p ∈ a ∧ p ∈ b) := ⟨fun _ _ h p hp => h p hp.symm⟩
  exact List.Pairwise.forall h ha hb hne p ⟨hpa, hpb⟩

theorem inside_hull (ha : a.Inside frame) (hb : b.Inside frame) :
    a.Inside (a.hull b) ∧ b.Inside (a.hull b) ∧ (a.hull b).Inside frame := by
  obtain ⟨hl, ht, hr, hbt⟩ := edges_hull ha hb
  refine ⟨⟨by omega, by omega, by omega, by omega⟩, ⟨by omega, by omega, by omega, by omega⟩, ?_⟩
  obtain ⟨h1, h2, h3, h4⟩ := ha
  obtain ⟨h5, h6, h7, h8⟩ := hb
  exact ⟨by omega, by omega, by omega, by omega⟩

/-! ## A cover stays a cover -/

theorem Covers.cons (h : Covers cover l) (hb : b.isEmpty = false → ∃ g ∈ cover, b.Inside g) : Covers cover (b :: l) where
  apart  := h.apart
  around := List.forall_mem_cons.2 ⟨hb, h.around⟩

theorem Covers.absorb (hb : b.isEmpty = false → ∃ g ∈ cover, b.Inside g) :
    ∀ {out : List Box}, Covers cover out → Covers cover (absorb b out)
  | [], h       => h.cons hb
  | o :: out, h => by
    have hout : Covers cover out := ⟨h.apart, fun c hc => h.around c (List.mem_cons_of_mem o hc)⟩
    rw [Box.absorb]
    by_cases ho : o.overlaps b = true
    · rw [if_pos ho]
      -- the common pixel puts both boxes into the same box of the cover
      obtain ⟨p, hpo, hpb⟩ := exists_mem_of_overlaps ho
      obtain ⟨g, hg, hog⟩ := h.around o List.mem_cons_self (isEmpty_of_mem hpo)
      obtain ⟨g', hg', hbg⟩ := hb (isEmpty_of_mem hpb)
      obtain rfl := h.apart.eq_of_mem hg hg' (hog.mem hpo) (hbg.mem hpb)
      exact hout.cons fun _ => ⟨g, hg, (inside_hull hog hbg).2.2⟩
    · rw [if_neg ho]
      exact (hout.absorb hb).cons (h.around o List.mem_cons_self)

theorem Covers.mergePass (h : Covers cover l) : Covers cover (mergePass l) := by
  have hnone : Covers cover [] := ⟨h.apart, fun _ hb => by cases hb⟩
  exact List.foldlRecOn (motive := Covers cover) l _ hnone fun out hout b hb => hout.absorb (h.around b hb)

/-- **Merging stays inside every cover.** -/
theorem Covers.mergeOverlapping (h : Covers cover l) : Covers cover (mergeOverlapping l) := by
  fun_induction Box.mergeOverlapping l with
  | case1 l _ ih => exact ih h.mergePass
  | case2 l _ => exact h.mergePass

/-! ## Nothing is lost -/

/-- **What merging makes of a list**, as long as one box can hold it all: every box is inside one that comes out, and
those without area come out as they went in. -/
structure Gathers (frame : Box) (out l : List Box) : Prop where
  held   : ∀ o ∈ out, o.Inside frame
  around : ∀ b ∈ l, ∃ o ∈ out, b.Inside o
  blank  : out.filter isEmpty = l.filter isEmpty

theorem Gathers.refl (h : ∀ b ∈ l, b.Inside frame) : Gathers frame l l where
  held     := h
  around b hb := ⟨b, hb, Inside.refl b⟩
  blank    := rfl

theorem Gathers.trans (h : Gathers frame m k) (h' : Gathers frame k l) : Gathers frame m l where
  held := h.held
  around b hb := by
    obtain ⟨c, hc, hbc⟩ := h'.around b hb
    obtain ⟨o, ho, hco⟩ := h.around c hc
    exact ⟨o, ho, hbc.trans hco⟩
  blank := h.blank.trans h'.blank

theorem Gathers.cons (h : Gathers frame k l) (hb : b.Inside frame) : Gathers frame (b :: k) (b :: l) where
  held   := List.forall_mem_cons.2 ⟨hb, h.held⟩
  around := List.forall_mem_cons.2 ⟨⟨b, List.mem_cons_self, Inside.refl b⟩, fun c hc => by
    obtain ⟨o, ho, hco⟩ := h.around c hc
    exact ⟨o, List.mem_cons_of_mem b ho, hco⟩⟩
  blank  := by rw [List.filter_cons, List.filter_cons, h.blank]

theorem Gathers.concat (h : Gathers frame k l) (hb : b.Inside frame) : Gathers frame (k ++ [b]) (l ++ [b]) where
  held o ho := (List.mem_append.1 ho).elim (h.held o) fun hob => by rwa [List.mem_singleton.1 hob]
  around c hc := by
    rcases List.mem_append.1 hc with hc | hc
    · obtain ⟨o, ho, hco⟩ := h.around c hc
      exact ⟨o, List.mem_append_left [b] ho, hco⟩
    · exact ⟨c, List.mem_append_right k hc, Inside.refl c⟩
  blank := by rw [List.filter_append, List.filter_append, h.blank]

theorem gathers_absorb (hb : b.Inside frame) :
    ∀ {out : List Box}, (∀ o ∈ out, o.Inside frame) → Gathers frame (absorb b out) (out ++ [b])
  | [], _       => Gathers.refl (List.forall_mem_singleton.2 hb)
  | o :: out, h => by
    obtain ⟨hof, hout⟩ := List.forall_mem_cons.1 h
    rw [Box.absorb]
    by_cases ho : o.overlaps b = true
    · rw [if_pos ho]
      obtain ⟨p, hpo, hpb⟩ := exists_mem_of_overlaps ho
      obtain ⟨hoh, hbh, hhf⟩ := inside_hull hof hb
      refine ⟨List.forall_mem_cons.2 ⟨hhf, hout⟩, fun c hc => ?_, ?_⟩
      · rcases List.mem_append.1 hc with hc | hc
        · rcases List.mem_cons.1 hc with rfl | hc
          · exact ⟨_, List.mem_cons_self, hoh⟩
          · exact ⟨c, List.mem_cons_of_mem _ hc, Inside.refl c⟩
        · rw [List.mem_singleton.1 hc]
          exact ⟨_, List.mem_cons_self, hbh⟩
      · -- none of the two has no area, and neither has their hull
        have ho' : o.isEmpty = false := isEmpty_of_mem hpo
        have hb' : b.isEmpty = false := isEmpty_of_mem hpb
        have hh' : (o.hull b).isEmpty = false := hoh.isEmpty ho'
        simp [List.filter_append, ho', hb', hh']
    · rw [if_neg ho, List.cons_append]
      exact (gathers_absorb hb hout).cons hof

theorem Gathers.foldl_absorb (hl : ∀ b ∈ l, b.Inside frame) (h : Gathers frame out k) :
    Gathers frame (l.foldl (fun out b => Box.absorb b out) out) (k ++ l) := by
  induction l generalizing out k with
  | nil => simpa using h
  | cons b l ih =>
    obtain ⟨hb, hl⟩ := List.forall_mem_cons.1 hl
    rw [List.foldl_cons, List.append_cons k b l]
    exact ih hl ((gathers_absorb hb h.held).trans (h.concat hb))

theorem gathers_mergePass (h : ∀ b ∈ l, b.Inside frame) : Gathers frame (mergePass l) l :=
  Gathers.foldl_absorb h (Gathers.refl (List.forall_mem_nil _))

/-- **Merging loses nothing.** -/
theorem gathers_mergeOverlapping (h : ∀ b ∈ l, b.Inside frame) : Gathers frame (mergeOverlapping l) l := by
  fun_induction Box.mergeOverlapping l with
  | case1 l _ ih =>
    have hpass := gathers_mergePass h
    exact (ih hpass.held).trans hpass
  | case2 l _ => exact gathers_mergePass h

theorem covers_mergeOverlapping (hl : FitsOne l) : Covers (mergeOverlapping l) l := by
  obtain ⟨frame, hframe⟩ := fitsOne_iff.1 hl
  exact ⟨(mergeOverlapping_settled l).2, fun b hb _ => (gathers_mergeOverlapping hframe).around b hb⟩

/-! ## What a merged box holds -/

theorem length_mergeOverlapping_le (l : List Box) : (mergeOverlapping l).length ≤ l.length := by
  fun_induction mergeOverlapping l with
  | case1 l h ih => exact ih.trans h.le
  | case2 l _ => simpa [mergePass] using length_foldl_absorb l []

/-- There is no merged box without a box in it. -/
theorem exists_inside_merged (hl : FitsOne l) (hg : g ∈ mergeOverlapping l) : ∃ b ∈ l, b.Inside g := by
  obtain ⟨frame, hframe⟩ := fitsOne_iff.1 hl
  obtain ⟨groups, hgroups, -⟩ := (grouped_self l).mergeOverlapping fun i _ => hframe _ (l.get_mem i)
  obtain ⟨n, hn, rfl⟩ := List.getElem_of_mem hg
  obtain ⟨hne, hspans⟩ := (List.forall₂_iff_get.1 hgroups).2 n hn (hgroups.length_eq ▸ hn)
  obtain ⟨i, hi⟩ := List.exists_mem_of_ne_nil _ hne
  exact ⟨l.get i, l.get_mem i, hspans.encloses _ (List.mem_map_of_mem hi)⟩

/-- **A box overlaps a merged box only if it is one of those that were merged into it.** -/
theorem overlaps_merged_iff (hl : FitsOne l) (hg : g ∈ mergeOverlapping l) (hb : b ∈ l) (hne : b.isEmpty = false) :
    g.overlaps b = true ↔ b.Inside g := by
  constructor
  · intro h
    obtain ⟨p, hpg, hpb⟩ := exists_mem_of_overlaps h
    obtain ⟨o, ho, hbo⟩ := (covers_mergeOverlapping hl).around b hb hne
    rwa [(mergeOverlapping_settled l).2.eq_of_mem hg ho hpg (hbo.mem hpb)]
  · intro h
    rw [← Bool.not_eq_false, overlaps_eq_false_iff]
    intro hapart
    exact hapart _ ⟨h.mem (corner_mem hne), corner_mem hne⟩

/-! ## There is one least cover -/

/-- Two covers of each other have the same boxes, apart from those without area. -/
theorem Covers.mem_of_mem (h : Covers k l) (h' : Covers l k) (hb : b ∈ l) (hne : b.isEmpty = false) : b ∈ k := by
  obtain ⟨o, ho, hbo⟩ := h.around b hb hne
  obtain ⟨c, hc, hoc⟩ := h'.around o ho (hbo.isEmpty hne)
  have hpb := corner_mem hne
  obtain rfl := h'.apart.eq_of_mem hb hc hpb (hoc.mem (hbo.mem hpb))
  rwa [hbo.antisymm hoc]

theorem Apart.nodup_filter (h : Apart l) : (l.filter fun b => !b.isEmpty).Nodup := by
  refine (h.filter _).imp_of_mem fun {a b} ha _ hab => ?_
  rintro rfl
  have hne : a.isEmpty = false := by simpa using (List.mem_filter.1 ha).2
  exact hab _ ⟨corner_mem hne, corner_mem hne⟩

theorem Covers.perm (h : Covers k l) (h' : Covers l k) (hblank : (k.filter isEmpty).Perm (l.filter isEmpty)) :
    k.Perm l := by
  have hsolid : (k.filter fun b => !b.isEmpty).Perm (l.filter fun b => !b.isEmpty) := by
    refine (List.perm_ext_iff_of_nodup h.apart.nodup_filter h'.apart.nodup_filter).2 fun b => ?_
    simp only [List.mem_filter, Bool.not_eq_true']
    exact ⟨fun hb => ⟨h'.mem_of_mem h hb.1 hb.2, hb.2⟩, fun hb => ⟨h.mem_of_mem h' hb.1 hb.2, hb.2⟩⟩
  exact (List.filter_append_perm isEmpty k).symm.trans
    ((hblank.append hsolid).trans (List.filter_append_perm isEmpty l))

theorem Covers.congr (h : Covers cover l) (hl : ∀ b, b ∈ k ↔ b ∈ l) : Covers cover k :=
  ⟨h.apart, fun b hb => h.around b ((hl b).1 hb)⟩

/-- **Merging is the least cover and knows no order.**  For boxes whose extent fits a box, what comes out covers them and
lies in every other cover of theirs; so the boxes in any other order come out as the same boxes. -/
theorem mergeOverlapping_least (hl : FitsOne l) :
    Covers (mergeOverlapping l) l ∧
      (∀ cover : List Box, Covers cover l →
        ∀ b ∈ mergeOverlapping l, b.isEmpty = false → ∃ g ∈ cover, b.Inside g) ∧
      ∀ l' : List Box, l.Perm l' → (mergeOverlapping l').Perm (mergeOverlapping l) := by
  refine ⟨covers_mergeOverlapping hl, fun cover h => h.mergeOverlapping.around, fun l' hperm => ?_⟩
  have hl' : FitsOne l' := fun a ha b hb => hl a (hperm.mem_iff.2 ha) b (hperm.mem_iff.2 hb)
  have hcovers := (covers_mergeOverlapping hl).congr fun b => hperm.mem_iff.symm
  have hcovers' := (covers_mergeOverlapping hl').congr fun b => hperm.mem_iff
  obtain ⟨frame, hframe⟩ := fitsOne_iff.1 hl
  obtain ⟨frame', hframe'⟩ := fitsOne_iff.1 hl'
  refine hcovers'.mergeOverlapping.perm hcovers.mergeOverlapping ?_
  rw [(gathers_mergeOverlapping hframe).blank, (gathers_mergeOverlapping hframe').blank]
  exact (hperm.filter isEmpty).symm

/-- Backwards, the bridge comes before the boxes it joins, and the first pass settles all. -/
theorem mergeOverlapping_least_bridged : FitsOne bridged ∧ Covers [⟨-5, -5, 60, 40⟩, ⟨90, 90, 30, 30⟩] bridged ∧
    (∀ b ∈ mergeOverlapping bridged, b.isEmpty = false →
      ∃ g ∈ ([⟨-5, -5, 60, 40⟩, ⟨90, 90, 30, 30⟩] : List Box), b.Inside g) ∧
    mergePass bridged.reverse = [⟨100, 100, 5, 5⟩, ⟨0, 0, 30, 10⟩] ∧
    (mergeOverlapping bridged.reverse).Perm (mergeOverlapping bridged) := by
  have hfits : FitsOne bridged := by decide
  have hcovers : Covers [⟨-5, -5, 60, 40⟩, ⟨90, 90, 30, 30⟩] bridged := by
    refine ⟨?_, by decide⟩
    simp only [Apart, ← overlaps_eq_false_iff]
    decide
  obtain ⟨-, hleast, hperm⟩ := mergeOverlapping_least hfits
  exact ⟨hfits, hcovers, hleast _ hcovers, by decide, hperm _ (List.reverse_perm bridged).symm⟩

end Box
end Pinpoint
