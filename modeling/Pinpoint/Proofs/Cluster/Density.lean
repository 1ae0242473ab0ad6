import Mathlib.Data.List.Nodup
import Mathlib.SetTheory.Cardinal.NatCard
import Pinpoint.Proofs.Cluster.Flood
import Pinpoint.Proofs.Scalar.Exact
/-!
# Density — what a clustering by density is

With a symmetric nearness, the clusters are the connected groups of cores, each with the border around it; a border
index between two groups goes to the one that is listed first, and groups are listed by their smallest core
(`Clustering`, `dbscan_clustering`).  Nothing is asked of an index and itself.

Floods divide what is free one after the other (`Divides`), each taking what is within reach of the smallest free core;
every property of the result is an induction over that division, with `Shored` as the invariant between two floods.
-/
namespace Pinpoint
namespace Cluster

open Relation (ReflTransGen)

variable {n : Nat} {near : Fin n → Fin n → Bool} {core : Fin n → Bool}

/-- A chain of cores, each near the one before it. -/
def Linked (near : Fin n → Fin n → Bool) (core : Fin n → Bool) : Fin n → Fin n → Prop :=
  ReflTransGen fun i j => core i = true ∧ core j = true ∧ near i j = true

theorem Linked.reaches {i j : Fin n} (h : Linked near core i j) : Reaches near core i j :=
  ReflTransGen.mono (fun _ _ h => ⟨h.1, h.2.2⟩) _ _ h

/-- A flood spreads over cores only, so what it reaches between cores is a chain of them. -/
theorem Reaches.linked {i j : Fin n} (h : Reaches near core i j) (hj : core j = true) : Linked near core i j := by
  induction h with
  | refl => exact ReflTransGen.refl
  | tail _ hab ih => exact (ih hab.1).tail ⟨hab.1, hj, hab.2⟩

theorem Linked.symm (hsym : ∀ i j, near i j = true → near j i = true) {i j : Fin n} (h : Linked near core i j) :
    Linked near core j i := by
  induction h with
  | refl => exact ReflTransGen.refl
  | tail _ hab ih => exact ReflTransGen.head ⟨hab.2.1, hab.1, hsym _ _ hab.2.2⟩ ih

theorem Shored.mem_of_linked (hsym : ∀ i j, near i j = true → near j i = true) {free : List (Fin n)}
    (hs : Shored near core free) {i j : Fin n} (h : Linked near core i j) (hi : i ∈ free) : j ∈ free := by
  induction h with
  | refl => exact hi
  | @tail a b _ hab ih =>
    by_contra hb
    have := hs b hab.2.1 hb a ih
    simp [hsym _ _ hab.2.2] at this

/-! ## Dividing what is free -/

/-- **How floods divide what is free**: each takes what is within reach of the smallest free core, until no core is
free. -/
inductive Divides (near : Fin n → Fin n → Bool) (core : Fin n → Bool) : List (Fin n) → List (List (Fin n)) → Prop
  | done {free} (h : ∀ i ∈ free, core i = false) : Divides near core free []
  | take {free rest c out} (i : Fin n) (hi : i ∈ free) (hc : core i = true) (hmin : ∀ j ∈ free, core j = true → i ≤ j)
      (hlt : c.Pairwise (· < ·)) (hmem : ∀ j, j ∈ c ↔ j ∈ free ∧ Reaches near core i j)
      (hrest : ∀ j, j ∈ rest ↔ j ∈ free ∧ j ∉ c) (h : Divides near core rest out) : Divides near core free (c :: out)

theorem Shored.rest {free rest c : List (Fin n)} {i : Fin n} (hs : Shored near core free)
    (hmem : ∀ j, j ∈ c ↔ j ∈ free ∧ Reaches near core i j) (hrest : ∀ j, j ∈ rest ↔ j ∈ free ∧ j ∉ c) :
    Shored near core rest := by
  intro k hk hkr j hj
  obtain ⟨hjf, hjc⟩ := (hrest j).1 hj
  by_cases hkf : k ∈ free
  · have hkc : k ∈ c := by
      by_contra hkc
      exact hkr ((hrest k).2 ⟨hkf, hkc⟩)
    by_contra hkj
    exact hjc ((hmem j).2 ⟨hjf, ((hmem k).1 hkc).2.tail ⟨hk, by simpa using hkj⟩⟩)
  · exact hs k hk hkf j hjf

theorem pairwise_lt_mergeSort {l : List (Fin n)} (h : l.Nodup) :
    (l.mergeSort fun a b => decide (a ≤ b)).Pairwise (· < ·) := by
  have hle : (l.mergeSort fun a b => decide (a ≤ b)).Pairwise fun a b => decide (a ≤ b) = true :=
    List.pairwise_mergeSort (fun a b c hab hbc => by simp only [decide_eq_true_eq] at *; omega)
      (fun a b => by simp only [Bool.or_eq_true, decide_eq_true_eq]; omega) l
  have hnd : (l.mergeSort fun a b => decide (a ≤ b)).Nodup := (List.mergeSort_perm l _).nodup_iff.2 h
  refine (hle.and hnd).imp fun {a b} hab => ?_
  have h1 : a ≤ b := by simpa using hab.1
  exact lt_of_le_of_ne h1 hab.2

theorem clustersFrom_skip {i : Fin n} {free : List (Fin n)} (h : (free.contains i && core i) = false)
    (todo : List (Fin n)) : clustersFrom near core (i :: todo) free = clustersFrom near core todo free := by
  rw [clustersFrom, h]
  rfl

theorem clustersFrom_flood {i : Fin n} {free c r : List (Fin n)} (h : (free.contains i && core i) = true)
    (hflood : flood near core [i] (free.erase i) = (c, r)) (todo : List (Fin n)) :
    clustersFrom near core (i :: todo) free =
      c.mergeSort (fun a b => decide (a ≤ b)) :: clustersFrom near core todo r := by
  rw [clustersFrom, h, hflood]
  rfl

theorem clustersFrom_divides (hsym : ∀ i j, near i j = true → near j i = true) :
    ∀ todo free : List (Fin n), todo.Pairwise (· < ·) → free.Nodup → (∀ i ∈ free, core i = true → i ∈ todo) →
      Shored near core free → Divides near core free (clustersFrom near core todo free)
  | [], free, _, _, hcov, _ => Divides.done fun i hi => by
    by_contra hc
    exact absurd (hcov i hi (by simpa using hc)) List.not_mem_nil
  | i :: todo, free, hlt, hnd, hcov, hs => by
    cases h : free.contains i && core i with
    | true =>
      rw [clustersFrom_flood h rfl]
      simp only [Bool.and_eq_true, List.contains_iff_mem] at h
      obtain ⟨hi, hc⟩ := h
      have hperm := floodFrom_perm near core hi
      have hnd' := hperm.nodup_iff.2 hnd
      have hmem : ∀ j, j ∈ ((floodFrom near core i free).1.mergeSort fun a b => decide (a ≤ b)) ↔
          j ∈ free ∧ Reaches near core i j := fun j => by
        rw [List.mem_mergeSort, mem_floodFrom_iff hsym hi hs]
      have hrest : ∀ j, j ∈ (floodFrom near core i free).2 ↔
          j ∈ free ∧ j ∉ ((floodFrom near core i free).1.mergeSort fun a b => decide (a ≤ b)) := fun j => by
        rw [List.mem_mergeSort, ← hperm.mem_iff, List.mem_append]
        have := List.disjoint_of_nodup_append hnd'
        constructor
        · exact fun hj => ⟨Or.inr hj, fun hj' => this hj' hj⟩
        · exact fun hj => hj.1.resolve_left hj.2
      have hsorted := pairwise_lt_mergeSort (List.nodup_append.1 hnd').1
      refine Divides.take i hi hc (fun j hj hcj => ?_) hsorted hmem hrest ?_
      · rcases List.mem_cons.1 (hcov j hj hcj) with rfl | hj
        · exact le_refl _
        · exact le_of_lt (List.rel_of_pairwise_cons hlt hj)
      · refine clustersFrom_divides hsym todo _ hlt.of_cons (List.nodup_append.1 hnd').2.1 (fun j hj hcj => ?_)
          (hs.rest hmem hrest)
        obtain ⟨hjf, hjc⟩ := (hrest j).1 hj
        refine (List.mem_cons.1 (hcov j hjf hcj)).resolve_left fun hji => hjc ?_
        rw [hji]
        exact (hmem i).2 ⟨hi, ReflTransGen.refl⟩
    | false =>
      rw [clustersFrom_skip h]
      refine clustersFrom_divides hsym todo free hlt.of_cons hnd (fun j hj hcj => ?_) hs
      refine (List.mem_cons.1 (hcov j hj hcj)).resolve_left fun hji => ?_
      subst hji
      simp [hj, hcj] at h

/-! ## What a division has -/

namespace Divides

variable {free : List (Fin n)} {out : List (List (Fin n))}

theorem mem_free (h : Divides near core free out) : ∀ c ∈ out, ∀ i ∈ c, i ∈ free := by
  induction h with
  | done _ => simp
  | take i hi hc hmin hlt hmem hrest _ ih =>
    intro d hd j hj
    rcases List.mem_cons.1 hd with rfl | hd
    · exact ((hmem j).1 hj).1
    · exact ((hrest j).1 (ih d hd j hj)).1

theorem increasing (h : Divides near core free out) : ∀ c ∈ out, c.Pairwise (· < ·) := by
  induction h with
  | done _ => simp
  | take i hi hc hmin hlt hmem hrest _ ih => exact List.forall_mem_cons.2 ⟨hlt, ih⟩

theorem has_core (h : Divides near core free out) : ∀ c ∈ out, ∃ i ∈ c, core i = true := by
  induction h with
  | done _ => simp
  | take i hi hc hmin hlt hmem hrest _ ih =>
    exact List.forall_mem_cons.2 ⟨⟨i, (hmem i).2 ⟨hi, ReflTransGen.refl⟩, hc⟩, ih⟩

theorem disjoint (h : Divides near core free out) : out.Pairwise List.Disjoint := by
  induction h with
  | done _ => exact List.Pairwise.nil
  | take i hi hc hmin hlt hmem hrest h ih =>
    exact List.Pairwise.cons (fun d hd j hj hj' => ((hrest j).1 (h.mem_free d hd j hj')).2 hj) ih

theorem ordered (h : Divides near core free out) :
    out.Pairwise fun c d => ∃ i ∈ c, core i = true ∧ ∀ j ∈ d, core j = true → i < j := by
  induction h with
  | done _ => exact List.Pairwise.nil
  | take i hi hc hmin hlt hmem hrest h ih =>
    have hic := (hmem i).2 ⟨hi, ReflTransGen.refl⟩
    refine List.Pairwise.cons (fun d hd => ⟨i, hic, hc, fun j hj hcj => ?_⟩) ih
    obtain ⟨hjf, hjc⟩ := (hrest j).1 (h.mem_free d hd j hj)
    refine lt_of_le_of_ne (hmin j hjf hcj) fun hij => hjc ?_
    rwa [← hij]

theorem covers (h : Divides near core free out) (hs : Shored near core free) :
    ∀ i ∈ free, ∀ k, core k = true → k = i ∨ near k i = true → ∃ c ∈ out, i ∈ c := by
  induction h with
  | @done free hn =>
    intro i hi k hk hki
    have hkf : k ∉ free := fun hkf => by simp [hn k hkf] at hk
    rcases hki with rfl | hki
    · exact absurd hi hkf
    · simp [hs k hk hkf i hi] at hki
  | @take free rest c out s hs' hc hmin hlt hmem hrest h ih =>
    intro i hi k hk hki
    by_cases hic : i ∈ c
    · exact ⟨c, List.mem_cons_self, hic⟩
    · obtain ⟨d, hd, hid⟩ := ih (hs.rest hmem hrest) i ((hrest i).2 ⟨hi, hic⟩) k hk hki
      exact ⟨d, List.mem_cons_of_mem _ hd, hid⟩

/-- **Nothing in a later cluster is near a core of an earlier one.** -/
theorem first (h : Divides near core free out) (hs : Shored near core free) :
    out.Pairwise fun c d => ∀ k ∈ c, core k = true → ∀ i ∈ d, near k i = false := by
  induction h with
  | done _ => exact List.Pairwise.nil
  | @take free rest c out s hs' hc hmin hlt hmem hrest h ih =>
    refine List.Pairwise.cons (fun d hd k hk hck i hi => ?_) (ih (hs.rest hmem hrest))
    exact hs.rest hmem hrest k hck (fun hkr => ((hrest k).1 hkr).2 hk) i (h.mem_free d hd i hi)

variable (hsym : ∀ i j, near i j = true → near j i = true)
include hsym

/-- **A core shares its cluster with exactly the cores that a chain links it to.** -/
theorem together (h : Divides near core free out) (hs : Shored near core free) :
    ∀ c ∈ out, ∀ i ∈ c, core i = true → ∀ j, core j = true → (j ∈ c ↔ Linked near core i j) := by
  induction h with
  | done _ => simp
  | @take free rest c out s hs' hc hmin hlt hmem hrest h ih =>
    refine List.forall_mem_cons.2 ⟨fun i hi hci j hcj => ?_, ih (hs.rest hmem hrest)⟩
    obtain ⟨hif, hsi⟩ := (hmem i).1 hi
    have hsi := hsi.linked hci
    constructor
    · intro hj
      exact (hsi.symm hsym).trans (((hmem j).1 hj).2.linked hcj)
    · intro hij
      exact (hmem j).2 ⟨hs.mem_of_linked hsym hij hif, Linked.reaches (hsi.trans hij)⟩

theorem border (h : Divides near core free out) (hs : Shored near core free) :
    ∀ c ∈ out, ∀ i ∈ c, core i = false → ∃ k ∈ c, core k = true ∧ near k i = true := by
  induction h with
  | done _ => simp
  | @take free rest c out s hs' hc hmin hlt hmem hrest h ih =>
    refine List.forall_mem_cons.2 ⟨fun i hi hci => ?_, ih (hs.rest hmem hrest)⟩
    cases ((hmem i).1 hi).2 with
    | refl => simp [hc] at hci
    | @tail k _ hsk hki =>
      refine ⟨k, (hmem k).2 ⟨hs.mem_of_linked hsym (Reaches.linked hsk hki.1) hs', hsk⟩, hki⟩

end Divides

/-! ## The clusters of a nearness -/

theorem clusters_divides (hsym : ∀ i j, near i j = true → near j i = true) (m : Nat) :
    Divides near (isCore near (max m 1)) (List.finRange n) (clusters near m) :=
  clustersFrom_divides hsym _ _ (List.pairwise_lt_finRange n) (List.nodup_finRange n) (fun i _ _ => List.mem_finRange i)
    fun i _ hi => absurd (List.mem_finRange i) hi

theorem shored_finRange (near : Fin n → Fin n → Bool) (core : Fin n → Bool) : Shored near core (List.finRange n) :=
  fun i _ hi => absurd (List.mem_finRange i) hi

/-- **A core**: at least `m` indices are near it. -/
def Core (near : Fin n → Fin n → Prop) (m : Nat) (i : Fin n) : Prop := m ≤ Nat.card {j // near i j}

theorem isCore_iff (near : Fin n → Fin n → Prop) [DecidableRel near] (m : Nat) (i : Fin n) :
    isCore (fun i j => decide (near i j)) m i = true ↔ Core near m i := by
  unfold isCore Core
  rw [decide_eq_true_eq, Nat.card_eq_fintype_card, Fintype.card_subtype, List.countP_eq_length_filter]
  rfl

/-- **A clustering by density** of the indices below `n`, for a nearness and the number of neighbours of a core. -/
structure Clustering (near : Fin n → Fin n → Prop) (m : Nat) (out : List (List (Fin n))) : Prop where
  ne_nil     : ∀ c ∈ out, c ≠ []
  increasing : ∀ c ∈ out, c.Pairwise (· < ·)
  disjoint   : out.Pairwise List.Disjoint
  /-- Every core is in exactly one cluster. -/
  core       : ∀ i, Core near m i → ∃! p : Fin out.length, i ∈ out[p]
  /-- Two cores share a cluster exactly when a chain of cores, each near the next, links them. -/
  together   : ∀ i j, Core near m i → Core near m j →
    ((∃ c ∈ out, i ∈ c ∧ j ∈ c) ↔ ReflTransGen (fun i j => Core near m i ∧ Core near m j ∧ near i j) i j)
  /-- Any other index is in a cluster exactly when it is near a core. -/
  border     : ∀ i, ¬ Core near m i → ((∃ c ∈ out, i ∈ c) ↔ ∃ k, Core near m k ∧ near i k)
  /-- And then it is in the first cluster that has such a core. -/
  first      : ∀ i, ¬ Core near m i → ∀ p : Fin out.length, i ∈ out[p] →
    (∃ k ∈ out[p], Core near m k ∧ near i k) ∧ ∀ q < p, ∀ k ∈ out[q], Core near m k → ¬ near i k
  /-- Clusters are listed by their smallest core. -/
  ordered    : out.Pairwise fun c d => ∃ i ∈ c, Core near m i ∧ ∀ j ∈ d, Core near m j → i < j

theorem clusters_clustering (near : Fin n → Fin n → Prop) [DecidableRel near] (hsym : ∀ i j, near i j → near j i)
    (m : Nat) : Clustering near (max m 1) (clusters (fun i j => decide (near i j)) m) := by
  have hsym' : ∀ i j, decide (near i j) = true → decide (near j i) = true := by simpa using hsym
  have hd := clusters_divides hsym' m
  have hs := shored_finRange (fun i j => decide (near i j)) (isCore (fun i j => decide (near i j)) (max m 1))
  have hcore := isCore_iff near (max m 1)
  have hborder : ∀ i, ¬ Core near (max m 1) i → isCore (fun i j => decide (near i j)) (max m 1) i = false :=
    fun i hi => by rwa [← hcore, Bool.not_eq_true] at hi
  generalize clusters (fun i j => decide (near i j)) m = out at hd
  constructor
  · intro c hc hn
    obtain ⟨i, hi, -⟩ := hd.has_core c hc
    rw [hn] at hi
    cases hi
  · exact hd.increasing
  · exact hd.disjoint
  · intro i hi
    obtain ⟨c, hc, hic⟩ := hd.covers hs i (List.mem_finRange i) i ((hcore i).2 hi) (Or.inl rfl)
    obtain ⟨p, hp, rfl⟩ := List.getElem_of_mem hc
    refine ⟨⟨p, hp⟩, hic, fun q hiq => ?_⟩
    -- two places of one index would break disjointness, whichever comes first
    rcases lt_trichotomy q.1 p with hlt | heq | hlt
    · exact absurd hic (List.pairwise_iff_getElem.1 hd.disjoint q.1 p q.2 hp hlt hiq)
    · exact Fin.ext heq
    · exact absurd hiq (List.pairwise_iff_getElem.1 hd.disjoint p q.1 hp q.2 hlt hic)
  · intro i j hi hj
    have hlink : ReflTransGen (fun i j => Core near (max m 1) i ∧ Core near (max m 1) j ∧ near i j) i j ↔
        Linked (fun i j => decide (near i j)) (isCore (fun i j => decide (near i j)) (max m 1)) i j := by
      simp only [Linked, hcore, decide_eq_true_eq]
    rw [hlink]
    constructor
    · rintro ⟨c, hc, hic, hjc⟩
      exact (hd.together hsym' hs c hc i hic ((hcore i).2 hi) j ((hcore j).2 hj)).1 hjc
    · intro h
      obtain ⟨c, hc, hic⟩ := hd.covers hs i (List.mem_finRange i) i ((hcore i).2 hi) (Or.inl rfl)
      exact ⟨c, hc, hic, (hd.together hsym' hs c hc i hic ((hcore i).2 hi) j ((hcore j).2 hj)).2 h⟩
  · intro i hi
    constructor
    · rintro ⟨c, hc, hic⟩
      obtain ⟨k, -, hk, hki⟩ := hd.border hsym' hs c hc i hic (hborder i hi)
      exact ⟨k, (hcore k).1 hk, hsym k i (by simpa using hki)⟩
    · rintro ⟨k, hk, hik⟩
      exact hd.covers hs i (List.mem_finRange i) k ((hcore k).2 hk) (Or.inr (by simpa using hsym i k hik))
  · intro i hi p hip
    obtain ⟨k, hkp, hk, hki⟩ := hd.border hsym' hs _ (List.getElem_mem p.2) i hip (hborder i hi)
    refine ⟨⟨k, hkp, (hcore k).1 hk, hsym k i (by simpa using hki)⟩, fun q hq l hl hcl hil => ?_⟩
    have := List.pairwise_iff_getElem.1 (hd.first hs) q.1 p.1 q.2 p.2 hq l hl ((hcore l).2 hcl) i hip
    simp [hsym i l hil] at this
  · exact hd.ordered.imp fun {c d} ⟨i, hi, hci, hj⟩ =>
      ⟨i, hi, (hcore i).1 hci, fun j hjd hcj => hj j hjd ((hcore j).2 hcj)⟩

/-- **Density clustering of items by a distance** that is symmetric as far as `eps` tells. -/
theorem dbscan_clustering {α β : Type} [Scalar α] (items : Array β) (eps : α) (m : Nat) (dist : β → β → α)
    (hsym : ∀ i j : Fin items.size, dist items[i] items[j] ≤ eps → dist items[j] items[i] ≤ eps) :
    Clustering (fun i j : Fin items.size => dist items[i] items[j] ≤ eps) (max m 1) (dbscan items eps m dist) :=
  clusters_clustering (fun i j : Fin items.size => dist items[i] items[j] ≤ eps) hsym m

/-- Four neighbours on a line, and one far off. -/
def spots : Array ℚ := #[0, 1, 2, 3, 10]

def gap (a b : ℚ) : ℚ := Scalar.abs (a - b)

/-- The neighbours are one cluster, two cores with the border on either side; the one far off is noise. -/
theorem dbscan_clustering_spots :
    (∀ i j : Fin spots.size, gap spots[i] spots[j] ≤ 1 → gap spots[j] spots[i] ≤ 1) ∧
      Clustering (fun i j : Fin spots.size => gap spots[i] spots[j] ≤ 1) 3 (dbscan spots 1 3 gap) ∧
      (dbscan spots 1 3 gap).map (·.map Fin.val) = [[0, 1, 2, 3]] := by
  have hsym : ∀ i j : Fin spots.size, gap spots[i] spots[j] ≤ 1 → gap spots[j] spots[i] ≤ 1 := by decide +kernel
  have hsort : [1, 0, 2, 3].mergeSort (fun a b : Fin 5 => decide (a ≤ b)) = [0, 1, 2, 3] := by
    simp [List.mergeSort, List.MergeSort.Internal.splitInTwo]
  have hrun : clusters (fun i j : Fin 5 => decide (gap spots[i] spots[j] ≤ 1)) 3 = [[0, 1, 2, 3]] := by
    show clustersFrom _ (isCore _ 3) [0, 1, 2, 3, 4] [0, 1, 2, 3, 4] = _
    -- the second is the first core, and its flood leaves the last one over
    rw [clustersFrom_skip (by decide +kernel),
      clustersFrom_flood (c := [1, 0, 2, 3]) (r := [4]) (by decide +kernel) (by decide +kernel), hsort,
      clustersFrom_skip (by decide +kernel), clustersFrom_skip (by decide +kernel), clustersFrom_skip (by decide +kernel),
      clustersFrom]
  exact ⟨hsym, dbscan_clustering spots 1 3 gap hsym, congrArg (List.map (List.map Fin.val)) hrun⟩

end Cluster
end Pinpoint
