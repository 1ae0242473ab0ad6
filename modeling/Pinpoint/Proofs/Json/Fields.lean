import Mathlib.Data.List.Nodup
import Pinpoint.Json
/-!
# Fields — records some of whose fields are left out

An object whose names are all different gives each name the one value that stands behind it (`single?_eq_lookup`), and
leaving out fields takes away these and no others (`record?_without`).
-/
namespace Pinpoint
namespace Json

variable {fields : List (String × Json)} {names omitted : List String} {name : String}

/-- **An object without the fields of some names.** -/
def without (names : List String) : Json → Json
  | obj fields => obj (fields.filter fun f => f.1 ∉ names)
  | j          => j

theorem single?_eq_lookup (h : (fields.map (·.1)).Nodup) (name : String) :
    single? fields name = some (fields.lookup name) := by
  induction fields with
  | nil => rfl
  | cons f fields ih =>
    obtain ⟨k, j⟩ := f
    obtain ⟨hk, hrest⟩ := List.nodup_cons.1 h
    by_cases hname : k = name
    · have hnone : fields.filter (fun f => f.1 == name) = [] := by
        rw [List.filter_eq_nil_iff]
        exact fun f hf hbeq => hk (List.mem_map.2 ⟨f, hf, (beq_iff_eq.1 hbeq).trans hname.symm⟩)
      have hone : ((k, j) :: fields).filter (fun f => f.1 == name) = [(k, j)] := by
        rw [List.filter_cons_of_pos (p := fun f : String × Json => f.1 == name) (beq_iff_eq.2 hname), hnone]
      rw [single?, hone, hname, List.lookup_cons_self]
    · have hskip : ((k, j) :: fields).filter (fun f => f.1 == name) = fields.filter fun f => f.1 == name :=
        List.filter_cons_of_neg (p := fun f : String × Json => f.1 == name) (fun hbeq => hname (beq_iff_eq.1 hbeq))
      rw [single?, hskip, ← single?, ih hrest, List.lookup_cons, beq_eq_false_iff_ne.2 (Ne.symm hname)]

theorem single?_filter (fields : List (String × Json)) (omitted : List String) (name : String) :
    single? (fields.filter fun f => f.1 ∉ omitted) name = if name ∈ omitted then some none else single? fields name := by
  rw [single?, List.filter_filter]
  split_ifs with hname
  · have hnone : fields.filter (fun f => f.1 == name && decide (f.1 ∉ omitted)) = [] := by
      rw [List.filter_eq_nil_iff]
      intro f _ hboth
      obtain ⟨hbeq, hout⟩ := Bool.and_eq_true_iff.1 hboth
      exact of_decide_eq_true hout (beq_iff_eq.1 hbeq ▸ hname)
    rw [hnone]
  · have hsame : fields.filter (fun f => f.1 == name && decide (f.1 ∉ omitted)) = fields.filter fun f => f.1 == name := by
      refine List.filter_congr fun f _ => ?_
      by_cases hbeq : f.1 = name
      · rw [hbeq, decide_eq_true hname, Bool.and_true]
      · rw [beq_eq_false_iff_ne.2 hbeq, Bool.false_and]
    rw [hsame, single?]

/-- **The values of a record with fields left out**: none for these, and what was there for the others. -/
theorem record?_without (h : (fields.map (·.1)).Nodup) (names omitted : List String) :
    ((obj fields).without omitted).record? names =
      some (names.map fun name => if name ∈ omitted then none else fields.lookup name) := by
  rw [without, record?]
  induction names with
  | nil => rfl
  | cons name names ih =>
    rw [List.mapM_cons, ih, single?_filter, single?_eq_lookup h, List.map_cons]
    split_ifs <;> rfl

theorem without_nil (j : Json) : j.without [] = j := by
  cases j with
  | obj fields => rw [without, List.filter_eq_self.2 fun f _ => decide_eq_true List.not_mem_nil]
  | _ => rfl

end Json
end Pinpoint
