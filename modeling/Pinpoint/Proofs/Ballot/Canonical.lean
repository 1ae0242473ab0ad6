import Pinpoint.Ballot
import Pinpoint.Proofs.Text.Blank
/-!
# Canonical — the form in which labels are compared

Blanks around a text do not show in its canonical form (`canonical_pad`).  On ASCII lower case goes letter by letter,
makes no blanks and leaves none at the ends, so that a canonical form is its own (`canonical_canonical`).
-/
namespace Pinpoint
namespace Text

variable {c : Char} {cs pre post : List Char}

/-! ## Lower case of ASCII -/

def IsAscii (s : String) : Prop := ∀ c ∈ s.toList, c.toNat < 128

instance (s : String) : Decidable (IsAscii s) := List.decidableBAll _ s.toList

theorem forall_ascii {P : Char → Prop} (h : ∀ n < 128, P (Char.ofNat n)) (hc : c.toNat < 128) : P c := by
  rw [← c.ofNat_toNat]
  exact h c.toNat hc

theorem toNat_toLower_lt (hc : c.toNat < 128) : c.toLower.toNat < 128 :=
  forall_ascii (P := fun c => c.toLower.toNat < 128) (by decide) hc

theorem toLower_toLower_char (hc : c.toNat < 128) : c.toLower.toLower = c.toLower :=
  forall_ascii (P := fun c => c.toLower.toLower = c.toLower) (by decide) hc

theorem isBlank_toLower (hc : c.toNat < 128) : isBlank c.toLower = isBlank c :=
  forall_ascii (P := fun c => isBlank c.toLower = isBlank c) (by decide) hc

theorem lowerFrom_ascii : ∀ (before cs : List Char), (∀ c ∈ cs, c.toNat < 128) →
    lowerFrom before cs = cs.map Char.toLower
  | _, [], _           => rfl
  | before, c :: cs, h => by
    obtain ⟨hc, hcs⟩ := List.forall_mem_cons.1 h
    have hsigma : ¬ c.toNat = 0x3a3 := by omega
    rw [lowerFrom, if_neg hsigma, lowerChar, if_pos hc, lowerFrom_ascii (c :: before) cs hcs]
    rfl

theorem Tight.map_toLower (h : Tight cs) (hcs : ∀ c ∈ cs, c.toNat < 128) : Tight (cs.map Char.toLower) := by
  constructor
  · intro d hd
    rw [List.head?_map] at hd
    obtain ⟨c, hc, rfl⟩ := Option.map_eq_some_iff.1 hd
    rw [isBlank_toLower (hcs c (List.mem_of_mem_head? hc))]
    exact h.1 c hc
  · intro d hd
    rw [List.getLast?_map] at hd
    obtain ⟨c, hc, rfl⟩ := Option.map_eq_some_iff.1 hd
    rw [isBlank_toLower (hcs c (List.mem_of_getLast? hc))]
    exact h.2 c hc

end Text

namespace Ballot

open Text

variable {s : String}

/-- **A padded text** has blanks around it. -/
def Padded (s t : String) : Prop :=
  ∃ pre post : String, isAllBlank pre = true ∧ isAllBlank post = true ∧ t = pre ++ s ++ post

theorem canonical_pad {s t : String} (h : Padded s t) : canonical t = canonical s := by
  obtain ⟨pre, post, hpre, hpost, rfl⟩ := h
  simp only [isAllBlank, List.all_eq_true] at hpre hpost
  unfold canonical trim
  rw [String.toList_append, String.toList_append, trimChars_pad hpre hpost]

theorem canonical_ascii (h : IsAscii s) : canonical s = String.ofList ((trimChars s.toList).map Char.toLower) := by
  unfold canonical toLower trim
  rw [String.toList_ofList, lowerFrom_ascii [] _ fun c hc => h c (mem_of_mem_trimChars hc)]

/-- A tight ASCII text without capitals is its own canonical form. -/
theorem canonical_eq_self (h : IsAscii s) (htight : Tight s.toList) (hlower : ∀ c ∈ s.toList, c.toLower = c) :
    canonical s = s := by
  have hmap : s.toList.map Char.toLower = s.toList := by
    rw [List.map_congr_left hlower, List.map_id']
  rw [canonical_ascii h, trimChars_of_tight htight, hmap, String.ofList_toList]

/-- **A canonical form is canonical.** -/
theorem canonical_canonical (h : IsAscii s) : canonical (canonical s) = canonical s := by
  have hchars : ∀ c ∈ trimChars s.toList, c.toNat < 128 := fun c hc => h c (mem_of_mem_trimChars hc)
  have hlist : (canonical s).toList = (trimChars s.toList).map Char.toLower := by
    rw [canonical_ascii h, String.toList_ofList]
  refine canonical_eq_self ?_ ?_ ?_
  · intro d hd
    rw [hlist] at hd
    obtain ⟨c, hc, rfl⟩ := List.mem_map.1 hd
    exact toNat_toLower_lt (hchars c hc)
  · rw [hlist]
    exact (tight_trimChars _).map_toLower hchars
  · intro d hd
    rw [hlist] at hd
    obtain ⟨c, hc, rfl⟩ := List.mem_map.1 hd
    exact toLower_toLower_char (hchars c hc)

end Ballot
end Pinpoint
