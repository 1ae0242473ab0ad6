import Mathlib.Data.List.Infix
import Mathlib.Data.List.TakeWhile
import Pinpoint.Reply
/-!
# Object — which part of a reply is its object

An object is found exactly where an opening brace stands before a closing one, and what is found is a piece of the reply
between two such braces.  An object in a fenced block is found as it was written, also with fences inside it and with
prose around the block, and so is one in prose alone that has no braces of its own (`objectIn?_wrapped`).

A block is taken at the leftmost fence that an object follows and reaches to the last closing brace before a fence.  So
prose in front matters only if it has a fence; ticks at its end run into the fence and only shift it (`block?_skip`).
-/
namespace Pinpoint
namespace Reply

open Text (isBlank)

/-- What opens a block and what closes it. -/
def fence : List Char := [tick, tick, tick]

/-- Nowhere three ticks in a row. -/
def Unfenced (cs : List Char) : Prop := ¬ fence <:+: cs

instance (cs : List Char) : Decidable (Unfenced cs) := inferInstanceAs (Decidable (¬ _))

/-- **A text between braces.** -/
def Braced (cs : List Char) : Prop := ∃ m, cs = '\x7b' :: (m ++ ['\x7d'])

/-- **An opening brace stands before a closing one.** -/
def HoldsBraces (cs : List Char) : Prop := ∃ a m b, cs = a ++ '\x7b' :: (m ++ '\x7d' :: b)

variable {ends : List Char → Bool} {cs t m rest : List Char}

theorem Unfenced.of_infix (h : Unfenced cs) (ht : t <:+: cs) : Unfenced t := fun hf => h (hf.trans ht)

theorem holdsBraces_iff : HoldsBraces cs ↔ ∃ t, Braced t ∧ t <:+: cs := by
  constructor
  · rintro ⟨a, m, b, rfl⟩
    exact ⟨_, ⟨m, rfl⟩, a, b, by simp⟩
  · rintro ⟨_, ⟨m, rfl⟩, a, b, rfl⟩
    exact ⟨a, m, b, by simp⟩

/-! ## The last closing brace -/

theorem upToLast_eq_some (h : upToLast ends cs = some t) :
    ∃ m rest, t = m ++ ['\x7d'] ∧ cs = t ++ rest ∧ ends rest = true := by
  induction cs generalizing t with
  | nil => cases h
  | cons c cs ih =>
    rw [upToLast] at h
    split at h
    · rename_i u hu
      obtain rfl := Option.some.inj h
      obtain ⟨m, rest, rfl, hcs, hends⟩ := ih hu
      exact ⟨c :: m, rest, rfl, congrArg (c :: ·) hcs, hends⟩
    · split at h
      · rename_i hc
        obtain rfl := Option.some.inj h
        obtain ⟨hc, hends⟩ := Bool.and_eq_true_iff.1 hc
        exact ⟨[], cs, by rw [eq_of_beq hc]; rfl, rfl, hends⟩
      · cases h

/-- **The last closing brace that may end the text ends it.** -/
theorem upToLast_append (hends : ends rest = true) (hlast : upToLast ends rest = none) :
    upToLast ends (m ++ '\x7d' :: rest) = some (m ++ ['\x7d']) := by
  induction m with
  | nil =>
    rw [List.nil_append, upToLast, hlast]
    simp [hends]
  | cons c m ih => rw [List.cons_append, upToLast, ih, List.cons_append]

theorem upToLast_eq_none_iff : upToLast ends cs = none ↔ ∀ m rest, cs = m ++ '\x7d' :: rest → ends rest = false := by
  constructor
  · rintro h m rest rfl
    induction m with
    | nil =>
      rw [List.nil_append, upToLast] at h
      split at h
      · cases h
      · simpa using h
    | cons c m ih =>
      rw [List.cons_append, upToLast] at h
      split at h
      · cases h
      · rename_i hnone
        exact ih hnone
  · intro h
    induction cs with
    | nil => rfl
    | cons c cs ih =>
      have htail := ih fun m rest hcs => h (c :: m) rest (congrArg (c :: ·) hcs)
      rw [upToLast, htail]
      dsimp only
      split
      · rename_i hc
        obtain ⟨hc, hrest⟩ := Bool.and_eq_true_iff.1 hc
        have hnot := h [] cs (by rw [eq_of_beq hc]; rfl)
        rw [hrest] at hnot
        cases hnot
      · rfl

/-! ## What is found -/

/-- **A piece of a text between braces.** -/
def Holds (cs t : List Char) : Prop := Braced t ∧ t <:+: cs

theorem Holds.mono {cs' : List Char} (h : Holds cs t) (hcs : cs <:+: cs') : Holds cs' t := ⟨h.1, h.2.trans hcs⟩

theorem holds_of_braced? (h : braced? ends cs = some t) : Holds cs t := by
  unfold braced? at h
  split at h
  · obtain ⟨u, hu, rfl⟩ := Option.map_eq_some_iff.1 h
    obtain ⟨m, rest, rfl, rfl, -⟩ := upToLast_eq_some hu
    exact ⟨⟨m, rfl⟩, (List.prefix_append _ rest).isInfix⟩
  · cases h

theorem afterFence?_eq_some : afterFence? cs = some rest ↔ cs = fence ++ rest := by
  constructor
  · intro h
    unfold afterFence? at h
    split at h
    · split at h
      · rename_i hticks
        obtain rfl := Option.some.inj h
        simp only [Bool.and_eq_true, beq_iff_eq] at hticks
        obtain ⟨⟨rfl, rfl⟩, rfl⟩ := hticks
        rfl
      · cases h
    · cases h
  · rintro rfl
    rfl

theorem skipTag_suffix (cs : List Char) : skipTag cs <:+ cs := by
  unfold skipTag
  split
  · exact ⟨['j', 's', 'o', 'n'], rfl⟩
  · exact List.suffix_refl cs

theorem holds_of_blockAt? (h : blockAt? cs = some t) : Holds cs t ∧ fence <+: cs := by
  unfold blockAt? at h
  split at h
  · rename_i rest hrest
    obtain rfl := afterFence?_eq_some.1 hrest
    have hsuffix : (skipTag rest).dropWhile isBlank <:+ fence ++ rest :=
      ((List.dropWhile_suffix isBlank).trans (skipTag_suffix rest)).trans (List.suffix_append fence rest)
    exact ⟨(holds_of_braced? h).mono hsuffix.isInfix, List.prefix_append fence rest⟩
  · cases h

theorem holds_of_block? (h : block? cs = some t) : Holds cs t ∧ fence <:+: cs := by
  induction cs with
  | nil => cases h
  | cons c cs ih =>
    rw [block?] at h
    split at h
    · rename_i hat
      obtain rfl := Option.some.inj h
      exact ⟨(holds_of_blockAt? hat).1, (holds_of_blockAt? hat).2.isInfix⟩
    · have hcs : cs <:+: c :: cs := (List.suffix_cons c cs).isInfix
      exact ⟨(ih h).1.mono hcs, (ih h).2.trans hcs⟩

theorem holds_of_bare? (h : bare? cs = some t) : Holds cs t :=
  (holds_of_braced? h).mono (List.dropWhile_suffix _).isInfix

/-- **What is found is a piece of the text, between braces.** -/
theorem holds_of_objectIn? (h : objectIn? cs = some t) : Holds cs t := by
  unfold objectIn? at h
  split at h
  · rename_i hblock
    obtain rfl := Option.some.inj h
    exact (holds_of_block? hblock).1
  · exact holds_of_bare? h

/-- What follows the first opening brace still has the closing one. -/
theorem dropWhile_of_braces (a m b : List Char) :
    ∃ p q, (a ++ '\x7b' :: (m ++ '\x7d' :: b)).dropWhile (fun c => c != '\x7b') = '\x7b' :: (p ++ '\x7d' :: q) := by
  induction a with
  | nil => exact ⟨m, b, rfl⟩
  | cons c a ih =>
    by_cases hc : c = '\x7b'
    · subst hc
      exact ⟨a ++ '\x7b' :: m, b, by simp⟩
    · rwa [List.cons_append, List.dropWhile_cons, if_pos (bne_iff_ne.2 hc)]

theorem bare?_braced {p s : List Char} (hp : '\x7b' ∉ p) (hs : '\x7d' ∉ s) :
    bare? (p ++ '\x7b' :: (m ++ '\x7d' :: s)) = some ('\x7b' :: (m ++ ['\x7d'])) := by
  have hdrop : (p ++ '\x7b' :: (m ++ '\x7d' :: s)).dropWhile (fun c => c != '\x7b') = '\x7b' :: (m ++ '\x7d' :: s) := by
    have hpass : ∀ c ∈ p, (c != '\x7b') = true := fun c hc => bne_iff_ne.2 fun h : c = _ => hp (h ▸ hc)
    rw [List.dropWhile_append_of_pos hpass]
    rfl
  have hlast : upToLast (fun _ => true) s = none :=
    upToLast_eq_none_iff.2 fun m' rest h => absurd (h ▸ List.mem_append_right m' List.mem_cons_self) hs
  rw [bare?, hdrop]
  exact congrArg (Option.map _) (upToLast_append rfl hlast)

/-- **Something is found exactly if an opening brace stands before a closing one.** -/
theorem objectIn?_eq_none_iff : objectIn? cs = none ↔ ¬ HoldsBraces cs := by
  constructor
  · rintro h ⟨a, m, b, rfl⟩
    obtain ⟨p, q, hdrop⟩ := dropWhile_of_braces a m b
    have hbare : bare? (a ++ '\x7b' :: (m ++ '\x7d' :: b)) = none := by
      unfold objectIn? at h
      split at h
      · cases h
      · exact h
    rw [bare?, hdrop] at hbare
    have hlast := upToLast_eq_none_iff.1 (Option.map_eq_none_iff.1 hbare) p q rfl
    cases hlast
  · intro h
    cases hfound : objectIn? cs with
    | none => rfl
    | some t => exact absurd (holdsBraces_iff.2 ⟨t, holds_of_objectIn? hfound⟩) h

/-! ## Blocks -/

theorem exists_blanks (cs : List Char) : ∃ w, (∀ c ∈ w, isBlank c = true) ∧ cs = w ++ cs.dropWhile isBlank :=
  ⟨cs.takeWhile isBlank, fun _ => List.mem_takeWhile_imp, List.takeWhile_append_dropWhile.symm⟩

theorem closesBlock_iff : closesBlock rest = true ↔
    ∃ w b, (∀ c ∈ w, isBlank c = true) ∧ rest = w ++ (fence ++ b) := by
  constructor
  · intro h
    obtain ⟨b, hb⟩ := Option.isSome_iff_exists.1 h
    obtain ⟨w, hw, hrest⟩ := exists_blanks rest
    rw [afterFence?_eq_some.1 hb] at hrest
    exact ⟨w, b, hw, hrest⟩
  · rintro ⟨w, b, hw, rfl⟩
    rw [closesBlock, List.dropWhile_append_of_pos hw]
    rfl

/-- A fence that runs on into another tick opens nothing. -/
theorem blockAt?_of_tick (h : afterFence? cs = some (tick :: rest)) : blockAt? cs = none := by
  unfold blockAt?
  rw [h]
  rfl

theorem blockAt?_of_unfenced {c : Char} {p : List Char} (hp : Unfenced (c :: p)) :
    blockAt? (c :: (p ++ (fence ++ cs))) = none := by
  cases h : afterFence? (c :: (p ++ (fence ++ cs))) with
  | none => rw [blockAt?, h]
  | some rest =>
    have hcs := afterFence?_eq_some.1 h
    -- a fence that starts in short prose takes its last tick from the fence behind, of which one is left
    match p with
    | [] =>
      obtain ⟨-, rfl⟩ : _ ∧ tick :: cs = rest := by simpa [fence] using hcs
      exact blockAt?_of_tick h
    | [_] =>
      obtain ⟨-, -, rfl⟩ : _ ∧ _ ∧ tick :: (tick :: cs) = rest := by simpa [fence] using hcs
      exact blockAt?_of_tick h
    | a :: b :: p =>
      obtain ⟨rfl, rfl, rfl, -⟩ : c = tick ∧ a = tick ∧ b = tick ∧ _ := by simpa [fence] using hcs
      exact absurd (List.prefix_append fence p).isInfix hp

/-- **Prose without a fence is passed over**, also if it ends in ticks. -/
theorem block?_skip {p : List Char} (hp : Unfenced p) : block? (p ++ (fence ++ cs)) = block? (fence ++ cs) := by
  induction p with
  | nil => rfl
  | cons c p ih =>
    rw [List.cons_append, block?, blockAt?_of_unfenced hp]
    exact ih (hp.of_infix (List.suffix_cons c p).isInfix)

/-- What may stand between a fence and the blanks before an object. -/
def tags : List (List Char) := [[], "json".toList]

theorem skipTag_tag {tag blanks : List Char} (htag : tag ∈ tags) (hblanks : ∀ c ∈ blanks, isBlank c = true) :
    skipTag (tag ++ (blanks ++ '\x7b' :: rest)) = blanks ++ '\x7b' :: rest := by
  rcases List.mem_pair.1 htag with rfl | rfl
  · cases blanks with
    | nil => rfl
    | cons c blanks =>
      have hc : c ≠ 'j' := by
        rintro rfl
        exact absurd (hblanks _ List.mem_cons_self) (by decide)
      rw [List.nil_append, List.cons_append, skipTag]
      rintro cs h
      exact hc (List.cons.inj h).1
  · rfl

/-- A character that is not in the first part of a text stands in the second. -/
theorem suffix_of_not_mem {c : Char} {p s : List Char} (hc : c ∉ p) (h : p ++ s = m ++ c :: rest) : c :: rest <:+ s := by
  rcases List.append_eq_append_iff.1 h with ⟨k, -, rfl⟩ | ⟨k, rfl, hk⟩
  · exact List.suffix_append k _
  · cases k with
    | nil => exact ⟨[], hk⟩
    | cons d k =>
      obtain ⟨rfl, -⟩ := List.cons.inj hk
      exact absurd (List.mem_append_right m List.mem_cons_self) hc

/-- **After the end of a block only prose with a fence could hold another end.** -/
theorem upToLast_afterBlock {blanks s : List Char} (hblanks : ∀ c ∈ blanks, isBlank c = true) (hs : Unfenced s) :
    upToLast closesBlock (blanks ++ (fence ++ s)) = none := by
  refine upToLast_eq_none_iff.2 fun m rest h => ?_
  have hbrace : '\x7d' ∉ blanks ++ fence := by
    intro hmem
    rcases List.mem_append.1 hmem with hmem | hmem
    · exact absurd (hblanks _ hmem) (by decide)
    · exact absurd hmem (by decide)
  rw [← List.append_assoc] at h
  have hrest : rest <:+: s := ((List.suffix_cons _ rest).trans (suffix_of_not_mem hbrace h)).isInfix
  cases hends : closesBlock rest with
  | false => rfl
  | true =>
    obtain ⟨w, b, -, rfl⟩ := closesBlock_iff.1 hends
    exact absurd (List.IsInfix.trans ⟨w, b, by rw [List.append_assoc]⟩ hrest) hs

/-- **An object in a block** is found as it was written. -/
theorem blockAt?_object {tag w₁ w₂ s : List Char} (htag : tag ∈ tags) (h₁ : ∀ c ∈ w₁, isBlank c = true)
    (h₂ : ∀ c ∈ w₂, isBlank c = true) (hs : Unfenced s) :
    blockAt? (fence ++ (tag ++ (w₁ ++ '\x7b' :: (m ++ '\x7d' :: (w₂ ++ (fence ++ s)))))) =
      some ('\x7b' :: (m ++ ['\x7d'])) := by
  have hends : closesBlock (w₂ ++ (fence ++ s)) = true := closesBlock_iff.2 ⟨w₂, s, h₂, rfl⟩
  rw [blockAt?, afterFence?_eq_some.2 rfl]
  dsimp only
  rw [skipTag_tag htag h₁, List.dropWhile_append_of_pos h₁]
  exact congrArg (Option.map _) (upToLast_append hends (upToLast_afterBlock h₂ hs))

/-! ## Wrapped objects -/

theorem block?_of_unfenced (h : Unfenced cs) : block? cs = none := by
  cases hblock : block? cs with
  | none => rfl
  | some t => exact absurd (holds_of_block? hblock).2 h

/-- **What is found in a reply.**  Nothing exactly if no opening brace stands before a closing one, and else a piece
between two such braces.  An object in a block between prose without fences is found as it was written, and so is one in
prose alone that opens nothing before it and closes nothing after it. -/
theorem objectIn?_wrapped :
    (∀ raw, objectIn? raw = none ↔ ¬ HoldsBraces raw) ∧
      (∀ raw t, objectIn? raw = some t → Braced t ∧ t <:+: raw) ∧
      ∀ object, Braced object → ∀ before after : List Char,
        (Unfenced before → Unfenced after → ∀ tag ∈ tags, ∀ w₁ w₂ : List Char, (∀ c ∈ w₁, isBlank c = true) →
          (∀ c ∈ w₂, isBlank c = true) →
          objectIn? (before ++ fence ++ tag ++ w₁ ++ object ++ w₂ ++ fence ++ after) = some object) ∧
        ('\x7b' ∉ before → '\x7d' ∉ after → Unfenced (before ++ object ++ after) →
          objectIn? (before ++ object ++ after) = some object) := by
  refine ⟨fun _ => objectIn?_eq_none_iff, fun _ _ => holds_of_objectIn?, ?_⟩
  rintro _ ⟨m, rfl⟩ before after
  constructor
  · intro hbefore hafter tag htag w₁ w₂ h₁ h₂
    have hblock : block? (fence ++ (tag ++ (w₁ ++ '\x7b' :: (m ++ '\x7d' :: (w₂ ++ (fence ++ after)))))) =
        some ('\x7b' :: (m ++ ['\x7d'])) := by
      have hat := blockAt?_object (m := m) htag h₁ h₂ hafter
      rw [fence, List.cons_append] at hat ⊢
      rw [block?, hat]
    have hskip := (block?_skip hbefore).trans hblock
    have hraw : before ++ fence ++ tag ++ w₁ ++ '\x7b' :: (m ++ ['\x7d']) ++ w₂ ++ fence ++ after =
        before ++ (fence ++ (tag ++ (w₁ ++ '\x7b' :: (m ++ '\x7d' :: (w₂ ++ (fence ++ after)))))) := by simp
    rw [hraw, objectIn?, hskip]
  · intro hbefore hafter hfence
    have hraw : before ++ '\x7b' :: (m ++ ['\x7d']) ++ after = before ++ '\x7b' :: (m ++ '\x7d' :: after) := by simp
    rw [objectIn?, block?_of_unfenced hfence, hraw]
    exact bare?_braced hbefore hafter

/-- An object whose text quotes a block. -/
def quoting : List Char := "\x7b\"label\": \"``` \x7b\x7d ```\"\x7d".toList

/-- In a block, between prose with a brace and ticks at the fences; and in prose with the wrong brace on either side. -/
theorem objectIn?_wrapped_quoting :
    (Braced quoting ∧ Unfenced "\x7b ``".toList ∧ Unfenced "` \x7d".toList ∧ "json".toList ∈ tags ∧
      (∀ c ∈ ['\n'], isBlank c = true) ∧ (∀ c ∈ ([] : List Char), isBlank c = true) ∧
      objectIn? ("\x7b ``".toList ++ fence ++ "json".toList ++ ['\n'] ++ quoting ++ [] ++ fence ++ "` \x7d".toList) =
        some quoting) ∧
    (Braced "\x7b\x7d".toList ∧ '\x7b' ∉ "so \x7d: ".toList ∧ '\x7d' ∉ " `` \x7b".toList ∧
      Unfenced ("so \x7d: ".toList ++ "\x7b\x7d".toList ++ " `` \x7b".toList) ∧
      objectIn? ("so \x7d: ".toList ++ "\x7b\x7d".toList ++ " `` \x7b".toList) = some "\x7b\x7d".toList) := by
  have hquoting : Braced quoting := ⟨"\"label\": \"``` \x7b\x7d ```\"".toList, by decide⟩
  have hempty : Braced "\x7b\x7d".toList := ⟨[], by decide⟩
  have hbefore : Unfenced "\x7b ``".toList := by decide
  have hafter : Unfenced "` \x7d".toList := by decide
  have htag : "json".toList ∈ tags := by decide
  have hopen : '\x7b' ∉ "so \x7d: ".toList := by decide
  have hclose : '\x7d' ∉ " `` \x7b".toList := by decide
  have hprose : Unfenced ("so \x7d: ".toList ++ "\x7b\x7d".toList ++ " `` \x7b".toList) := by decide
  have hbreak : ∀ c ∈ ['\n'], isBlank c = true := List.forall_mem_singleton.2 (by decide)
  have hnone : ∀ c ∈ ([] : List Char), isBlank c = true := List.forall_mem_nil _
  exact ⟨⟨hquoting, hbefore, hafter, htag, hbreak, hnone,
    (objectIn?_wrapped.2.2 _ hquoting _ _).1 hbefore hafter _ htag _ _ hbreak hnone⟩,
    hempty, hopen, hclose, hprose, (objectIn?_wrapped.2.2 _ hempty _ _).2 hopen hclose hprose⟩

end Reply
end Pinpoint
