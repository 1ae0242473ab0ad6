import Pinpoint.Proofs.Reply.Object
import Pinpoint.Proofs.Scalar.Exact
/-!
# Quoting — replies that are an object and quote a block

Blocks are looked for before anything else and everywhere, also in the strings of an object.  A piece between braces is
found in a block exactly where one stands between two fences (`block?_eq_none_iff`).  So a reply that is an object and
nothing else is found as it was written exactly if it quotes no such block (`objectIn?_self`), and is read as whatever it
quotes if it does.
-/
namespace Pinpoint
namespace Reply

open Text (isBlank)

/-- **A piece between braces that stands in a block**: fences on both sides, and only a tag and blanks between. -/
def Fenced (cs t : List Char) : Prop :=
  Braced t ∧ ∃ a tag w₁ w₂ b, tag ∈ tags ∧ (∀ c ∈ w₁, isBlank c = true) ∧ (∀ c ∈ w₂, isBlank c = true) ∧
    cs = a ++ (fence ++ (tag ++ (w₁ ++ (t ++ (w₂ ++ (fence ++ b))))))

variable {cs rest t object : List Char}

theorem Fenced.append (h : Fenced cs t) (p : List Char) : Fenced (p ++ cs) t := by
  obtain ⟨ht, a, tag, w₁, w₂, b, htag, h₁, h₂, rfl⟩ := h
  exact ⟨ht, p ++ a, tag, w₁, w₂, b, htag, h₁, h₂, (List.append_assoc ..).symm⟩

theorem Fenced.length_lt (h : Fenced cs t) : t.length < cs.length := by
  obtain ⟨-, a, tag, w₁, w₂, b, -, -, -, rfl⟩ := h
  simp only [List.length_append, fence, List.length_cons]
  omega

/-! ## What a block holds -/

theorem exists_tag (cs : List Char) : ∃ tag ∈ tags, cs = tag ++ skipTag cs := by
  unfold skipTag
  split
  · exact ⟨"json".toList, by decide, rfl⟩
  · exact ⟨[], by decide, rfl⟩

theorem fenced_of_blockAt? (h : blockAt? cs = some t) : Fenced cs t := by
  unfold blockAt? at h
  split at h
  · rename_i rest hrest
    obtain rfl := afterFence?_eq_some.1 hrest
    obtain ⟨tag, htag, hskip⟩ := exists_tag rest
    obtain ⟨w₁, h₁, hblanks⟩ := exists_blanks (skipTag rest)
    unfold braced? at h
    split at h
    · rename_i inner hinner
      obtain ⟨u, hu, rfl⟩ := Option.map_eq_some_iff.1 h
      obtain ⟨m, after, rfl, rfl, hends⟩ := upToLast_eq_some hu
      obtain ⟨w₂, b, h₂, rfl⟩ := closesBlock_iff.1 hends
      rw [hinner] at hblanks
      rw [hblanks] at hskip
      exact ⟨⟨m, rfl⟩, [], tag, w₁, w₂, b, htag, h₁, h₂, congrArg (fence ++ ·) hskip⟩
    · cases h
  · cases h

theorem fenced_of_block? (h : block? cs = some t) : Fenced cs t := by
  induction cs with
  | nil => cases h
  | cons c cs ih =>
    rw [block?] at h
    split at h
    · rename_i hat
      obtain rfl := Option.some.inj h
      exact fenced_of_blockAt? hat
    · exact (ih h).append [c]

theorem blockAt?_ne_none {tag w₁ w₂ b : List Char} (ht : Braced t) (htag : tag ∈ tags)
    (h₁ : ∀ c ∈ w₁, isBlank c = true) (h₂ : ∀ c ∈ w₂, isBlank c = true) :
    blockAt? (fence ++ (tag ++ (w₁ ++ (t ++ (w₂ ++ (fence ++ b)))))) ≠ none := by
  obtain ⟨m, rfl⟩ := ht
  rw [List.cons_append, List.append_assoc, List.singleton_append, blockAt?, afterFence?_eq_some.2 rfl]
  dsimp only
  rw [skipTag_tag htag h₁, List.dropWhile_append_of_pos h₁]
  intro h
  have hnot := upToLast_eq_none_iff.1 (Option.map_eq_none_iff.1 h) m _ rfl
  rw [closesBlock_iff.2 ⟨w₂, b, h₂, rfl⟩] at hnot
  cases hnot

theorem blockAt?_of_block? {p : List Char} (h : block? (p ++ cs) = none) (hcs : cs ≠ []) : blockAt? cs = none := by
  induction p with
  | nil =>
    cases cs with
    | nil => exact absurd rfl hcs
    | cons c cs =>
      rw [List.nil_append, block?] at h
      split at h
      · cases h
      · assumption
  | cons c p ih =>
    rw [List.cons_append, block?] at h
    split at h
    · cases h
    · exact ih h

/-- **A block is found exactly where one stands.** -/
theorem block?_eq_none_iff : block? cs = none ↔ ∀ t, ¬ Fenced cs t := by
  constructor
  · rintro h t ⟨ht, a, tag, w₁, w₂, b, htag, h₁, h₂, rfl⟩
    exact blockAt?_ne_none ht htag h₁ h₂ (blockAt?_of_block? h (by simp [fence]))
  · intro h
    cases hblock : block? cs with
    | none => rfl
    | some t => exact absurd (fenced_of_block? hblock) (h t)

/-! ## Objects without a wrapping -/

theorem objectIn?_of_fenced (h : Fenced cs t) : ∃ u, Fenced cs u ∧ objectIn? cs = some u := by
  obtain ⟨u, hu⟩ := Option.ne_none_iff_exists'.1 fun hnone => block?_eq_none_iff.1 hnone t h
  exact ⟨u, fenced_of_block? hu, by rw [objectIn?, hu]⟩

theorem objectIn?_of_unquoted (ho : Braced object) (h : ∀ t, ¬ Fenced object t) : objectIn? object = some object := by
  obtain ⟨m, rfl⟩ := ho
  rw [objectIn?, block?_eq_none_iff.2 h]
  exact bare?_braced (List.not_mem_nil (a := '\x7b')) (List.not_mem_nil (a := '\x7d'))

/-- The value of an object taken as it is written, unless `flaw` finds fault with it. -/
def valueOf {β : Type} (s : Schema) (read : Json → Option β) (flaw : β → Option String) (object : List Char) :
    Except Fault β :=
  match (Json.parse? (String.ofList object)).bind read with
  | none   => .error (.invalidResponse (s.name ++ ": not an answer of this shape"))
  | some v =>
    match flaw v with
    | some t => .error (.invalidResponse (s.name ++ ": " ++ t))
    | none   => .ok v

theorem decode_eq {β : Type} (s : Schema) (read : Json → Option β) (flaw : β → Option String)
    (h : objectIn? cs = some object) : decode s read flaw (String.ofList cs) = valueOf s read flaw object := by
  rw [decode, String.toList_ofList, h]
  rfl

/-- **An object without a wrapping is found as it was written exactly if it quotes no block**, and then it is what is
read.  If it quotes one, only a piece of it is found and read: one that stands in a block. -/
theorem objectIn?_self (ho : Braced object) :
    (objectIn? object = some object ↔ ∀ t, ¬ Fenced object t) ∧
      ((∀ t, ¬ Fenced object t) → ∀ (β : Type) (s : Schema) (read : Json → Option β) (flaw : β → Option String),
        decode s read flaw (String.ofList object) = valueOf s read flaw object) ∧
      ∀ t, Fenced object t → ∃ u, Fenced object u ∧ u.length < object.length ∧ objectIn? object = some u ∧
        ∀ (β : Type) (s : Schema) (read : Json → Option β) (flaw : β → Option String),
          decode s read flaw (String.ofList object) = valueOf s read flaw u := by
  refine ⟨⟨fun hself t ht => ?_, objectIn?_of_unquoted ho⟩,
    fun h _ s read flaw => decode_eq s read flaw (objectIn?_of_unquoted ho h), fun t ht => ?_⟩
  · obtain ⟨u, hu, hfound⟩ := objectIn?_of_fenced ht
    obtain rfl := Option.some.inj (hself.symm.trans hfound)
    exact absurd hu.length_lt (lt_irrefl _)
  · obtain ⟨u, hu, hfound⟩ := objectIn?_of_fenced ht
    exact ⟨u, hu, hu.length_lt, hfound, fun _ s read flaw => decode_eq s read flaw hfound⟩

/-! One box beside a note. -/

def withNote (note : List Char) : List Char :=
  '\x7b' :: ("\"boxes\":[\x7b\"x_min\":1,\"y_min\":2,\"x_max\":3,\"y_max\":4\x7d],\"note\":\"".toList ++ note ++ ['"'] ++
    ['\x7d'])

theorem braced_withNote (note : List Char) : Braced (withNote note) := ⟨_, rfl⟩

/-- The note opens a block without an object, and leaves it open. -/
theorem objectIn?_self_noted : Braced (withNote "```json \x7b".toList) ∧
    (∀ t, ¬ Fenced (withNote "```json \x7b".toList) t) ∧
    objectIn? (withNote "```json \x7b".toList) = some (withNote "```json \x7b".toList) ∧
    boxes (String.ofList (withNote "```json \x7b".toList)) = .ok [(⟨1, 2, 3, 4⟩ : Normalized ℚ)] := by
  have hfree : ∀ t, ¬ Fenced (withNote "```json \x7b".toList) t := block?_eq_none_iff.1 (by decide)
  obtain ⟨hself, hread, -⟩ := objectIn?_self (braced_withNote "```json \x7b".toList)
  refine ⟨braced_withNote _, hfree, hself.2 hfree, (hread hfree _ _ _ _).trans ?_⟩
  decide +kernel

/-- **A quoted block is read in the place of the object that quotes it**, and the box is lost. -/
theorem objectIn?_quoted : Braced (withNote "```\x7b\x7d```".toList) ∧
    valueOf .grounding readBoxes? flawOfBoxes (withNote "```\x7b\x7d```".toList) =
      .ok [(⟨1, 2, 3, 4⟩ : Normalized ℚ)] ∧
    objectIn? (withNote "```\x7b\x7d```".toList) = some "\x7b\x7d".toList ∧
    objectIn? (withNote "```\x7b\x7d```".toList) ≠ some (withNote "```\x7b\x7d```".toList) ∧
    boxes (α := ℚ) (String.ofList (withNote "```\x7b\x7d```".toList)) = .ok [] := by
  refine ⟨braced_withNote _, ?_, by decide, by decide, ?_⟩ <;> decide +kernel

end Reply
end Pinpoint
