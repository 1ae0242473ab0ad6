import Pinpoint.Proofs.Text.Blank
import Pinpoint.Text.Base64
/-!
# Base64 — what is written reads back

A sextet has a character of its own (`sextet?_digit`), which is neither the padding nor a blank.  So the reader, which goes
through a text four characters at a time, finds the groups that the writer made of three bytes each, and a text of bytes
has nothing that trimming could take off.
-/
namespace Pinpoint
namespace Text
namespace Base64

variable {n : Nat}

theorem sextet?_digit (h : n < 64) : sextet? (digit n) = some n := by
  revert n
  decide

/-- A digit is not the padding, by which the reader knows the last group. -/
theorem digit_ne_pad (h : n < 64) : digit n ≠ '=' := by
  revert n
  decide

theorem isBlank_digit (h : n < 64) : isBlank (digit n) = false := by
  revert n
  decide

/-! ## Groups -/

theorem decode?_one (a : UInt8) : decode? (encode [a]) = some [a] := by
  have ha : a.toNat / 4 * 4 + a.toNat % 4 * 16 / 16 = a.toNat := by omega
  simp only [encode, decode?, sextet?_digit (show a.toNat / 4 < 64 by have := a.toNat_lt; omega),
    sextet?_digit (show a.toNat % 4 * 16 < 64 by omega), Option.bind_eq_bind, Option.bind_some]
  rw [if_pos (by omega), ha, UInt8.ofNat_toNat]

theorem decode?_two (a b : UInt8) : decode? (encode [a, b]) = some [a, b] := by
  have hb := b.toNat_lt
  have h₁ : a.toNat / 4 * 4 + (a.toNat % 4 * 16 + b.toNat / 16) / 16 = a.toNat := by omega
  have h₂ : (a.toNat % 4 * 16 + b.toNat / 16) % 16 * 16 + b.toNat % 16 * 4 / 4 = b.toNat := by omega
  have hpad := digit_ne_pad (show b.toNat % 16 * 4 < 64 by omega)
  simp only [encode]
  rw [decode?.eq_3 _ _ _ (fun h => hpad h)]
  simp only [sextet?_digit (show a.toNat / 4 < 64 by have := a.toNat_lt; omega),
    sextet?_digit (show a.toNat % 4 * 16 + b.toNat / 16 < 64 by omega),
    sextet?_digit (show b.toNat % 16 * 4 < 64 by omega), Option.bind_eq_bind, Option.bind_some]
  rw [if_pos (by omega), h₁, h₂, UInt8.ofNat_toNat, UInt8.ofNat_toNat]

/-- **A full group is read before what follows it.** -/
theorem decode?_three (a b c : UInt8) (l : List UInt8) :
    decode? (encode (a :: b :: c :: l)) = (decode? (encode l)).map fun l => a :: b :: c :: l := by
  have hb := b.toNat_lt
  have hc := c.toNat_lt
  have h₁ : a.toNat / 4 * 4 + (a.toNat % 4 * 16 + b.toNat / 16) / 16 = a.toNat := by omega
  have h₂ : (a.toNat % 4 * 16 + b.toNat / 16) % 16 * 16 + (b.toNat % 16 * 4 + c.toNat / 64) / 4 = b.toNat := by omega
  have h₃ : (b.toNat % 16 * 4 + c.toNat / 64) % 4 * 64 + c.toNat % 64 = c.toNat := by omega
  have hpad := digit_ne_pad (show c.toNat % 64 < 64 by omega)
  rw [encode, decode?.eq_4 _ _ _ _ _ (fun _ h => absurd h hpad) (fun h => absurd h hpad)]
  simp only [sextet?_digit (show a.toNat / 4 < 64 by have := a.toNat_lt; omega),
    sextet?_digit (show a.toNat % 4 * 16 + b.toNat / 16 < 64 by omega),
    sextet?_digit (show b.toNat % 16 * 4 + c.toNat / 64 < 64 by omega),
    sextet?_digit (show c.toNat % 64 < 64 by omega), Option.bind_eq_bind, Option.bind_some]
  rw [h₁, h₂, h₃, UInt8.ofNat_toNat, UInt8.ofNat_toNat, UInt8.ofNat_toNat]
  cases decode? (encode l) <;> rfl

/-- **Bytes are read from their text.** -/
theorem decode?_encode (l : List UInt8) : decode? (encode l) = some l := by
  fun_induction encode l with
  | case1 => rfl
  | case2 a => exact decode?_one a
  | case3 a b => exact decode?_two a b
  | case4 a b c l ih => rw [← encode, decode?_three, ih, Option.map_some]

/-! ## Trimming -/

theorem isBlank_of_mem_encode (l : List UInt8) : ∀ c ∈ encode l, isBlank c = false := by
  have hpad : isBlank '=' = false := by decide
  fun_induction encode l with
  | case1 => exact fun _ h => nomatch h
  | case2 a =>
    have ha := a.toNat_lt
    simp only [List.forall_mem_cons]
    exact ⟨isBlank_digit (by omega), isBlank_digit (by omega), hpad, hpad, fun _ h => nomatch h⟩
  | case3 a b =>
    have ha := a.toNat_lt
    have hb := b.toNat_lt
    simp only [List.forall_mem_cons]
    exact ⟨isBlank_digit (by omega), isBlank_digit (by omega), isBlank_digit (by omega), hpad, fun _ h => nomatch h⟩
  | case4 a b c l ih =>
    have ha := a.toNat_lt
    have hb := b.toNat_lt
    have hc := c.toNat_lt
    simp only [List.forall_mem_cons]
    exact ⟨isBlank_digit (by omega), isBlank_digit (by omega), isBlank_digit (by omega), isBlank_digit (by omega), ih⟩

end Base64

/-- **The text of some bytes is read as it is**, trimmed or not. -/
theorem trim_encode (l : List UInt8) : trim (String.ofList (Base64.encode l)) = String.ofList (Base64.encode l) := by
  have htight : Tight (Base64.encode l) :=
    ⟨fun c hc => Base64.isBlank_of_mem_encode l c (List.mem_of_mem_head? hc),
      fun c hc => Base64.isBlank_of_mem_encode l c (List.mem_of_mem_getLast? hc)⟩
  rw [trim, String.toList_ofList, trimChars_of_tight htight]

end Text
end Pinpoint
