import Mathlib.Data.List.Basic
import Pinpoint.Json.Text
/-!
# Written — a value is read as it was written

Every character of a string reads back, escaped or not (`stringBody_escapeChar`), and so does the whole string with its
quotes.  A text reads as a value when the reader, wherever it meets the text, goes on behind it with the value in hand
(`ReadsAs`).  Arrays and objects of texts that read as values read as the arrays and objects of these, which makes every
value without numbers read back from its text (`parse?_toText`).
-/
namespace Pinpoint
namespace Json

variable {c : Char} {cs rest acc : List Char} {s k : String} {j : Json} {stack : List Open} {fuel : Nat}

theorem skipSpace_cons (h : isSpace c = false) (cs : List Char) : skipSpace (c :: cs) = c :: cs :=
  List.dropWhile_cons_of_neg (by rw [h]; exact Bool.false_ne_true)

/-! ## Strings -/

theorem hexDigit?_hexChar {n : Nat} (h : n < 16) : hexDigit? (hexChar n) = some n := by
  revert n
  decide

theorem hex4?_control (h : c.toNat < 0x20) (cs : List Char) :
    hex4? ('0' :: '0' :: hexChar (c.toNat / 16) :: hexChar (c.toNat % 16) :: cs) = some (c.toNat, cs) := by
  have hzero : hexDigit? '0' = some 0 := by decide
  simp only [hex4?, hzero, hexDigit?_hexChar (show c.toNat / 16 < 16 by omega),
    hexDigit?_hexChar (show c.toNat % 16 < 16 by omega), Option.bind_eq_bind, Option.bind_some]
  rw [show ((0 * 16 + 0) * 16 + c.toNat / 16) * 16 + c.toNat % 16 = c.toNat by omega]

/-- **The three ways to write a character**: by a letter that stands for it, by its number, or as it is. -/
theorem escapeChar_cases (c : Char) :
    (∃ e, simpleEscape? e = some c ∧ escapeChar c = ['\\', e]) ∨
    (c.toNat < 0x20 ∧ escapeChar c = ['\\', 'u', '0', '0', hexChar (c.toNat / 16), hexChar (c.toNat % 16)]) ∨
    ((c == '"') = false ∧ (c == '\\') = false ∧ ¬c.toNat < 0x20 ∧ escapeChar c = [c]) := by
  have hcode : ∀ n, c.toNat = n → c = Char.ofNat n := fun n hn => by rw [← hn, Char.ofNat_toNat]
  unfold escapeChar
  split_ifs with hquote hslash hn hr ht hb hf hcontrol
  · exact .inl ⟨'"', congrArg some (beq_iff_eq.1 hquote).symm, rfl⟩
  · exact .inl ⟨'\\', congrArg some (beq_iff_eq.1 hslash).symm, rfl⟩
  · exact .inl ⟨'n', congrArg some (beq_iff_eq.1 hn).symm, rfl⟩
  · exact .inl ⟨'r', congrArg some (beq_iff_eq.1 hr).symm, rfl⟩
  · exact .inl ⟨'t', congrArg some (beq_iff_eq.1 ht).symm, rfl⟩
  · exact .inl ⟨'b', congrArg some (hcode 8 hb).symm, rfl⟩
  · exact .inl ⟨'f', congrArg some (hcode 12 hf).symm, rfl⟩
  · exact .inr (.inl ⟨hcontrol, rfl⟩)
  · exact .inr (.inr ⟨Bool.eq_false_iff.2 hquote, Bool.eq_false_iff.2 hslash, hcontrol, rfl⟩)

theorem stringBody_simple {e : Char} (he : simpleEscape? e = some c) (fuel : Nat) (cs acc : List Char) :
    stringBody (fuel + 1) ('\\' :: e :: cs) acc true none = stringBody fuel cs (c :: acc) true none := by
  have hu : e ≠ 'u' := by
    rintro rfl
    cases he
  rw [stringBody, if_neg (by decide), if_pos (by decide), he]
  · rfl
  · exact hu

theorem stringBody_control (h : c.toNat < 0x20) (fuel : Nat) (cs acc : List Char) :
    stringBody (fuel + 1) ('\\' :: 'u' :: '0' :: '0' :: hexChar (c.toNat / 16) :: hexChar (c.toNat % 16) :: cs) acc true none =
      stringBody fuel cs (c :: acc) true none := by
  rw [stringBody, if_neg (by decide), if_pos (by decide)]
  simp only [hex4?_control h, pairWith?]
  rw [if_neg (by omega), if_neg (by omega), Char.ofNat_toNat]
  rfl

/-- **A character reads back**, whether it had to be escaped or not. -/
theorem stringBody_escapeChar (c : Char) (fuel : Nat) (cs acc : List Char) :
    stringBody (fuel + 1) (escapeChar c ++ cs) acc true none = stringBody fuel cs (c :: acc) true none := by
  obtain ⟨e, he, htext⟩ | ⟨hcontrol, htext⟩ | ⟨hquote, hslash, hcontrol, htext⟩ := escapeChar_cases c
  · rw [htext]
    exact stringBody_simple he fuel cs acc
  · rw [htext]
    exact stringBody_control hcontrol fuel cs acc
  · rw [htext, List.singleton_append, stringBody.eq_def]
    simp only [hquote, hslash, Bool.false_eq_true, if_false]
    rw [if_neg hcontrol]
    rfl

theorem stringBody_escaped : ∀ (l : List Char) (fuel : Nat) (acc : List Char), l.length < fuel →
    stringBody fuel (l.flatMap escapeChar ++ '"' :: cs) acc true none = some (some (String.ofList (acc.reverse ++ l)), cs)
  | [], fuel + 1, acc, _ => by
    rw [List.flatMap_nil, List.nil_append, List.append_nil]
    rfl
  | c :: l, fuel + 1, acc, h => by
    rw [List.flatMap_cons, List.append_assoc, stringBody_escapeChar, stringBody_escaped l fuel _ (by simpa using h),
      List.reverse_cons, List.append_assoc]
    rfl

theorem length_le_escaped (l : List Char) : l.length ≤ (l.flatMap escapeChar).length := by
  induction l with
  | nil => exact Nat.le_refl 0
  | cons c l ih =>
    have hc : 0 < (escapeChar c).length := by
      obtain ⟨e, -, htext⟩ | ⟨-, htext⟩ | ⟨-, -, -, htext⟩ := escapeChar_cases c <;> rw [htext] <;> exact Nat.succ_pos _
    rw [List.flatMap_cons, List.length_cons, List.length_append]
    omega

/-- **A string reads back** behind its opening quote. -/
theorem string?_quoted (s : String) (cs : List Char) :
    string? (s.toList.flatMap escapeChar ++ '"' :: cs) = some (some s, cs) := by
  have hlength := length_le_escaped s.toList
  rw [string?, stringBody_escaped s.toList _ [] (by rw [List.length_append]; omega)]
  rw [List.reverse_nil, List.nil_append, String.ofList_toList]

theorem toList_quote (s : String) : (quote s).toList = '"' :: (s.toList.flatMap escapeChar ++ ['"']) := by
  rw [quote, String.toList_ofList, List.cons_append]

/-- **A key reads back** with its colon. -/
theorem key?_quote (k : String) (cs : List Char) : key? ((quote k).toList ++ ':' :: cs) = some (some k, cs) := by
  have hquoted := string?_quoted k (':' :: cs)
  rw [toList_quote, List.cons_append, List.append_assoc, key?, skipSpace_cons (by decide)]
  simp only [List.singleton_append, hquoted, Option.bind_eq_bind, Option.bind_some,
    skipSpace_cons (show isSpace ':' = false by decide)]

/-! ## Values -/

/-- The head of a value: neither a blank nor the end of an array or object. -/
def Begins (cs : List Char) : Prop := ∃ c l, cs = c :: l ∧ isSpace c = false ∧ c ≠ ']' ∧ c ≠ '\x7d'

theorem Begins.append (h : Begins cs) (rest : List Char) : Begins (cs ++ rest) := by
  obtain ⟨c, l, rfl, hc⟩ := h
  exact ⟨c, l ++ rest, rfl, hc⟩

/-- **A text that reads as a value** wherever it stands: the reader goes on behind it with the value in hand, after at most
as many steps as the text has characters. -/
def ReadsAs (cs : List Char) (j : Json) : Prop :=
  Begins cs ∧ ∃ n ≤ cs.length, ∀ fuel rest stack, value? (fuel + n) (cs ++ rest) stack = resume? fuel j rest stack

theorem readsAs_quote (s : String) : ReadsAs (quote s).toList (str s) := by
  refine ⟨⟨'"', _, toList_quote s, by decide⟩, 1, ?_, fun fuel rest stack => ?_⟩
  · rw [toList_quote, List.length_cons]
    omega
  · rw [toList_quote, List.cons_append, List.append_assoc, value?, skipSpace_cons (by decide)]
    simp only [List.singleton_append, string?_quoted]

/-! ### Arrays -/

/-- **Items read back** after the bracket that opens their array, up to the one that closes it. -/
theorem value?_items {items : List Json} (hne : items ≠ []) (h : ∀ j ∈ items, ReadsAs (toText j).toList j) :
    Begins (itemsText items).toList ∧ ∃ n ≤ (itemsText items).toList.length + 1, ∀ fuel acc rest stack,
      value? (fuel + n) ((itemsText items).toList ++ ']' :: rest) (.arr acc :: stack) =
        resume? fuel (arr (acc.reverse ++ items)) rest stack := by
  induction items with
  | nil => exact absurd rfl hne
  | cons j items ih =>
    obtain ⟨⟨hbegins, n, hn, hj⟩, hrest⟩ := List.forall_mem_cons.1 h
    cases items with
    | nil =>
      rw [itemsText]
      refine ⟨hbegins, n + 1, by omega, fun fuel acc rest stack => ?_⟩
      rw [← Nat.add_assoc, Nat.add_right_comm, hj, ← List.reverse_cons]
      rfl
    | cons k items =>
      obtain ⟨-, m, hm, hk⟩ := ih (List.cons_ne_nil k items) hrest
      have htext : (itemsText (j :: k :: items)).toList = (toText j).toList ++ ',' :: (itemsText (k :: items)).toList := by
        rw [itemsText, String.toList_append, String.toList_append, List.append_assoc]
        · rfl
        · exact List.cons_ne_nil k items
      rw [htext]
      -- the steps of the first item, one for the comma, and those of the others
      refine ⟨hbegins.append _, m + 1 + n, ?_, fun fuel acc rest stack => ?_⟩
      · rw [List.length_append, List.length_cons]
        omega
      · rw [List.append_assoc, List.cons_append, ← Nat.add_assoc, hj, List.append_cons acc.reverse, ← List.reverse_cons, ← hk]
        rfl

theorem value?_bracket (h : Begins cs) (fuel : Nat) (stack : List Open) :
    value? (fuel + 1) ('[' :: cs) stack = value? fuel cs (.arr [] :: stack) := by
  obtain ⟨c, l, rfl, hspace, hend, -⟩ := h
  rw [value?.eq_def]
  simp only [skipSpace_cons (show isSpace '[' = false by decide), skipSpace_cons hspace]
  split
  · rename_i heq
    exact absurd (List.cons.inj heq).1 hend
  · rfl

theorem readsAs_arr {items : List Json} (h : ∀ j ∈ items, ReadsAs (toText j).toList j) :
    ReadsAs (toText (arr items)).toList (arr items) := by
  have htext : (toText (arr items)).toList = '[' :: ((itemsText items).toList ++ [']']) := by
    rw [toText, String.toList_append, String.toList_append, List.append_assoc]
    rfl
  rw [htext]
  refine ⟨⟨'[', _, rfl, by decide⟩, ?_⟩
  cases items with
  | nil => exact ⟨1, by decide, fun _ _ _ => rfl⟩
  | cons j items =>
    obtain ⟨hbegins, n, hn, hitems⟩ := value?_items (List.cons_ne_nil j items) h
    refine ⟨n + 1, ?_, fun fuel rest stack => ?_⟩
    · rw [List.length_cons, List.length_append]
      exact Nat.succ_le_succ hn
    · rw [List.cons_append, List.append_assoc, List.singleton_append, ← Nat.add_assoc, value?_bracket (hbegins.append _), hitems]
      rfl

/-! ### Objects -/

theorem resume?_comma {k' : String} {fields : List (String × Json)} (hkey : key? cs = some (some k', rest)) (j : Json) :
    resume? (fuel + 1) j (',' :: cs) (.obj fields true k :: stack) =
      value? fuel rest (.obj ((k, j) :: fields) true k' :: stack) := by
  rw [resume?, skipSpace_cons (by decide)]
  simp only [hkey]
  rfl

/-- **Fields read back** after the brace that opens their object, up to the one that closes it: first the key, then, with
the key in hand, all the rest. -/
theorem value?_fields {fields : List (String × Json)} (hne : fields ≠ []) (h : ∀ f ∈ fields, ReadsAs (toText f.2).toList f.2) :
    Begins (fieldsText fields).toList ∧ ∃ n ≤ (fieldsText fields).toList.length, ∀ rest, ∃ k cs,
      key? ((fieldsText fields).toList ++ '\x7d' :: rest) = some (some k, cs) ∧ ∀ fuel acc stack,
        value? (fuel + n) cs (.obj acc true k :: stack) = resume? fuel (obj (acc.reverse ++ fields)) rest stack := by
  induction fields with
  | nil => exact absurd rfl hne
  | cons f fields ih =>
    obtain ⟨k, j⟩ := f
    obtain ⟨⟨-, n, hn, hj⟩, hrest⟩ := List.forall_mem_cons.1 h
    replace hn : n ≤ (toText j).toList.length := hn
    have hbegins : Begins (quote k).toList := ⟨'"', _, toList_quote k, by decide⟩
    cases fields with
    | nil =>
      have htext : (fieldsText [(k, j)]).toList = (quote k).toList ++ ':' :: (toText j).toList := by
        rw [fieldsText, String.toList_append, String.toList_append, List.append_assoc]
        rfl
      rw [htext]
      refine ⟨hbegins.append _, n + 1, ?_, fun rest => ⟨k, (toText j).toList ++ '\x7d' :: rest, ?_, fun fuel acc stack => ?_⟩⟩
      · rw [List.length_append, List.length_cons]
        omega
      · rw [List.append_assoc, List.cons_append, key?_quote]
      · rw [← Nat.add_assoc, Nat.add_right_comm, hj, ← List.reverse_cons]
        rfl
    | cons g fields =>
      obtain ⟨-, m, hm, hfields⟩ := ih (List.cons_ne_nil g fields) hrest
      have htext : (fieldsText ((k, j) :: g :: fields)).toList =
          (quote k).toList ++ ':' :: ((toText j).toList ++ ',' :: (fieldsText (g :: fields)).toList) := by
        rw [fieldsText, String.toList_append, String.toList_append, String.toList_append, String.toList_append,
          List.append_assoc, List.append_assoc, List.append_assoc]
        · rfl
        · exact List.cons_ne_nil g fields
      rw [htext]
      refine ⟨hbegins.append _, m + 1 + n, ?_, fun rest => ?_⟩
      · simp only [List.length_append, List.length_cons]
        omega
      · obtain ⟨k', cs, hkey, hvalue⟩ := hfields rest
        refine ⟨k, (toText j).toList ++ ',' :: ((fieldsText (g :: fields)).toList ++ '\x7d' :: rest), ?_,
          fun fuel acc stack => ?_⟩
        · rw [List.append_assoc, List.cons_append, key?_quote, List.append_assoc, List.cons_append]
        · rw [← Nat.add_assoc, hj, ← Nat.add_assoc, resume?_comma hkey, hvalue,
            List.reverse_cons, ← List.append_cons]

theorem value?_brace (h : Begins cs) (hkey : key? cs = some (some k, rest)) (fuel : Nat) (stack : List Open) :
    value? (fuel + 1) ('\x7b' :: cs) stack = value? fuel rest (.obj [] true k :: stack) := by
  obtain ⟨c, l, rfl, hspace, -, hend⟩ := h
  rw [value?.eq_def]
  simp only [skipSpace_cons (show isSpace '\x7b' = false by decide), skipSpace_cons hspace]
  split
  · rename_i heq
    exact absurd (List.cons.inj heq).1 hend
  · rw [hkey]
    rfl

theorem readsAs_obj {fields : List (String × Json)} (h : ∀ f ∈ fields, ReadsAs (toText f.2).toList f.2) :
    ReadsAs (toText (obj fields)).toList (obj fields) := by
  have htext : (toText (obj fields)).toList = '\x7b' :: ((fieldsText fields).toList ++ ['\x7d']) := by
    rw [toText, String.toList_append, String.toList_append, List.append_assoc]
    rfl
  rw [htext]
  refine ⟨⟨'\x7b', _, rfl, by decide⟩, ?_⟩
  cases fields with
  | nil => exact ⟨1, by decide, fun _ _ _ => rfl⟩
  | cons f fields =>
    obtain ⟨hbegins, n, hn, hfields⟩ := value?_fields (List.cons_ne_nil f fields) h
    refine ⟨n + 1, ?_, fun fuel rest stack => ?_⟩
    · rw [List.length_cons, List.length_append]
      omega
    · obtain ⟨k, cs, hkey, hvalue⟩ := hfields rest
      rw [List.cons_append, List.append_assoc, List.singleton_append, ← Nat.add_assoc, value?_brace (hbegins.append _) hkey, hvalue]
      rfl

/-! ### All values -/

/-- **A value without numbers**, and without anything that no text stands for. -/
inductive Unnumbered : Json → Prop where
  | null : Unnumbered null
  | bool (b : Bool) : Unnumbered (bool b)
  | str (s : String) : Unnumbered (str s)
  | arr {items : List Json} (h : ∀ j ∈ items, Unnumbered j) : Unnumbered (arr items)
  | obj {fields : List (String × Json)} (h : ∀ f ∈ fields, Unnumbered f.2) : Unnumbered (obj fields)

theorem Unnumbered.readsAs (h : Unnumbered j) : ReadsAs (toText j).toList j := by
  induction h with
  | null => exact ⟨⟨'n', _, rfl, by decide⟩, 1, by decide, fun _ _ _ => rfl⟩
  | bool b =>
    cases b with
    | true => exact ⟨⟨'t', _, rfl, by decide⟩, 1, by decide, fun _ _ _ => rfl⟩
    | false => exact ⟨⟨'f', _, rfl, by decide⟩, 1, by decide, fun _ _ _ => rfl⟩
  | str s => exact readsAs_quote s
  | arr _ ih => exact readsAs_arr ih
  | obj _ ih => exact readsAs_obj ih

/-- **A value without numbers is read back from its text.** -/
theorem parse?_toText (h : Unnumbered j) : parse? (toText j) = some j := by
  obtain ⟨-, n, hn, hread⟩ := h.readsAs
  obtain ⟨fuel, hfuel⟩ : ∃ fuel, 2 * (toText j).toList.length + 2 = fuel + 1 + n :=
    ⟨2 * (toText j).toList.length + 1 - n, by omega⟩
  have hend := hread (fuel + 1) [] []
  rw [List.append_nil] at hend
  rw [parse?, hfuel, hend]
  rfl

end Json
end Pinpoint
