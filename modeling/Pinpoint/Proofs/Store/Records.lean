import Mathlib.Data.List.Nodup
import Pinpoint.Store
/-!
# Records — what one call does to a store

A store is an ordered finite map from identities to elements.  What a call on it does and answers is said case by case
(`Effect`), by way of the calls that went before it: an element is what was last written under its identity.  A store that
agrees with the calls so far (`Kept`) answers the next one as it should (`serve_effect`), and agrees with that one too
(`Kept.step`).
-/
namespace Pinpoint
namespace Store

variable {ν : Type}

/-- What is asked of a store. -/
inductive Request (ν : Type) where
  | insert (e : Element)
  | replace (e : Element)
  | get (id : String)
  | find (text : String) (top : Nat) (minScore : ν)

/-- What a call comes to when nothing fails. -/
inductive Answer (ν : Type) where
  | done
  | held (e : Option Element)
  | hits (l : List (Element × ν))

/-- The text whose vector a call needs: a look-up needs none, and a blank query is refused before. -/
def Request.text? : Request ν → Option String
  | insert e | replace e => some (indexText e)
  | get _                => none
  | find text ..         => if Text.isAllBlank text then none else some text

/-- A call and what it was told. -/
abbrev Served (ν : Type) := Request ν × Except Fault (Answer ν)

/-- **A call on a store**, given what embedding came to before; a call that fails leaves the store. -/
def serve [Scalar ν] (vector : Except Fault (List ν)) (s : Store ν) : Request ν → Except Fault (Answer ν) × Store ν
  | .insert e => match s.insert (fun _ => vector) e with
    | .ok s'   => (.ok .done, s')
    | .error f => (.error f, s)
  | .replace e => match s.replace (fun _ => vector) e with
    | .ok s'   => (.ok .done, s')
    | .error f => (.error f, s)
  | .get id                 => (.ok (.held (s.get? id)), s)
  | .find text top minScore => ((s.find (fun _ => vector) text top minScore).map .hits, s)

/-! ## What was written -/

/-- The element that a call wrote, if it succeeded. -/
def written : Served ν → Option Element
  | (.insert e, .ok _) | (.replace e, .ok _) => some e
  | _                                        => none

/-- **The element last written under an identity.** -/
def lastWritten (id : String) (log : List (Served ν)) : Option Element :=
  ((log.filterMap written).filter fun e => e.id == id).getLast?

/-- Some insertion under an identity succeeded. -/
def Inserted (id : String) (log : List (Served ν)) : Prop := ∃ e a, (Request.insert e, .ok a) ∈ log ∧ e.id = id

section
variable {log : List (Served ν)} {x : Served ν} {e : Element}

theorem lastWritten_of_written (h : written x = some e) (id : String) :
    lastWritten id (log ++ [x]) = if e.id = id then some e else lastWritten id log := by
  unfold lastWritten
  rw [List.filterMap_append, List.filter_append, List.getLast?_append, List.filterMap_cons_some h]
  by_cases he : e.id = id
  · simp [he]
  · simp [he]

theorem lastWritten_of_not_written (h : written x = none) (id : String) :
    lastWritten id (log ++ [x]) = lastWritten id log := by
  unfold lastWritten
  rw [List.filterMap_append, List.filterMap_cons_none h, List.filterMap_nil, List.append_nil]

theorem inserted_append (id : String) :
    Inserted id (log ++ [x]) ↔ Inserted id log ∨ ∃ e a, x = (.insert e, .ok a) ∧ e.id = id := by
  simp only [Inserted, List.mem_append, List.mem_singleton, or_and_right, exists_or, eq_comm (a := x)]

end

/-! ## Entries -/

section
variable {s : Store ν} {l m r : List (Entry ν)} {x old : Entry ν}

theorem contains_iff (id : String) : s.contains id = true ↔ ∃ x ∈ s.entries, x.element.id = id := by
  rw [contains, List.any_eq_true]
  simp only [beq_iff_eq]

theorem get?_isSome_iff_exists (id : String) : (s.get? id).isSome = true ↔ ∃ x ∈ s.entries, x.element.id = id := by
  rw [get?, Option.isSome_map, List.find?_isSome]
  simp only [beq_iff_eq]

/-- Entries of other identities make no difference. -/
theorem get?_without {id : String} (h : ∀ y ∈ m, y.element.id ≠ id) : get? ⟨l ++ m ++ r⟩ id = get? ⟨l ++ r⟩ id := by
  have hnone : m.find? (fun y => y.element.id == id) = none := List.find?_eq_none.2 fun y hy => by simpa using h y hy
  unfold get?
  dsimp only
  rw [List.find?_append, List.find?_append, List.find?_append, hnone, Option.or_none]

/-- An entry is what is found under its identity, and every other look-up passes it by. -/
theorem get?_split (hl : ∀ y ∈ l, y.element.id ≠ x.element.id) (id : String) :
    get? ⟨l ++ x :: r⟩ id = if x.element.id = id then some x.element else get? ⟨l ++ r⟩ id := by
  by_cases hid : x.element.id = id
  · have hnone : l.find? (fun y => y.element.id == id) = none :=
      List.find?_eq_none.2 fun y hy => by simpa [← hid] using hl y hy
    simp [get?, hid, hnone]
  · rw [if_neg hid, List.append_cons]
    exact get?_without fun y hy => by rwa [List.mem_singleton.1 hy]

theorem put_split (hl : ∀ y ∈ l, y.element.id ≠ x.element.id) (hold : old.element.id = x.element.id) :
    put x (l ++ old :: r) = l ++ x :: r := by
  induction l with
  | nil => rw [List.nil_append, put, if_pos (by simpa using hold), List.nil_append]
  | cons y l ih =>
    rw [List.cons_append, put, if_neg (by simpa using hl y List.mem_cons_self),
      ih fun z hz => hl z (List.mem_cons_of_mem _ hz), List.cons_append]

/-- **Where identities are distinct, the entry of an identity stands alone.** -/
theorem exists_split (hs : (s.entries.map (·.element.id)).Nodup) {id : String} (h : s.contains id = true) :
    ∃ l old r, s.entries = l ++ old :: r ∧ old.element.id = id ∧ ∀ y ∈ l ++ r, y.element.id ≠ id := by
  obtain ⟨old, hold, rfl⟩ := (contains_iff id).1 h
  obtain ⟨l, r, heq⟩ := List.append_of_mem hold
  refine ⟨l, old, r, heq, rfl, fun y hy hid => ?_⟩
  rw [heq, List.map_append, List.map_cons, List.nodup_middle, ← List.map_append] at hs
  exact (List.nodup_cons.1 hs).1 (hid ▸ List.mem_map_of_mem hy)

end

/-! ## One call -/

/-- **What a call does to a store and what it is told**, after the calls of a log.  A call that fails leaves the store as it
was. -/
inductive Effect [Scalar ν] (embed : Embedder ν) (log : List (Served ν)) (s : Store ν) :
    Request ν → Except Fault (Answer ν) → Store ν → Prop
  /-- A new identity is put at the end. -/
  | inserted {e : Element} {v : List ν} (hv : embed (indexText e) = .ok v)
      (hnew : ∀ x ∈ s.entries, x.element.id ≠ e.id) :
      Effect embed log s (.insert e) (.ok .done) ⟨s.entries ++ [⟨e, v⟩]⟩
  /-- A known identity takes the place of its entry, the only one that changes. -/
  | replaced {e : Element} {v : List ν} {l r : List (Entry ν)} {old : Entry ν} (hv : embed (indexText e) = .ok v)
      (hs : s.entries = l ++ old :: r) (hold : old.element.id = e.id) (hrest : ∀ x ∈ l ++ r, x.element.id ≠ e.id) :
      Effect embed log s (.replace e) (.ok .done) ⟨l ++ ⟨e, v⟩ :: r⟩
  | duplicate {e : Element} {v : List ν} (hv : embed (indexText e) = .ok v)
      (hx : ∃ x ∈ s.entries, x.element.id = e.id) :
      Effect embed log s (.insert e) (.error (.repository ("element id '" ++ e.id ++ "' already stored"))) s
  | unknown {e : Element} {v : List ν} (hv : embed (indexText e) = .ok v)
      (hx : ∀ x ∈ s.entries, x.element.id ≠ e.id) :
      Effect embed log s (.replace e) (.error (.repository ("no element with id '" ++ e.id ++ "' to replace"))) s
  /-- No vector, no effect. -/
  | unembedded {q : Request ν} {text : String} {f : Fault} (ht : q.text? = some text) (hf : embed text = .error f) :
      Effect embed log s q (.error f) s
  | got (id : String) : Effect embed log s (.get id) (.ok (.held (lastWritten id log))) s
  | found {text : String} {top : Nat} {minScore : ν} {query : List ν} (hq : embed text = .ok query) :
      Effect embed log s (.find text top minScore) (.ok (.hits ((ranked s.entries query minScore).take top))) s
  | blank {text : String} {top : Nat} {minScore : ν} (ht : Text.isAllBlank text = true) :
      Effect embed log s (.find text top minScore) (.error (.invalidInput "empty retrieval query")) s

/-- **A store that agrees with the calls so far.** -/
structure Kept (embed : Embedder ν) (log : List (Served ν)) (s : Store ν) : Prop where
  distinct : (s.entries.map (·.element.id)).Nodup
  /-- Every vector is the one of the element that is held now. -/
  indexed  : ∀ x ∈ s.entries, embed (indexText x.element) = .ok x.vector
  current  : ∀ id, s.get? id = lastWritten id log
  known    : ∀ id, (s.get? id).isSome = true ↔ Inserted id log

theorem kept_empty (embed : Embedder ν) : Kept embed [] empty where
  distinct := List.nodup_nil
  indexed  := List.forall_mem_nil _
  current  := fun _ => rfl
  known    := fun id => by simp [Inserted, get?, empty]

variable {embed : Embedder ν} {log : List (Served ν)} {s s' : Store ν} {q : Request ν} {a : Except Fault (Answer ν)}

/-- A call that writes nothing keeps what there is. -/
theorem Kept.unwritten (hk : Kept embed log s) (hw : written (q, a) = none) : Kept embed (log ++ [(q, a)]) s where
  distinct := hk.distinct
  indexed  := hk.indexed
  current  := fun id => by rw [lastWritten_of_not_written hw, hk.current]
  known    := fun id => by
    rw [inserted_append, hk.known, iff_self_or]
    rintro ⟨e, a, hx, -⟩
    obtain ⟨rfl, rfl⟩ := Prod.mk.inj hx
    cases hw

/-- A call that writes an element, in the place of those of its identity, keeps what there is otherwise. -/
theorem Kept.of_written (hk : Kept embed log s) {e : Element} {v : List ν} {l m r : List (Entry ν)}
    (hw : written (q, a) = some e) (hv : embed (indexText e) = .ok v) (hs : s.entries = l ++ m ++ r)
    (hm : ∀ x ∈ m, x.element.id = e.id) (hrest : ∀ x ∈ l ++ r, x.element.id ≠ e.id)
    (hknown : (∃ e' a', (q, a) = (.insert e', .ok a') ∧ e'.id = e.id) ∨ Inserted e.id log) :
    Kept embed (log ++ [(q, a)]) ⟨l ++ ⟨e, v⟩ :: r⟩ := by
  have hsub : (l ++ r).Sublist s.entries := by
    rw [hs, List.append_assoc]
    exact (List.sublist_append_right m r).append_left l
  have hget : ∀ id, get? ⟨l ++ ⟨e, v⟩ :: r⟩ id = if e.id = id then some e else s.get? id := by
    intro id
    rw [get?_split fun y hy => hrest y (List.mem_append_left _ hy)]
    by_cases hid : e.id = id
    · rw [if_pos hid, if_pos hid]
    · have hwithout := get?_without (l := l) (r := r) (fun y hy => (hm y hy).trans_ne hid)
      rw [if_neg hid, if_neg hid, ← hwithout, ← hs]
  constructor
  · rw [List.map_append, List.map_cons, List.nodup_middle, ← List.map_append, List.nodup_cons]
    refine ⟨fun hmem => ?_, hk.distinct.sublist (hsub.map _)⟩
    obtain ⟨x, hx, hxe⟩ := List.mem_map.1 hmem
    exact hrest x hx hxe
  · intro x hx
    have hx' : x = ⟨e, v⟩ ∨ x ∈ l ++ r := by
      simp only [List.mem_append, List.mem_cons] at hx ⊢
      tauto
    rcases hx' with rfl | hx'
    · exact hv
    · exact hk.indexed x (hsub.subset hx')
  · intro id
    rw [hget, lastWritten_of_written hw, hk.current]
  · intro id
    rw [hget, inserted_append]
    by_cases hid : e.id = id
    · subst hid
      simp only [if_true, Option.isSome_some, true_iff]
      exact hknown.symm
    · rw [if_neg hid, hk.known, iff_self_or]
      rintro ⟨e', a', hx, hid'⟩
      rw [hx] at hw
      obtain rfl := Option.some.inj hw
      exact absurd hid' hid

variable [Scalar ν]

/-- **A call is answered as it should be**, if its vector is the one of its text. -/
theorem serve_effect (hk : Kept embed log s) {vector : Except Fault (List ν)}
    (hv : ∀ text, q.text? = some text → vector = embed text) :
    Effect embed log s q (serve vector s q).1 (serve vector s q).2 := by
  cases q with
  | insert e =>
    obtain rfl := hv _ rfl
    cases hembed : embed (indexText e) with
    | error f => exact .unembedded rfl hembed
    | ok v =>
      have hinsert : s.insert (fun _ => .ok v) e = if s.contains e.id then
        .error (.repository ("element id '" ++ e.id ++ "' already stored")) else .ok ⟨s.entries ++ [⟨e, v⟩]⟩ := rfl
      rw [serve, hinsert]
      by_cases hid : s.contains e.id = true
      · rw [if_pos hid]
        exact .duplicate hembed ((contains_iff _).1 hid)
      · rw [if_neg hid]
        exact .inserted hembed fun x hx hxe => hid ((contains_iff _).2 ⟨x, hx, hxe⟩)
  | replace e =>
    obtain rfl := hv _ rfl
    cases hembed : embed (indexText e) with
    | error f => exact .unembedded rfl hembed
    | ok v =>
      have hreplace : s.replace (fun _ => .ok v) e = if s.contains e.id then .ok ⟨put ⟨e, v⟩ s.entries⟩
        else .error (.repository ("no element with id '" ++ e.id ++ "' to replace")) := rfl
      rw [serve, hreplace]
      by_cases hid : s.contains e.id = true
      · obtain ⟨l, old, r, hs, hold, hrest⟩ := exists_split hk.distinct hid
        rw [if_pos hid, hs, put_split (fun y hy => hrest y (List.mem_append_left _ hy)) hold]
        exact .replaced hembed hs hold hrest
      · rw [if_neg hid]
        exact .unknown hembed fun x hx hxe => hid ((contains_iff _).2 ⟨x, hx, hxe⟩)
  | get id =>
    rw [serve, hk.current]
    exact .got id
  | find text top minScore =>
    rw [serve]
    unfold find
    by_cases ht : Text.isAllBlank text = true
    · rw [if_pos ht]
      exact .blank ht
    · have htext : (Request.find text top minScore : Request ν).text? = some text := if_neg ht
      obtain rfl := hv _ htext
      rw [if_neg ht]
      cases hembed : embed text with
      | error f => exact .unembedded htext hembed
      | ok query => exact .found hembed

/-- **What a call leaves agrees with that call too.** -/
theorem Kept.step (hk : Kept embed log s) (he : Effect embed log s q a s') : Kept embed (log ++ [(q, a)]) s' := by
  cases he with
  | @inserted e v hv hnew =>
    have hs : s.entries = s.entries ++ [] ++ [] := by rw [List.append_nil, List.append_nil]
    refine hk.of_written rfl hv hs (List.forall_mem_nil _) ?_ (Or.inl ⟨e, _, rfl, rfl⟩)
    rwa [List.append_nil]
  | @replaced e v l r old hv hs hold hrest =>
    have hmem : old ∈ s.entries := by simp [hs]
    rw [List.append_cons] at hs
    exact hk.of_written rfl hv hs (by simpa using hold) hrest
      (Or.inr ((hk.known _).1 ((get?_isSome_iff_exists _).2 ⟨old, hmem, hold⟩)))
  | duplicate | unknown | got | found | blank => exact hk.unwritten rfl
  | unembedded => exact hk.unwritten (by cases q <;> rfl)

end Store
end Pinpoint
