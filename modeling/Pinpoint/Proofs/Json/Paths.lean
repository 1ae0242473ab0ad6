import Mathlib.Data.List.Basic
import Pinpoint.Json
/-!
# Paths — what is where in a value

A path leads from a value to one of the nodes in it, through the place and the name of a field or the place of an item, so
that repeated fields are told apart.  A node shows its `face`: what kind it is, and what it says by itself, down to the
names of its fields and the number of its items.  A value is known once the faces at all its paths are (`ext_face`).

A route names fields and goes through every item.  A change along a route is made to the nodes at its end
(`at?_along`), and every node that is not at or below one of these keeps its face (`face_at?_along`).
-/
namespace Pinpoint
namespace Json

/-- One step down: to the field at a place, which has a name, or to the item at a place. -/
inductive Step where
  | field (i : Nat) (name : String)
  | item (i : Nat)
  deriving DecidableEq, Repr

def child? : Json → Step → Option Json
  | obj fields, .field i name => (fields[i]?.filter fun f => f.1 == name).map (·.2)
  | arr items, .item i        => items[i]?
  | _, _                      => none

/-- The node that a path leads to. -/
def at? : Json → List Step → Option Json
  | j, []        => some j
  | j, s :: path => (j.child? s).bind (at? · path)

/-- What a node is by itself, its fields and items left blank. -/
def face : Json → Json
  | obj fields => obj (fields.map fun f => (f.1, null))
  | arr items  => arr (items.map fun _ => null)
  | j          => j

variable {j k : Json} {s : Step}

theorem at?_append (p q : List Step) (j : Json) : j.at? (p ++ q) = (j.at? p).bind (at? · q) := by
  induction p generalizing j with
  | nil => rfl
  | cons s p ih =>
    rw [List.cons_append, at?, at?, Option.bind_assoc]
    exact Option.bind_congr fun k _ => ih k

theorem child?_field {fields : List (String × Json)} {i : Nat} {name : String} :
    (obj fields).child? (.field i name) = some k ↔ fields[i]? = some (name, k) := by
  rw [child?, Option.map_eq_some_iff]
  constructor
  · rintro ⟨f, hf, rfl⟩
    obtain ⟨hf, hname⟩ := Option.filter_eq_some_iff.1 hf
    rw [hf, ← beq_iff_eq.1 hname]
  · exact fun hf => ⟨(name, k), Option.filter_eq_some_iff.2 ⟨hf, beq_self_eq_true name⟩, rfl⟩

/-! ## Values that look alike everywhere -/

theorem sizeOf_child? (h : j.child? s = some k) : sizeOf k < sizeOf j := by
  cases j with
  | arr items =>
    cases s with
    | field i name => cases h
    | item i =>
      have := List.sizeOf_lt_of_mem (List.mem_of_getElem? h)
      simp only [arr.sizeOf_spec]
      omega
  | obj fields =>
    cases s with
    | item i => cases h
    | field i name =>
      have := List.sizeOf_lt_of_mem (List.mem_of_getElem? (child?_field.1 h))
      simp only [obj.sizeOf_spec, Prod.mk.sizeOf_spec] at this ⊢
      omega
  | _ => cases s <;> cases h

/-- What holds of a value as soon as it holds of its children holds of every value. -/
theorem child_induction {motive : Json → Prop} (step : ∀ j, (∀ s k, j.child? s = some k → motive k) → motive j) (j : Json) :
    motive j :=
  step j fun _ k h => have := sizeOf_child? h; child_induction step k
termination_by sizeOf j

/-- **Nothing but the faces at its paths makes a value.** -/
theorem ext_face (h : ∀ path, (j.at? path).map face = (k.at? path).map face) : j = k := by
  induction j using child_induction generalizing k with
  | step j ih =>
    have hface : j.face = k.face := Option.some.inj (h [])
    have hchild : ∀ s a b, j.child? s = some a → k.child? s = some b → a = b := by
      refine fun s a b ha hb => ih s a ha fun path => ?_
      have := h (s :: path)
      rwa [at?, at?, ha, hb] at this
    cases j with
    | arr l =>
      cases k with
      | arr m =>
        simp only [face, arr.injEq] at hface
        have hlength : l.length = m.length := by simpa using congrArg List.length hface
        refine congrArg arr (List.ext_getElem hlength fun i hi hi' => ?_)
        exact hchild (.item i) _ _ (List.getElem?_eq_getElem hi) (List.getElem?_eq_getElem hi')
      | _ => simp [face] at hface
    | obj l =>
      cases k with
      | obj m =>
        simp only [face, obj.injEq] at hface
        have hlength : l.length = m.length := by simpa using congrArg List.length hface
        refine congrArg obj (List.ext_getElem hlength fun i hi hi' => ?_)
        have hname : l[i].1 = m[i].1 := by simpa [hi, hi'] using congrArg (·[i]?) hface
        refine Prod.ext hname (hchild (.field i l[i].1) _ _ ?_ ?_)
        · exact child?_field.2 (List.getElem?_eq_getElem hi)
        · rw [hname]
          exact child?_field.2 (List.getElem?_eq_getElem hi')
      | _ => simp [face] at hface
    | _ => cases k <;> simp_all [face]

/-! ## Changes along a route -/

/-- A part of a route: to the fields of a name, or to every item. -/
inductive Turn where
  | key (name : String)
  | each
  deriving DecidableEq, Repr

def Turn.map : Turn → (Json → Json) → Json → Json
  | key name => mapField name
  | each     => mapItems

/-- A step goes where a turn leads. -/
def Step.Takes : Step → Turn → Prop
  | field _ name, .key name' => name = name'
  | item _, .each            => True
  | _, _                     => False

/-- **A change of every node that a route leads to.** -/
def along : List Turn → (Json → Json) → Json → Json
  | [], f         => f
  | t :: route, f => t.map (along route f)

/-- A path takes the turns of a route, one after the other. -/
def Follows (path : List Step) (route : List Turn) : Prop := List.Forall₂ Step.Takes path route

variable {t : Turn} {route : List Turn} {f g : Json → Json} {path p q : List Step}

theorem face_map (t : Turn) (f : Json → Json) (j : Json) : (t.map f j).face = j.face := by
  cases t with
  | key name =>
    cases j with
    | obj fields =>
      refine congrArg obj ?_
      rw [List.map_map]
      refine List.map_congr_left fun p _ => ?_
      dsimp only [Function.comp]
      split <;> rfl
    | _ => rfl
  | each =>
    cases j with
    | arr items => exact congrArg arr List.map_map
    | _ => rfl

/-- A child is changed if the step to it takes the turn. -/
theorem child?_map_of_takes (h : s.Takes t) : (t.map f j).child? s = (j.child? s).map f := by
  cases s with
  | field i name =>
    cases t with
    | each => cases h
    | key name' =>
      obtain rfl : name = name' := h
      cases j with
      | obj fields =>
        show ((fields.map _)[i]?.filter _).map _ = ((fields[i]?.filter _).map _).map f
        rw [List.getElem?_map]
        rcases fields[i]? with _ | ⟨name', k⟩
        · rfl
        · by_cases hname : name' = name <;> simp [hname, Option.filter_some]
      | _ => rfl
  | item i =>
    cases t with
    | key name => cases h
    | each =>
      cases j with
      | arr items => exact List.getElem?_map
      | _ => rfl

theorem child?_map_of_not_takes (h : ¬ s.Takes t) : (t.map f j).child? s = j.child? s := by
  cases s with
  | field i name =>
    cases t with
    | each => cases j <;> rfl
    | key name' =>
      cases j with
      | obj fields =>
        show ((fields.map _)[i]?.filter _).map _ = (fields[i]?.filter _).map _
        rw [List.getElem?_map]
        rcases fields[i]? with _ | ⟨name'', k⟩
        · rfl
        · have hne : ¬ name = name' := h
          by_cases hname : name'' = name
          · subst hname
            simp [hne]
          · by_cases hname' : name'' = name'
            · subst hname'
              simp [hname, Option.filter_some]
            · simp [hname']
      | _ => rfl
  | item i =>
    cases t with
    | key name => cases j <;> rfl
    | each => exact absurd trivial h

theorem map_map (t : Turn) (f g : Json → Json) (j : Json) : t.map f (t.map g j) = t.map (f ∘ g) j := by
  cases t with
  | key name =>
    cases j with
    | obj fields =>
      refine congrArg obj ?_
      rw [List.map_map]
      refine List.map_congr_left fun p _ => ?_
      by_cases hname : p.1 = name <;> simp [hname]
    | _ => rfl
  | each =>
    cases j with
    | arr items => exact congrArg arr List.map_map
    | _ => rfl

theorem along_along (route : List Turn) (f g : Json → Json) (j : Json) :
    along route f (along route g j) = along route (f ∘ g) j := by
  induction route generalizing j with
  | nil => rfl
  | cons t route ih =>
    rw [along, along, along, map_map]
    exact congrArg (t.map · j) (funext ih)

/-- **The nodes at the end of a route are changed.** -/
theorem at?_along (h : Follows p route) (q : List Step) (j : Json) :
    (along route f j).at? (p ++ q) = (j.at? p).bind fun k => (f k).at? q := by
  induction h generalizing j with
  | nil => rfl
  | cons hs _ ih =>
    rw [List.cons_append, at?, at?, along, child?_map_of_takes hs, Option.bind_map, Option.bind_assoc]
    exact Option.bind_congr fun k _ => ih k

/-- **Above the end of a route and beside it every node keeps its face.** -/
theorem face_at?_along (h : ∀ p q, path = p ++ q → ¬ Follows p route) (j : Json) :
    ((along route f j).at? path).map face = (j.at? path).map face := by
  induction route generalizing j path with
  | nil => exact absurd List.Forall₂.nil (h [] path rfl)
  | cons t route ih =>
    cases path with
    | nil => exact congrArg some (face_map t _ j)
    | cons s path =>
      rw [at?, at?, along]
      by_cases hs : s.Takes t
      · rw [child?_map_of_takes hs, Option.bind_map, Option.map_bind, Option.map_bind]
        refine Option.bind_congr fun k _ => ih (fun p q hpq hp => ?_) k
        exact h (s :: p) q (congrArg _ hpq) (.cons hs hp)
      · rw [child?_map_of_not_takes hs]

end Json
end Pinpoint
