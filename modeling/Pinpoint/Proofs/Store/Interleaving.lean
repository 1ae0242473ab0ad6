import Mathlib.Data.List.Induction
import Pinpoint.Proofs.Store.Records
/-!
# Interleaving — calls on one store side by side

A call first has its text embedded and then takes its turn on the store, alone.  Between the two, any number of other calls
may have had their turn, so that a vector may be older than the entries it meets; but it is the vector of the call's own
text at any time (`Desk.Ready`).  So whatever the order of the steps, the store agrees with the calls in the order of their
turns, and every call is answered as that order has it (`run_refines`).
-/
namespace Pinpoint
namespace Store

variable {ν : Type}

/-- A call that has not had its turn, with what embedding came to once that is done. -/
structure Waiting (ν : Type) where
  request : Request ν
  vector  : Option (Except Fault (List ν)) := none

/-- Nothing is left to do before the turn. -/
def Waiting.isReady (w : Waiting ν) : Bool := w.vector.isSome || w.request.text?.isNone

/-- A store, the calls on their way, and those that had their turn, in that order. -/
structure Desk (ν : Type) where
  store   : Store ν
  waiting : List (Waiting ν)
  log     : List (Served ν)

/-- One step of one call: it is made, its text is embedded, or it has its turn. -/
inductive Move (ν : Type) where
  | call (q : Request ν)
  | embed (i : Nat)
  | turn (i : Nat)

namespace Desk

variable [Scalar ν]

def opened : Desk ν := ⟨empty, [], []⟩

/-- A step; one that is not possible does nothing. -/
def move (embed : Embedder ν) (d : Desk ν) : Move ν → Desk ν
  | .call q  => { d with waiting := d.waiting ++ [{ request := q }] }
  | .embed i => { d with waiting := d.waiting.modify i fun w => { w with vector := w.request.text?.map embed } }
  | .turn i  =>
    match d.waiting[i]? with
    | none   => d
    | some w =>
      if w.isReady then
        let r := serve (w.vector.getD (.ok [])) d.store w.request
        ⟨r.2, d.waiting.eraseIdx i, d.log ++ [(w.request, r.1)]⟩
      else d

/-- **The calls of any number of callers**, step by step in some order. -/
def run (embed : Embedder ν) (moves : List (Move ν)) : Desk ν := moves.foldl (move embed) opened

/-- Every vector that a call waits with is the one of its text. -/
def Ready (embed : Embedder ν) (d : Desk ν) : Prop :=
  ∀ w ∈ d.waiting, ∀ vector, w.vector = some vector → w.request.text?.map embed = some vector

variable {embed : Embedder ν} {d : Desk ν}

theorem Ready.move (h : d.Ready embed) (m : Move ν) : (d.move embed m).Ready embed := by
  cases m with
  | call q =>
    intro w hw vector hv
    rcases List.mem_append.1 hw with hw | hw
    · exact h w hw vector hv
    · obtain rfl := List.mem_singleton.1 hw
      cases hv
  | embed i =>
    intro w hw vector hv
    obtain ⟨j, hj, rfl⟩ := List.getElem_of_mem hw
    have hj' : j < d.waiting.length := by simpa [Desk.move] using hj
    simp only [Desk.move, List.getElem_modify] at hv ⊢
    split at hv
    · rename_i hij
      rw [if_pos hij]
      exact hv
    · rename_i hij
      rw [if_neg hij]
      exact h _ (List.getElem_mem hj') vector hv
  | turn i =>
    unfold Desk.move
    dsimp only
    split
    · exact h
    · split
      · exact fun w hw => h w (List.mem_of_mem_eraseIdx hw)
      · exact h

/-- **A step changes nothing on the store or is the turn of a call.** -/
theorem move_effect (hr : d.Ready embed) (hk : Kept embed d.log d.store) (m : Move ν) :
    ((d.move embed m).log = d.log ∧ (d.move embed m).store = d.store) ∨
      ∃ q a, (d.move embed m).log = d.log ++ [(q, a)] ∧ Effect embed d.log d.store q a (d.move embed m).store := by
  cases m with
  | call q => exact Or.inl ⟨rfl, rfl⟩
  | embed i => exact Or.inl ⟨rfl, rfl⟩
  | turn i =>
    unfold Desk.move
    dsimp only
    split
    · exact Or.inl ⟨rfl, rfl⟩
    · rename_i w hw
      split
      · rename_i hready
        refine Or.inr ⟨_, _, rfl, serve_effect hk fun text htext => ?_⟩
        cases hvector : w.vector with
        | none => simp [Waiting.isReady, hvector, htext] at hready
        | some vector =>
          have hown := hr w (List.mem_of_getElem? hw) vector hvector
          rw [htext] at hown
          exact (Option.some.inj hown).symm
      · exact Or.inl ⟨rfl, rfl⟩

theorem run_append (embed : Embedder ν) (moves : List (Move ν)) (m : Move ν) :
    run embed (moves ++ [m]) = (run embed moves).move embed m := List.foldl_concat ..

/-- **Whatever the order of the steps**, a store agrees with the calls that had their turn, and vectors with their texts. -/
theorem run_kept (embed : Embedder ν) (moves : List (Move ν)) :
    (run embed moves).Ready embed ∧ Kept embed (run embed moves).log (run embed moves).store := by
  induction moves using List.reverseRecOn with
  | nil => exact ⟨List.forall_mem_nil _, kept_empty embed⟩
  | append_singleton moves m ih =>
    obtain ⟨hr, hk⟩ := ih
    rw [run_append]
    refine ⟨hr.move m, ?_⟩
    rcases move_effect hr hk m with ⟨hlog, hstore⟩ | ⟨q, a, hlog, heffect⟩
    · rw [hlog, hstore]
      exact hk
    · rw [hlog]
      exact hk.step heffect

/-- **A store is an ordered finite map, however calls on it are interleaved.**  At any moment identities are distinct,
every vector is that of the element held with it, and what is held is what the calls so far last wrote; and the next step
of any call changes nothing, or is its turn, with the effect and the answer of a call that follows those in the log. -/
theorem run_refines (embed : Embedder ν) (moves : List (Move ν)) (m : Move ν) :
    Kept embed (run embed moves).log (run embed moves).store ∧
      (((run embed (moves ++ [m])).log = (run embed moves).log ∧
          (run embed (moves ++ [m])).store = (run embed moves).store) ∨
        ∃ q a, (run embed (moves ++ [m])).log = (run embed moves).log ++ [(q, a)] ∧
          Effect embed (run embed moves).log (run embed moves).store q a (run embed (moves ++ [m])).store) := by
  obtain ⟨hr, hk⟩ := run_kept embed moves
  rw [run_append]
  exact ⟨hk, move_effect hr hk m⟩

/-- Two insertions of one identity, both embedded before either has its turn: the later turn fails. -/
example : (run (fun _ => .ok ([] : List ν)) [.call (.insert { id := "b", name := "left", description := "" }),
    .call (.insert { id := "b", name := "right", description := "" }), .embed 0, .embed 1, .turn 1, .turn 0]).log.map
    (fun x => (written x).map (·.name)) = [some "right", none] := rfl

end Desk
end Store
end Pinpoint
