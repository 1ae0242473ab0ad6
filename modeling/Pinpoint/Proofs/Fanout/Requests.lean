import Pinpoint.Proofs.Fanout.Joining
/-!
# Requests — what a stop signal goes through

A stop signal is raised by whoever wants to stop, looked at by whoever is to stop, and cleared by whoever has stopped.  A
history of it is truthful if every look tells what is there at its moment; and a request is there until the signal is
cleared (`isSet_after_iff`).  A fan-out looks before every join and after the last, as far as it gets, and a single look
at a request is enough to interrupt it (`exists_stopped_of_look`).
-/
namespace Pinpoint

/-- What happens to a stop signal. -/
inductive StopEvent where
  | trigger
  | look (seen : Bool)
  | reset
  deriving DecidableEq, Repr

namespace StopSignal

def step (s : StopSignal) : StopEvent → StopSignal
  | .trigger => s.trigger
  | .look _  => s
  | .reset   => s.reset

def after (s : StopSignal) (es : List StopEvent) : StopSignal := es.foldl step s

/-- **Every look tells what is there.** -/
def Truthful (s : StopSignal) (es : List StopEvent) : Prop :=
  ∀ before seen later, es = before ++ .look seen :: later → seen = (s.after before).isSet

variable {s : StopSignal}

theorem after_append (s : StopSignal) (es es' : List StopEvent) : s.after (es ++ es') = (s.after es).after es' :=
  List.foldl_append

theorem Truthful.middle {before es later : List StopEvent} (h : s.Truthful (before ++ es ++ later)) :
    (s.after before).Truthful es := by
  intro es₁ seen es₂ he
  rw [← after_append]
  exact h (before ++ es₁) seen (es₂ ++ later) (by rw [he]; simp only [List.append_assoc, List.cons_append])

theorem truthful_nil : s.Truthful [] := by
  simp [Truthful]

theorem truthful_cons {x : StopEvent} {es : List StopEvent} :
    s.Truthful (x :: es) ↔ (∀ seen, x = .look seen → seen = s.isSet) ∧ (s.step x).Truthful es := by
  constructor
  · intro h
    refine ⟨fun seen hx => h [] seen es (by rw [hx]; rfl), fun before seen later he => ?_⟩
    exact h (x :: before) seen later (by rw [he]; rfl)
  · rintro ⟨hx, h⟩ before seen later he
    cases before with
    | nil => exact hx seen (List.cons.inj he).1
    | cons y before =>
      obtain ⟨rfl, hes⟩ := List.cons.inj he
      exact h before seen later hes

/-- **A request is there until the signal is cleared.** -/
theorem isSet_after_iff {es : List StopEvent} (hr : .reset ∉ es) :
    (s.after es).isSet = true ↔ s.isSet = true ∨ .trigger ∈ es := by
  induction es generalizing s with
  | nil => simp [after]
  | cons x es ih =>
    have hes := ih (s := s.step x) (List.not_mem_of_not_mem_cons hr)
    rw [after, List.foldl_cons, ← after, hes]
    cases x with
    | trigger => simp [step, trigger]
    | look seen => simp [step]
    | reset => exact absurd List.mem_cons_self hr

end StopSignal

namespace Joins

variable {β : Type}

/-- The looks at the signal that joining takes: none once something ended it. -/
def looksFrom (close : Bool) : List (Bool × TaskEnd β) → List Bool
  | []              => [close]
  | (true, _) :: _  => [true]
  | (false, o) :: l => false :: if o.isCalm then looksFrom close l else []

def looks (j : Joins β) : List Bool := looksFrom j.stopAtClose j.ends

/-- **A look at a request interrupts.** -/
theorem exists_stopped_of_look {j : Joins β} (h : true ∈ j.looks) : ∃ before, j.EndsAfter before .stopped := by
  obtain ⟨ends, close⟩ := j
  unfold looks at h
  dsimp only at h
  induction ends with
  | nil =>
    obtain rfl : close = true := (List.mem_singleton.1 h).symm
    exact ⟨[], by simp [Quiet], Or.inl ⟨rfl, rfl⟩⟩
  | cons x ends ih =>
    obtain ⟨stop, o⟩ := x
    cases stop with
    | true => exact ⟨[], by simp [Quiet], Or.inr ⟨_, ends, rfl, Or.inl rfl⟩⟩
    | false =>
      rw [looksFrom, List.mem_cons] at h
      have hlater := h.resolve_left (by decide)
      by_cases hcalm : o.isCalm = true
      · rw [if_pos hcalm] at hlater
        obtain ⟨before, hb⟩ := ih hlater
        exact ⟨_, hb.cons ⟨rfl, hcalm⟩⟩
      · rw [if_neg hcalm] at hlater
        cases hlater

end Joins
end Pinpoint
