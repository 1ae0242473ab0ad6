import Mathlib.Data.List.Perm.Basic
import Pinpoint.Fanout
/-!
# Joining — how a fan-out comes to its end

Joins go on quietly as long as no stop is seen and no task ends in a fatal fault.  What then ends the joining is one of
three: a failure that nothing can mend, a stop or an interrupted task, or the last task (`exists_ending`).  Each ending
has one result, told by the quiet joins before it (`collect_of_endsAfter`), and so what comes of a fan-out is known for
every order in which its tasks end and every moment at which somebody asks to stop (`collect_by_ending`).
-/
namespace Pinpoint

variable {β γ : Type}

namespace TaskEnd

def value? : TaskEnd β → Option β
  | value v => some v
  | _       => none

/-- An end that costs no more than the task itself. -/
def isCalm : TaskEnd β → Bool
  | fault e => !e.isFatal
  | _       => true

theorem isCalm_fault_iff (e : Fault) : (fault e : TaskEnd β).isCalm = true ↔ e.isFatal = false := by
  simp [isCalm]

variable {f : β → Except Fault γ}

theorem andThen_value_ok {v : β} {w : γ} (h : f v = .ok w) : (value v).andThen f = value w := by
  rw [andThen, h]

theorem andThen_value_error {v : β} {e : Fault} (h : f v = .error e) : (value v).andThen f = fault e := by
  rw [andThen, h]

theorem isCalm_andThen (hf : ∀ v e, f v = .error e → e.isFatal = false) (o : TaskEnd β) :
    (o.andThen f).isCalm = o.isCalm := by
  cases o with
  | fault | crash => rfl
  | value v =>
    cases h : f v with
    | ok w => rw [andThen_value_ok h]; rfl
    | error e => rw [andThen_value_error h, isCalm, hf v e h]; rfl

end TaskEnd

namespace Joins

/-- No stop is seen before any of the joins, and none of them is fatal. -/
def Quiet (l : List (Bool × TaskEnd β)) : Prop := ∀ x ∈ l, x.1 = false ∧ x.2.isCalm = true

def valuesOf (l : List (Bool × TaskEnd β)) : List β := l.filterMap fun x => x.2.value?

/-- How many tasks brought nothing in. -/
def misses (l : List (Bool × TaskEnd β)) : Nat := l.countP fun x => x.2.value?.isNone

theorem quiet_cons {x : Bool × TaskEnd β} {l : List (Bool × TaskEnd β)} :
    Quiet (x :: l) ↔ (x.1 = false ∧ x.2.isCalm = true) ∧ Quiet l :=
  List.forall_mem_cons

theorem valuesOf_eq_filterMap (l : List (Bool × TaskEnd β)) :
    valuesOf l = (l.map Prod.snd).filterMap TaskEnd.value? := by
  rw [List.filterMap_map]
  rfl

theorem cons_of_value {x : Bool × TaskEnd β} {v : β} (h : x.2.value? = some v) (l : List (Bool × TaskEnd β)) :
    valuesOf (x :: l) = v :: valuesOf l ∧ misses (x :: l) = misses l :=
  ⟨List.filterMap_cons_some h, List.countP_cons_of_neg (by rw [h]; exact Bool.false_ne_true)⟩

theorem cons_of_miss {x : Bool × TaskEnd β} (h : x.2.value? = none) (l : List (Bool × TaskEnd β)) :
    valuesOf (x :: l) = valuesOf l ∧ misses (x :: l) = misses l + 1 :=
  ⟨List.filterMap_cons_none h, List.countP_cons_of_pos (by rw [h]; rfl)⟩

theorem length_valuesOf_add_misses (l : List (Bool × TaskEnd β)) : (valuesOf l).length + misses l = l.length := by
  induction l with
  | nil => rfl
  | cons x l ih =>
    rw [List.length_cons]
    cases h : x.2.value? with
    | none =>
      obtain ⟨hv, hm⟩ := cons_of_miss h l
      rw [hv, hm]
      omega
    | some v =>
      obtain ⟨hv, hm⟩ := cons_of_value h l
      rw [hv, hm, List.length_cons]
      omega

/-! ## What ends the joining -/

/-- What ends a joining. -/
inductive Ending where
  /-- All tasks are joined. -/
  | closed
  /-- A stop is seen, or a task reports an interruption. -/
  | stopped
  /-- A task met a failure that trying again cannot mend. -/
  | failed (text : String)

/-- **The joining ends so after some quiet joins.** -/
def EndsAfter (j : Joins β) (before : List (Bool × TaskEnd β)) (how : Ending) : Prop :=
  Quiet before ∧ match how with
  | .closed      => j.ends = before ∧ j.stopAtClose = false
  | .stopped     => (j.ends = before ∧ j.stopAtClose = true) ∨
      ∃ x after, j.ends = before ++ x :: after ∧ (x.1 = true ∨ x.2 = .fault .interrupted)
  | .failed text => ∃ after, j.ends = before ++ (false, .fault (.nonRetryable text)) :: after

theorem EndsAfter.cons {ends : List (Bool × TaskEnd β)} {close : Bool} {before : List (Bool × TaskEnd β)} {how : Ending}
    (h : EndsAfter ⟨ends, close⟩ before how) {x : Bool × TaskEnd β} (hx : x.1 = false ∧ x.2.isCalm = true) :
    EndsAfter ⟨x :: ends, close⟩ (x :: before) how := by
  obtain ⟨hq, h⟩ := h
  refine ⟨quiet_cons.2 ⟨hx, hq⟩, ?_⟩
  cases how with
  | closed => exact ⟨congrArg (x :: ·) h.1, h.2⟩
  | stopped =>
    rcases h with h | ⟨y, after, h, hy⟩
    · exact Or.inl ⟨congrArg (x :: ·) h.1, h.2⟩
    · exact Or.inr ⟨y, after, congrArg (x :: ·) h, hy⟩
  | failed text =>
    obtain ⟨after, h⟩ := h
    exact ⟨after, congrArg (x :: ·) h⟩

/-- **Every joining comes to an end.** -/
theorem exists_ending (j : Joins β) : ∃ before how, j.EndsAfter before how := by
  obtain ⟨ends, close⟩ := j
  induction ends with
  | nil =>
    cases close with
    | false => exact ⟨[], .closed, by simp [Quiet], rfl, rfl⟩
    | true => exact ⟨[], .stopped, by simp [Quiet], Or.inl ⟨rfl, rfl⟩⟩
  | cons x ends ih =>
    obtain ⟨before, how, h⟩ := ih
    obtain ⟨stop, e⟩ := x
    cases stop with
    | true => exact ⟨[], .stopped, by simp [Quiet], Or.inr ⟨_, ends, rfl, Or.inl rfl⟩⟩
    | false =>
      by_cases hcalm : e.isCalm = true
      · exact ⟨_, how, h.cons ⟨rfl, hcalm⟩⟩
      · -- only two faults are fatal, and they end the joining in different ways
        cases e with
        | value | crash => exact absurd rfl hcalm
        | fault e =>
          cases e with
          | interrupted => exact ⟨[], .stopped, by simp [Quiet], Or.inr ⟨_, ends, rfl, Or.inr rfl⟩⟩
          | nonRetryable text => exact ⟨[], .failed text, by simp [Quiet], ends, rfl⟩
          | _ => exact absurd rfl hcalm

/-- A further step of every task, none of whose own faults is fatal, leaves the ending as it is. -/
theorem EndsAfter.andThen {f : β → Except Fault γ} (hf : ∀ v e, f v = .error e → e.isFatal = false) {j : Joins β}
    {before : List (Bool × TaskEnd β)} {how : Ending} (h : j.EndsAfter before how) :
    (j.map (TaskEnd.andThen f)).EndsAfter (before.map fun x => (x.1, x.2.andThen f)) how := by
  obtain ⟨hq, h⟩ := h
  refine ⟨fun y hy => ?_, ?_⟩
  · obtain ⟨x, hx, rfl⟩ := List.mem_map.1 hy
    exact ⟨(hq x hx).1, (TaskEnd.isCalm_andThen hf x.2).trans (hq x hx).2⟩
  · cases how with
    | closed => exact ⟨congrArg (List.map _) h.1, h.2⟩
    | failed text =>
      obtain ⟨after, h⟩ := h
      exact ⟨_, by rw [map, h, List.map_append, List.map_cons]; rfl⟩
    | stopped =>
      rcases h with ⟨h, hs⟩ | ⟨x, after, h, hx⟩
      · exact Or.inl ⟨congrArg (List.map _) h, hs⟩
      · refine Or.inr ⟨_, _, by rw [map, h, List.map_append, List.map_cons], hx.imp_right fun hx => ?_⟩
        dsimp only
        rw [hx]
        rfl

end Joins

/-! ## What comes of it -/

namespace Harvest

open Joins

/-- What an ending makes of the joins before it. -/
def result (before : List (Bool × TaskEnd β)) : Ending → Except Fault (Harvest β)
  | .closed      => .ok ⟨valuesOf before, misses before, false⟩
  | .stopped     => .ok ⟨valuesOf before, misses before, true⟩
  | .failed text => .error (.nonRetryable text)

theorem collectFrom_fault {e : Fault} (he : e.isFatal = false) (close : Bool) (values : List β) (failed : Nat)
    (l : List (Bool × TaskEnd β)) :
    collectFrom close values failed ((false, .fault e) :: l) = collectFrom close values (failed + 1) l := by
  cases e with
  | interrupted | nonRetryable => cases he
  | _ => rfl

/-- Quiet joins only add to what came in. -/
theorem collectFrom_quiet (close : Bool) (rest : List (Bool × TaskEnd β)) :
    ∀ (before : List (Bool × TaskEnd β)) (values : List β) (failed : Nat), Quiet before →
      collectFrom close values failed (before ++ rest) =
        collectFrom close ((valuesOf before).reverse ++ values) (failed + misses before) rest
  | [], values, failed, _ => rfl
  | (stop, e) :: before, values, failed, hq => by
    obtain ⟨⟨rfl, hc⟩, hbefore⟩ := quiet_cons.1 hq
    have ih := fun values failed => collectFrom_quiet close rest before values failed hbefore
    rw [List.cons_append]
    cases e with
    | value v =>
      obtain ⟨hv, hm⟩ := cons_of_value (x := (false, TaskEnd.value v)) rfl before
      rw [collectFrom, ih, hv, hm, List.reverse_cons, List.append_assoc, List.singleton_append]
    | crash =>
      obtain ⟨hv, hm⟩ := cons_of_miss (x := (false, (TaskEnd.crash : TaskEnd β))) rfl before
      rw [collectFrom, ih, hv, hm, Nat.add_assoc, Nat.add_comm 1]
    | fault e =>
      obtain ⟨hv, hm⟩ := cons_of_miss (x := (false, (TaskEnd.fault e : TaskEnd β))) rfl before
      rw [collectFrom_fault ((TaskEnd.isCalm_fault_iff e).1 hc), ih, hv, hm, Nat.add_assoc, Nat.add_comm 1]

/-- **The ending decides**: with the quiet joins before it, it determines what is collected. -/
theorem collect_of_endsAfter {j : Joins β} {before : List (Bool × TaskEnd β)} {how : Ending}
    (h : j.EndsAfter before how) : collect j = result before how := by
  obtain ⟨hq, h⟩ := h
  have hrun := fun rest => collectFrom_quiet j.stopAtClose rest before [] 0 hq
  simp only [List.append_nil, Nat.zero_add] at hrun
  have hall := hrun []
  rw [List.append_nil, collectFrom, List.reverse_reverse] at hall
  unfold collect
  cases how with
  | closed =>
    obtain ⟨he, hs⟩ := h
    rw [he, hall, hs]
    rfl
  | failed text =>
    obtain ⟨after, he⟩ := h
    rw [he, hrun]
    rfl
  | stopped =>
    rcases h with ⟨he, hs⟩ | ⟨⟨stop, e⟩, after, he, hx⟩
    · rw [he, hall, hs]
      rfl
    · rw [he, hrun]
      cases stop with
      | true =>
        rw [collectFrom, List.reverse_reverse]
        rfl
      | false =>
        obtain rfl : e = .fault .interrupted := hx.resolve_left Bool.false_ne_true
        rw [collectFrom, List.reverse_reverse]
        rfl

/-- **What comes of a fan-out**, for every order in which its tasks end and every moment at which somebody asks to stop:
a failure that nothing can mend is the only fault there is, and comes back exactly if it is the first to end the joining;
a stop, or an interrupted task, leaves the values joined before it; otherwise no task is lost and none counts twice. -/
theorem collect_by_ending {tasks : List (TaskEnd β)} {j : Joins β} (hj : (j.ends.map Prod.snd).Perm tasks) :
    (∀ f, collect j = .error f ↔ ∃ before text, f = .nonRetryable text ∧ j.EndsAfter before (.failed text)) ∧
      ((∃ h, collect j = .ok h ∧ h.interrupted = true) ↔ ∃ before, j.EndsAfter before .stopped) ∧
      (∀ before, j.EndsAfter before .stopped →
        ∃ h, collect j = .ok h ∧ h.interrupted = true ∧ h.values = valuesOf before) ∧
      ((¬ ∃ before text, j.EndsAfter before (.failed text)) → (¬ ∃ before, j.EndsAfter before .stopped) →
        ∃ h, collect j = .ok h ∧ h.interrupted = false ∧ h.values.Perm (tasks.filterMap TaskEnd.value?) ∧
          h.values.length + h.failed = tasks.length) := by
  obtain ⟨before, how, h⟩ := j.exists_ending
  have hc := collect_of_endsAfter h
  refine ⟨fun f => ⟨fun hf => ?_, ?_⟩, ⟨?_, ?_⟩, fun before h => ⟨_, collect_of_endsAfter h, rfl, rfl⟩,
    fun hfailed hstopped => ?_⟩
  · cases how with
    | closed | stopped => cases hc.symm.trans hf
    | failed text =>
      obtain rfl := Except.error.inj (hc.symm.trans hf)
      exact ⟨before, text, rfl, h⟩
  · rintro ⟨before, text, rfl, h⟩
    exact collect_of_endsAfter h
  · rintro ⟨r, hr, hi⟩
    cases how with
    | failed text => cases hc.symm.trans hr
    | stopped => exact ⟨before, h⟩
    | closed =>
      obtain rfl := Except.ok.inj (hc.symm.trans hr)
      cases hi
  · rintro ⟨before, h⟩
    exact ⟨_, collect_of_endsAfter h, rfl⟩
  · cases how with
    | failed text => exact absurd ⟨before, text, h⟩ hfailed
    | stopped => exact absurd ⟨before, h⟩ hstopped
    | closed =>
      obtain ⟨-, rfl, -⟩ := h
      refine ⟨_, hc, rfl, ?_, ?_⟩
      · rw [valuesOf_eq_filterMap]
        exact hj.filterMap _
      · rw [← hj.length_eq, List.length_map]
        exact length_valuesOf_add_misses j.ends

/-- A stop that is seen before the third of four joins. -/
def stoppedHalfway : Joins Nat where
  ends        := [(false, .value 3), (false, .fault (.provider "timeout")), (true, .fault (.nonRetryable "401")),
    (true, .value 1)]
  stopAtClose := true

/-- What came in before the stop is kept, and the failure after it is not met any more. -/
theorem collect_stoppedHalfway :
    (stoppedHalfway.ends.map Prod.snd).Perm
        [.value 1, .fault (.nonRetryable "401"), .fault (.provider "timeout"), .value 3] ∧
      ∃ h, collect stoppedHalfway = .ok h ∧ h.interrupted = true ∧ h.values = [3] := by
  have hj : (stoppedHalfway.ends.map Prod.snd).Perm
      [.value 1, .fault (.nonRetryable "401"), .fault (.provider "timeout"), .value 3] := (List.reverse_perm _).symm
  have hquiet : Quiet (stoppedHalfway.ends.take 2) := by
    simp [Quiet, stoppedHalfway, TaskEnd.isCalm, Fault.isFatal]
  exact ⟨hj, (collect_by_ending hj).2.2.1 (stoppedHalfway.ends.take 2)
    ⟨hquiet, Or.inr ⟨_, _, rfl, Or.inl rfl⟩⟩⟩

end Harvest
end Pinpoint
