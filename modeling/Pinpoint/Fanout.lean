import Pinpoint.Fault
/-!
# Fanout — many tasks, one answer

Independent tasks are started together and joined as they end.  Before every join the caller's stop signal is looked at.
A fault of a task only costs its contribution, except that an interruption ends the joining early and a failure that
trying again cannot mend ends it with that fault.
-/
namespace Pinpoint

/-- A request to stop, seen by everyone who holds the signal. -/
structure StopSignal where
  isSet : Bool
  deriving DecidableEq, Repr, Inhabited

namespace StopSignal

def clear : StopSignal := ⟨false⟩
def trigger (_ : StopSignal) : StopSignal := ⟨true⟩
def reset (_ : StopSignal) : StopSignal := ⟨false⟩

end StopSignal

/-- How a task ended. -/
inductive TaskEnd (β : Type) where
  | value (v : β)
  | fault (e : Fault)
  /-- The task broke off without an answer. -/
  | crash
  deriving Repr

namespace TaskEnd

/-- A further step of the task on its value. -/
def andThen {β γ : Type} (f : β → Except Fault γ) : TaskEnd β → TaskEnd γ
  | value v => match f v with
    | .ok w    => value w
    | .error e => fault e
  | fault e => fault e
  | crash   => crash

end TaskEnd

/-- **The joins of a fan-out**, in the order in which the tasks ended: before each, whether a stop was seen; and whether
one was seen after the last. -/
structure Joins (β : Type) where
  ends        : List (Bool × TaskEnd β)
  stopAtClose : Bool
  deriving Repr

namespace Joins

def map {β γ : Type} (f : TaskEnd β → TaskEnd γ) (j : Joins β) : Joins γ :=
  ⟨j.ends.map fun e => (e.1, f e.2), j.stopAtClose⟩

/-- Tasks that all ended before the first join, under a signal that does not change any more. -/
def ofEnds {β : Type} (stop : Bool) (l : List (TaskEnd β)) : Joins β := ⟨l.map fun e => (stop, e), stop⟩

end Joins

/-- What a fan-out brought in. -/
structure Harvest (β : Type) where
  values      : List β
  failed      : Nat
  interrupted : Bool
  deriving DecidableEq, Repr

namespace Harvest

/-- The joins that are left, given what came in so far (latest first). -/
def collectFrom {β : Type} (stopAtClose : Bool) :
    (values : List β) → (failed : Nat) → List (Bool × TaskEnd β) → Except Fault (Harvest β)
  | values, failed, []                                    => .ok ⟨values.reverse, failed, stopAtClose⟩
  | values, failed, (true, _) :: _                        => .ok ⟨values.reverse, failed, true⟩
  | values, failed, (false, .value v) :: l                => collectFrom stopAtClose (v :: values) failed l
  | values, failed, (false, .fault .interrupted) :: _     => .ok ⟨values.reverse, failed, true⟩
  | values, failed, (false, .fault e) :: l                =>
    if e.isFatal then .error e else collectFrom stopAtClose values (failed + 1) l
  | values, failed, (false, .crash) :: l                  => collectFrom stopAtClose values (failed + 1) l

/-- **The values of the tasks that answered**, as far as nothing ended the joining. -/
def collect {β : Type} (j : Joins β) : Except Fault (Harvest β) := collectFrom j.stopAtClose [] 0 j.ends

end Harvest
end Pinpoint
