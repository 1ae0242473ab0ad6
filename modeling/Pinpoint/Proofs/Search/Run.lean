import Mathlib.Logic.Basic
import Pinpoint.Search.Dialogue
/-!
# Run — the ways a search can go

A run of a search is a list of replies, one for every question it comes to ask, and the end it comes to then.  Nothing
is asked of the replies, so what holds of every run holds whatever models answer and in whatever order, whenever
somebody stops the search and whichever letters are drawn.  A run of two searches one after the other is a run of each
(`run_onEnd`, `run_bind_ok`), and in a world that keeps a state every search runs (`exists_run`).

Two things are said of a search as a tree: which questions it can come to at all (`AsksOnly`), and that replies which tell
it the same lead on to the same (`GoesBy`), so that runs that are told the same are the same (`Run.same_of_told`).
-/
namespace Pinpoint

/-- A question and the reply to it. -/
abbrev Exchange (ν : Type) : Type := Σ q : Query, q.Reply ν

namespace Dialogue

variable {ν β γ : Type}

/-- **The runs of a search**: the questions with their replies, and the end. -/
inductive Run : Dialogue ν β → List (Exchange ν) → Except Fault β → Prop
  | done (r : Except Fault β) : Run (done r) [] r
  | ask {q : Query} {next : q.Reply ν → Dialogue ν β} {t r} (a : q.Reply ν) (h : Run (next a) t r) :
    Run (ask q next) (⟨q, a⟩ :: t) r

variable {d : Dialogue ν β} {t : List (Exchange ν)} {r : Except Fault β}

theorem run_done {s : Except Fault β} : Run (done s : Dialogue ν β) t r ↔ t = [] ∧ r = s := by
  constructor
  · rintro ⟨⟩
    exact ⟨rfl, rfl⟩
  · rintro ⟨rfl, rfl⟩
    exact .done r

theorem run_ask {q : Query} {next : q.Reply ν → Dialogue ν β} :
    Run (ask q next) t r ↔ ∃ a u, t = ⟨q, a⟩ :: u ∧ Run (next a) u r := by
  constructor
  · rintro (_ | ⟨a, h⟩)
    exact ⟨a, _, rfl, h⟩
  · rintro ⟨a, u, rfl, h⟩
    exact .ask a h

/-- **A run of one search after the end of another.** -/
theorem run_onEnd {f : Except Fault β → Dialogue ν γ} {r : Except Fault γ} :
    Run (d.onEnd f) t r ↔ ∃ t₁ s t₂, t = t₁ ++ t₂ ∧ Run d t₁ s ∧ Run (f s) t₂ r := by
  constructor
  · intro h
    induction d generalizing t with
    | done s => exact ⟨[], s, t, rfl, .done s, h⟩
    | ask q next ih =>
      obtain ⟨a, u, rfl, h'⟩ := run_ask.1 h
      obtain ⟨t₁, s, t₂, rfl, h₁, h₂⟩ := ih a h'
      exact ⟨⟨q, a⟩ :: t₁, s, t₂, rfl, .ask a h₁, h₂⟩
  · rintro ⟨t₁, s, t₂, rfl, h₁, h₂⟩
    induction h₁ with
    | done s => exact h₂
    | ask a _ ih => exact .ask a (ih h₂)

/-- **An answer of two searches in a row** comes from an answer of the first. -/
theorem run_bind_ok {f : β → Dialogue ν γ} {v : γ} :
    Run (d >>= f) t (.ok v) ↔ ∃ t₁ u t₂, t = t₁ ++ t₂ ∧ Run d t₁ (.ok u) ∧ Run (f u) t₂ (.ok v) := by
  show Run (bind d f) t (.ok v) ↔ _
  rw [bind, run_onEnd]
  constructor
  · rintro ⟨t₁, s | u, t₂, rfl, h₁, h₂⟩
    · cases (run_done.1 h₂).2
    · exact ⟨t₁, u, t₂, rfl, h₁, h₂⟩
  · rintro ⟨t₁, u, t₂, rfl, h₁, h₂⟩
    exact ⟨t₁, .ok u, t₂, rfl, h₁, h₂⟩

theorem run_pure_ok {u v : β} : Run (pure u : Dialogue ν β) t (.ok v) ↔ t = [] ∧ v = u := by
  show Run (done (.ok u)) t (.ok v) ↔ _
  rw [run_done, Except.ok.injEq]

theorem run_fail_ok {e : Fault} {v : β} : ¬ Run (fail e : Dialogue ν β) t (.ok v) := by
  rintro ⟨⟩

/-- A step that asks nothing has its own result as the only answer. -/
theorem run_lift_ok {s : Except Fault β} {v : β} : Run (liftM s : Dialogue ν β) t (.ok v) ↔ t = [] ∧ s = .ok v := by
  show Run (done s) t (.ok v) ↔ _
  rw [run_done, eq_comm (a := s)]

theorem run_lift_bind_ok {s : Except Fault β} {f : β → Dialogue ν γ} {v : γ} :
    Run ((liftM s : Dialogue ν β) >>= f) t (.ok v) ↔ ∃ u, s = .ok u ∧ Run (f u) t (.ok v) := by
  rw [run_bind_ok]
  constructor
  · rintro ⟨_, u, _, rfl, hs, h⟩
    obtain ⟨rfl, hu⟩ := run_lift_ok.1 hs
    exact ⟨u, hu, h⟩
  · rintro ⟨u, hu, h⟩
    exact ⟨[], u, t, rfl, run_lift_ok.2 ⟨rfl, hu⟩, h⟩

theorem run_query_bind_ok {q : Query} {f : q.Reply ν → Dialogue ν γ} {v : γ} :
    Run (query q >>= f) t (.ok v) ↔ ∃ a u, t = ⟨q, a⟩ :: u ∧ Run (f a) u (.ok v) :=
  run_ask

/-- A step that goes on unless something is the case. -/
theorem run_unless_ok {i : Bool} {e : Fault} {u v : β} :
    Run (if i then fail e else pure u : Dialogue ν β) t (.ok v) ↔ i = false ∧ t = [] ∧ v = u := by
  cases i with
  | true => simp [run_fail_ok]
  | false => simp [run_pure_ok]

/-! ## Searches one after the other -/

theorem onEnd_onEnd {δ : Type} (d : Dialogue ν β) (f : Except Fault β → Dialogue ν γ) (g : Except Fault γ → Dialogue ν δ) :
    (d.onEnd f).onEnd g = d.onEnd fun r => (f r).onEnd g := by
  induction d with
  | done r => rfl
  | ask q next ih => exact congrArg (ask q) (funext ih)

theorem map_eq_onEnd (f : β → γ) (d : Dialogue ν β) : f <$> d = d.onEnd fun r => done (r.map f) := by
  refine congrArg d.onEnd (funext fun r => ?_)
  cases r <;> rfl

theorem map_bind_pure {δ : Type} (f : γ → δ) (d : Dialogue ν β) (g : β → γ) :
    f <$> (d >>= fun v => pure (g v)) = d >>= fun v => pure (f (g v)) := by
  rw [map_eq_onEnd]
  refine (onEnd_onEnd ..).trans (congrArg d.onEnd (funext fun r => ?_))
  cases r <;> rfl

/-- A search whose answer is made into another one asks the same. -/
theorem run_map {f : β → γ} {r : Except Fault γ} : Run (f <$> d) t r ↔ ∃ s, Run d t s ∧ r = s.map f := by
  rw [map_eq_onEnd, run_onEnd]
  constructor
  · rintro ⟨t₁, s, t₂, rfl, hs, h⟩
    obtain ⟨rfl, rfl⟩ := run_done.1 h
    exact ⟨s, by rwa [List.append_nil], rfl⟩
  · rintro ⟨s, hs, rfl⟩
    exact ⟨t, s, [], (List.append_nil t).symm, hs, .done _⟩

/-! ## What a search can ask -/

/-- Every question that a search can come to is of a kind. -/
def AsksOnly (P : Query → Prop) : Dialogue ν β → Prop
  | done _     => True
  | ask q next => P q ∧ ∀ a, AsksOnly P (next a)

variable {P : Query → Prop}

theorem AsksOnly.onEnd {f : Except Fault β → Dialogue ν γ} (hd : AsksOnly P d) (hf : ∀ s, AsksOnly P (f s)) :
    AsksOnly P (d.onEnd f) := by
  induction d with
  | done s => exact hf s
  | ask q next ih => exact ⟨hd.1, fun a => ih a (hd.2 a)⟩

theorem AsksOnly.bind {f : β → Dialogue ν γ} (hd : AsksOnly P d) (hf : ∀ v, AsksOnly P (f v)) :
    AsksOnly P (d >>= f) := by
  refine hd.onEnd fun s => ?_
  cases s with
  | ok v => exact hf v
  | error e => trivial

theorem AsksOnly.mono {Q : Query → Prop} (hd : AsksOnly P d) (h : ∀ q, P q → Q q) : AsksOnly Q d := by
  induction d with
  | done s => trivial
  | ask q next ih => exact ⟨h q hd.1, fun a => ih a (hd.2 a)⟩

/-- A search that asks one thing and ends. -/
theorem asksOnly_query {q : Query} (hq : P q) : AsksOnly P (query q : Dialogue ν (q.Reply ν)) :=
  ⟨hq, fun _ => trivial⟩

theorem Run.forall_asked (h : Run d t r) (hd : AsksOnly P d) : ∀ x ∈ t, P x.1 := by
  induction h with
  | done r => simp
  | ask a _ ih => exact List.forall_mem_cons.2 ⟨hd.1, ih (hd.2 a)⟩

/-! ## What a search goes by -/

/-- **Only what is told matters** to a search: after replies that tell the same it goes on in the same way. -/
def GoesBy {τ : Type} (told : Exchange ν → Option τ) : Dialogue ν β → Prop
  | done _     => True
  | ask q next => (∀ a a', told ⟨q, a⟩ = told ⟨q, a'⟩ → next a = next a') ∧ ∀ a, GoesBy told (next a)

section
variable {τ : Type} {told : Exchange ν → Option τ}

theorem GoesBy.onEnd {f : Except Fault β → Dialogue ν γ} (hd : GoesBy told d) (hf : ∀ s, GoesBy told (f s)) :
    GoesBy told (d.onEnd f) := by
  induction d with
  | done s => exact hf s
  | ask q next ih =>
    exact ⟨fun a a' h => congrArg (Dialogue.onEnd f) (hd.1 a a' h), fun a => ih a (hd.2 a)⟩

theorem GoesBy.bind {f : β → Dialogue ν γ} (hd : GoesBy told d) (hf : ∀ v, GoesBy told (f v)) :
    GoesBy told (d >>= f) := by
  refine hd.onEnd fun s => ?_
  cases s with
  | ok v => exact hf v
  | error e => trivial

theorem goesBy_query_bind {q : Query} {f : q.Reply ν → Dialogue ν β}
    (h : ∀ a a', told ⟨q, a⟩ = told ⟨q, a'⟩ → f a = f a') (hf : ∀ a, GoesBy told (f a)) :
    GoesBy told (query q >>= f) :=
  ⟨h, hf⟩

/-- **Two runs that are told the same ask and end the same**: as far as both come, what they are told is that of one
script, in its order. -/
theorem Run.same_of_told (hsome : ∀ q (a a' : q.Reply ν), (told ⟨q, a⟩).isSome = (told ⟨q, a'⟩).isSome)
    (hd : GoesBy told d) (h : Run d t r) {t' : List (Exchange ν)} {r' : Except Fault β} (h' : Run d t' r')
    {script : List τ} (hs : t.filterMap told <+: script) (hs' : t'.filterMap told <+: script) :
    t'.map (·.1) = t.map (·.1) ∧ r' = r := by
  induction h generalizing t' script with
  | done r =>
    obtain ⟨rfl, rfl⟩ := run_done.1 h'
    exact ⟨rfl, rfl⟩
  | @ask q next t r a _ ih =>
    obtain ⟨a', u, rfl, hu⟩ := run_ask.1 h'
    -- both runs have come as far in the script, so what is told next is the same
    have hnext : told ⟨q, a⟩ = told ⟨q, a'⟩ ∧ ∃ rest, t.filterMap told <+: rest ∧ u.filterMap told <+: rest := by
      rw [List.filterMap_cons] at hs hs'
      cases ha : told ⟨q, a⟩ with
      | none =>
        have ha' : told ⟨q, a'⟩ = none := by simpa [ha] using (hsome q a a').symm
        rw [ha] at hs
        rw [ha'] at hs'
        exact ⟨ha'.symm, script, hs, hs'⟩
      | some x =>
        obtain ⟨x', ha'⟩ := Option.isSome_iff_exists.1 (by simpa [ha] using (hsome q a a').symm)
        rw [ha] at hs
        rw [ha'] at hs'
        obtain ⟨rest, rfl⟩ := hs
        obtain ⟨rfl, hrest⟩ := List.cons_prefix_cons.1 hs'
        exact ⟨ha'.symm, _, List.prefix_append _ rest, hrest⟩
    obtain ⟨htold, rest, hrest, hrest'⟩ := hnext
    rw [← hd.1 a a' htold] at hu
    obtain ⟨hasked, hend⟩ := ih (hd.2 a) hu hrest hrest'
    exact ⟨by rw [List.map_cons, List.map_cons, hasked], hend⟩

end

/-! ## Worlds -/

/-- **Every search runs in a world that keeps a state**, and each reply is one that the world can give. -/
theorem exists_run {σ : Type} (world : (q : Query) → StateM σ (q.Reply ν)) (P : Exchange ν → Prop)
    (hP : ∀ q s, P ⟨q, (world q s).1⟩) (d : Dialogue ν β) (s : σ) :
    ∃ t, Run d t (run world d s).1 ∧ ∀ x ∈ t, P x := by
  induction d generalizing s with
  | done r => exact ⟨[], .done r, by simp⟩
  | ask q next ih =>
    obtain ⟨t, h, ht⟩ := ih (world q s).1 (world q s).2
    exact ⟨⟨q, (world q s).1⟩ :: t, .ask _ h, List.forall_mem_cons.2 ⟨hP q s, ht⟩⟩

end Dialogue
end Pinpoint
