import Pinpoint.Proofs.Fanout.Requests
import Pinpoint.Proofs.Search.Run
/-!
# History — what happens to the stop signal during some exchanges

A search looks at the stop signal when it begins and in every fan-out, and clears it at the end; models and matchers that
work side by side look at it in any order.  Whoever wants to stop may raise the signal at any moment between these events.
-/
namespace Pinpoint

/-! ## What an exchange does to the signal -/

/-- Two lists in one, each in its own order. -/
inductive Interleave {β : Type} : List β → List β → List β → Prop
  | nil : Interleave [] [] []
  | left {v : β} {l m out} (h : Interleave l m out) : Interleave (v :: l) m (v :: out)
  | right {v : β} {l m out} (h : Interleave l m out) : Interleave l (v :: m) (v :: out)

theorem Interleave.mem {β : Type} {l m out : List β} (h : Interleave l m out) {v : β} (hv : v ∈ out) :
    v ∈ l ∨ v ∈ m := by
  induction h with
  | nil => cases hv
  | left _ ih =>
    rcases List.mem_cons.1 hv with rfl | hv
    · exact Or.inl List.mem_cons_self
    · exact (ih hv).imp_left (List.mem_cons_of_mem _)
  | right _ ih =>
    rcases List.mem_cons.1 hv with rfl | hv
    · exact Or.inr List.mem_cons_self
    · exact (ih hv).imp_right (List.mem_cons_of_mem _)

variable {ν : Type}

/-- The looks of models and matchers side by side.  The matchers are a fan-out of their own; a side is broken off only if
the other one fails. -/
def Gathered.Looks (g : Gathered ν) (seen : List Bool) : Prop :=
  ∃ (j : Joins (Match.Signal ν)) (l m : List Bool), g.matched = Match.ofJoins j ∧ Interleave l m seen ∧
    l <+: g.votes.looks ∧ m <+: j.looks ∧
    (l = g.votes.looks ∨ ∃ f, g.matched = .error f) ∧
    (m = j.looks ∨ ∃ before text, g.votes.EndsAfter before (.failed text))

/-- **What an exchange does to the signal.** -/
def Shows : Exchange ν → List StopEvent → Prop
  | ⟨.stopped, seen⟩, es => es = [.look seen]
  | ⟨.clearStop, _⟩, es  => es = [.reset]
  | ⟨.letters, _⟩, es    => es = []
  | ⟨.poll _, j⟩, es     => es = (Joins.looks j).map .look
  | ⟨.gather .., g⟩, es  => ∃ seen, Gathered.Looks g seen ∧ es = seen.map .look

/-- What some exchanges do to it, one after the other. -/
def ShowsAll : List (Exchange ν) → List StopEvent → Prop
  | [], es     => es = []
  | y :: t, es => ∃ part rest, es = part ++ rest ∧ Shows y part ∧ ShowsAll t rest

/-- **A history of the signal during some exchanges**: what these do to it, and requests at any moment. -/
def History (t : List (Exchange ν)) (es : List StopEvent) : Prop := ShowsAll t (es.filter (· != .trigger))

/-- Nobody can have seen a request in the exchange. -/
def SawNone (y : Exchange ν) : Prop := ∀ es, Shows y es → .look true ∉ es

variable {t u : List (Exchange ν)} {es : List StopEvent} {x : StopEvent}

theorem eq_clearStop_of_shows {y : Exchange ν} (h : Shows y es) (hr : .reset ∈ es) : y = ⟨.clearStop, ()⟩ := by
  obtain ⟨q, a⟩ := y
  have hlooks : ∀ l : List Bool, .reset ∉ l.map StopEvent.look := by simp
  cases q with
  | clearStop => rfl
  | stopped =>
    rw [show es = [a].map .look from h] at hr
    exact absurd hr (hlooks _)
  | letters =>
    rw [show es = [] from h] at hr
    cases hr
  | poll p =>
    rw [show es = (Joins.looks a).map .look from h] at hr
    exact absurd hr (hlooks _)
  | gather p whole reference =>
    obtain ⟨seen, -, rfl⟩ : ∃ seen, Gathered.Looks a seen ∧ es = seen.map .look := h
    exact absurd hr (hlooks _)

theorem ShowsAll.mem (h : ShowsAll t es) (hx : x ∈ es) : ∃ y ∈ t, ∃ part, Shows y part ∧ x ∈ part := by
  induction t generalizing es with
  | nil =>
    rw [show es = [] from h] at hx
    cases hx
  | cons y t ih =>
    obtain ⟨part, rest, rfl, hy, ht⟩ := h
    rcases List.mem_append.1 hx with hx | hx
    · exact ⟨y, List.mem_cons_self, part, hy, hx⟩
    · obtain ⟨z, hz, hpart⟩ := ih ht hx
      exact ⟨z, List.mem_cons_of_mem _ hz, hpart⟩

theorem ShowsAll.append (h : ShowsAll (t ++ u) es) : ∃ es₁ es₂, es = es₁ ++ es₂ ∧ ShowsAll t es₁ ∧ ShowsAll u es₂ := by
  induction t generalizing es with
  | nil => exact ⟨[], es, rfl, rfl, h⟩
  | cons y t ih =>
    obtain ⟨part, rest, rfl, hy, ht⟩ := h
    obtain ⟨es₁, es₂, rfl, h₁, h₂⟩ := ih ht
    exact ⟨_, es₂, (List.append_assoc ..).symm, ⟨part, es₁, rfl, hy, h₁⟩, h₂⟩

/-! ## Histories -/

namespace History

/-- What is not a request was done in one of the exchanges. -/
theorem mem (h : History t es) (hx : x ∈ es) (hne : x ≠ .trigger) : ∃ y ∈ t, ∃ part, Shows y part ∧ x ∈ part :=
  ShowsAll.mem h (List.mem_filter.2 ⟨hx, by simpa using hne⟩)

theorem reset_not_mem (h : History t es) (ht : ∀ y ∈ t, y.1 ≠ .clearStop) : .reset ∉ es := by
  intro hr
  obtain ⟨y, hy, part, hshows, hpart⟩ := h.mem hr (by decide)
  obtain rfl := eq_clearStop_of_shows hshows hpart
  exact ht _ hy rfl

theorem look_not_mem (h : History t es) (ht : ∀ y ∈ t, SawNone y) : .look true ∉ es := by
  intro hl
  obtain ⟨y, hy, part, hshows, hpart⟩ := h.mem hl (by decide)
  exact ht y hy part hshows hpart

theorem of_nil (h : History ([] : List (Exchange ν)) es) : ∀ x ∈ es, x = .trigger := by
  intro x hx
  have hf := List.filter_eq_nil_iff.1 (show es.filter (· != .trigger) = [] from h) x hx
  simpa using hf

/-- The first event that is not a request belongs to the first exchange. -/
theorem of_head {y : Exchange ν} {x : StopEvent} (hy : ∀ part, Shows y part → part = [x]) (h : History (y :: t) es) :
    ∃ requests later, es = requests ++ x :: later ∧ (∀ z ∈ requests, z = .trigger) ∧ History t later := by
  obtain ⟨part, rest, hes, hpart, ht⟩ := h
  rw [hy part hpart, List.singleton_append, List.filter_eq_cons_iff] at hes
  obtain ⟨requests, later, rfl, hreq, -, rfl⟩ := hes
  exact ⟨requests, later, rfl, fun z hz => by simpa using hreq z hz, ht⟩

theorem append (h : History (t ++ u) es) : ∃ es₁ es₂, es = es₁ ++ es₂ ∧ History t es₁ ∧ History u es₂ := by
  obtain ⟨_, _, hes, h₁, h₂⟩ := ShowsAll.append h
  obtain ⟨es₁, es₂, rfl, rfl, rfl⟩ := List.filter_eq_append_iff.1 hes
  exact ⟨es₁, es₂, rfl, h₁, h₂⟩

/-- A last exchange that clears the signal does so after all that happened in the others. -/
theorem last_reset (h : History (t ++ [⟨.clearStop, ()⟩]) es) (ht : ∀ y ∈ t, y.1 ≠ .clearStop) :
    ∃ before later, es = before ++ .reset :: later ∧ .reset ∉ before ∧ ∀ x ∈ later, x = .trigger := by
  obtain ⟨es₁, es₂, rfl, h₁, h₂⟩ := h.append
  obtain ⟨requests, later, rfl, hreq, hlater⟩ := h₂.of_head (y := ⟨.clearStop, ()⟩) (x := .reset) fun _ hpart => hpart
  refine ⟨es₁ ++ requests, later, (List.append_assoc ..).symm, ?_, hlater.of_nil⟩
  intro hr
  rcases List.mem_append.1 hr with hr | hr
  · exact h₁.reset_not_mem ht hr
  · cases hreq _ hr

end History

end Pinpoint
