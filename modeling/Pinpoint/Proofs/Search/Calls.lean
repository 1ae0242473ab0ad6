import Pinpoint.Proofs.Search.Found
import Pinpoint.Proofs.Search.Stop
/-!
# Calls — when a stop request is heeded, and when it is used up

Calls follow one another under one signal, and somebody may raise it at any moment.  A call heeds the requests that it can
see, and clears the signal only when it ends as interrupted (`Call.Heeds`); so no request is lost between calls
(`stop_heeded`).
-/
namespace Pinpoint
namespace Locator

open Dialogue

variable {ν α : Type} [Scalar ν] [Scalar α]

/-- **A whole search as it went**: what it was given, what it asked and was told, how it ended, and what happened to the
stop signal meanwhile. -/
structure Call (ν α : Type) [Scalar ν] [Scalar α] where
  settings : LocatorSettings ν α
  element  : Element
  data     : String
  shot     : Capture α
  talk     : List (Exchange ν)
  result   : Except Fault Location
  history  : List StopEvent
  run      : Run (locateIn settings element data shot) talk result
  told     : History talk history

/-- What one call does about stop requests, given the signal as it finds it. -/
structure Call.Heeds (k : Call ν α) (found : StopSignal) : Prop where
  /-- A request that is there at the start ends the call before anything but the signal is asked. -/
  atStart : k.element.validate = .ok () → found.isSet = true →
    k.result = .error .interrupted ∧ k.talk = [⟨.stopped, true⟩, ⟨.clearStop, ()⟩]
  /-- A request that is there when the call looks once more keeps it from an answer. -/
  inTime : ∀ before later seen, k.history = before ++ later → (found.after before).isSet = true →
    .look seen ∈ later → ∀ l, k.result ≠ .ok l
  /-- An interrupted call clears the signal, as the last thing it does: it is set then only if it is raised again. -/
  usedUp : k.result = .error .interrupted → k.element.validate = .ok () ∧
    ∃ before later, k.history = before ++ .reset :: later ∧ .reset ∉ before ∧ (∀ x ∈ later, x = .trigger) ∧
      ((found.after k.history).isSet = true ↔ .trigger ∈ later)
  /-- No other end of a call clears it. -/
  kept : k.result ≠ .error .interrupted → .reset ∉ k.history ∧
    ((found.after k.history).isSet = true ↔ found.isSet = true ∨ .trigger ∈ k.history)

theorem validate_ne_interrupted {e : Element} {f : Fault} (h : e.validate = .error f) : f ≠ .interrupted := by
  unfold Element.validate at h
  split at h
  · cases h
    simp
  · cases h

variable {k : Call ν α}

theorem Call.cleared (hr : k.result = .error .interrupted) : k.element.validate = .ok () ∧
    ∃ before later, k.history = before ++ .reset :: later ∧ .reset ∉ before ∧ ∀ x ∈ later, x = .trigger := by
  rcases run_locateIn k.run with ⟨f, hv, -, hf⟩ | ⟨hv, -, u, ht, hu⟩ | ⟨-, hne, -⟩
  · exact absurd (Except.error.inj (hf.symm.trans hr)) (validate_ne_interrupted hv)
  · have htold := k.told
    rw [ht] at htold
    exact ⟨hv, htold.last_reset (hu.forall_asked search_keeps)⟩
  · exact absurd hr hne

theorem Call.not_cleared (hr : k.result ≠ .error .interrupted) : .reset ∉ k.history := by
  refine k.told.reset_not_mem ?_
  rcases run_locateIn k.run with ⟨f, -, ht, -⟩ | ⟨-, h, -⟩ | ⟨-, -, hs⟩
  · rw [ht]
    exact List.forall_mem_nil _
  · exact absurd h hr
  · exact hs.forall_asked search_keeps

theorem Call.saw_none {l : Location} (hl : k.result = .ok l) : .look true ∉ k.history := by
  refine k.told.look_not_mem ?_
  have hrun := k.run
  rw [hl] at hrun
  rcases run_locateIn hrun with ⟨f, -, -, h⟩ | ⟨-, h, -⟩ | ⟨-, -, hs⟩
  · cases h
  · cases h
  · exact search_saw_none hs

theorem Call.inTime {found : StopSignal} (htrue : found.Truthful k.history) {before later : List StopEvent} {seen : Bool}
    (hk : k.history = before ++ later) (hset : (found.after before).isSet = true) (hlook : .look seen ∈ later)
    (l : Location) : k.result ≠ .ok l := by
  intro hl
  have hne : k.result ≠ .error .interrupted := by
    rw [hl]
    simp
  -- the signal is not cleared up to the look, so the look sees the request
  obtain ⟨es, es', rfl⟩ := List.append_of_mem hlook
  have hnone : .reset ∉ es := fun hr => k.not_cleared hne (by rw [hk]; simp [hr])
  have hseen : seen = true := by
    rw [htrue (before ++ es) seen es' (by rw [hk, List.append_assoc]), StopSignal.after_append,
      StopSignal.isSet_after_iff hnone]
    exact Or.inl hset
  refine k.saw_none hl ?_
  rw [hk, ← hseen]
  simp

theorem Call.atStart {found : StopSignal} (htrue : found.Truthful k.history) (hv : k.element.validate = .ok ())
    (hset : found.isSet = true) :
    k.result = .error .interrupted ∧ k.talk = [⟨.stopped, true⟩, ⟨.clearStop, ()⟩] := by
  have hsees : ∀ {stopped : Bool} {t : List (Exchange ν)}, History (⟨.stopped, stopped⟩ :: t) k.history →
      stopped = true := by
    intro stopped t h
    obtain ⟨requests, later, hk, hreq, -⟩ :=
      h.of_head (y := ⟨.stopped, stopped⟩) (x := .look stopped) fun _ hpart => hpart
    have hnone : .reset ∉ requests := fun hr => by cases hreq _ hr
    rw [htrue requests stopped later hk, StopSignal.isSet_after_iff hnone]
    exact Or.inl hset
  have htold := k.told
  rcases run_locateIn k.run with ⟨f, hf, -⟩ | ⟨-, hr, u, ht, hu⟩ | ⟨-, hne, hs⟩
  · cases hv.symm.trans hf
  · obtain ⟨stopped, u', rfl, hu'⟩ := run_ask.1 hu
    rw [ht] at htold
    obtain rfl := hsees htold
    obtain ⟨rfl, -⟩ := run_done.1 hu'
    exact ⟨hr, ht⟩
  · obtain ⟨stopped, u', ht, hu'⟩ := run_ask.1 hs
    rw [ht] at htold
    obtain rfl := hsees htold
    exact absurd (run_done.1 hu').2 hne

theorem Call.heeds {found : StopSignal} (htrue : found.Truthful k.history) : k.Heeds found where
  atStart := atStart htrue
  inTime  := fun _ _ _ => inTime htrue
  usedUp  := by
    intro hr
    obtain ⟨hv, before, later, hk, hbefore, hlater⟩ := cleared hr
    refine ⟨hv, before, later, hk, hbefore, hlater, ?_⟩
    have hnone : .reset ∉ later := fun h => by cases hlater _ h
    rw [hk, ← List.singleton_append, ← List.append_assoc, StopSignal.after_append, StopSignal.isSet_after_iff hnone,
      StopSignal.after_append]
    exact or_iff_right (by simp [StopSignal.after, StopSignal.step, StopSignal.reset])
  kept := fun hr => ⟨not_cleared hr, StopSignal.isSet_after_iff (not_cleared hr)⟩

/-- **Every request is heeded, and none is lost.**  In any sequence of calls under one signal, raised at any moments,
each call heeds the requests that it can see (`Call.Heeds`); and a request that is there at some moment of a call is still
there after the last, unless the signal was cleared later by a call that ended as interrupted. -/
theorem stop_heeded {start : StopSignal} {earlier later : List (Call ν α)} {k : Call ν α}
    (htrue : start.Truthful ((earlier ++ k :: later).flatMap Call.history)) :
    k.Heeds (start.after (earlier.flatMap Call.history)) ∧
      ∀ before after, k.history = before ++ after →
        (start.after (earlier.flatMap Call.history ++ before)).isSet = true →
        .reset ∉ after → (∀ k' ∈ later, k'.result ≠ .error .interrupted) →
        (start.after ((earlier ++ k :: later).flatMap Call.history)).isSet = true := by
  rw [List.flatMap_append, List.flatMap_cons] at htrue ⊢
  refine ⟨Call.heeds (StopSignal.Truthful.middle (by rwa [List.append_assoc])), ?_⟩
  intro before after hk hset hafter hlater
  -- from the request on nothing clears the signal
  have hnone : .reset ∉ after ++ later.flatMap Call.history := by
    intro hr
    rcases List.mem_append.1 hr with hr | hr
    · exact hafter hr
    · obtain ⟨k', hk', hr⟩ := List.mem_flatMap.1 hr
      exact k'.not_cleared (hlater k' hk') hr
  rw [hk, List.append_assoc, ← List.append_assoc, StopSignal.after_append, StopSignal.isSet_after_iff hnone]
  exact Or.inl hset

/-! A call that answers before it can see a request, and the call after it. -/

def silent : Joins String := Joins.ofEnds false [.crash]

theorem run_silent : ∃ q, Run (locateIn oneVote (button false) "" grey) [⟨.stopped, false⟩, ⟨.poll q, silent⟩]
    (.ok (.missed false false (button false))) := by
  have hq : (Grounding.question oneVote.grounding (button false) "" grey.picture 1).toOption.isSome = true := by
    decide +kernel
  cases h : Grounding.question oneVote.grounding (button false) "" grey.picture 1 with
  | error f =>
    rw [h] at hq
    cases hq
  | ok q =>
    have hv : Grounding.propose oneVote.grounding q grey.picture silent = .ok ⟨[], false⟩ := by
      rw [Grounding.propose, Grounding.question_votes h]
      rfl
    have hgather : Run (gather oneVote (button false) "" grey.picture none) [⟨.poll q.poll, silent⟩]
        (.ok ⟨[], Match.Matched.nothing⟩) :=
      run_lift_bind_ok.2 ⟨q, h, run_query_bind_ok.2 ⟨silent, [], rfl, run_lift_bind_ok.2 ⟨_, hv, .done _⟩⟩⟩
    have hdetect : Run (detect oneVote (button false) "" grey.picture none) [⟨.poll q.poll, silent⟩]
        (.ok Finding.nothing) :=
      run_bind_ok.2 ⟨_, _, [], rfl, hgather, .done _⟩
    exact ⟨q.poll, run_locateIn_report (e := button false) rfl grey hdetect⟩

theorem exists_silent : ∃ k : Call ℚ ℚ, k.result = .ok (.missed false false (button false)) ∧
    k.history = [.look false, .look false, .look false, .trigger] := by
  obtain ⟨q, h⟩ := run_silent
  exact ⟨⟨_, _, _, _, _, _, [.look false, .look false, .look false, .trigger], h,
    [.look false], _, rfl, rfl, [.look false, .look false], [], rfl, rfl, rfl⟩, rfl, rfl⟩

def brokenOff : Call ℚ ℚ where
  settings := oneVote
  element  := button false
  data     := ""
  shot     := grey
  talk     := [⟨.stopped, true⟩, ⟨.clearStop, ()⟩]
  result   := .error .interrupted
  history  := [.look true, .reset]
  run      := .ask (q := .stopped) true (.ask (q := .clearStop) () (.done _))
  told     := ⟨[.look true], _, rfl, rfl, [.reset], [], rfl, rfl, rfl⟩

theorem stop_heeded_afterAnswer : ∃ k : Call ℚ ℚ, k.result = .ok (.missed false false (button false)) ∧
    StopSignal.clear.Truthful (([k] ++ [brokenOff]).flatMap Call.history) ∧
    (StopSignal.clear.after ([k].flatMap Call.history)).isSet = true ∧
    brokenOff.Heeds (StopSignal.clear.after ([k].flatMap Call.history)) := by
  obtain ⟨k, hr, hh⟩ := exists_silent
  have hfirst : StopSignal.clear.Truthful (([] ++ [k]).flatMap Call.history) := by
    rw [List.nil_append, List.flatMap_singleton, hh]
    simp [StopSignal.truthful_cons, StopSignal.truthful_nil, StopSignal.clear, StopSignal.step]
  have hboth : StopSignal.clear.Truthful (([k] ++ [brokenOff]).flatMap Call.history) := by
    rw [List.flatMap_append, List.flatMap_singleton, List.flatMap_singleton, hh]
    simp [StopSignal.truthful_cons, StopSignal.truthful_nil, StopSignal.clear, StopSignal.step, brokenOff,
      StopSignal.trigger]
  have hset := (stop_heeded hfirst).2 k.history [] (List.append_nil _).symm (by rw [hh]; rfl) List.not_mem_nil
    (List.forall_mem_nil _)
  exact ⟨k, hr, hboth, hset, (stop_heeded hboth).1⟩

end Locator
end Pinpoint
