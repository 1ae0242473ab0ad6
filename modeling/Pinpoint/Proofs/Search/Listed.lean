import Pinpoint.Search.Quorum
import Pinpoint.Proofs.Box.Bounds
import Pinpoint.Proofs.Picture.Ceilings
import Pinpoint.Proofs.Search.Run
/-!
# Listed — the rectangles that a vote is told, and the picture it sees

A vote is told the boxes of all candidates as they are on the picture at hand (`Prompt.lists_selection`), and it sees that
picture with the candidates on it, shrunk where a ceiling asks for it.  Both are in one frame as long as no ceiling does;
beyond that the listed rectangles are on the picture that is sent exactly if no far edge has passed its smaller sides
(`select_within_iff`).
-/
namespace Pinpoint

/-! ## Lists of candidates -/

namespace Prompt

/-- What a prompt says of one candidate. -/
def line (c : String × Box) : String := "- " ++ c.1 ++ s!": x={c.2.left} y={c.2.top} w={c.2.width} h={c.2.height}\n"

def Lists (prompt : String) (c : String × Box) : Prop := ∃ before after, prompt = before ++ line c ++ after

theorem listing_append (l m : List (String × Box)) : listing (l ++ m) = listing l ++ listing m := by
  unfold listing
  rw [List.map_append, String.join_append]

theorem listing_cons (c : String × Box) (l : List (String × Box)) : listing (c :: l) = line c ++ listing l := by
  unfold listing
  rw [List.map_cons, String.join_cons]
  rfl

theorem Lists.append {prompt : String} {c : String × Box} (h : Lists prompt c) (after : String) :
    Lists (prompt ++ after) c := by
  obtain ⟨a, b, rfl⟩ := h
  exact ⟨a, b ++ after, by rw [String.append_assoc]⟩

theorem Lists.prepend {prompt : String} {c : String × Box} (h : Lists prompt c) (before : String) :
    Lists (before ++ prompt) c := by
  obtain ⟨a, b, rfl⟩ := h
  exact ⟨before ++ a, b, by rw [← String.append_assoc, ← String.append_assoc]⟩

/-- **Every candidate is listed**, with its corner and its extent. -/
theorem lists_selection (e : Element) (data : String) {l : List (String × Box)} {c : String × Box} (h : c ∈ l) :
    Lists (selection e data l) c := by
  have hlisting : Lists (listing l) c := by
    obtain ⟨l₁, l₂, rfl⟩ := List.mem_iff_append.1 h
    exact ⟨listing l₁, listing l₂, by rw [listing_append, listing_cons, String.append_assoc]⟩
  exact ((hlisting.prepend _).append _).append _

end Prompt

section
variable (p : Picture) (marks : List (String × Box))

theorem Annotate.width_annotate : (annotate p marks).width = p.width := p.width_toRgba
theorem Annotate.height_annotate : (annotate p marks).height = p.height := p.height_toRgba
theorem Annotate.w_annotate : (annotate p marks).w = p.w := congrArg UInt32.toNat p.width_toRgba
theorem Annotate.h_annotate : (annotate p marks).h = p.h := congrArg UInt32.toNat p.height_toRgba

end

/-! ## What a vote is told and what it sees -/

namespace Quorum

open Dialogue

variable {ν α : Type} [Scalar α] {s : GroundingSettings α} {e : Element} {data : String} {b : Ballot} {p : Picture}
  {votes : Nat} {t : List (Exchange ν)} {r : Except Fault Verdict} {q : Poll}

theorem question_ok (h : question s e data b p votes = .ok q) :
    q.prompt = Prompt.selection e data (listed b) ∧
      q.picture = ((Annotate.annotate p (listed b)).fit s.maxSide s.maxPixels : Picture.Fitted α).picture := by
  unfold question at h
  dsimp only at h
  cases hcheck : Png.check ((Annotate.annotate p (listed b)).fit s.maxSide s.maxPixels : Picture.Fitted α).picture with
  | error f =>
    rw [hcheck] at h
    cases h
  | ok u =>
    rw [hcheck] at h
    obtain rfl := Except.ok.inj h
    exact ⟨rfl, rfl⟩

/-- A vote asks nothing but its own question. -/
theorem select_asks : AsksOnly (fun x => ∃ q, question s e data b p votes = .ok q ∧ x = .poll q)
    (select s e data b p votes : Dialogue ν Verdict) := by
  unfold select
  split
  · trivial
  · cases hq : question s e data b p votes with
    | error f => trivial
    | ok q => exact ⟨⟨q, rfl, rfl⟩, fun j => trivial⟩

/-- On a picture with pixels there is always something to ask, and every reply makes a run. -/
theorem exists_run_select (s : GroundingSettings α) (e : Element) (data : String) (votes : Nat) (hb : b.isEmpty = false)
    (hp : p.isEmpty = false) (j : Joins String) :
    ∃ q, Run (ν := ν) (select s e data b p votes) [⟨.poll q, j⟩] (decide b j) := by
  obtain ⟨hpw, hph⟩ := Picture.isEmpty_eq_false_iff.1 hp
  have hcheck : Png.check ((Annotate.annotate p (listed b)).fit s.maxSide s.maxPixels : Picture.Fitted α).picture =
      .ok () := by
    rw [Png.check, Picture.isEmpty_eq_false_iff.2 ⟨?_, ?_⟩]
    · rfl
    · rw [Picture.w, Picture.width_fit, Annotate.w_annotate, Annotate.h_annotate, Annotate.width_annotate]
      exact Picture.sentSide_pos _ hpw
    · rw [Picture.h, Picture.height_fit, Annotate.w_annotate, Annotate.h_annotate, Annotate.height_annotate]
      exact Picture.sentSide_pos _ hph
  refine ⟨⟨.vote, Prompt.selection e data (listed b),
    ((Annotate.annotate p (listed b)).fit s.maxSide s.maxPixels : Picture.Fitted α).picture, max votes 1⟩, ?_⟩
  unfold select
  rw [hb, if_neg Bool.false_ne_true, question, hcheck]
  exact run_ask.2 ⟨j, [], rfl, .done _⟩

variable [Scalar.Exact α]

/-- **The listed rectangles and the picture that is sent.**  Whatever a vote asks, it lists every candidate, and the
rectangles of candidates on the picture are on the sent picture exactly if it is not shrunk or no far edge passes its
smaller sides; so they are wherever both ceilings are respected. -/
theorem select_within_iff (hin : ∀ c ∈ b.items, c.box.Within p.width p.height)
    (h : Run (select s e data b p votes) t r) {j : Joins String} (hq : ⟨.poll q, j⟩ ∈ t) :
    q.prompt = Prompt.selection e data (listed b) ∧ (∀ c ∈ listed b, Prompt.Lists q.prompt c) ∧
      ((∀ c ∈ listed b, c.2.Within q.picture.width q.picture.height) ↔
        ∀ c ∈ listed b,
          c.2.right ≤ (Picture.sentSide (Picture.fitRatio p.w p.h s.maxSide s.maxPixels : α) p.width).toNat ∧
          c.2.bottom ≤ (Picture.sentSide (Picture.fitRatio p.w p.h s.maxSide s.maxPixels : α) p.height).toNat) ∧
      (p.Respects s.maxSide s.maxPixels → ∀ c ∈ listed b, c.2.Within q.picture.width q.picture.height) := by
  obtain ⟨q', hquestion, hpoll⟩ := h.forall_asked select_asks _ hq
  obtain rfl : q = q' := Query.poll.inj hpoll
  obtain ⟨hprompt, hpicture⟩ := question_ok hquestion
  have hwidth : q.picture.width = Picture.sentSide (Picture.fitRatio p.w p.h s.maxSide s.maxPixels : α) p.width := by
    rw [hpicture, Picture.width_fit, Annotate.w_annotate, Annotate.h_annotate, Annotate.width_annotate]
  have hheight : q.picture.height = Picture.sentSide (Picture.fitRatio p.w p.h s.maxSide s.maxPixels : α) p.height := by
    rw [hpicture, Picture.height_fit, Annotate.w_annotate, Annotate.h_annotate, Annotate.height_annotate]
  have hlisted : ∀ c ∈ listed b, c.2.Within p.width p.height := by
    intro c hc
    obtain ⟨d, hd, rfl⟩ := List.mem_map.1 hc
    exact hin d hd
  refine ⟨hprompt, fun c hc => hprompt ▸ Prompt.lists_selection e data hc, ?_, fun hp c hc => ?_⟩
  · rw [hwidth, hheight]
    constructor
    · intro hall c hc
      obtain ⟨-, hright, -, hbottom⟩ := hall c hc
      exact ⟨hright, hbottom⟩
    · intro hall c hc
      obtain ⟨hleft, -, htop, -⟩ := hlisted c hc
      obtain ⟨hright, hbottom⟩ := hall c hc
      exact ⟨hleft, hright, htop, hbottom⟩
  · rw [hwidth, hheight, Picture.sentSide_of_respects hp, Picture.sentSide_of_respects hp]
    exact hlisted c hc

/-! A grey screen that has to be sent at half its size, and two candidates on it. -/

def screen : Picture := Picture.ofFn 200 160 .luma fun _ _ _ => 240

def halved : GroundingSettings ℚ := { maxSide := 100, maxPixels := 0 }

def upper : Labelled := ⟨"a", ⟨⟨20, 30, 40, 20⟩, .ofVision⟩⟩

def lower : Labelled := ⟨"b", ⟨⟨140, 100, 40, 20⟩, .ofVision⟩⟩

def okButton : Element := { id := "b", name := "button", description := "OK button" }

/-- A candidate near the corner is on the smaller picture as well. -/
theorem select_within_iff_upper : ∃ t r q j, Run (ν := ℚ) (select halved okButton "" ⟨[upper]⟩ screen 1) t r ∧
    ⟨.poll q, j⟩ ∈ t ∧ (∀ c ∈ [upper], c.box.Within screen.width screen.height) ∧
    ∀ c ∈ listed ⟨[upper]⟩, c.2.Within q.picture.width q.picture.height := by
  obtain ⟨q, h⟩ := exists_run_select (ν := ℚ) (b := ⟨[upper]⟩) halved okButton "" 1 rfl (p := screen) rfl ⟨[], false⟩
  have hin : ∀ c ∈ [upper], c.box.Within screen.width screen.height := by decide
  refine ⟨_, _, q, _, h, List.mem_singleton_self _, hin, ?_⟩
  exact (select_within_iff hin h (List.mem_singleton_self _)).2.2.1.2 (by decide +kernel)

/-- **A listed rectangle beyond the picture that is sent**: 140 pixels from the left on a picture 100 pixels wide. -/
theorem select_beyond : ∃ t r q j, Run (ν := ℚ) (select halved okButton "" ⟨[upper, lower]⟩ screen 1) t r ∧
    ⟨.poll q, j⟩ ∈ t ∧ (∀ c ∈ [upper, lower], c.box.Within screen.width screen.height) ∧
    ∃ c ∈ listed ⟨[upper, lower]⟩, Prompt.Lists q.prompt c ∧ ¬ c.2.Within q.picture.width q.picture.height := by
  obtain ⟨q, h⟩ := exists_run_select (ν := ℚ) (b := ⟨[upper, lower]⟩) halved okButton "" 1 rfl (p := screen) rfl
    ⟨[], false⟩
  obtain ⟨q', hquestion, hpoll⟩ := h.forall_asked select_asks _ (List.mem_singleton_self _)
  obtain rfl : q = q' := Query.poll.inj hpoll
  obtain ⟨hprompt, hpicture⟩ := question_ok hquestion
  refine ⟨_, _, q, _, h, List.mem_singleton_self _, by decide, ("b", lower.box), by decide, ?_, ?_⟩
  · exact hprompt ▸ Prompt.lists_selection okButton "" (by decide)
  · have hwidth : q.picture.width = 100 := by
      rw [hpicture, Picture.width_fit]
      decide +kernel
    rintro ⟨-, hright, -, -⟩
    rw [hwidth] at hright
    exact absurd hright (by decide)

end Quorum
end Pinpoint
