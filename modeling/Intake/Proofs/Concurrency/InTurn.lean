import Mathlib.Logic.Function.Iterate
import Intake.Proofs.Concurrency.Schedule

/-! Callers at work one after the other: once the next one has begun, a caller takes no more steps. -/

namespace Intake

namespace Site

variable {I : Interface} {σ J H : Type} {R : J → Type}

/-- One step of a site whose callers work in turn. A caller that is not done when the next one begins has
given up. -/
inductive StepInTurn (setting : Setting I σ R) : Site I σ R → Site I σ R → Prop where
  | starts (site : Site I σ R) (job : J) :
      StepInTurn setting site { site with callers := site.callers ++ [⟨job, setting.begins job⟩] }
  | calls {services services' : σ} {earlier : List (Caller I R)} {job : J}
      {plan rest : Plan I (R job)} {request : I.Request} {reply : I.Reply request} :
      Plan.Calls request reply plan rest → setting.reacts request services reply services' →
        StepInTurn setting ⟨services, earlier ++ [⟨job, plan⟩]⟩
          ⟨services', earlier ++ [⟨job, rest⟩]⟩
  | passes {services : σ} {earlier : List (Caller I R)} {job : J} {plan rest : Plan I (R job)} :
      Plan.Passes plan rest →
        StepInTurn setting ⟨services, earlier ++ [⟨job, plan⟩]⟩ ⟨services, earlier ++ [⟨job, rest⟩]⟩
  | drifts {site : Site I σ R} {services : σ} :
      setting.drifts site.services services → StepInTurn setting site { site with services }

/-- What holds of a site whose callers work in turn: of its services together with what the last caller
holds, and of the plan of that caller. -/
def UpholdsLast (protocol : Protocol I H) (sound : σ → H → Prop) (site : Site I σ R) : Prop :=
  ∃ held : H, sound site.services held ∧ ∀ caller, site.callers.getLast? = some caller →
    caller.plan.Keeps protocol (fun _ => True) (fun _ _ => True) held

/-- What holds at the opening, and is kept by every permitted call, by every change of the services and by
every job that begins, holds of all sites that callers in turn come to. -/
theorem upholdsLast_of_turns {setting : Setting I σ R} {protocol : Protocol I H}
    {sound : σ → H → Prop} {services : σ} {site : Site I σ R}
    (run : Relation.ReflTransGen (StepInTurn setting) ⟨services, []⟩ site)
    (opening : ∃ held, sound services held)
    (starts : ∀ services held job, sound services held → ∃ first,
      (setting.begins job).Keeps protocol (fun _ => True) (fun _ _ => True) first ∧
        sound services first)
    (calls : ∀ services held request reply services', sound services held →
      protocol.permits request held → setting.reacts request services reply services' →
      ∃ after, protocol.moves request held reply after ∧ sound services' after)
    (drifts : ∀ services held services', sound services held →
      setting.drifts services services' → sound services' held) :
    site.UpholdsLast protocol sound := by
  -- The induction is on the steps of the run. What earlier callers held does not matter any more.
  induction run with
  | refl =>
    obtain ⟨held, holds⟩ := opening
    exact ⟨held, holds, by simp⟩
  | tail _ taken ih =>
    obtain ⟨held, holds, keeps⟩ := ih
    cases taken with
    | starts _ job =>
      obtain ⟨first, begins, holds⟩ := starts _ held job holds
      exact ⟨first, holds, by simpa using begins⟩
    | calls called reacted =>
      obtain ⟨permitted, goesOn⟩ := (keeps _ List.getLast?_concat).calls called
      obtain ⟨after, moved, holds⟩ := calls _ _ _ _ _ holds permitted reacted
      exact ⟨after, holds, by simpa using goesOn after moved⟩
    | passes passed =>
      exact ⟨held, holds, by simpa using (keeps _ List.getLast?_concat).passes passed⟩
    | drifts drifted => exact ⟨held, drifts _ _ _ holds drifted, keeps⟩

/-- The turn of the caller that began last, who takes the next step of its plan. -/
def turnOfLast (answer : (request : I.Request) → σ → I.Reply request × σ) (site : Site I σ R) :
    Site I σ R :=
  match site.callers.getLast? with
  | some ⟨job, plan⟩ =>
    ⟨(plan.next answer site.services).2,
      site.callers.dropLast ++ [⟨job, (plan.next answer site.services).1⟩]⟩
  | none => site

/-- A caller that goes on as often as it likes, every call answered, takes steps in turn. -/
theorem leads_of_turnOfLast {setting : Setting I σ R}
    {answer : (request : I.Request) → σ → I.Reply request × σ}
    (answers : ∀ request s, setting.reacts request s (answer request s).1 (answer request s).2)
    (turns : Nat) (site : Site I σ R) :
    Relation.ReflTransGen (StepInTurn setting) site ((turnOfLast answer)^[turns] site) := by
  -- The induction is on the turns, each of which is a step in turn or none.
  induction turns generalizing site with
  | zero => exact .refl
  | succ turns ih =>
    refine .trans ?_ (ih _)
    unfold turnOfLast
    split
    · rename_i job plan isLast
      obtain ⟨services, callers⟩ := site
      obtain ⟨earlier, rfl⟩ := List.getLast?_eq_some_iff.mp isLast
      rw [List.dropLast_concat]
      -- A caller that is done stays done, and any other goes on or makes a call that is answered.
      rcases plan.next_cases answer services with same | ⟨passed, same⟩ | ⟨_, called, same⟩
      · rw [same]
      · rw [same]
        exact .single (.passes passed)
      · rw [same]
        exact .single (.calls called (answers _ _))
    · exact .refl

end Site

end Intake
