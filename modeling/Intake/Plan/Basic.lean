import Intake.Time.Duration

/-! Plans: programs as trees of requests, waits and deadlines, apart from whatever answers them. -/

namespace Intake

/-- What a plan may ask for: the requests, and the type of the reply to each. -/
structure Interface where
  Request : Type
  Reply : Request → Type

/-- A program that asks, waits, and bounds the time of a part of itself. -/
inductive Plan (I : Interface) : Type → Type 1 where
  | done {α : Type} (value : α) : Plan I α
  | ask {α : Type} (request : I.Request) (next : I.Reply request → Plan I α) : Plan I α
  | sleep {α : Type} (span : Duration) (next : Plan I α) : Plan I α
  | within {α β : Type} (limit : Duration) (body : Plan I β) (next : Option β → Plan I α) : Plan I α

namespace Plan

variable {I : Interface} {α β γ : Type}

/-- One plan after another, the second made from the first one's value. -/
def bind : {α : Type} → Plan I α → (α → Plan I β) → Plan I β
  | _, .done value, after => after value
  | _, .ask request next, after => .ask request fun reply => (next reply).bind after
  | _, .sleep span next, after => .sleep span (next.bind after)
  -- Only what follows the deadline is extended, so the bounded part stays as it is.
  | _, .within limit body next, after => .within limit body fun outcome => (next outcome).bind after

instance : Monad (Plan I) where
  pure := .done
  bind := .bind

/-- The plan of a single request. -/
def request (r : I.Request) : Plan I (I.Reply r) := .ask r .done

/-- The plan of a single wait. -/
def pause (span : Duration) : Plan I Unit := .sleep span (.done ())

/-- Nothing changes when a plan is followed by the mere answer of its value. -/
theorem bind_done (plan : Plan I α) : plan.bind .done = plan := by
  -- What follows a bounded part is bound as well, while the part itself stays as it is.
  induction plan with
  | done value => rfl
  | ask request next ih => simp only [bind, ih]
  | sleep span next ih => simp only [bind, ih]
  | within limit body next _ ih => simp only [bind, ih]

/-- Three plans in a row may be grouped either way. -/
theorem bind_assoc (plan : Plan I α) (second : α → Plan I β) (third : β → Plan I γ) :
    (plan.bind second).bind third = plan.bind fun value => (second value).bind third := by
  -- Only what follows the first plan is rearranged, so the induction is on that plan alone.
  induction plan with
  | done value => rfl
  | ask request next ih => simp only [bind, ih]
  | sleep span next ih => simp only [bind, ih]
  | within limit body next _ ih => simp only [bind, ih]

instance : LawfulMonad (Plan I) :=
  LawfulMonad.mk' _ (fun plan => bind_done plan) (fun _ _ => rfl)
    (fun plan second third => bind_assoc plan second third)

end Plan

end Intake
