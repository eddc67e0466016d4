import Intake.Proofs.Plan.Protocol

/-! Callers at work on shared services, their calls interleaved in any order. -/

namespace Intake

/-- A job under way: what was asked for, and what is left of its plan. -/
structure Caller (I : Interface) {J : Type} (R : J → Type) where
  job : J
  plan : Plan I (R job)

/-- Shared services and everyone at work on them. A caller that gives up just takes no more steps. -/
structure Site (I : Interface) (σ : Type) {J : Type} (R : J → Type) where
  services : σ
  callers : List (Caller I R)

/-- How services react to a call, how they change by themselves, and how each job begins. -/
structure Setting (I : Interface) (σ : Type) {J : Type} (R : J → Type) where
  reacts : (request : I.Request) → σ → I.Reply request → σ → Prop
  drifts : σ → σ → Prop
  begins : (job : J) → Plan I (R job)

namespace Site

variable {I : Interface} {σ J H : Type} {R : J → Type}

/-- One step of a site: a job begins, a caller makes one call or goes on without one, or the
services change by themselves. -/
inductive Step (setting : Setting I σ R) : Site I σ R → Site I σ R → Prop where
  | starts (site : Site I σ R) (job : J) :
      Step setting site { site with callers := site.callers ++ [⟨job, setting.begins job⟩] }
  | calls {site : Site I σ R} {place : Nat} {job : J} {plan rest : Plan I (R job)}
      {request : I.Request} {reply : I.Reply request} {services : σ} :
      site.callers[place]? = some ⟨job, plan⟩ → Plan.Calls request reply plan rest →
        setting.reacts request site.services reply services →
        Step setting site ⟨services, site.callers.set place ⟨job, rest⟩⟩
  | passes {site : Site I σ R} {place : Nat} {job : J} {plan rest : Plan I (R job)} :
      site.callers[place]? = some ⟨job, plan⟩ → Plan.Passes plan rest →
        Step setting site { site with callers := site.callers.set place ⟨job, rest⟩ }
  | drifts {site : Site I σ R} {services : σ} :
      setting.drifts site.services services → Step setting site { site with services }

/-- The sites that services without callers may come to. -/
inductive Reached (setting : Setting I σ R) (services : σ) : Site I σ R → Prop where
  | opens : Reached setting services ⟨services, []⟩
  | step {site site' : Site I σ R} :
      Reached setting services site → Step setting site site' → Reached setting services site'

/-- Every caller's plan keeps the protocol from what that caller holds. -/
def CallersKeep (protocol : Protocol I H) (ends : (job : J) → R job → H → Prop)
    (callers : List (Caller I R)) (holdings : List H) : Prop :=
  holdings.length = callers.length ∧
    ∀ (place : Nat) (caller : Caller I R) (held : H), callers[place]? = some caller →
      holdings[place]? = some held →
      caller.plan.Keeps protocol (fun _ => True) (ends caller.job) held

/-- What holds of a site: of its services together with all that is held, and of its callers. -/
def Upholds (protocol : Protocol I H) (ends : (job : J) → R job → H → Prop)
    (sound : σ → List H → Prop) (site : Site I σ R) : Prop :=
  ∃ holdings : List H, sound site.services holdings ∧
    CallersKeep protocol ends site.callers holdings

namespace CallersKeep

variable {protocol : Protocol I H} {ends : (job : J) → R job → H → Prop}
  {callers : List (Caller I R)} {holdings : List H}

/-- Every caller holds something. -/
theorem held (keep : CallersKeep protocol ends callers holdings) {place : Nat}
    {caller : Caller I R} (atCaller : callers[place]? = some caller) :
    ∃ held, holdings[place]? = some held ∧
      caller.plan.Keeps protocol (fun _ => True) (ends caller.job) held := by
  -- There is something held for each caller, so the place of a caller is also one of the holdings.
  have inside : place < holdings.length := by
    rw [keep.1]; exact (List.getElem?_eq_some_iff.mp atCaller).1
  have atHeld := List.getElem?_eq_getElem inside
  exact ⟨_, atHeld, keep.2 place caller _ atCaller atHeld⟩

/-- A caller's plan may be replaced by one that keeps the protocol from what is held in its place. -/
theorem set (keep : CallersKeep protocol ends callers holdings) {place : Nat} {job : J}
    {rest : Plan I (R job)} {after : H}
    (keeps : rest.Keeps protocol (fun _ => True) (ends job) after) :
    CallersKeep protocol ends (callers.set place ⟨job, rest⟩) (holdings.set place after) := by
  -- In its place the new plan goes with what is held anew. Every other caller keeps its own.
  refine ⟨by simp [keep.1], fun place' caller held atCaller atHeld => ?_⟩
  by_cases same : place = place'
  · subst same
    simp only [List.getElem?_set, ↓reduceIte] at atCaller atHeld
    split at atCaller <;> simp at atCaller
    split at atHeld <;> simp at atHeld
    subst atCaller atHeld
    exact keeps
  · rw [List.getElem?_set_ne same] at atCaller atHeld
    exact keep.2 place' caller held atCaller atHeld

/-- Another caller may join with a plan that keeps the protocol from what it brings. -/
theorem append (keep : CallersKeep protocol ends callers holdings) {job : J} {plan : Plan I (R job)}
    {brought : H} (keeps : plan.Keeps protocol (fun _ => True) (ends job) brought) :
    CallersKeep protocol ends (callers ++ [⟨job, plan⟩]) (holdings ++ [brought]) := by
  -- The caller that joins comes last among the callers, and what it brings last among the holdings.
  refine ⟨by simp [keep.1], fun place caller held atCaller atHeld => ?_⟩
  have aligned := keep.1
  rcases Nat.lt_or_ge place callers.length with before | behind
  · rw [List.getElem?_append_left before] at atCaller
    rw [List.getElem?_append_left (by omega)] at atHeld
    exact keep.2 place caller held atCaller atHeld
  · rw [List.getElem?_append_right behind, List.getElem?_singleton] at atCaller
    rw [List.getElem?_append_right (by omega), List.getElem?_singleton] at atHeld
    split at atCaller <;> simp at atCaller
    split at atHeld <;> simp at atHeld
    subst atCaller atHeld
    exact keeps

/-- A caller that goes on without a call keeps the protocol from what it holds. -/
theorem passes (keep : CallersKeep protocol ends callers holdings) {place : Nat} {job : J}
    {plan rest : Plan I (R job)} (atPlace : callers[place]? = some ⟨job, plan⟩)
    (passed : Plan.Passes plan rest) :
    CallersKeep protocol ends (callers.set place ⟨job, rest⟩) holdings := by
  obtain ⟨held, atHeld, keeps⟩ := keep.held atPlace
  -- Without a call nothing is gained or lost.
  have unchanged : holdings.set place held = holdings := by
    obtain ⟨inside, rfl⟩ := List.getElem?_eq_some_iff.mp atHeld
    exact List.set_getElem_self inside
  exact unchanged ▸ keep.set (keeps.passes passed)

end CallersKeep

/-- A step adds jobs at the most, and leaves those that have begun in their places. -/
theorem Step.jobs_prefix {setting : Setting I σ R} {site site' : Site I σ R}
    (taken : Step setting site site') :
    site.callers.map (·.job) <+: site'.callers.map (·.job) := by
  -- A caller that takes a step keeps its job, so that replacing its plan replaces no job.
  have replaced : ∀ {place : Nat} {job : J} {plan : Plan I (R job)} (rest : Plan I (R job)),
      site.callers[place]? = some ⟨job, plan⟩ →
      (site.callers.set place ⟨job, rest⟩).map (·.job) = site.callers.map (·.job) := by
    intro place job plan rest atPlace
    obtain ⟨inside, here⟩ := List.getElem?_eq_some_iff.mp atPlace
    have inside' : place < (site.callers.map (·.job)).length := by simpa using inside
    have kept := List.set_getElem_self inside'
    rw [List.getElem_map, here] at kept
    rwa [List.map_set]
  cases taken with
  | starts job => simp
  | calls atPlace _ _ => exact (replaced _ atPlace).symm ▸ List.prefix_refl _
  | passes atPlace _ => exact (replaced _ atPlace).symm ▸ List.prefix_refl _
  | drifts _ => exact List.prefix_refl _

/-- The caller that began last stands behind all the others. -/
theorem getElem?_last (callers : List (Caller I R)) (last : Caller I R) :
    (callers ++ [last])[callers.length]? = some last := by simp

/-- Replacing the caller that began last replaces no other one. -/
theorem set_last (callers : List (Caller I R)) (last new : Caller I R) :
    (callers ++ [last]).set callers.length new = callers ++ [new] := by simp

/-- The caller that began last may make the next call of its plan. -/
theorem Step.calls_last {setting : Setting I σ R} {services services' : σ}
    {callers : List (Caller I R)} {job : J} {plan rest : Plan I (R job)} {request : I.Request}
    {reply : I.Reply request} (called : Plan.Calls request reply plan rest)
    (reacted : setting.reacts request services reply services') :
    Step setting ⟨services, callers ++ [(⟨job, plan⟩ : Caller I R)]⟩
      ⟨services', callers ++ [⟨job, rest⟩]⟩ := by
  -- The step replaces the caller at its place, which for the last one is the end of the list.
  have step : Step setting ⟨services, callers ++ [(⟨job, plan⟩ : Caller I R)]⟩ _ :=
    .calls (getElem?_last callers ⟨job, plan⟩) called reacted
  rwa [set_last] at step

/-- The caller that began last may go on without a call. -/
theorem Step.passes_last {setting : Setting I σ R} {services : σ} {callers : List (Caller I R)}
    {job : J} {plan rest : Plan I (R job)} (passed : Plan.Passes plan rest) :
    Step setting ⟨services, callers ++ [(⟨job, plan⟩ : Caller I R)]⟩
      ⟨services, callers ++ [⟨job, rest⟩]⟩ := by
  -- As for a call, the place of the last caller is the end of the list.
  have step : Step setting ⟨services, callers ++ [(⟨job, plan⟩ : Caller I R)]⟩ _ :=
    .passes (getElem?_last callers ⟨job, plan⟩) passed
  rwa [set_last] at step

/-- What a reached site may come to is reached. -/
theorem Reached.leads {setting : Setting I σ R} {services : σ} {site site' : Site I σ R}
    (reached : Reached setting services site)
    (run : Relation.ReflTransGen (Step setting) site site') : Reached setting services site' := by
  -- The steps of the run go on where the site was reached.
  induction run with
  | refl => exact reached
  | tail _ taken ih => exact ih.step taken

/-- What holds of the services at the opening and is kept by every call and every change of theirs
holds of them at all sites that are ever reached. -/
theorem Reached.services_keep {setting : Setting I σ R} {services : σ} {site : Site I σ R}
    (reached : Reached setting services site) {holds : σ → Prop} (opening : holds services)
    (calls : ∀ request before reply after, holds before → setting.reacts request before reply after →
      holds after)
    (drifts : ∀ before after, holds before → setting.drifts before after → holds after) :
    holds site.services := by
  -- The induction is on the steps of the run, two kinds of which leave the services alone.
  induction reached with
  | opens => exact opening
  | step _ taken ih =>
    cases taken with
    | starts job => exact ih
    | calls _ _ reacted => exact calls _ _ _ _ ih reacted
    | passes _ _ => exact ih
    | drifts drifted => exact drifts _ _ ih drifted

/-- A caller may go on without a call as often as its plan does. -/
theorem leads_of_passes {setting : Setting I σ R} {site : Site I σ R} {place : Nat} {job : J}
    {plan rest : Plan I (R job)} (atPlace : site.callers[place]? = some ⟨job, plan⟩)
    (passed : Relation.ReflTransGen Plan.Passes plan rest) :
    Relation.ReflTransGen (Step setting) site
      { site with callers := site.callers.set place ⟨job, rest⟩ } := by
  -- The induction is on what the plan goes through, each of it a step of the site.
  obtain ⟨inside, here⟩ := List.getElem?_eq_some_iff.mp atPlace
  induction passed with
  | refl =>
    rw [← here, List.set_getElem_self]
  | @tail middle rest _ passed ih =>
    refine ih.tail ?_
    have step : Step setting { site with callers := site.callers.set place ⟨job, middle⟩ }
        { site with callers := (site.callers.set place ⟨job, middle⟩).set place ⟨job, rest⟩ } :=
      .passes (List.getElem?_set_self inside) passed
    rwa [List.set_set] at step

section Upheld

variable {setting : Setting I σ R} {protocol : Protocol I H} {ends : (job : J) → R job → H → Prop}
  {sound : σ → List H → Prop}

/-- What holds of a site is kept by a step if it is kept by every call that the protocol permits, by
every change of the services, and by every job that begins and is then there. -/
theorem Upholds.step {site site' : Site I σ R} (upheld : site.Upholds protocol ends sound)
    (taken : Step setting site site')
    (starts : ∀ services holdings job, job ∈ site'.callers.map (·.job) → sound services holdings →
      ∃ held, (setting.begins job).Keeps protocol (fun _ => True) (ends job) held ∧
        sound services (holdings ++ [held]))
    (calls : ∀ services holdings place held request reply services', sound services holdings →
      holdings[place]? = some held → protocol.permits request held →
      setting.reacts request services reply services' → ∃ after,
        protocol.moves request held reply after ∧ sound services' (holdings.set place after))
    (drifts : ∀ services holdings services', sound services holdings →
      setting.drifts services services' → sound services' holdings) :
    site'.Upholds protocol ends sound := by
  -- There is one case for each way to take a step. Whoever takes it, the others hold what they held.
  obtain ⟨holdings, holds, keep⟩ := upheld
  cases taken with
  | starts job =>
    obtain ⟨held, keeps, holds⟩ := starts _ _ job (by simp) holds
    exact ⟨holdings ++ [held], holds, keep.append keeps⟩
  | @calls place job plan rest request reply services atPlace called reacted =>
    obtain ⟨held, atHeld, keeps⟩ := keep.held atPlace
    obtain ⟨permitted, goesOn⟩ := keeps.calls called
    obtain ⟨after, moved, holds⟩ := calls _ _ _ _ _ _ _ holds atHeld permitted reacted
    exact ⟨holdings.set place after, holds, keep.set (goesOn after moved)⟩
  | passes atPlace passed => exact ⟨holdings, holds, keep.passes atPlace passed⟩
  | drifts drifted => exact ⟨holdings, drifts _ _ _ holds drifted, keep⟩

/-- What holds of a site and is kept by every step holds of all sites that it may come to. -/
theorem Upholds.leads {site site' : Site I σ R} (upheld : site.Upholds protocol ends sound)
    (run : Relation.ReflTransGen (Step setting) site site')
    (starts : ∀ services holdings job, sound services holdings → ∃ held,
      (setting.begins job).Keeps protocol (fun _ => True) (ends job) held ∧
        sound services (holdings ++ [held]))
    (calls : ∀ services holdings place held request reply services', sound services holdings →
      holdings[place]? = some held → protocol.permits request held →
      setting.reacts request services reply services' → ∃ after,
        protocol.moves request held reply after ∧ sound services' (holdings.set place after))
    (drifts : ∀ services holdings services', sound services holdings →
      setting.drifts services services' → sound services' holdings) :
    site'.Upholds protocol ends sound := by
  -- The induction is on the steps of the run.
  induction run with
  | refl => exact upheld
  | tail _ taken ih =>
    exact ih.step taken (fun _ _ job _ holds => starts _ _ job holds) calls drifts

/-- What holds at the opening, and is kept by all that may happen when only jobs of one kind begin, holds
of all sites that are reached with such jobs. -/
theorem upholds_of_jobs {kind : J → Prop} {services : σ} {site : Site I σ R}
    (reached : Reached setting services site) (jobs : ∀ job ∈ site.callers.map (·.job), kind job)
    (opening : sound services [])
    (starts : ∀ services holdings job, kind job → sound services holdings → ∃ held,
      (setting.begins job).Keeps protocol (fun _ => True) (ends job) held ∧
        sound services (holdings ++ [held]))
    (calls : ∀ services holdings place held request reply services', sound services holdings →
      holdings[place]? = some held → protocol.permits request held →
      setting.reacts request services reply services' → ∃ after,
        protocol.moves request held reply after ∧ sound services' (holdings.set place after))
    (drifts : ∀ services holdings services', sound services holdings →
      setting.drifts services services' → sound services' holdings) :
    site.Upholds protocol ends sound := by
  -- The induction is on the steps of the run, none of which takes a job away.
  induction reached with
  -- Nobody is at work yet, so nothing is held.
  | opens => exact ⟨[], opening, rfl, by simp⟩
  | step _ taken ih =>
    refine (ih fun job member => jobs job (taken.jobs_prefix.subset member)).step taken ?_ calls drifts
    exact fun _ _ job member holds => starts _ _ job (jobs job member) holds

/-- What holds at the opening, and is kept by every permitted call, by every change of the services and by
every job that begins, holds of all sites that are ever reached. -/
theorem upholds_of_reached {services : σ} {site : Site I σ R}
    (reached : Reached setting services site) (opening : sound services [])
    (starts : ∀ services holdings job, sound services holdings → ∃ held,
      (setting.begins job).Keeps protocol (fun _ => True) (ends job) held ∧
        sound services (holdings ++ [held]))
    (calls : ∀ services holdings place held request reply services', sound services holdings →
      holdings[place]? = some held → protocol.permits request held →
      setting.reacts request services reply services' → ∃ after,
        protocol.moves request held reply after ∧ sound services' (holdings.set place after))
    (drifts : ∀ services holdings services', sound services holdings →
      setting.drifts services services' → sound services' holdings) :
    site.Upholds protocol ends sound :=
  -- A condition on jobs that all jobs meet leaves the general rule without one.
  upholds_of_jobs reached (fun _ _ => trivial) opening (fun _ _ job _ => starts _ _ job) calls drifts

end Upheld

end Site

end Intake
