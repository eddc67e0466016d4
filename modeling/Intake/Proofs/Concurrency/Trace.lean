import Intake.Proofs.Concurrency.Site

/-! Runs of a site with a record of the calls made, and what each caller's own calls say of it. -/

namespace Intake

/-- A call that was made: whose it was, what was asked for and answered, and the services around it. -/
structure Exchange (I : Interface) (σ : Type) where
  place : Nat
  request : I.Request
  reply : I.Reply request
  before : σ
  after : σ

namespace Site

variable {I : Interface} {σ J H : Type} {R : J → Type}

/-- The calls of the caller at a place, in order. -/
def callsOf (place : Nat) (past : List (Exchange I σ)) : List (Exchange I σ) :=
  past.filter (·.place = place)

/-- A call stands among its caller's own after the earlier ones of these. -/
theorem callsOf_split (earlier later : List (Exchange I σ)) (exchange : Exchange I σ) :
    callsOf exchange.place (earlier ++ exchange :: later) =
      callsOf exchange.place earlier ++ exchange :: callsOf exchange.place later := by
  simp [callsOf]

/-- A call of one caller is not among those of another. -/
theorem callsOf_append_of_ne (past : List (Exchange I σ)) {last : Exchange I σ} {place : Nat}
    (differ : place ≠ last.place) : callsOf place (past ++ [last]) = callsOf place past := by
  simp [callsOf, differ.symm]

/-- A call in the record is among its caller's own. -/
theorem mem_callsOf {past : List (Exchange I σ)} {exchange : Exchange I σ} {place : Nat} :
    exchange ∈ callsOf place past ↔ exchange ∈ past ∧ exchange.place = place := by
  simp [callsOf]

/-- The sites that services without callers may come to, with the calls that are made on the way. -/
inductive Traced (setting : Setting I σ R) (services : σ) :
    List (Exchange I σ) → Site I σ R → Prop where
  | opens : Traced setting services [] ⟨services, []⟩
  | starts {past : List (Exchange I σ)} {site : Site I σ R} (job : J) :
      Traced setting services past site →
        Traced setting services past
          { site with callers := site.callers ++ [⟨job, setting.begins job⟩] }
  | calls {past : List (Exchange I σ)} {site : Site I σ R} {place : Nat} {job : J}
      {plan rest : Plan I (R job)} {request : I.Request} {reply : I.Reply request} {after : σ} :
      Traced setting services past site → site.callers[place]? = some ⟨job, plan⟩ →
        Plan.Calls request reply plan rest → setting.reacts request site.services reply after →
        Traced setting services (past ++ [⟨place, request, reply, site.services, after⟩])
          ⟨after, site.callers.set place ⟨job, rest⟩⟩
  | passes {past : List (Exchange I σ)} {site : Site I σ R} {place : Nat} {job : J}
      {plan rest : Plan I (R job)} :
      Traced setting services past site → site.callers[place]? = some ⟨job, plan⟩ →
        Plan.Passes plan rest →
        Traced setting services past { site with callers := site.callers.set place ⟨job, rest⟩ }
  | drifts {past : List (Exchange I σ)} {site : Site I σ R} {after : σ} :
      Traced setting services past site → setting.drifts site.services after →
        Traced setting services past { site with services := after }

/-- Every site that is reached is reached with some record of calls. -/
theorem Reached.traced {setting : Setting I σ R} {services : σ} {site : Site I σ R}
    (reached : Reached setting services site) : ∃ past, Traced setting services past site := by
  -- The induction is on the steps of the run, of which only the calls are recorded.
  induction reached with
  | opens => exact ⟨[], .opens⟩
  | step _ taken ih =>
    obtain ⟨past, traced⟩ := ih
    cases taken with
    | starts job => exact ⟨past, traced.starts job⟩
    | calls atPlace called reacted => exact ⟨_, traced.calls atPlace called reacted⟩
    | passes atPlace passed => exact ⟨past, traced.passes atPlace passed⟩
    | drifts drifted => exact ⟨past, traced.drifts drifted⟩

/-- The services reacted to every call in the record. -/
theorem Traced.reacted {setting : Setting I σ R} {services : σ} {past : List (Exchange I σ)}
    {site : Site I σ R} (traced : Traced setting services past site) {exchange : Exchange I σ}
    (made : exchange ∈ past) :
    setting.reacts exchange.request exchange.before exchange.reply exchange.after := by
  -- The induction is on the steps of the run. Calls alone get into the record, each with its reaction.
  induction traced with
  | opens => simp at made
  | starts _ _ ih => exact ih made
  | calls _ _ _ reacted ih =>
    rcases List.mem_append.mp made with earlier | last
    · exact ih earlier
    · obtain rfl := List.mem_singleton.mp last
      exact reacted
  | passes _ _ _ ih => exact ih made
  | drifts _ _ ih => exact ih made

/-- Calls of one caller that follow a protocol lead from what it held first to what it holds after
them. -/
inductive Follows (protocol : Protocol I H) (first : H) : List (Exchange I σ) → H → Prop where
  | begins : Follows protocol first [] first
  | goesOn {own : List (Exchange I σ)} {exchange : Exchange I σ} {held after : H} :
      Follows protocol first own held → protocol.permits exchange.request held →
        protocol.moves exchange.request held exchange.reply after →
        Follows protocol first (own ++ [exchange]) after

namespace Follows

variable {protocol : Protocol I H} {first held : H}

/-- The last call is made at a point to which the others lead. -/
theorem last {own : List (Exchange I σ)} {exchange : Exchange I σ}
    (follows : Follows protocol first (own ++ [exchange]) held) :
    ∃ before, Follows protocol first own before ∧
      protocol.moves exchange.request before exchange.reply held := by
  -- A record that ends with a call has come about by that call.
  generalize same : own ++ [exchange] = all at follows
  cases follows with
  | begins => simp at same
  | goesOn follows _ moved =>
    obtain ⟨rfl, alike⟩ := List.append_inj' same rfl
    cases alike
    exact ⟨_, follows, moved⟩

/-- Calls that lead somewhere lead to a point between any two of them, and on from there. -/
theorem split {earlier later : List (Exchange I σ)}
    (follows : Follows protocol first (earlier ++ later) held) :
    ∃ middle, Follows protocol first earlier middle ∧ Follows protocol middle later held := by
  -- The induction is on all the calls. The last of them is the last of the later ones, if there are any.
  generalize same : earlier ++ later = all at follows
  induction follows generalizing later with
  | begins =>
    obtain ⟨rfl, rfl⟩ := List.append_eq_nil_iff.mp same
    exact ⟨first, .begins, .begins⟩
  | @goesOn own exchange _ _ follows permitted moved ih =>
    rcases List.eq_nil_or_concat later with rfl | ⟨later, last, rfl⟩
    · rw [List.append_nil] at same
      exact ⟨_, same ▸ follows.goesOn permitted moved, .begins⟩
    · rw [List.concat_eq_append, ← List.append_assoc] at same
      obtain ⟨shorter, alike⟩ := List.append_inj' same rfl
      cases alike
      obtain ⟨middle, before, after⟩ := ih shorter
      exact ⟨middle, before, List.concat_eq_append ▸ after.goesOn permitted moved⟩

/-- Every call is made at a point to which those before it lead, and moves its caller on from there. -/
theorem at_call {earlier later : List (Exchange I σ)} {exchange : Exchange I σ}
    (follows : Follows protocol first (earlier ++ exchange :: later) held) :
    ∃ before after, Follows protocol first earlier before ∧
      protocol.moves exchange.request before exchange.reply after ∧
      Follows protocol after later held := by
  -- The calls are split right behind this one, which is then the last of the first part.
  rw [List.append_cons] at follows
  obtain ⟨after, upTo, later⟩ := follows.split
  obtain ⟨before, upTo, moved⟩ := upTo.last
  exact ⟨before, after, upTo, moved, later⟩

end Follows

/-- What every place holds is what its own calls lead to. A place where nobody works yet holds what
everyone begins with. -/
def AllFollow (protocol : Protocol I H) (first : H) (past : List (Exchange I σ))
    (holdings : List H) : Prop :=
  ∀ place, Follows protocol first (callsOf place past) (holdings[place]?.getD first)

namespace AllFollow

variable {protocol : Protocol I H} {first : H} {past : List (Exchange I σ)} {holdings : List H}

/-- What a caller holds is what its own calls lead to. -/
theorem held (follow : AllFollow protocol first past holdings) {place : Nat} {held : H}
    (atHeld : holdings[place]? = some held) : Follows protocol first (callsOf place past) held := by
  have own := follow place
  rwa [atHeld, Option.getD_some] at own

/-- Another caller begins with what everyone does, and has made no calls. -/
theorem append (follow : AllFollow protocol first past holdings) :
    AllFollow protocol first past (holdings ++ [first]) := by
  -- The new place holds what it was taken to hold before anybody worked there.
  intro place
  have same : (holdings ++ [first])[place]?.getD first = holdings[place]?.getD first := by
    rcases Nat.lt_trichotomy place holdings.length with inside | rfl | behind
    · rw [List.getElem?_append_left inside]
    · simp
    · rw [List.getElem?_eq_none (by simp; omega), List.getElem?_eq_none (by omega)]
  rw [same]
  exact follow place

/-- A call that the protocol permits leads its caller on, and leaves the others where they were. -/
theorem call (follow : AllFollow protocol first past holdings) (last : Exchange I σ) {held after : H}
    (atHeld : holdings[last.place]? = some held) (permitted : protocol.permits last.request held)
    (moved : protocol.moves last.request held last.reply after) :
    AllFollow protocol first (past ++ [last]) (holdings.set last.place after) := by
  -- The call is added to the record of its place alone, where what is held changes with it.
  intro place
  by_cases same : place = last.place
  · subst same
    rw [callsOf_split, List.getElem?_set_self (List.getElem?_eq_some_iff.mp atHeld).1]
    exact (follow.held atHeld).goesOn permitted moved
  · rw [callsOf_append_of_ne past same, List.getElem?_set_ne (Ne.symm same)]
    exact follow place

end AllFollow

/-- What every permitted call and every change of the services keeps holds of all sites that are ever
reached, and every caller then keeps the protocol. -/
theorem Traced.upholds {setting : Setting I σ R} {protocol : Protocol I H} {first : H}
    {ends : (job : J) → R job → H → Prop} {sound : List (Exchange I σ) → σ → Prop} {services : σ}
    {past : List (Exchange I σ)} {site : Site I σ R} (traced : Traced setting services past site)
    (starts : ∀ job, (setting.begins job).Keeps protocol (fun _ => True) (ends job) first)
    (opening : sound [] services)
    (calls : ∀ past holdings held (last : Exchange I σ), sound past last.before →
      AllFollow protocol first past holdings → holdings[last.place]? = some held →
      protocol.permits last.request held →
      setting.reacts last.request last.before last.reply last.after →
      (∃ after, protocol.moves last.request held last.reply after) ∧
        sound (past ++ [last]) last.after)
    (drifts : ∀ past before after, sound past before → setting.drifts before after →
      sound past after) :
    sound past site.services ∧ ∃ holdings, CallersKeep protocol ends site.callers holdings ∧
      AllFollow protocol first past holdings := by
  -- The induction is on the steps of the run. Only a call adds to the record, and to that of its
  -- caller alone.
  induction traced with
  | opens => exact ⟨opening, [], ⟨rfl, by simp⟩, fun _ => .begins⟩
  | starts job _ ih =>
    obtain ⟨holds, holdings, keep, follow⟩ := ih
    exact ⟨holds, holdings ++ [first], keep.append (starts job), follow.append⟩
  | @calls past site place job plan rest request reply after _ atPlace called reacted ih =>
    obtain ⟨holds, holdings, keep, follow⟩ := ih
    obtain ⟨held, atHeld, keeps⟩ := keep.held atPlace
    obtain ⟨permitted, goesOn⟩ := keeps.calls called
    obtain ⟨⟨next, moved⟩, holds⟩ := calls past holdings held
      ⟨place, request, reply, site.services, after⟩ holds follow atHeld permitted reacted
    refine ⟨holds, holdings.set place next, keep.set (goesOn next moved), ?_⟩
    exact follow.call ⟨place, request, reply, site.services, after⟩ atHeld permitted moved
  | passes _ atPlace passed ih =>
    obtain ⟨holds, holdings, keep, follow⟩ := ih
    exact ⟨holds, holdings, keep.passes atPlace passed, follow⟩
  | drifts _ drifted ih =>
    obtain ⟨holds, rest⟩ := ih
    exact ⟨drifts _ _ _ holds drifted, rest⟩

end Site

end Intake
