import Intake.Proofs.Concurrency.Schedule
import Intake.Proofs.Numbering.Accounting
import Intake.Proofs.Samples

/-! A call for a number gives up only after it was overtaken: each of its rounds found a block used up by
others, to whom the block's last number had been granted in the meantime. -/

namespace Intake

/-- The call in a place began when so much was reserved. -/
def BeganAt (place mark : Nat) (pursuits : List Pursuit) : Prop :=
  ∃ pursuit, pursuits[place]? = some pursuit ∧ pursuit.since = mark

namespace BeganAt

variable {place mark : Nat} {pursuits : List Pursuit}

/-- A call that begins is the last one. -/
theorem last (pursuits : List Pursuit) (pursuit : Pursuit) :
    BeganAt pursuits.length pursuit.since (pursuits ++ [pursuit]) :=
  ⟨pursuit, List.getElem?_concat_length, rfl⟩

/-- Other calls may begin. -/
theorem join (began : BeganAt place mark pursuits) (pursuit : Pursuit) :
    BeganAt place mark (pursuits ++ [pursuit]) := by
  -- A new caller comes last, behind the place that is spoken of.
  obtain ⟨earlier, atPlace, since⟩ := began
  have inside := (List.getElem?_eq_some_iff.mp atPlace).1
  exact ⟨earlier, by rw [List.getElem?_append_left inside, atPlace], since⟩

/-- Any call may go on that does not forget what was reserved when it began. -/
theorem set (began : BeganAt place mark pursuits) {place' : Nat} {pursuit after : Pursuit}
    (atPlace : pursuits[place']? = some pursuit) (since : after.since = pursuit.since) :
    BeganAt place mark (pursuits.set place' after) := by
  -- It is that call itself which goes on, or another one.
  obtain ⟨earlier, at', same⟩ := began
  by_cases here : place' = place
  · subst here
    rw [atPlace] at at'
    cases at'
    have inside := (List.getElem?_eq_some_iff.mp atPlace).1
    exact ⟨after, List.getElem?_set_self inside, since.trans same⟩
  · exact ⟨earlier, by rw [List.getElem?_set_ne here, at'], same⟩

end BeganAt

/-- How a call for one number ends after as many rounds as it is allowed. -/
def Contender.Ends (contender : Contender) : Except AllocationError Grant → Pursuit → Prop :=
  Pursuit.Ends (max 1 contender.maxAttempts.toNat)

namespace Site

variable {conversation : Conversation} {lifetime : Duration} {w : World}
  {site site' : Site Intake.services World fun _ : Contender => Except AllocationError Grant}

/-- The caller in a place has been granted a number. -/
def Granted (site : Site Intake.services World fun _ : Contender => Except AllocationError Grant)
    (place : Nat) (number : SequenceNumber) : Prop :=
  ∃ caller, site.callers[place]? = some caller ∧ caller.plan.Granted number

/-- At all points of a run all is accounted for. -/
theorem contending_upholds (reached : Reached (contending conversation lifetime) w site)
    (fresh : w.clock < w.clock.plus lifetime)
    (empty : w.segments.entries.find? conversation = none) :
    site.Upholds (pursuing conversation lifetime) Contender.Ends
      (Contested conversation lifetime) := by
  -- A call that begins notes what is reserved, and every call that is made is answered in order.
  apply upholds_of_reached reached (.opening fresh empty)
  · exact fun _ _ contender contested =>
      ⟨_, Segmented.allocate_pursues ⟨contender.blockSize, lifetime, contender.maxAttempts⟩ _ _,
        contested.join⟩
  · intro before _ _ _ request reply after contested atPlace permitted reacted
    have answered : World.answer request before = (reply, after) := reacted
    obtain ⟨goal, moved, goesOn⟩ := contested.answer atPlace permitted
    rw [answered] at moved goesOn
    exact ⟨goal, moved, goesOn⟩
  · exact fun _ _ _ contested ticked => contested.ticks ticked

/-- From where a call begins all is accounted for, and that call knows what was reserved then. -/
theorem contending_leads {holdings : List Pursuit} (contender : Contender)
    (contested : Contested conversation lifetime site.services holdings)
    (keep : CallersKeep (pursuing conversation lifetime) Contender.Ends site.callers holdings)
    (run : Relation.ReflTransGen (Step (contending conversation lifetime))
      { site with callers := site.callers ++
          [⟨contender, (contending conversation lifetime).begins contender⟩] } site') :
    site'.Upholds (pursuing conversation lifetime) Contender.Ends fun after pursuits =>
      Contested conversation lifetime after pursuits ∧
        BeganAt site.callers.length (site.services.ledger.issued conversation) pursuits := by
  -- The call joins those that are accounted for, and what it knows of its beginning stays with it.
  have begins : ∀ (contender : Contender) (since : Nat),
      ((contending conversation lifetime).begins contender).Keeps (pursuing conversation lifetime)
        (fun _ => True) contender.Ends ⟨since, [], .looks⟩ := fun contender since =>
    Segmented.allocate_pursues ⟨contender.blockSize, lifetime, contender.maxAttempts⟩ _ since
  have joined := BeganAt.last holdings ⟨site.services.ledger.issued conversation, [], .looks⟩
  rw [keep.1] at joined
  have start : Upholds (pursuing conversation lifetime) Contender.Ends (fun after pursuits =>
        Contested conversation lifetime after pursuits ∧
          BeganAt site.callers.length (site.services.ledger.issued conversation) pursuits)
      { site with callers := site.callers ++
          [⟨contender, (contending conversation lifetime).begins contender⟩] } :=
    ⟨_, ⟨contested.join, joined⟩, keep.append (begins contender _)⟩
  refine start.leads run ?_ ?_ ?_
  · rintro before pursuits contender ⟨contested, began⟩
    exact ⟨_, begins contender _, contested.join, began.join _⟩
  · rintro before pursuits place pursuit request reply after ⟨contested, began⟩ atPlace permitted reacted
    have answered : World.answer request before = (reply, after) := reacted
    obtain ⟨goal, moved, goesOn⟩ := contested.answer atPlace permitted
    rw [answered] at moved goesOn
    exact ⟨goal, moved, goesOn, began.set atPlace (pursuing_since permitted moved)⟩
  · rintro before pursuits after ⟨contested, began⟩ ticked
    exact ⟨contested.ticks ticked, began⟩

end Site

/-- A call that has exhausted its rounds was overtaken: while it ran, other calls were granted at least as
many different numbers as it was allowed rounds, and at least one. -/
theorem exhausted_after_others_granted {clock : Instant} {lifetimes : ClaimLifetimes}
    {ready : List ServerId} {ledger : Ledger} {conversation : Conversation} {lifetime : Duration}
    (fresh : clock < clock.plus lifetime)
    {site site' : Site services World fun _ : Contender => Except AllocationError Grant}
    (reached : Site.Reached (contending conversation lifetime)
      { World.fresh clock lifetimes ready with ledger } site)
    (contender : Contender)
    (run : Relation.ReflTransGen (Site.Step (contending conversation lifetime))
      { site with callers := site.callers ++
          [⟨contender, (contending conversation lifetime).begins contender⟩] } site')
    {other : Conversation} {limit : UInt32}
    (gaveUp : site'.callers[site.callers.length]? =
      some ⟨contender, .done (.error (.retriesExhausted other limit))⟩) :
    ∃ numbers : List SequenceNumber, numbers.Nodup ∧
      max 1 contender.maxAttempts.toNat ≤ numbers.length ∧
      ∀ number ∈ numbers,
        (∃ place, place ≠ site.callers.length ∧ site'.Granted place number) ∧
        ∀ place, ¬ site.Granted place number := by
  -- All is accounted for when the call begins, and when it gives up.
  obtain ⟨holdings, contested, keep⟩ := Site.contending_upholds reached fresh rfl
  obtain ⟨pursuits, ⟨contested', pursuit, atPlace, since⟩, keep'⟩ :=
    Site.contending_leads contender contested keep run
  obtain ⟨_, untaken, enough⟩ := keep'.2 _ _ _ gaveUp atPlace
  have sound := contested'.calls pursuit (List.mem_of_getElem? atPlace)
  -- The numbers are those that the call has noted, one at the end of each round.
  refine ⟨pursuit.passed, ?_, enough other limit rfl, fun number member => ?_⟩
  · refine sound.rising.imp fun below => ?_
    rintro rfl
    exact Nat.lt_irrefl _ below
  obtain ⟨above, _, taker, holder, took⟩ := sound.passed number member
  refine ⟨?_, fun place granted => ?_⟩
  · -- Whoever has taken it is not the call that gave up, which has taken nothing.
    obtain ⟨place, held⟩ := List.mem_iff_getElem?.mp holder
    have inside : place < site'.callers.length := by
      rw [← keep'.1]; exact (List.getElem?_eq_some_iff.mp held).1
    have atTaker := List.getElem?_eq_getElem inside
    refine ⟨place, ?_, _, atTaker, (keep'.2 _ _ _ atTaker held).granted took⟩
    rintro rfl
    rw [atPlace] at held
    cases held
    exact untaken number took
  · -- What was granted when the call began had been reserved by then.
    obtain ⟨caller, atCaller, granted⟩ := granted
    obtain ⟨earlier, held, keeps⟩ := keep.held atCaller
    have reserved := (contested.calls earlier (List.mem_of_getElem? held)).stage
    simp only [Pursuit.StageSound, keeps.granted_iff.mp granted] at reserved
    omega

/-- Two calls with blocks of a single number that have begun. -/
def twoContenders : Site services World fun _ : Contender => Except AllocationError Grant :=
  let contender : Contender := ⟨.fixed 1, 1⟩
  ⟨Sample.services, [contender, contender].map fun contender =>
    ⟨contender, (contending Sample.conversation (Duration.ofSeconds 3600)).begins contender⟩⟩

/-- A call of two rounds that begins after them, and caches a block in each round that one of the others
takes the number of. -/
def thirdContender : Site services World fun _ : Contender => Except AllocationError Grant :=
  let contender : Contender := ⟨.fixed 1, 2⟩
  [2, 2, 2, 0, 2, 2, 2, 2, 1, 2].foldl (Site.turn World.answer)
    { twoContenders with callers := twoContenders.callers ++ [⟨contender,
      (contending Sample.conversation (Duration.ofSeconds 3600)).begins contender⟩] }

/-- The call gives up after both of its rounds, in which the others were granted a number each. -/
theorem overtaken_in_both_rounds :
    thirdContender.callers[2]? =
      some ⟨⟨.fixed 1, 2⟩, .done (.error (.retriesExhausted Sample.conversation 2))⟩ ∧
    ∃ numbers : List SequenceNumber, numbers.Nodup ∧ 2 ≤ numbers.length ∧
      ∀ number ∈ numbers, (∃ place, place ≠ 2 ∧ thirdContender.Granted place number) ∧
        ∀ place, ¬ twoContenders.Granted place number := by
  -- Each block of one number that the call caches is used up by another call before it looks again.
  have gaveUp : thirdContender.callers[2]? =
      some ⟨⟨.fixed 1, 2⟩, .done (.error (.retriesExhausted Sample.conversation 2))⟩ := rfl
  have reached : Site.Reached (contending Sample.conversation (Duration.ofSeconds 3600))
      { World.fresh Sample.clock .standard [] with ledger := .empty } twoContenders :=
    Site.Reached.opens.begin [(⟨.fixed 1, 1⟩ : Contender), ⟨.fixed 1, 1⟩]
  exact ⟨gaveUp, exhausted_after_others_granted (by decide) reached ⟨.fixed 1, 2⟩
    (Site.leads_of_turns (fun _ _ => rfl) _ _) gaveUp⟩

end Intake
