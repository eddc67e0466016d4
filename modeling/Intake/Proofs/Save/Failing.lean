import Intake.Proofs.Concurrency.Solo
import Intake.Proofs.Memory.Shelf
import Intake.Proofs.Save.Course
import Intake.Proofs.Save.Preparation

/-! What a save has done that fails: nothing but to prepare its message, whatever went wrong and whatever
others have done in the meantime. -/

namespace Intake

/-- Nothing is committed: the messages, all committed claims and the marks of what is stored are as they
were. -/
structure World.CommitsNothing (before after : World) : Prop where
  store : after.store = before.store
  claims : ∀ key entry, entry.value.status = .committed →
    (before.claims.entry key before.clock = some entry ↔
      after.claims.entry key before.clock = some entry)
  marks : ∀ conversation,
    after.ledger.storedMarks conversation = before.ledger.storedMarks conversation

/-- What only prepares a message commits nothing. -/
theorem World.Prepared.commitsNothing {origin : Origin} {before after : World}
    (prepared : before.Prepared origin after) : before.CommitsNothing after where
  store := prepared.store
  claims := fun key _ committed => prepared.committed_entry_iff key committed
  marks := prepared.storedMarks

/-- What a call has done: the services right before it and right after it. -/
structure Deed where
  before : World
  after : World

namespace Deed

/-- A caller notes what each of its calls has done, the last one first. A call may fail in any way, but an
insert that fails has really not taken effect. -/
def Noted (request : Service.Request) (deeds : List Deed) (reply : Service.Reply request)
    (later : List Deed) : Prop :=
  ∃ deed : Deed, World.Reacts Service.Failed request deed.before reply deed.after ∧
    (∀ message, request = .insert message → Service.Failed request reply →
      deed.after.store = deed.before.store) ∧
    later = deed :: deeds

/-- A caller that is alone notes what every answer does to the services. -/
def noting (answer : (request : Service.Request) → World → Service.Reply request × World)
    (request : Service.Request) (s : World × List Deed) :
    Service.Reply request × (World × List Deed) :=
  ((answer request s.1).1, (answer request s.1).2, ⟨s.1, (answer request s.1).2⟩ :: s.2)

/-- The deeds lead from one state of the services to another, as nobody else has done anything. -/
inductive Led (start : World) : List Deed → World → Prop where
  | nothing : Led start [] start
  | next {deed : Deed} {earlier : List Deed} :
      Led start earlier deed.before → Led start (deed :: earlier) deed.after

/-- Where every deed only prepares a message, so do all of them together. -/
theorem prepared_of_led {origin : Origin} {start after : World} {deeds : List Deed}
    (led : Led start deeds after)
    (prepared : ∀ deed ∈ deeds, deed.before.Prepared origin deed.after) :
    start.Prepared origin after := by
  -- The induction is on the deeds, from the first one on.
  induction led with
  | nothing => exact .refl origin start
  | next _ ih =>
    obtain ⟨last, earlier⟩ := List.forall_mem_cons.mp prepared
    exact (ih earlier).trans last

/-- What a caller that is alone notes is what its calls have done, and these lead from the start to the
end of it. -/
theorem noted_of_started {answer : (request : Service.Request) → World → Service.Reply request × World}
    (fair : ∀ request w,
      World.Reacts Service.Failed request w (answer request w).1 (answer request w).2)
    (unstored : ∀ message w, Service.Failed (.insert message) (answer (.insert message) w).1 →
      (answer (.insert message) w).2.store = w.store)
    {α : Type} {plan : Procedure α} {start : World} {value : α} {line : Timeline (World × List Deed)}
    (started : (plan.run fun request => Timed.transform (noting answer request)).start (start, []) =
      (value, line)) :
    plan.Runs Plan.Unfinished Noted [] (.done value) line.state.2 ∧
      Led start line.state.2 line.state.1 := by
  -- What a lone caller notes is its deeds, and where it is is where these have led.
  have runs := Plan.runs_of_start started
  constructor
  · refine runs.map Prod.snd (fun _ waits => waits.unfinished) fun request held reply after moved => ?_
    obtain rfl := congrArg Prod.fst moved
    obtain rfl := congrArg Prod.snd moved
    refine ⟨⟨held.1, (answer request held.1).2⟩, fair request held.1, ?_, rfl⟩
    rintro message rfl failed
    exact unstored message held.1 failed
  · -- Every call goes on from where the one before it has left the services.
    have along : ∀ (request : Service.Request) (held : World × List Deed)
        (reply : Service.Reply request) (after : World × List Deed), Led start held.2 held.1 →
        Plan.Answered (I := services) (noting answer) request held reply after →
        Led start after.2 after.1 := by
      intro request held reply after led moved
      obtain rfl := congrArg Prod.snd moved
      exact .next led
    exact runs.kept along .nothing

/-- A call that prepares the message is one more deed that does. -/
theorem Noted.prepares {origin : Origin} {request : Service.Request} {reply : Service.Reply request}
    {deeds later : List Deed} (prepares : Service.Prepares origin request)
    (prepared : ∀ deed ∈ deeds, deed.before.Prepared origin deed.after)
    (noted : Noted request deeds reply later) :
    ∀ deed ∈ later, deed.before.Prepared origin deed.after := by
  -- The deed that is noted last is the only one that is not accounted for yet.
  obtain ⟨deed, reacted, _, rfl⟩ := noted
  exact List.forall_mem_cons.mpr ⟨.reacts prepares reacted, prepared⟩

end Deed

namespace Save

/-- Until a save ends, and whatever its calls come to, each of them only prepares the message. -/
theorem course_prepared (config : SaveConfig) (origin : Origin) (fingerprint : Fingerprint) :
    Course Plan.Unfinished Deed.Noted config origin fingerprint
      (fun deeds => ∀ deed ∈ deeds, deed.before.Prepared origin deed.after)
      (fun deeds => ∀ deed ∈ deeds, deed.before.Prepared origin deed.after)
      fun _ _ => True where
  uncut := Plan.not_unfinished_done
  prepares := fun _ _ _ _ prepares prepared noted => noted.prepares prepares prepared
  refused := by
    rintro message deeds failure _ _ prepared ⟨deed, reacted, unstored, rfl⟩
    have kept := unstored message rfl ⟨failure, rfl⟩
    exact List.forall_mem_cons.mpr ⟨.insert reacted kept, prepared⟩
  -- A save that goes on to a receipt does not fail, so that nothing is said of it.
  inserted := fun _ _ _ _ _ _ _ _ _ _ => trivial
  found := fun _ _ _ _ _ _ _ _ _ => trivial
  sees := fun _ _ _ _ prepared noted _ => noted.prepares (by exact rfl) prepared
  looks := fun _ _ _ prepared noted => noted.prepares (by exact rfl) prepared
  replays := fun _ _ _ _ _ _ => trivial
  lets := fun _ prepared => prepared

end Save

/-- However a save fails, and whatever others have done in between: each of its calls has only prepared
its message, and so have all of them together if it was alone. -/
theorem failed_save_commits_nothing {config : SaveConfig} {allocator : Allocator}
    {submission : Submission} {failure : SaveError} {deeds : List Deed}
    (failed : (save config allocator submission).Runs Plan.Unfinished Deed.Noted []
      (.done (.error failure)) deeds) :
    (∀ deed ∈ deeds, deed.before.CommitsNothing deed.after ∧
      deed.before.Prepared submission.origin deed.after) ∧
    ∀ start after, Deed.Led start deeds after →
      start.CommitsNothing after ∧ start.Prepared submission.origin after := by
  -- At the start nothing is done yet, and with a failure the save ends while it prepares.
  have course := Save.course_prepared config submission.origin submission.fingerprint
  have start : ∀ deed ∈ ([] : List Deed), deed.before.Prepared submission.origin deed.after := by simp
  have prepared : ∀ deed ∈ deeds, deed.before.Prepared submission.origin deed.after :=
    course.save allocator start _ deeds failed
  constructor
  · intro deed member
    exact ⟨(prepared deed member).commitsNothing, prepared deed member⟩
  · intro start after led
    have whole := Deed.prepared_of_led led prepared
    exact ⟨whole.commitsNothing, whole⟩

/-- Services in memory where no counter can be started, and no lock be given back. -/
def World.answerStuck : (request : Service.Request) → World → Service.Reply request × World
  | .seedCounter _ _ _, w => (.error (.unavailable "down"), w)
  | .unlock _ _, w => (.error (.unavailable "down"), w)
  | request, w => answer request w

/-- Such services still react as services may. -/
theorem World.answerStuck_fair (request : Service.Request) (w : World) :
    Reacts Service.Failed request w (answerStuck request w).1 (answerStuck request w).2 := by
  -- Only these two requests fail, and both of them without an effect.
  cases request
  case seedCounter => exact .failsBefore ⟨_, rfl⟩
  case unlock => exact .failsBefore ⟨_, rfl⟩
  all_goals exact .answers

/-- Such services do not store what they refuse. -/
theorem World.answerStuck_insert (message : Message) (w : World)
    (failed : Service.Failed (.insert message) (answerStuck (.insert message) w).1) :
    (answerStuck (.insert message) w).2.store = w.store := by
  -- An insert is among the calls that these services answer as usual.
  obtain ⟨failure, refused⟩ := failed
  exact MessageStore.kept_of_refused refused

/-- The save of a greeting that is alone and whose number cannot be counted, with what it has done. -/
def helloStuck : Except SaveError Receipt × Timeline (World × List Deed) :=
  ((save .standard (.singleCounter .standard) Sample.hello).run fun request =>
    Timed.transform (Deed.noting World.answerStuck request)).start (Sample.services, [])

/-- A greeting that cannot be counted is not saved, and has committed nothing. -/
theorem helloStuck_commits_nothing :
    helloStuck.1 = .error (.allocation (.ofOrigin Sample.origin) (.cache (.unavailable "down"))) ∧
      Sample.services.CommitsNothing helloStuck.2.state.1 := by
  have failed : helloStuck.1 =
      .error (.allocation (.ofOrigin Sample.origin) (.cache (.unavailable "down"))) := by
    decide +kernel
  -- The run itself is one of those that may be, with a failure at its end.
  have started : helloStuck =
      (.error (.allocation (.ofOrigin Sample.origin) (.cache (.unavailable "down"))), helloStuck.2) := by
    rw [← failed]
  obtain ⟨runs, led⟩ := Deed.noted_of_started World.answerStuck_fair World.answerStuck_insert started
  exact ⟨failed, ((failed_save_commits_nothing runs).2 _ _ led).1⟩

/-- A greeting that cannot be counted leaves the lock of its conversation behind, which was free before. -/
theorem helloStuck_keeps_lock :
    ∃ failure, helloStuck.1 = .error failure ∧
      (Sample.services.counters.lock Sample.conversation (.named "other") (Duration.ofSeconds 5)
        Sample.services.clock).1 = true ∧
      (helloStuck.2.state.1.counters.lock Sample.conversation (.named "other") (Duration.ofSeconds 5)
        helloStuck.2.state.1.clock).1 = false := by
  -- Another owner tries the lock before the save and after it, at the time that each has come to.
  exact ⟨.allocation (.ofOrigin Sample.origin) (.cache (.unavailable "down")), by decide +kernel⟩

end Intake
