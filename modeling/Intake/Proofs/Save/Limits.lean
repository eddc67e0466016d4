import Intake.Proofs.Samples
import Intake.Proofs.Save.Calls
import Intake.Proofs.Save.Setbacks

/-! How long a save goes on inserting. Whatever the store answers to its inserts, the save puts up with as
many setbacks of each kind as it is set to, and draws a new number for every place that was taken. -/

namespace Intake

/-- The claims and the look-ups answer a save, and its pending claim stays live. -/
def Service.Obliges : (request : Request) → Reply request → Prop
  | .claim _ _ _, reply => ∃ outcome, reply = .ok outcome
  | .renameClaim _ _ _, reply => reply = .ok true
  | .findByKey _, reply => ∃ found, reply = .ok found
  | .greatestSequence _, reply => ∃ greatest, reply = .ok greatest
  | _, _ => True

namespace Account

variable {account : Account}

/-- A caller keeps account of its calls, and the services stand by it. -/
def Obliged (request : Service.Request) (account : Account) (reply : Service.Reply request)
    (after : Account) : Prop :=
  Service.Obliges request reply ∧ Noted request account reply after

/-- Nothing is added by a plan that makes only calls of which no account is kept. -/
theorem unchanged_obliged {α : Type} {plan : Procedure α} (asks : plan.Asks Unnoted) :
    plan.Ensures Plan.Waits Obliged (fun _ after => after = account) account :=
  (unchanged asks).narrow fun _ _ _ _ moved => moved.2

/-- A call that the services answer is answered at the first attempt, and adds nothing. -/
theorem answered_at_once {ε ε' α : Type} [Transient ε] {rename : ε → ε'} {policy : RetryPolicy}
    {limit : Duration} {operation : String} {request : Service.Request}
    {attempt : Procedure (Except ε α)} {next : Service.Reply request → Except ε α} {good : α → Prop}
    (single : attempt = .ask request fun reply => .done (next reply)) (unnoted : Unnoted request)
    (answers : ∀ reply, Service.Obliges request reply → ∃ value, next reply = .ok value ∧ good value) :
    (ExceptT.adapt rename
      (ExceptT.mk (Plan.retryTransient policy limit operation attempt))).run.Ensures Plan.Waits Obliged
      (fun outcome after => after = account ∧ ∃ value, outcome = .ok value ∧ good value) account := by
  -- The call is no insert and no grant, and an answered call is not made again.
  have once : (Plan.retryTransient policy limit operation attempt).Ensures Plan.Waits Obliged
      (fun outcome after => after = account ∧ ∃ value, outcome = .ok value ∧ good value) account := by
    refine .retryTransient (· = account) ?_ rfl
    rintro _ rfl
    refine .withDeadline_call single Plan.not_waits_done (fun reply after moved => ?_) fun waits => ?_
    · obtain ⟨obliges, noted⟩ := moved
      obtain ⟨value, answered, holds⟩ := answers reply obliges
      obtain rfl : after = _ := noted.trans (note_of_unnoted unnoted _ reply)
      exact ⟨⟨rfl, value, answered, holds⟩, fun _ _ => rfl⟩
    -- A call waits for nothing, so that its deadline cannot cut it.
    · subst single
      exact waits.elim
  refine .adapt (once.mono fun outcome after ended => ?_)
  obtain ⟨same, value, rfl, holds⟩ := ended
  exact ⟨same, value, rfl, holds⟩

end Account

namespace Save

open Account Inserted

variable {config : SaveConfig} {account : Account}

/-- Looking for a message gives an answer. -/
theorem findStored_answers (context : SaveContext) (key : ClaimKey) :
    (findStored config context key).run.Ensures Plan.Waits Obliged
      (fun outcome after => after = account ∧ ∃ found, outcome = .ok found ∧ True) account :=
  answered_at_once rfl trivial fun _ obliges => obliges.imp fun _ same => ⟨same, trivial⟩

/-- Marking a claim as committed adds nothing. -/
theorem promote_unnoted (key : ClaimKey) (stored : Message) :
    (promote config key stored).Asks Unnoted :=
  (promote_asks key stored).permits_one trivial

/-- A save whose message is stored answers its receipt. -/
theorem finish_ends (message : Message) :
    (finish config message).Ensures Plan.Waits Obliged
      (fun receipt after => after = account ∧ receipt = message.receipt) account := by
  -- Promoting and recording are both unnoted, whatever they come to.
  refine .bind ((unchanged_obliged (promote_unnoted message.key message)).mono ?_)
  rintro _ _ rfl
  refine .bind ((unchanged_obliged (.withDeadline (.adapt (.call trivial)))).mono ?_)
  rintro _ _ rfl
  exact .done ⟨rfl, rfl⟩

/-- Rolling a claim back adds nothing. -/
theorem rollBack_unnoted (key : ClaimKey) : (rollBack config key).Asks Unnoted :=
  (rollBack_asks key).permits_one trivial

/-- Ending a save with what another one has stored adds nothing, and comes to that one's receipt or to a
conflict. -/
theorem adopt_adopts (draft : Draft) (winner : Message) :
    (adopt config draft winner).run.Ensures Plan.Waits Obliged
      (fun outcome after => after = account ∧
        outcome = adopted draft.context draft.fingerprint (some winner)) account := by
  -- The contents are compared before the claim is marked, and failing to mark it changes nothing.
  unfold adopt
  dsimp only
  split
  · rename_i differ
    exact .done ⟨rfl, (if_neg differ).symm⟩
  · rename_i same
    refine .lift ((unchanged_obliged (promote_unnoted draft.key winner)).mono ?_)
    rintro _ _ rfl
    exact .done ⟨rfl, (if_pos (Decidable.not_not.mp same)).symm⟩

/-- Looking for what another save has stored adds nothing, and what is found is adopted. -/
theorem adoptWinner_adopts (draft : Draft) :
    (adoptWinner config draft).run.Ensures Plan.Waits Obliged
      (fun outcome after => after = account ∧
        ∃ row, outcome = adopted draft.context draft.fingerprint row) account := by
  -- The look-up answers, so that the save cannot end for want of an answer.
  unfold adoptWinner
  refine (findStored_answers draft.context draft.key).attempt ?_ ?_
  · rintro failure after ⟨_, _, impossible, _⟩
    cases impossible
  · rintro found after ⟨rfl, _⟩
    cases found with
    | some winner => exact (adopt_adopts draft winner).mono fun _ _ ended => ⟨ended.1, _, ended.2⟩
    | none => exact .done ⟨rfl, none, rfl⟩

/-- Going on from an earlier claim adds nothing, and gives up no write. -/
theorem resume_decided (context : SaveContext) (key : ClaimKey) (fingerprint : Fingerprint)
    (claim : Claim) :
    (resume config context key fingerprint claim).run.Ensures Plan.Waits Obliged
      (fun outcome after => after = account ∧ Decided outcome) account := by
  -- The only call that could fail a write is the look at the store, and that is always answered.
  unfold resume
  dsimp only
  split
  · exact .done ⟨rfl, fun _ _ same => by cases same⟩
  refine (findStored_answers context key).attempt ?_ ?_
  · rintro failure after ⟨_, _, impossible, _⟩
    cases impossible
  · rintro found after ⟨rfl, _⟩
    split
    · split
      · exact .done ⟨rfl, fun _ _ same => by cases same⟩
      · split
        · refine .lift ((unchanged_obliged (promote_unnoted key _)).mono ?_)
          rintro _ _ rfl
          exact .done ⟨rfl, fun _ _ same => by cases same⟩
        · exact .done ⟨rfl, fun _ _ same => by cases same⟩
    · exact .done ⟨rfl, fun _ _ same => by cases same⟩
    · exact .done ⟨rfl, fun _ _ same => by cases same⟩

/-- Claiming a key adds nothing, and gives up no write. -/
theorem claim_decided (context : SaveContext) (key : ClaimKey) (fingerprint : Fingerprint) :
    (claim config context key fingerprint).run.Ensures Plan.Waits Obliged
      (fun outcome after => after = account ∧ Decided outcome) account := by
  unfold claim
  refine .lift ((unchanged_obliged (show Procedure.freshServerId.Asks Unnoted from
    .call trivial)).mono ?_)
  rintro proposed after rfl
  -- Claiming is answered at the first attempt, so that no write of it is given up.
  have answered : (ExceptT.adapt (fun source => SaveError.writeFailed context (.claims source))
      (ExceptT.mk (Plan.retryTransient config.retry config.callTimeout "ensure_pending"
        (Procedure.claim key fingerprint proposed)))).run.Ensures Plan.Waits Obliged
      (fun outcome later => later = after ∧ ∃ found, outcome = .ok found ∧ True) after :=
    answered_at_once rfl trivial fun _ obliges => obliges.imp fun _ same => ⟨same, trivial⟩
  refine answered.attempt ?_ ?_
  · rintro failure later ⟨_, _, impossible, _⟩
    cases impossible
  · rintro outcome later ⟨rfl, _⟩
    cases outcome with
    | created serverId => exact .done ⟨rfl, fun _ _ same => by cases same⟩
    | existing claim => exact resume_decided context key fingerprint claim

/-- As its claim stays live, a draft gets another identifier, and nothing is added. -/
theorem rename_answers (draft : Draft) :
    (rename config draft).run.Ensures Plan.Waits Obliged
      (fun outcome after => after = account ∧
        ∃ serverId, outcome = .ok (.draft { draft with serverId })) account := by
  unfold rename
  refine .lift ((unchanged_obliged (show Procedure.freshServerId.Asks Unnoted from
    .call trivial)).mono ?_)
  rintro candidate after rfl
  -- The swap succeeds under the obligation, so that the branch of the winner is never entered.
  have swapped : (ExceptT.adapt (fun source => SaveError.writeFailed draft.context (.claims source))
      (ExceptT.mk (Plan.retryTransient config.retry config.callTimeout "update_server_id_if_pending"
        (Procedure.renameClaim draft.key draft.fingerprint candidate)))).run.Ensures Plan.Waits Obliged
      (fun outcome later => later = after ∧ ∃ swapped, outcome = .ok swapped ∧ swapped = true) after :=
    answered_at_once rfl trivial fun _ obliges => ⟨true, obliges, rfl⟩
  refine swapped.attempt ?_ ?_
  · rintro failure later ⟨_, _, impossible, _⟩
    cases impossible
  · rintro outcome later ⟨rfl, _, same, rfl⟩
    obtain rfl := Except.ok.inj same
    exact .done ⟨rfl, candidate, rfl⟩

/-- A draft whose place was taken draws another number. -/
theorem renumber_draws (allocator : Allocator) (draft : Draft) (occupied : SequenceNumber) :
    (renumber config allocator draft occupied).run.Ensures Plan.Waits Obliged
      (account.Draws draft.context) account := by
  unfold renumber
  have greatest : (ExceptT.adapt (fun source => SaveError.writeFailed draft.context (.store source))
      (ExceptT.mk (Plan.retryTransient config.retry config.callTimeout "max_sequence"
        (Procedure.greatestSequence draft.conversation)))).run.Ensures Plan.Waits Obliged
      (fun outcome after => after = account ∧ ∃ greatest, outcome = .ok greatest ∧ True) account :=
    answered_at_once rfl trivial fun _ obliges => obliges.imp fun _ same => ⟨same, trivial⟩
  refine greatest.attempt ?_ ?_
  · rintro failure later ⟨_, _, impossible, _⟩
    cases impossible
  rintro greatest after ⟨rfl, _⟩
  dsimp only
  -- The allocator is moved past the floor, or fails without having granted anything.
  refine .bind (.bind ((unchanged_obliged (.withDeadline (allocator.reconcile_unnoted _ _))).mono ?_))
  rintro outcome later rfl
  cases outcome with
  | error source =>
    exact .done (.done ⟨.refl _, fun _ same => (by cases same),
      fun _ same => by cases same; exact ⟨source, rfl⟩⟩)
  | ok _ => exact .done ((allocate_draws config allocator draft later).narrow fun _ _ _ _ moved => moved.2)

/-- However many rounds are left, a save that inserts from where it stands ends within its limits. -/
theorem insertIn_withinLimits (allocator : Allocator)
    (conflictsBelow : config.maxSequenceConflicts.toNat < 4294967295)
    (collisionsBelow : config.maxServerIdCollisions.toNat < 4294967295) (rounds : Nat) :
    ∀ (setbacks : Setbacks) (draft : Draft) (sequence : SequenceNumber) (account : Account),
      account.Standing config setbacks sequence →
      roundLimit config ≤ rounds + account.inserts.length →
      (insertIn config allocator rounds setbacks draft sequence).run.Ensures Plan.Waits Obliged
        (fun outcome after => after.WithinLimits config draft.context outcome) account := by
  -- The induction is on the rounds that are left. They suffice, as every one used up is a setback.
  induction rounds with
  | zero =>
    intro setbacks draft sequence account standing enough
    have fewer := standing.mended.length_lt
    simp only [Account.answers, List.length_map] at fewer
    omega
  | succ rounds ih =>
    intro setbacks draft sequence account standing enough
    unfold insertIn
    refine .lift ((unchanged_obliged (show Procedure.now.Asks Unnoted from .call trivial)).mono ?_)
    rintro now before rfl
    have inserts : (Plan.withDeadline "insert" config.callTimeout
        (Procedure.insert (draft.message sequence now))).Ensures Plan.Waits Obliged
        (fun inserted after => after = before.insert (draft.message sequence now) inserted) before :=
      .withDeadline_call rfl Plan.not_waits_done (fun _ _ moved => moved.2) fun waits => waits.elim
    refine .lift (inserts.mono ?_)
    rintro inserted _ rfl
    have less : roundLimit config ≤
        rounds + (before.insert (draft.message sequence now) inserted).inserts.length := by
      simp only [inserts_insert, List.length_append, List.length_singleton]
      omega
    -- One case for each answer: stored, or the key, the identifier or the place was taken, or failed.
    split
    · refine .liftLast ((finish_ends _).mono ?_)
      rintro _ _ ⟨rfl, rfl⟩
      exact standing.withinLimits rfl .stored
    · refine (adoptWinner_adopts draft).mono ?_
      rintro _ _ ⟨rfl, row, rfl⟩
      exact standing.withinLimits rfl (.found row)
    · dsimp only
      split
      · rename_i above
        exact .done (standing.withinLimits rfl (standing.collided collisionsBelow above))
      -- A new identifier is always to be had, so that the save goes on at the same number.
      · rename_i within
        refine (rename_answers draft).attempt ?_ ?_
        · rintro failure after ⟨_, _, impossible⟩
          cases impossible
        · rintro renamed after ⟨rfl, serverId, same⟩
          obtain rfl := Except.ok.inj same
          exact ih _ { draft with serverId } sequence _ (standing.collision rfl collisionsBelow within _)
            less
    · dsimp only
      split
      · rename_i above
        exact .done (standing.withinLimits rfl (standing.conflicted conflictsBelow above))
      -- Another number need not be to be had, and then the save ends with the allocator.
      · rename_i within
        refine (renumber_draws allocator draft _).attempt ?_ ?_
        · intro failure after draws
          obtain ⟨source, rfl⟩ := draws.failed failure rfl
          exact withinLimits_of_closes standing.mended
            ((standing.numbered_insert rfl _).onlyGrants draws.only) draws.only.inserts
            (standing.unnumbered conflictsBelow within source) fun served => absurd rfl (served source)
        · intro next after draws
          obtain rfl := draws.drawn next rfl
          exact ih _ draft next _ (standing.conflict rfl conflictsBelow within _ _ next) less
    · rename_i failure keyFree identifierFree placeFree
      split
      · rename_i passing
        dsimp only
        split
        · rename_i spent
          exact .done (standing.withinLimits rfl (standing.gaveUp passing spent))
        · rename_i left
          exact .lift (.sleep (.done (ih _ draft sequence _ (standing.failure rfl left passing) less)))
      -- A failure that lasts is none of the answers that have a case of their own above.
      · rename_i lasting
        have unconflicted : isConflict (.error failure) = false := by
          cases failure <;> first | rfl | exact (placeFree _ _ rfl).elim
        have uncollided : isCollision (.error failure) = false := by
          cases failure <;> first | rfl | exact (identifierFree _ rfl).elim
        exact .done (standing.withinLimits rfl
          (.refused (by simpa using lasting) keyFree unconflicted uncollided))

/-- A save that the services stand by ends within its limits, whatever the store answers to its inserts. -/
theorem save_withinLimits (allocator : Allocator) (submission : Submission)
    (conflictsBelow : config.maxSequenceConflicts.toNat < 4294967295)
    (collisionsBelow : config.maxServerIdCollisions.toNat < 4294967295) :
    (Intake.save config allocator submission).Ensures Plan.Waits Obliged
      (fun outcome after => after.WithinLimits config (.ofOrigin submission.origin) outcome)
      opening := by
  unfold Intake.save
  dsimp only
  refine .bind ((claim_decided _ _ _).mono ?_)
  rintro claimed after ⟨rfl, decided⟩
  split
  -- A save that ends while claiming has made no insert at all.
  · exact .done (withinLimits_of_none rfl fun context reason same => by
      cases same
      exact decided context reason rfl)
  · exact .done (withinLimits_of_none rfl fun _ _ same => by cases same)
  · rename_i serverId
    let draft : Draft :=
      ⟨submission.origin, submission.payload, submission.fingerprint, serverId⟩
    -- The first number is one grant with no insert, from where the loop keeps its standing.
    have commits : (Save.commit config allocator draft).run.Ensures Plan.Waits Obliged
        (fun outcome after => after.WithinLimits config draft.context outcome) opening := by
      have draws : (Save.allocate config allocator draft).run.Ensures Plan.Waits Obliged
          (opening.Draws draft.context) opening :=
        (allocate_draws config allocator draft opening).narrow fun _ _ _ _ moved => moved.2
      refine draws.attempt ?_ ?_
      · intro failure after draws
        -- Without a first number nothing was inserted either.
        obtain ⟨source, rfl⟩ := draws.failed failure rfl
        exact withinLimits_of_none draws.only.inserts (decided_ofAllocation draft.context source)
      · intro sequence after draws
        obtain rfl := draws.drawn sequence rfl
        exact insertIn_withinLimits allocator conflictsBelow collisionsBelow _ _ draft sequence _
          (standing_granted config sequence) (Nat.le_add_right _ _)
    refine .bind (commits.mono fun outcome after within => ?_)
    split
    · exact .done within
    -- Rolling back comes after the account is closed.
    · refine .bind ((unchanged_obliged (rollBack_unnoted draft.key)).mono ?_)
      rintro _ _ rfl
      exact .done within

end Save

/-- Whatever the store answers to the inserts of a save, and whatever the allocator does: as long as the
claims and the look-ups answer, the save ends within its limits. -/
theorem save_ends_withinLimits {σ : Type}
    {answer : (request : Service.Request) → σ → Service.Reply request × σ}
    (obliges : ∀ request s, Service.Obliges request (answer request s).1) (config : SaveConfig)
    (allocator : Allocator) (submission : Submission) (s : σ)
    (conflictsBelow : config.maxSequenceConflicts.toNat < 4294967295)
    (collisionsBelow : config.maxServerIdCollisions.toNat < 4294967295) :
    let ended := Account.kept answer (save config allocator submission) s
    ended.2.WithinLimits config (.ofOrigin submission.origin) ended.1 := by
  intro ended
  -- The account that a lone caller keeps of its calls is moved by each of them as by a reply to it.
  rcases started : ((save config allocator submission).run fun request =>
    Timed.transform (Account.noting answer request)).start (s, Account.opening) with ⟨outcome, line⟩
  have runs : (save config allocator submission).Runs Plan.Waits Account.Obliged Account.opening
      (.done outcome) line.state.2 := by
    refine (Plan.runs_of_start started).map Prod.snd (fun _ waits => waits) ?_
    intro request held reply after answered
    obtain rfl := congrArg Prod.fst answered
    obtain rfl := congrArg Prod.snd answered
    exact ⟨obliges request held.1, rfl⟩
  have same : ended = (outcome, line.state.2) := by
    simp only [ended, Account.kept, started]
    rfl
  rw [same]
  exact Save.save_withinLimits allocator submission conflictsBelow collisionsBelow _ _ runs

/-- Services in memory whose store answers inserts from a script, and where pending claims stay live. -/
def World.answerScripted : (request : Service.Request) → World × List Inserted →
    Service.Reply request × (World × List Inserted)
  | .insert _, (w, answer :: script) => (answer, w, script)
  | .insert _, (w, []) => (.ok (), w, [])
  | .renameClaim _ _ _, s => (.ok true, s)
  | request, (w, script) => ((answer request w).1, (answer request w).2, script)

/-- Four places that are taken, with an identifier that is taken and a failure that may pass in between. -/
def fourConflicts : List Inserted :=
  [.error (.duplicateSequence Sample.conversation ⟨1⟩), .error (.duplicateServerId ⟨Uuid.ofNat 1⟩),
    .error (.duplicateSequence Sample.conversation ⟨5⟩), .error (.unavailable "down"),
    .error (.duplicateSequence Sample.conversation ⟨7⟩), .error (.duplicateSequence Sample.conversation ⟨9⟩)]

/-- The standard settings put up with three conflicts, so that the fourth one ends the save of a greeting,
after four grants of which each is for a conflict but the first. -/
theorem fourth_conflict_gives_up :
    let ended := Account.kept World.answerScripted
      (save .standard (.segmented .standard) Sample.hello) (Sample.services, fourConflicts)
    ended.1 = .error (.writeFailed (.ofOrigin Sample.origin) (.sequenceConflicts 4)) ∧
      ended.2.grants.length = 4 ∧ ended.2.Numbered := by
  intro ended
  -- The script only speaks of inserts, and the services themselves fulfil the other obligations.
  have obliges : ∀ request s, Service.Obliges request (World.answerScripted request s).1 := by
    rintro request ⟨w, script⟩
    cases request
    case claim => exact ⟨_, rfl⟩
    case renameClaim => rfl
    case findByKey => exact ⟨_, rfl⟩
    case greatestSequence => exact ⟨_, rfl⟩
    all_goals trivial
  have within := save_ends_withinLimits obliges .standard (.segmented .standard) Sample.hello
    (Sample.services, fourConflicts) (by decide) (by decide)
  refine ⟨(within.conflicts_iff 4).mpr ⟨by decide +kernel, rfl⟩, ?_, within.numbered⟩
  decide +kernel

end Intake
