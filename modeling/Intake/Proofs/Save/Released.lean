import Intake.Proofs.Concurrency.Solo
import Intake.Proofs.Memory.ClaimLifecycle
import Intake.Proofs.Plan.Outcome
import Intake.Proofs.Samples
import Intake.Proofs.Save.Scope

/-! What a save that may be tried again leaves of the claim on its key: the claim is released or about to
be, unless the save found it pending and failed before it went on from there. -/

namespace Intake

namespace ClaimIndex

/-- A claim stands in nobody's way: there is none, its message is stored, or it soon expires. -/
def Released (index : ClaimIndex) (key : ClaimKey) (now : Instant) : Prop :=
  ∀ entry, index.entry key now = some entry →
    entry.value.status = .committed ∨ entry.expiresAt ≤ now.plus index.lifetimes.rollback

/-- A claim that is rolled back is released. -/
theorem released_rollBack (index : ClaimIndex) (key : ClaimKey) (now : Instant) :
    (index.rollBack key now).Released key now := by
  intro entry found
  have lifetimes : (index.rollBack key now).lifetimes = index.lifetimes :=
    index.lifetimes_answer now (.rollBack key)
  rw [lifetimes]
  -- What the machine of the key leaves is committed, or shortened.
  have left := (index.entry_answer now (.rollBack key)).symm.trans found
  obtain ⟨left, _⟩ := Option.filter_eq_some_iff.mp left
  simp only [ClaimCall.key] at left
  rcases state : index.entry key now with _ | ⟨⟨serverId, fingerprint, _ | _⟩, expiresAt⟩
  · rw [state] at left
    cases left
  · rw [state] at left
    cases left
    exact .inr (Instant.earlier_le_right _ _)
  · rw [state] at left
    cases left
    exact .inl rfl

end ClaimIndex

namespace Service

/-- Calls on the index of claims. -/
def OnClaims : Request → Prop
  | .claim _ _ _ | .commitClaim _ _ _ | .renameClaim _ _ _ | .rollBackClaim _ => True
  | _ => False

/-- Calls by which a save claims its key and looks for its message. -/
def Looks (key : ClaimKey) (fingerprint : Fingerprint) : Request → Prop
  | .freshServerId => True
  | .claim claimed own _ => claimed = key ∧ own = fingerprint
  | .findByKey sought => sought = key
  | _ => False

end Service

/-- The services, and the calls that a save has made on them, the last one first. -/
structure Trail where
  services : World
  calls : List Service.Request

namespace Trail

/-- A call on the claims is answered by them, at whatever time. Any other service answers or fails as it
likes, and leaves the claims alone. -/
def Moves (request : Service.Request) (before : Trail) (reply : Service.Reply request)
    (after : Trail) : Prop :=
  after.calls = request :: before.calls ∧
    ((Service.OnClaims request ∧ ∃ now,
        World.answer request { before.services with clock := now } = (reply, after.services)) ∨
      (¬ Service.OnClaims request ∧ after.services.claims = before.services.claims))

/-- A call on the claims is answered by them. -/
theorem Moves.answered {request : Service.Request} {before after : Trail}
    {reply : Service.Reply request} (moved : Moves request before reply after)
    (onClaims : Service.OnClaims request) : ∃ now,
      World.answer request { before.services with clock := now } = (reply, after.services) :=
  -- A call on the claims is answered, and the other kind of move is excluded.
  moved.2.elim And.right fun elsewhere => absurd onClaims elsewhere.1

/-- What a deadline may cut: all that has not ended, but for a call on the claims, which answer at once. -/
def MayCut {α : Type} (plan : Procedure α) : Prop :=
  plan.Unfinished ∧ ∀ request reply rest, plan.Calls request reply rest → ¬ Service.OnClaims request

/-- No deadline cuts what has ended. -/
theorem not_mayCut_done {α : Type} (value : α) : ¬ MayCut (.done value) :=
  fun cut => Plan.not_unfinished_done value cut.1

/-- No deadline cuts a call on the claims. -/
theorem not_mayCut_call {α : Type} {request : Service.Request}
    (onClaims : Service.OnClaims request) (reply : Service.Reply request)
    (next : Service.Reply request → Procedure α) : ¬ MayCut (.ask request next) :=
  fun cut => cut.2 request reply (next reply) (Plan.Calls.ask (I := Intake.services) next) onClaims

/-- What waits makes no call until it wakes, so that a deadline may cut it. -/
theorem mayCut_of_waits {α : Type} {plan : Procedure α} (waits : plan.Waits) : MayCut plan := by
  -- The induction is on how the call would be reached, by way of deadlines around a wait.
  refine ⟨waits.unfinished, fun request reply rest called _ => ?_⟩
  induction called with
  | ask next => exact waits
  | within limit next _ ih => exact ih waits

/-- A save has done no more than to claim its key and to look for its message, which has left the claims as
they were. -/
structure Untouched (key : ClaimKey) (fingerprint : Fingerprint) (start trail : Trail) : Prop where
  claims : trail.services.claims = start.services.claims
  looked : ∀ request ∈ trail.calls, Service.Looks key fingerprint request

variable {key : ClaimKey} {fingerprint : Fingerprint} {start held : Trail}

/-- A look-up of the message leaves the claims as they were. -/
theorem Untouched.looks (untouched : Untouched key fingerprint start held) {request : Service.Request}
    {reply : Service.Reply request} {after : Trail} (looks : Service.Looks key fingerprint request)
    (elsewhere : ¬ Service.OnClaims request) (moved : Moves request held reply after) :
    Untouched key fingerprint start after := by
  -- A look at another service changes no claim, and it is what may be found on the trail.
  obtain ⟨calls, ⟨onClaims, _⟩ | ⟨_, kept⟩⟩ := moved
  · exact absurd onClaims elsewhere
  · refine ⟨kept.trans untouched.claims, ?_⟩
    rw [calls]
    exact List.forall_mem_cons.mpr ⟨looks, untouched.looked⟩

/-- Claiming a key is always answered. -/
theorem Moves.claimed {proposed : ServerId} {reply : Except ClaimError ClaimOutcome} {after : Trail}
    (moved : Moves (.claim key fingerprint proposed) held reply after) :
    ∃ answer, reply = .ok answer := by
  -- A claim is always answered in memory, at whatever time.
  obtain ⟨_, answered⟩ := moved.answered trivial
  exact ⟨_, (congrArg Prod.fst answered).symm⟩

/-- A claim that was found to be there is left as it was. -/
theorem Untouched.found (untouched : Untouched key fingerprint start held) {proposed : ServerId}
    {claim : Claim} {after : Trail}
    (moved : Moves (.claim key fingerprint proposed) held (.ok (.existing claim)) after) :
    Untouched key fingerprint start after ∧
      ∃ now entry, start.services.claims.entry key now = some entry ∧ entry.value = claim := by
  obtain ⟨now, answered⟩ := moved.answered trivial
  have outcome := Except.ok.inj (congrArg Prod.fst answered)
  have claims := congrArg (fun pair => pair.2.claims) answered
  -- Of a live claim the index says so, and changes nothing.
  have lives := ClaimIndex.live_of_existing outcome
  have same := congrArg Prod.snd (ClaimIndex.claim_of_live lives fingerprint proposed)
  refine ⟨⟨(claims.symm.trans same).trans untouched.claims, ?_⟩, now, ?_⟩
  · rw [moved.1]
    exact List.forall_mem_cons.mpr ⟨⟨rfl, rfl⟩, untouched.looked⟩
  · rw [← untouched.claims]
    exact Option.map_eq_some_iff.mp lives

/-- Claiming gives an answer, and when that is a claim that was there, it has left the claims as they were. -/
def Claimed {ε : Type} (key : ClaimKey) (fingerprint : Fingerprint) (start trail : Trail)
    (outcome : Except ε ClaimOutcome) : Prop :=
  ∃ answer, outcome = .ok answer ∧ ∀ claim, answer = .existing claim →
    Untouched key fingerprint start trail ∧
      ∃ now entry, start.services.claims.entry key now = some entry ∧ entry.value = claim

/-- A save that fails because it cannot look for its message has found a claim of its own fingerprint, and
has left it as it was. -/
structure Stopped (context : SaveContext) (key : ClaimKey) (fingerprint : Fingerprint)
    (start trail : Trail) (failure : SaveError) : Prop extends
    Untouched key fingerprint start trail where
  unseen : ∃ source, failure = .writeFailed context (.store source)
  found : ∃ now entry, start.services.claims.entry key now = some entry ∧
    entry.value.fingerprint = fingerprint

end Trail

namespace Save

variable {config : SaveConfig} {key : ClaimKey} {fingerprint : Fingerprint} {start held : Trail}

/-- Looking for the message leaves the claims as they were, and fails as the store does. -/
theorem findStored_untouched (context : SaveContext)
    (untouched : Trail.Untouched key fingerprint start held) :
    (findStored config context key).run.Ensures Trail.MayCut Trail.Moves
      (fun outcome after => Trail.Untouched key fingerprint start after ∧
        ∀ failure, outcome = .error failure → ∃ source, failure = .writeFailed context (.store source))
      held := by
  have asks : (Plan.retryTransient config.retry config.callTimeout "find_by_client_message"
      (Procedure.findByKey key)).Asks fun request => request = Service.Request.findByKey key :=
    .retryTransient (.call rfl)
  have kept : ∀ request held reply after, request = Service.Request.findByKey key →
      Trail.Untouched key fingerprint start held → Trail.Moves request held reply after →
        Trail.Untouched key fingerprint start after := by
    rintro request held reply after rfl untouched moved
    exact untouched.looks (by exact rfl) id moved
  -- Retrying and cutting add no other request, so that the trail stays one of looks.
  have looks : (Plan.retryTransient config.retry config.callTimeout "find_by_client_message"
      (Procedure.findByKey key)).Ensures Trail.MayCut Trail.Moves
      (fun _ => Trail.Untouched key fingerprint start) held :=
    .of_asks asks kept untouched
  refine .adapt (looks.mono fun outcome after untouched => ⟨untouched, fun failure failed => ?_⟩)
  cases outcome with
  | error source => exact ⟨source, (Except.error.inj failed).symm⟩
  | ok _ => cases failed

/-- Going on from a claim that was there, a save fails in a way that may pass only when it cannot look for
its message. -/
theorem resume_stops (context : SaveContext) {claim : Claim}
    (untouched : Trail.Untouched key fingerprint start held)
    (found : ∃ now entry, start.services.claims.entry key now = some entry ∧ entry.value = claim) :
    (resume config context key fingerprint claim).run.Ensures Trail.MayCut Trail.Moves
      (fun outcome after => ∀ failure, outcome = .error failure → failure.isRetryable = true →
        Trail.Stopped context key fingerprint start after failure) held := by
  unfold resume
  dsimp only
  split
  · refine .done fun failure failed retryable => ?_
    cases failed
    cases retryable
  rename_i same
  have own : claim.fingerprint = fingerprint := by simpa using same
  obtain ⟨now, entry, lives, rfl⟩ := found
  refine (findStored_untouched context untouched).attempt ?_ fun stored after _ => ?_
  · rintro failure after ⟨untouched, unseen⟩ _ failed _
    obtain rfl := Except.error.inj failed
    exact ⟨untouched, unseen failure rfl, now, entry, lives, own⟩
  -- Whatever is found, the save goes on to a receipt, or it fails for good.
  split
  · split
    · refine .done fun failure failed retryable => ?_
      cases failed
      cases retryable
    · split
      · exact .lift fun _ _ _ => .done fun _ failed => by cases failed
      · exact .done fun _ failed => by cases failed
  · refine .done fun failure failed retryable => ?_
    cases failed
    cases retryable
  · exact .done fun _ failed => by cases failed

/-- Claiming fails in a way that may pass only when the save cannot look for its message. -/
theorem claim_stops (context : SaveContext) (untouched : Trail.Untouched key fingerprint start held) :
    (claim config context key fingerprint).run.Ensures Trail.MayCut Trail.Moves
      (fun outcome after => ∀ failure, outcome = .error failure → failure.isRetryable = true →
        Trail.Stopped context key fingerprint start after failure) held := by
  -- The claims answer the first call on them, so that there is no second one.
  have claims : ∀ proposed held, Trail.Untouched key fingerprint start held →
      (Plan.retryTransient config.retry config.callTimeout "ensure_pending"
        (Procedure.claim key fingerprint proposed)).Ensures Trail.MayCut Trail.Moves
        (fun outcome after => Trail.Claimed key fingerprint start after outcome) held := by
    intro proposed held untouched
    refine .retryTransient (Trail.Untouched key fingerprint start) (fun held untouched => ?_) untouched
    refine .withDeadline_call rfl Trail.not_mayCut_done (fun reply after moved => ?_) fun cut =>
      absurd cut (Trail.not_mayCut_call (by exact trivial) (Except.ok (.created proposed)) _)
    obtain ⟨answer, rfl⟩ := moved.claimed
    refine ⟨⟨answer, rfl, ?_⟩, fun _ failed => by cases failed⟩
    rintro claim rfl
    exact untouched.found moved
  unfold claim
  refine .lift (.call fun proposed after moved => ?_)
  have untouched := untouched.looks (by exact trivial) id moved
  have renamed : (ExceptT.adapt (fun source => SaveError.writeFailed context (.claims source))
      (ExceptT.mk (Plan.retryTransient config.retry config.callTimeout "ensure_pending"
        (Procedure.claim key fingerprint proposed)))).run.Ensures Trail.MayCut Trail.Moves
      (fun outcome after => Trail.Claimed key fingerprint start after outcome) after :=
    .adapt ((claims proposed after untouched).mono fun outcome later claimed => by
      obtain ⟨answer, rfl, found⟩ := claimed
      exact ⟨answer, rfl, found⟩)
  -- So no claim call fails, and only what it answers is told apart.
  refine renamed.attempt (fun failure later claimed => ?_) fun outcome later claimed => ?_
  · obtain ⟨_, claimed, _⟩ := claimed
    cases claimed
  · obtain ⟨_, same, found⟩ := claimed
    obtain rfl := Except.ok.inj same
    cases outcome with
    | created serverId => exact .done fun _ failed => by cases failed
    | existing claim =>
      obtain ⟨untouched, lives⟩ := found claim rfl
      exact resume_stops context untouched lives

/-- Rolling a claim back releases it. -/
theorem rollBack_releases (held : Trail) :
    (rollBack config key).Ensures Trail.MayCut Trail.Moves
      (fun _ after => .rollBackClaim key ∈ after.calls ∧
        after.services.claims.Released key after.services.clock) held := by
  -- The roll-back is answered before its deadline, since no claim call can be cut.
  refine .bind (.withDeadline_call rfl Trail.not_mayCut_done (fun reply after moved => .done ?_)
    fun cut => absurd cut (Trail.not_mayCut_call (by exact trivial) (Except.ok ()) _))
  obtain ⟨now, answered⟩ := moved.answered trivial
  have rolled : _ = after.services := congrArg Prod.snd answered
  rw [moved.1, ← rolled]
  exact ⟨List.mem_cons_self, ClaimIndex.released_rollBack _ key now⟩

/-- A save that fails in a way that may pass has rolled its claim back, or could not look for its message. -/
theorem save_releases_or_stops (allocator : Allocator) (submission : Submission) (start : World) :
    (save config allocator submission).Ensures Trail.MayCut Trail.Moves
      (fun outcome after => ∀ failure, outcome = .error failure → failure.isRetryable = true →
        (.rollBackClaim (.ofOrigin submission.origin) ∈ after.calls ∧
          after.services.claims.Released (.ofOrigin submission.origin) after.services.clock) ∨
        Trail.Stopped (.ofOrigin submission.origin) (.ofOrigin submission.origin)
          submission.fingerprint ⟨start, []⟩ after failure) ⟨start, []⟩ := by
  unfold save
  refine .bind ((claim_stops _ ⟨rfl, by simp⟩).mono fun outcome after stopped => ?_)
  split
  · exact .done fun failure failed retryable => .inr (stopped _ (by cases failed; rfl) retryable)
  · exact .done fun _ failed => by cases failed
  -- Once it goes on from its claim, the save rolls that back however it fails.
  · refine .bind fun outcome later _ => ?_
    dsimp only
    split
    · exact .done fun _ failed => by cases failed
    · exact .bind ((rollBack_releases later).mono fun _ _ released =>
        .done fun _ _ _ => .inl released)

end Save

/-- However a save fails in a way that may pass, its claim is released or about to be exactly if the save
has rolled it back, or if it was so at the start already. -/
theorem retryable_failure_released_iff {config : SaveConfig} {allocator : Allocator}
    {submission : Submission} {failure : SaveError} {start : World} {after : Trail}
    (failed : (save config allocator submission).Runs Trail.MayCut Trail.Moves ⟨start, []⟩
      (.done (.error failure)) after) (retryable : failure.isRetryable = true) :
    let key := ClaimKey.ofOrigin submission.origin
    (after.services.claims.Released key after.services.clock ↔
      .rollBackClaim key ∈ after.calls ∨ start.claims.Released key after.services.clock) ∧
    (.rollBackClaim key ∈ after.calls ∨
      Trail.Stopped (.ofOrigin submission.origin) key submission.fingerprint ⟨start, []⟩ after
        failure) := by
  intro key
  rcases Save.save_releases_or_stops allocator submission start _ after failed failure rfl retryable with
    ⟨rolled, released⟩ | stopped
  · exact ⟨⟨fun _ => .inl rolled, fun _ => released⟩, .inl rolled⟩
  -- Looking for a message rolls nothing back, and the claims are those of the start.
  · refine ⟨?_, .inr stopped⟩
    have unrolled : .rollBackClaim key ∉ after.calls := fun rolled => stopped.looked _ rolled
    rw [stopped.claims]
    exact ⟨.inr, fun released => released.resolve_left unrolled⟩

/-- Services in memory whose message store is down. -/
def World.answerUnstored : (request : Service.Request) → World → Service.Reply request × World
  | .insert _, w => (.error (.database "down"), w)
  | .findByKey _, w => (.error (.database "down"), w)
  | request, w => answer request w

/-- A save that is alone notes its calls, where the message store is down. -/
def Trail.noting (request : Service.Request) (trail : Trail) : Service.Reply request × Trail :=
  ((World.answerUnstored request trail.services).1,
    ⟨(World.answerUnstored request trail.services).2, request :: trail.calls⟩)

/-- Where only the message store is down, the claims answer, and no other service touches them. -/
theorem Trail.moves_of_noting {request : Service.Request} {held after : Trail}
    {reply : Service.Reply request} (noted : noting request held = (reply, after)) :
    Moves request held reply after := by
  -- The services answer at their own clock, which is one of those that a claim call may be answered at.
  obtain rfl := congrArg Prod.fst noted
  obtain rfl := congrArg Prod.snd noted
  refine ⟨rfl, ?_⟩
  cases request
  case claim | commitClaim | renameClaim | rollBackClaim =>
    exact .inl ⟨trivial, held.services.clock, rfl⟩
  all_goals exact .inr ⟨id, rfl⟩

/-- The save of a greeting that is alone where the message store is down. -/
def helloUnstored (start : World) : Except SaveError Receipt × Timeline Trail :=
  ((save .standard (.segmented .standard) Sample.hello).run fun request =>
    Timed.transform (Trail.noting request)).start ⟨start, []⟩

/-- The save of a greeting that fails takes steps that it may take. -/
theorem helloUnstored_runs {start : World} {failure : SaveError}
    (failed : (helloUnstored start).1 = .error failure) :
    (save .standard (.segmented .standard) Sample.hello).Runs Trail.MayCut Trail.Moves ⟨start, []⟩
      (.done (.error failure)) (helloUnstored start).2.state := by
  -- A rehearsal is one of the runs, and its calls are noted as the trail notes them.
  have started : helloUnstored start = (.error failure, (helloUnstored start).2) := by rw [← failed]
  have runs := Plan.runs_of_start started
  exact runs.map id (fun _ waits => Trail.mayCut_of_waits waits)
    fun _ _ _ _ moved => Trail.moves_of_noting moved

/-- A greeting that cannot be inserted leaves its claim about to be released. -/
theorem helloUnstored_released :
    let after := (helloUnstored Sample.services).2.state
    (helloUnstored Sample.services).1 =
        .error (.writeFailed (.ofOrigin Sample.origin) (.store (.database "down"))) ∧
      after.services.claims.Released (.ofOrigin Sample.origin) after.services.clock := by
  have failed : (helloUnstored Sample.services).1 =
      .error (.writeFailed (.ofOrigin Sample.origin) (.store (.database "down"))) := by
    decide +kernel
  refine ⟨failed, ?_⟩
  refine (retryable_failure_released_iff (helloUnstored_runs failed) rfl).1.mpr (.inl ?_)
  -- The roll-back is the last call on the trail.
  exact List.mem_of_mem_head? rfl

/-- Services in memory that hold a claim on a greeting, as a save leaves it that is still under way. -/
def helloClaimed : World :=
  (World.answer (.claim (.ofOrigin Sample.origin) Sample.hello.fingerprint ⟨Uuid.ofNat 1⟩)
    Sample.services).2

/-- A greeting that is claimed, and cannot be looked for, leaves its claim for much longer than a claim that
is rolled back. -/
theorem helloClaimed_not_released :
    let after := (helloUnstored helloClaimed).2.state
    (helloUnstored helloClaimed).1 =
        .error (.writeFailed (.ofOrigin Sample.origin) (.store (.database "down"))) ∧
      ¬ after.services.claims.Released (.ofOrigin Sample.origin) after.services.clock := by
  -- Released would mean that the claim is committed or soon gone, and it is pending for long.
  intro after
  refine ⟨by decide +kernel, fun released => ?_⟩
  rcases released _ rfl with committed | soon
  · cases committed
  · exact absurd soon (by decide +kernel)

end Intake
