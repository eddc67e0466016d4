import Intake.Proofs.Concurrency.Solo
import Intake.Proofs.Numbering.Gapless
import Intake.Save.Commit

/-! What is kept account of while a save runs: the inserts it has made, with the answers to them, and the
numbers that its allocations have granted. -/

namespace Intake

/-- What the store answers to an insert. An insert that takes too long is one that fails in that way. -/
abbrev Inserted := Except StoreError Unit

namespace Inserted

/-- Another message has the place. -/
def isConflict : Inserted → Bool
  | .error (.duplicateSequence _ _) => true
  | _ => false

/-- Another message has the identifier. -/
def isCollision : Inserted → Bool
  | .error (.duplicateServerId _) => true
  | _ => false

/-- The insert has failed in a way that may pass. -/
def mayPass : Inserted → Bool
  | .error failure => Transient.isTransient failure
  | .ok () => false

end Inserted

/-- The inserts made so far, each with the answer to it, and the first numbers of the ranges granted. -/
structure Account where
  inserts : List (Message × Inserted)
  grants : List SequenceNumber

namespace Account

/-- Nothing has been inserted or granted. -/
def opening : Account := ⟨[], []⟩

/-- The answers to all inserts. -/
def answers (account : Account) : List Inserted := account.inserts.map Prod.snd

/-- An insert that was answered. -/
def insert (account : Account) (message : Message) (answer : Inserted) : Account :=
  { account with inserts := account.inserts ++ [(message, answer)] }

/-- A range that was granted. -/
def grant (account : Account) (start : SequenceNumber) : Account :=
  { account with grants := account.grants ++ [start] }

@[simp] theorem inserts_insert (account : Account) (message : Message) (answer : Inserted) :
    (account.insert message answer).inserts = account.inserts ++ [(message, answer)] := rfl

@[simp] theorem grants_insert (account : Account) (message : Message) (answer : Inserted) :
    (account.insert message answer).grants = account.grants := rfl

@[simp] theorem answers_insert (account : Account) (message : Message) (answer : Inserted) :
    (account.insert message answer).answers = account.answers ++ [answer] := by
  simp [answers]

@[simp] theorem inserts_grant (account : Account) (start : SequenceNumber) :
    (account.grant start).inserts = account.inserts := rfl

@[simp] theorem grants_grant (account : Account) (start : SequenceNumber) :
    (account.grant start).grants = account.grants ++ [start] := rfl

@[simp] theorem answers_grant (account : Account) (start : SequenceNumber) :
    (account.grant start).answers = account.answers := rfl

/-- What a call adds: an insert its answer, and a call that numbers come from the range it gives. -/
def note (account : Account) : (request : Service.Request) → Service.Reply request → Account
  | .insert message, answer => account.insert message answer
  | .take _ _, .ok (.taken range) => account.grant range.start
  | .increment _ amount _, .ok (some last) => account.grant ⟨Word.saturatingSub last amount + 1⟩
  | _, _ => account

/-- Calls of which no account is kept. -/
def Unnoted : Service.Request → Prop
  | .insert _ | .take _ _ | .increment _ _ _ => False
  | _ => True

/-- A call of which no account is kept adds nothing. -/
theorem note_of_unnoted {request : Service.Request} (unnoted : Unnoted request) (account : Account)
    (reply : Service.Reply request) : account.note request reply = account := by
  cases request <;> first | rfl | exact unnoted.elim

/-- No account is kept of the start of a counter. -/
theorem unnoted_of_startsCounter {conversation : Conversation} {request : Service.Request}
    (starts : Service.StartsCounter conversation request) : Unnoted request := by
  cases request <;> trivial

/-- No account is kept of a move past a floor. -/
theorem unnoted_of_movesPast {conversation : Conversation} {request : Service.Request}
    (moves : Service.MovesPast conversation request) : Unnoted request := by
  cases request <;> trivial

/-- A caller keeps account of its calls, whatever they do otherwise. -/
def Noted (request : Service.Request) (account : Account) (reply : Service.Reply request)
    (after : Account) : Prop :=
  after = account.note request reply

/-- A caller whose calls are answered in the one way keeps account of them. -/
def noting {σ : Type} (answer : (request : Service.Request) → σ → Service.Reply request × σ)
    (request : Service.Request) (s : σ × Account) : Service.Reply request × (σ × Account) :=
  ((answer request s.1).1, (answer request s.1).2, s.2.note request (answer request s.1).1)

/-- What a plan ends with from the start of the clock, and the account that was kept of its calls. -/
def kept {σ α : Type} (answer : (request : Service.Request) → σ → Service.Reply request × σ)
    (plan : Procedure α) (s : σ) : α × Account :=
  ((plan.run fun request => Timed.transform (noting answer request)).start (s, opening)).map id
    fun line => line.state.2

/-- Nothing was inserted in the meantime, and what was granted stays so. -/
structure OnlyGrants (account after : Account) : Prop where
  inserts : after.inserts = account.inserts
  grants : account.grants <+: after.grants

/-- What an allocation adds: nothing but the range that it ends with. -/
structure Granted {ε : Type} (account : Account) (outcome : Except ε Grant) (after : Account) :
    Prop where
  only : account.OnlyGrants after
  granted : ∀ granted, outcome = .ok granted → after = account.grant granted.start

/-- What a save's drawing of a number adds: nothing but the range that it ends with. It fails as the
allocator does. -/
structure Draws (context : SaveContext) (account : Account) (outcome : Except SaveError SequenceNumber)
    (after : Account) : Prop where
  only : account.OnlyGrants after
  drawn : ∀ sequence, outcome = .ok sequence → after = account.grant sequence
  failed : ∀ failure, outcome = .error failure → ∃ source, failure = .ofAllocation context source

/-- Where nothing has happened, nothing was inserted. -/
theorem OnlyGrants.refl (account : Account) : account.OnlyGrants account :=
  ⟨rfl, List.prefix_refl account.grants⟩

/-- A call about numbers only grants. -/
theorem onlyGrants_note {conversation : Conversation} {request : Service.Request}
    (about : Service.NumbersOf conversation request) (account : Account)
    (reply : Service.Reply request) : account.OnlyGrants (account.note request reply) := by
  cases request
  case insert => exact about.elim
  -- Among the requests of an allocation only these two hand numbers out.
  case take =>
    rcases reply with _ | range | _
    · exact .refl account
    · exact ⟨rfl, List.prefix_append account.grants [range.start]⟩
    · exact .refl account
    · exact .refl account
  case increment =>
    rcases reply with _ | _ | last
    · exact .refl account
    · exact .refl account
    · exact ⟨rfl, List.prefix_append account.grants _⟩
  all_goals exact .refl account

variable {account after : Account} {cuts : {β : Type} → Procedure β → Prop}

/-- An allocation only grants, however far it has come. -/
theorem onlyGrants_of_allocating {allocator : Allocator} {conversation : Conversation} {need : UInt64}
    {rest : Procedure (Except AllocationError Grant)}
    (runs : (allocator.allocate conversation need).run.Runs cuts Noted account rest after) :
    account.OnlyGrants after := by
  -- An allocation never asks for an insert, so that its calls can only add grants.
  have kept : ∀ request held reply after, Service.NumbersOf conversation request →
      account.OnlyGrants held → Noted request held reply after → account.OnlyGrants after := by
    rintro request held reply _ about only rfl
    have noted := onlyGrants_note about held reply
    exact ⟨noted.inserts.trans only.inserts, only.grants.trans noted.grants⟩
  exact runs.of_asks (allocator.allocate_asks conversation need) kept (.refl account)

/-- Nothing is added by a plan that makes only calls of which no account is kept. -/
theorem unchanged {α : Type} {plan : Procedure α} (asks : plan.Asks Unnoted) :
    plan.Ensures cuts Noted (fun _ after => after = account) account := by
  -- Each of the calls is unnoted, so that it leaves the account as it was.
  refine .of_asks asks ?_ rfl
  rintro request held reply _ unnoted rfl rfl
  exact note_of_unnoted unnoted held reply

/-- Run alone, a plan ends with the account that it ensures. -/
theorem completes_noting {σ α : Type}
    {answer : (request : Service.Request) → σ → Service.Reply request × σ} {plan : Procedure α}
    {ends : α → σ → Prop} {ends' : α → Account → Prop} {s : σ}
    (completes : plan.Completes answer ends s) (ensures : plan.Ensures cuts Noted ends' account) :
    plan.Completes (noting answer) (fun value after => ends value after.1 ∧ ends' value after.2)
      (s, account) := by
  -- The induction is on the plan. A bounded part ends where what follows it ensures the rest.
  induction plan generalizing s account with
  | done value => exact ⟨completes, ensures value account (.stays _ _)⟩
  | ask request next ih =>
    exact ih _ completes fun value after runs => ensures value after (.calls (.ask next) rfl runs)
  | sleep span next => exact completes
  | within limit body next ihBody ihNext =>
    have bounded : body.Ensures cuts Noted
        (fun part held => (next (some part)).Ensures cuts Noted ends' held) account :=
      fun part held ran value after runs =>
        ensures value after ((ran.within limit next).trans (.goes (.inTime limit part next) runs))
    exact (ihBody completes bounded).mono fun part _ ended => ihNext (some part) ended.1 ended.2

/-- Run alone, a plan adds nothing that makes only calls of which no account is kept. -/
theorem completes_unnoted {σ α : Type}
    {answer : (request : Service.Request) → σ → Service.Reply request × σ} {plan : Procedure α}
    {ends : α → σ → Prop} {s : σ} (completes : plan.Completes answer ends s)
    (asks : plan.Asks Unnoted) (account : Account) :
    plan.Completes (noting answer) (fun value after => ends value after.1 ∧ after.2 = account)
      (s, account) :=
  -- Beside the end that the plan comes to stands the account, which no unnoted call can change.
  completes_noting completes (unchanged asks : plan.Ensures Plan.Waits Noted _ account)

/-- What a plan completes with, and the account that it completes with, is what is kept of it. -/
theorem kept_of_completes {σ α : Type}
    {answer : (request : Service.Request) → σ → Service.Reply request × σ} {plan : Procedure α}
    {ends : α → Account → Prop} {s : σ}
    (completes : plan.Completes (noting answer) (fun value after => ends value after.2) (s, opening)) :
    ends (kept answer plan s).1 (kept answer plan s).2 := by
  -- A plan that completes without deadlines is one that the rehearsal runs to its end.
  obtain ⟨value, after, ran, ended⟩ := completes.run [] 0
  unfold kept Timed.start
  rw [ran]
  exact ended

/-- Taking from the cached block grants the range that it gives, if it gives one. -/
theorem take_granted (conversation : Conversation) (need : UInt64) :
    (Attempt.onCache (Procedure.take conversation need)).run.Ensures cuts Noted
      (fun outcome after =>
        (∀ range, outcome = .ok (.taken range) → after = account.grant range.start) ∧
        ((∀ range, outcome ≠ .ok (.taken range)) → after = account)) account := by
  -- Of the four replies only a taken range is a grant. The other three leave the account alone.
  refine .adapt (.call fun reply after noted => ?_)
  rcases reply with failure | range | _ | _
  · exact ⟨nofun, fun _ => noted⟩
  · exact ⟨fun _ same => by cases same; exact noted, fun never => absurd rfl (never range)⟩
  · exact ⟨nofun, fun _ => noted⟩
  · exact ⟨nofun, fun _ => noted⟩

end Account

namespace Segmented

variable {cuts : {β : Type} → Procedure β → Prop}

/-- A range that was taken is granted as it is. -/
theorem granted_at {account : Account} (range : NumberRange) :
    (ExceptT.lift Procedure.now >>= fun now => pure ⟨range, now⟩ :
      Attempt AllocationError Grant).run.Ensures cuts Account.Noted
      (fun outcome after => ∀ granted, outcome = .ok granted → after = account.grant granted.start)
      (account.grant range.start) := by
  -- Reading the clock comes after the grant was noted, and notes nothing itself.
  refine .lift (.call ?_)
  rintro now _ rfl
  exact .done fun _ ended => by cases ended; rfl

/-- However many rounds it takes, an allocation from cached blocks takes from them once in vain or once
for good. -/
theorem allocateIn_granted (config : SegmentConfig) (conversation : Conversation) (need : UInt64)
    (rounds : Nat) (account : Account) :
    (allocateIn config conversation need rounds).run.Ensures cuts Account.Noted
      (fun outcome after => ∀ granted, outcome = .ok granted → after = account.grant granted.start)
      account := by
  -- The induction is on the rounds that are left.
  induction rounds with
  | zero => exact .done fun _ ended => by cases ended
  | succ rounds ih =>
    unfold allocateIn
    refine (Account.take_granted conversation need).attempt (fun _ _ _ _ ended => by cases ended) ?_
    intro outcome after taken
    split
    · rename_i range
      obtain rfl := taken.1 range rfl
      exact granted_at range
    -- Nothing was taken, and a block is reserved and cached without one being granted.
    · rename_i missed
      obtain rfl := taken.2 fun range same => missed range (Except.ok.inj same)
      have reserves : (Attempt.onLedger (Procedure.reserve conversation
          (config.blockSize.forNeed need))).run.Ensures cuts Account.Noted
          (fun _ later => later = after) after :=
        Account.unchanged (.adapt (.call trivial))
      refine reserves.attempt (fun _ _ _ _ ended => by cases ended) ?_
      rintro segment between rfl
      have installs : (Attempt.onCache (Procedure.install conversation segment
          config.lifetime)).run.Ensures cuts Account.Noted (fun _ later => later = between) between :=
        Account.unchanged (.adapt (.call trivial))
      refine installs.attempt (fun _ _ _ _ ended => by cases ended) ?_
      rintro _ _ rfl
      refine (Account.take_granted conversation need).attempt (fun _ _ _ _ ended => by cases ended) ?_
      intro outcome last taken
      split
      · rename_i range
        obtain rfl := taken.1 range rfl
        exact granted_at range
      · rename_i missed
        obtain rfl := taken.2 fun range same => missed range (Except.ok.inj same)
        exact ih

end Segmented

namespace SingleCounter

variable {cuts : {β : Type} → Procedure β → Prop}

/-- An increment grants the range up to the new value, if there is a counter. -/
theorem tryIncrement_granted (config : CounterConfig) (conversation : Conversation) (need : UInt64)
    (account : Account) :
    (tryIncrement config conversation need).run.Ensures cuts Account.Noted
      (fun outcome after => ∀ granted, outcome = .ok granted →
        after = granted.elim account fun granted => account.grant granted.start) account := by
  -- A reply with a last number was a grant already when it arrived.
  have increments : (Attempt.onCache (Procedure.increment conversation need
      config.lifetime)).run.Ensures cuts Account.Noted
      (fun outcome after => ∀ found, outcome = .ok found →
        after = found.elim account fun last => account.grant ⟨Word.saturatingSub last need + 1⟩)
      account := by
    refine .adapt (.call fun reply after noted found same => ?_)
    obtain rfl := Plan.ok_of_renamed same
    cases found <;> exact noted
  refine increments.attempt (fun _ _ _ _ ended => by cases ended) fun found after counted => ?_
  obtain rfl := counted found rfl
  -- Without a counter there is no grant. With one, only the clock is read after it.
  cases found with
  | none => exact .done fun _ ended => by cases ended; rfl
  | some last =>
    refine .lift (.call ?_)
    rintro now _ rfl
    exact .done fun _ ended => by cases ended; rfl

/-- Starting a counter grants nothing. -/
theorem coldStart_unnoted (config : CounterConfig) (conversation : Conversation) :
    (coldStart config conversation).run.Asks Account.Unnoted :=
  (coldStart_asks config conversation).permits fun _ => Account.unnoted_of_startsCounter

/-- However many rounds it takes, an allocation from a counter grants the one range that it ends with. -/
theorem allocateIn_granted (config : CounterConfig) (conversation : Conversation) (need : UInt64)
    (rounds : Nat) (account : Account) :
    (allocateIn config conversation need rounds).run.Ensures cuts Account.Noted
      (fun outcome after => ∀ granted, outcome = .ok granted → after = account.grant granted.start)
      account := by
  -- The induction is on the rounds that are left, of which the last one starts no counter.
  induction rounds with
  | zero =>
    refine (tryIncrement_granted config conversation need account).attempt
      (fun _ _ _ _ ended => by cases ended) fun found after granted => ?_
    obtain rfl := granted _ rfl
    cases found with
    | none => exact .done fun _ ended => by cases ended
    | some found => exact .done fun _ ended => by cases ended; rfl
  | succ rounds ih =>
    refine (tryIncrement_granted config conversation need account).attempt
      (fun _ _ _ _ ended => by cases ended) fun found after granted => ?_
    obtain rfl := granted _ rfl
    cases found with
    | none =>
      refine (Account.unchanged (coldStart_unnoted config conversation)).attempt
        (fun _ _ _ _ ended => by cases ended) ?_
      rintro _ _ rfl
      exact ih
    | some found => exact .done fun _ ended => by cases ended; rfl

end SingleCounter

/-- An allocation grants the one range that it ends with, and makes no insert. -/
theorem Allocator.allocate_granted {cuts : {β : Type} → Procedure β → Prop} (allocator : Allocator)
    (conversation : Conversation) (need : UInt64) (account : Account) :
    (allocator.allocate conversation need).run.Ensures cuts Account.Noted account.Granted account := by
  have grants : (allocator.allocate conversation need).run.Ensures cuts Account.Noted
      (fun outcome after => ∀ granted, outcome = .ok granted → after = account.grant granted.start)
      account := by
    -- Either allocator refuses a need of zero before it makes a call.
    cases allocator with
    | segmented config =>
      unfold Allocator.allocate Segmented.allocate
      dsimp only
      split
      · exact .done fun _ ended => by cases ended
      · exact Segmented.allocateIn_granted config conversation need _ account
    | singleCounter config =>
      unfold Allocator.allocate SingleCounter.allocate
      dsimp only
      split
      · exact .done fun _ ended => by cases ended
      · exact SingleCounter.allocateIn_granted config conversation need _ account
  -- That a failing allocation too only adds grants follows from what it asks for.
  exact fun outcome after runs => ⟨Account.onlyGrants_of_allocating runs, grants outcome after runs⟩

/-- Moving an allocator past a floor grants nothing. -/
theorem Allocator.reconcile_unnoted (allocator : Allocator) (conversation : Conversation)
    (floor : SequenceNumber) : (allocator.reconcile conversation floor).run.Asks Account.Unnoted :=
  (allocator.reconcile_asks conversation floor).permits fun _ => Account.unnoted_of_movesPast

/-- A save's allocation draws the number that it ends with. -/
theorem Save.allocate_draws {cuts : {β : Type} → Procedure β → Prop} (config : SaveConfig)
    (allocator : Allocator) (draft : Draft) (account : Account) :
    (Save.allocate config allocator draft).run.Ensures cuts Account.Noted
      (Account.Draws draft.context account) account := by
  have grants : (Plan.withDeadline "allocate" config.callTimeout
      (allocator.allocate draft.conversation 1).run).Ensures cuts Account.Noted account.Granted account :=
    .withDeadline (allocator.allocate_granted draft.conversation 1 account)
      fun _ _ runs _ => ⟨Account.onlyGrants_of_allocating runs, fun _ ended => by cases ended⟩
  -- The failures of the allocator are renamed, and of its range the first number is drawn.
  refine .bind (.bind (grants.mono fun outcome after ended => .done ?_))
  cases outcome with
  | error source =>
    exact .done ⟨ended.only, fun _ same => (by cases same), fun _ same => by
      cases same; exact ⟨source, rfl⟩⟩
  | ok grant =>
    exact .done ⟨ended.only, fun _ same => (by cases same; exact ended.granted grant rfl),
      fun _ same => by cases same⟩

end Intake
