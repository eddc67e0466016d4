import Intake.Proofs.Memory.Alike
import Intake.Proofs.Numbering.Gapless
import Intake.Proofs.Plan.Protocol
import Intake.Save.Commit

/-! Saves whose candidates for identifiers each belong to one key: a save draws a single candidate, gives
no key an identifier of another one, and never finds the identifier of its message taken. -/

namespace Intake

/-- Where identifiers belong to keys, none belongs to two. -/
def Exclusive (belongs : ServerId → ClaimKey → Prop) : Prop :=
  ∀ serverId key other, belongs serverId key → belongs serverId other → key = other

/-- What is stored and what is claimed has identifiers that belong to its key. -/
structure World.Named (belongs : ServerId → ClaimKey → Prop) (w : World) : Prop where
  consistent : w.store.Consistent
  stored : ∀ serverId row, w.store.findByServerId serverId = some row → belongs serverId row.key
  claimed : ∀ key entry, w.claims.claims.entries.find? key = some entry →
    belongs entry.value.serverId key

namespace Service

variable (belongs : ServerId → ClaimKey → Prop) (origin : Origin)

/-- The calls of a save on what concerns its message, with identifiers that belong to its key. No claim
gets a new identifier. -/
def Names : Request → Prop
  | .claim key _ proposed => key = .ofOrigin origin ∧ belongs proposed key
  | .commitClaim key serverId _ => key = .ofOrigin origin ∧ belongs serverId key
  | .insert message => message.origin = origin ∧ belongs message.serverId message.key
  | .rollBackClaim key | .findByKey key => key = .ofOrigin origin
  | .now | .freshToken | .freshServerId => True
  | .reserve conversation _ | .raiseIssued conversation _ | .raiseCommitted conversation _
  | .loadWatermarks conversation | .take conversation _ | .install conversation _ _
  | .dropSegment conversation | .increment conversation _ _ | .seedCounter conversation _ _
  | .lock conversation _ _ | .unlock conversation _ | .dropCounter conversation
  | .greatestSequence conversation => conversation = .ofOrigin origin
  | .renameClaim _ _ _ | .raiseRetained _ _ => False

/-- What replies tell of identifiers: each belongs to the key of the save, and the one of a message is
never what keeps it from being stored. -/
def Tells : (request : Request) → Reply request → Prop
  | .freshServerId, candidate => belongs candidate (.ofOrigin origin)
  | .claim key _ _, reply =>
    (∀ serverId, reply = .ok (.created serverId) → belongs serverId key) ∧
      ∀ claim, reply = .ok (.existing claim) → belongs claim.serverId key
  | .findByKey key, reply => ∀ row, reply = .ok (some row) → row.key = key ∧ belongs row.serverId key
  | .insert _, reply => ∀ serverId, reply ≠ .error (.duplicateServerId serverId)
  | _, _ => True

/-- Whether a save has drawn its candidate after a call. -/
def hasDrawn : Request → Bool → Bool
  | .freshServerId, _ => true
  | _, drawn => drawn

/-- The protocol of a save that draws one candidate and names nothing but its own message. -/
def naming : Protocol services Bool where
  permits request drawn := Names belongs origin request ∧ (request = .freshServerId → drawn = false)
  moves request drawn reply after := Tells belongs origin request reply ∧ after = hasDrawn request drawn

end Service

namespace World.Named

variable {belongs : ServerId → ClaimKey → Prop} {origin : Origin} {w : World} {request : Service.Request}

/-- Services that hold nothing yet hold nothing with an identifier of another key. -/
theorem fresh (belongs : ServerId → ClaimKey → Prop) (clock : Instant) (lifetimes : ClaimLifetimes)
    (ready : List ServerId) : (World.fresh clock lifetimes ready).Named belongs where
  consistent := MessageStore.consistent_empty
  stored := fun _ _ found => nomatch found
  claimed := fun _ _ found => nomatch found

/-- Where a key is free, so is an identifier that belongs to it. -/
theorem id_free (named : w.Named belongs) (exclusive : Exclusive belongs) {message : Message}
    (own : belongs message.serverId message.key) (keyFree : w.store.findByKey message.key = none) :
    w.store.findByServerId message.serverId = none := by
  -- What has the identifier has the key as well, and would be found by it.
  refine Option.eq_none_iff_forall_ne_some.mpr fun row found => ?_
  have same := exclusive _ _ _ (named.stored _ row found) own
  have filed := (named.consistent.filed _ row found).2
  rw [same] at filed
  rw [MessageStore.findByKey, filed, Option.bind_some] at keyFree
  cases found.symm.trans keyFree

/-- What a save reads under the rules of naming tells what they say. -/
theorem tells (named : w.Named belongs) (exclusive : Exclusive belongs)
    (names : Service.Names belongs origin request)
    (candidate : request = .freshServerId → belongs w.ids.next.1 (.ofOrigin origin)) :
    Service.Tells belongs origin request (answer request w).1 := by
  -- Four calls tell of identifiers: what is drawn, claimed, found, or refused.
  cases request
  case freshServerId => exact candidate rfl
  case claim key fingerprint proposed =>
    refine ⟨fun serverId created => ?_, fun claim existing => ?_⟩
    -- The identifier of a claim just made is the one proposed, and any other claim was there before.
    · cases lives : w.claims.liveClaim key w.clock with
      | none =>
        have made := ClaimIndex.claim_of_gone lives fingerprint proposed
        cases made.symm.trans (Except.ok.inj created)
        exact names.2
      | some live =>
        have kept := congrArg Prod.fst (ClaimIndex.claim_of_live lives fingerprint proposed)
        cases kept.symm.trans (Except.ok.inj created)
    · have lives := ClaimIndex.live_of_existing (Except.ok.inj existing)
      obtain ⟨entry, alive, rfl⟩ := Option.map_eq_some_iff.mp lives
      exact named.claimed key entry (ExpiringTable.liveEntry_eq_some.mp alive).1
  case findByKey key =>
    intro row found
    have stored : w.store.findByKey key = some row := Except.ok.inj found
    have same := named.consistent.key_of_found stored
    obtain ⟨serverId, filed, atId⟩ := Option.bind_eq_some_iff.mp stored
    have leads := (named.consistent.filed serverId row atId).1
    exact ⟨same, leads ▸ same ▸ named.stored serverId row atId⟩
  case insert message =>
    intro serverId refused
    -- With identifiers kept apart by their keys, an insert is never refused for one.
    have verdict := named.consistent.insert_of_named (named.id_free exclusive names.2)
    have answered : (w.store.insert message).1 = .error (.duplicateServerId serverId) := refused
    rw [verdict] at answered
    split at answered
    · cases answered
    · split at answered <;> cases answered
  all_goals trivial

/-- A save under the rules of naming leaves what is stored and claimed with identifiers of its key. -/
theorem answer (named : w.Named belongs) (names : Service.Names belongs origin request) :
    (World.answer request w).2.Named belongs := by
  -- Only calls on the claims and inserts change what is named.
  cases request
  case claim key fingerprint proposed =>
    refine ⟨named.consistent, named.stored, fun other entry found => ?_⟩
    rcases ClaimIndex.find?_of_claim found with before | ⟨rfl, made⟩
    · exact named.claimed other entry before
    · rw [made]
      exact names.2
  case commitClaim key serverId fingerprint =>
    refine ⟨named.consistent, named.stored, fun other entry found => ?_⟩
    rcases ClaimIndex.find?_of_commit found with before | ⟨rfl, made⟩
    · exact named.claimed other entry before
    · rw [made]
      exact names.2
  case rollBackClaim key =>
    refine ⟨named.consistent, named.stored, fun other entry found => ?_⟩
    obtain ⟨earlier, before, same⟩ := ClaimIndex.find?_of_rollBack found
    rw [same]
    exact named.claimed other earlier before
  case insert message =>
    refine ⟨named.consistent.insert message, fun serverId row found => ?_, named.claimed⟩
    have leads := ((named.consistent.insert message).filed serverId row found).1
    rcases MessageStore.findByServerId_of_insert found with before | ⟨rfl, _⟩
    · exact named.stored serverId row before
    · exact leads ▸ names.2
  case renameClaim => exact names.elim
  all_goals exact ⟨named.consistent, named.stored, named.claimed⟩

end World.Named

/-- A plan that follows the rules of naming once the candidate is drawn, and ends as stated. -/
def Names {α : Type} (belongs : ServerId → ClaimKey → Prop) (origin : Origin) (plan : Procedure α)
    (ends : α → Prop) : Prop :=
  plan.Keeps (Service.naming belongs origin) (fun drawn => drawn = true)
    (fun value drawn => drawn = true ∧ ends value) true

namespace Names

variable {α β ε ε' : Type} {belongs : ServerId → ClaimKey → Prop} {origin : Origin}

/-- A plan that is done names nothing. -/
theorem done {value : α} {ends : α → Prop} (ended : ends value) :
    Names belongs origin (.done value) ends := ⟨rfl, rfl, ended⟩

/-- A single call, other than for a candidate. -/
theorem call {request : Service.Request} {ends : Service.Reply request → Prop}
    (names : Service.Names belongs origin request) (other : request ≠ .freshServerId)
    (told : ∀ reply, Service.Tells belongs origin request reply → ends reply) :
    Names belongs origin (.ask request .done) ends := by
  refine Plan.Keeps.call rfl ⟨names, fun same => absurd same other⟩ fun reply after moved => ?_
  -- Whatever is asked for, it is not a fresh identifier, so that none is left without an owner.
  have drawn : after = true := by
    rw [moved.2]
    cases request <;> rfl
  exact ⟨drawn, drawn, told reply moved.1⟩

/-- Two plans in a row. -/
theorem bind {plan : Procedure α} {second : α → Procedure β} {middle : α → Prop} {ends : β → Prop}
    (names : Names belongs origin plan middle)
    (goesOn : ∀ value, middle value → Names belongs origin (second value) ends) :
    Names belongs origin (plan.bind second) ends := by
  -- The first part ends with its identifier owned, from where the second one begins.
  refine Plan.Keeps.bind (Plan.Keeps.weaken names fun value drawn _ ended => ?_)
  obtain ⟨rfl, holds⟩ := ended
  exact goesOn value holds

/-- An attempt and what follows a success. -/
theorem attempt {first : Attempt ε α} {second : α → Attempt ε β} {middle : Except ε α → Prop}
    {ends : Except ε β → Prop} (names : Names belongs origin first.run middle)
    (failed : ∀ failure, middle (.error failure) → ends (.error failure))
    (goesOn : ∀ value, middle (.ok value) → Names belongs origin (second value).run ends) :
    Names belongs origin (first >>= second).run ends := by
  -- A failure ends the whole, with no identifier left over.
  refine Plan.Keeps.attempt names (fun failure _ ended => ⟨ended.1, failed failure ended.2⟩)
    fun value drawn ended => ?_
  obtain ⟨rfl, holds⟩ := ended
  exact goesOn value holds

/-- An attempt and what follows a success, where neither tells anything. -/
theorem followed {first : Attempt ε α} {second : α → Attempt ε β}
    (names : Names belongs origin first.run fun _ => True)
    (goesOn : ∀ value, Names belongs origin (second value).run fun _ => True) :
    Names belongs origin (first >>= second).run fun _ => True :=
  names.attempt (fun _ _ => trivial) fun value _ => goesOn value

/-- A step that cannot fail and what follows it. -/
theorem lift {plan : Procedure α} {second : α → Attempt ε β} {middle : α → Prop}
    {ends : Except ε β → Prop} (names : Names belongs origin plan middle)
    (goesOn : ∀ value, middle value → Names belongs origin (second value).run ends) :
    Names belongs origin (ExceptT.lift plan >>= second).run ends := by
  -- A step that cannot fail is followed as in a plan.
  refine Plan.Keeps.lift (Plan.Keeps.weaken names fun value drawn _ ended => ?_)
  obtain ⟨rfl, holds⟩ := ended
  exact goesOn value holds

/-- A plan whose failures are renamed. -/
theorem adapt {rename : ε → ε'} {plan : Procedure (Except ε α)} {ends : Except ε' α → Prop}
    (names : Names belongs origin plan fun outcome => ends (outcome.mapError rename)) :
    Names belongs origin (ExceptT.adapt rename (ExceptT.mk plan)).run ends :=
  Plan.Keeps.adapt names

/-- A plan with a deadline. -/
theorem withDeadline [Transient ε] {operation : String} {limit : Duration}
    {plan : Procedure (Except ε α)} {ends : Except ε α → Prop}
    (names : Names belongs origin plan ends)
    (late : ends (.error (Transient.timedOut operation limit))) :
    Names belongs origin (Plan.withDeadline operation limit plan) ends :=
  -- Wherever the plan is cut, what it has drawn so far is owned.
  Plan.Keeps.withDeadline (Plan.Keeps.mono names (fun _ drawn => ⟨drawn, drawn, late⟩)
    fun _ _ ended => ⟨ended.1, ended⟩)

/-- A plan that is attempted again. -/
theorem retryTransient [Transient ε] {policy : RetryPolicy} {limit : Duration} {operation : String}
    {plan : Procedure (Except ε α)} {ends : Except ε α → Prop}
    (names : Names belongs origin plan ends) (failed : ∀ failure, ends (.error failure)) :
    Names belongs origin (Plan.retryTransient policy limit operation plan) ends := by
  -- Each attempt starts with everything owned, also after one that was cut.
  refine Plan.Keeps.retryTransient (fun drawn => drawn = true) (fun drawn start => ?_) rfl
  subst start
  exact Plan.Keeps.mono (names.withDeadline (failed _)) (fun _ kept => kept)
    fun _ _ ended => ⟨ended, fun _ _ => ended.1⟩

/-- A plan that makes calls only which name nothing and draw no candidate. -/
theorem of_asks {allowed : Service.Request → Prop} {plan : Procedure α} (asks : plan.Asks allowed)
    (quiet : ∀ request, allowed request →
      Service.Names belongs origin request ∧ request ≠ .freshServerId) :
    Names belongs origin plan fun _ => True := by
  -- No request of the plan draws an identifier, so that all of them stay owned.
  refine Plan.Keeps.mono (asks.of_only fun request permitted => ?_) (fun _ kept => kept.1)
    fun _ _ ended => ⟨ended.1, trivial⟩
  obtain ⟨names, other⟩ := quiet request permitted
  refine ⟨⟨names, fun same => absurd same other⟩, fun reply after moved => ?_⟩
  rw [moved.2]
  cases request <;> rfl

end Names

namespace Save

variable {belongs : ServerId → ClaimKey → Prop} {origin : Origin} {config : SaveConfig}

/-- What is found under the key of a save has that key, and an identifier that belongs to it. -/
theorem findStored_names (context : SaveContext) :
    Names belongs origin (findStored config context (.ofOrigin origin)).run fun outcome =>
      ∀ row, outcome = .ok (some row) → row.key = .ofOrigin origin ∧
        belongs row.serverId (.ofOrigin origin) := by
  -- What the call tells of a row is told of the outcome, since only failures are renamed.
  refine .adapt (.retryTransient (.call rfl nofun fun reply told row found => ?_)
    fun failure row found => nomatch Plan.ok_of_renamed found)
  exact told row (Plan.ok_of_renamed found)

/-- Committing the claim to a stored message. -/
theorem promote_names {stored : Message} (own : belongs stored.serverId (.ofOrigin origin)) :
    Names belongs origin (promote config (.ofOrigin origin) stored) fun _ => True :=
  .bind (.withDeadline (.call ⟨rfl, own⟩ nofun fun _ _ => trivial) trivial) fun _ _ => .done trivial

/-- Going on from an earlier claim, with the identifier of it. -/
theorem resume_names (context : SaveContext) (fingerprint : Fingerprint) {claim : Claim}
    (own : belongs claim.serverId (.ofOrigin origin)) :
    Names belongs origin (resume config context (.ofOrigin origin) fingerprint claim).run fun outcome =>
      ∀ serverId, outcome = .ok (.proceed serverId) → belongs serverId (.ofOrigin origin) := by
  -- The save goes on under the claim's own identifier, or ends without one.
  unfold resume
  dsimp only
  split
  · exact .done nofun
  refine .attempt (findStored_names context) (fun _ _ => nofun) fun found told => ?_
  split
  -- A row that is stored has an identifier that was told to belong to the key.
  · rename_i stored _ _
    have named := (told _ rfl).2
    split
    · exact .done nofun
    split
    · exact .lift (promote_names named) fun _ _ => .done nofun
    · exact .done nofun
  · exact .done nofun
  · exact .done fun _ same => by cases same; exact own

/-- Asking for the claim on the key, with a candidate that belongs to it. -/
theorem ensurePending_names (context : SaveContext) (fingerprint : Fingerprint) {proposed : ServerId}
    (own : belongs proposed (.ofOrigin origin)) :
    Names belongs origin (ExceptT.adapt (fun source => SaveError.writeFailed context (.claims source))
      (ExceptT.mk (Plan.retryTransient config.retry config.callTimeout "ensure_pending"
        (Procedure.claim (.ofOrigin origin) fingerprint proposed)))).run fun outcome =>
      (∀ serverId, outcome = .ok (.created serverId) → belongs serverId (.ofOrigin origin)) ∧
        ∀ claim, outcome = .ok (.existing claim) → belongs claim.serverId (.ofOrigin origin) := by
  -- The reply tells of the identifier either way, the proposed one or that of the claim.
  refine .adapt (.retryTransient (.call ⟨rfl, own⟩ nofun fun reply told => ?_) fun failure => ?_)
  · exact ⟨fun serverId created => told.1 serverId (Plan.ok_of_renamed created),
      fun claim existing => told.2 claim (Plan.ok_of_renamed existing)⟩
  · exact ⟨fun _ created => (nomatch Plan.ok_of_renamed created),
      fun _ existing => (nomatch Plan.ok_of_renamed existing)⟩

/-- Claiming the key, which draws the candidate. -/
theorem claim_names (context : SaveContext) (fingerprint : Fingerprint) :
    (claim config context (.ofOrigin origin) fingerprint).run.Keeps (Service.naming belongs origin)
      (fun _ => True) (fun outcome drawn => drawn = true ∧
        ∀ serverId, outcome = .ok (.proceed serverId) → belongs serverId (.ofOrigin origin)) false := by
  refine .lift (.call trivial ⟨trivial, fun _ => rfl⟩ fun proposed drawn moved => ⟨trivial, ?_⟩)
  obtain ⟨own, rfl⟩ := moved
  -- From here on the candidate is drawn.
  refine Plan.Keeps.mono (Names.attempt (ensurePending_names context fingerprint own) (fun _ _ => nofun)
    fun outcome told => ?_) (fun _ _ => trivial) fun _ _ ended => ended
  cases outcome with
  | created serverId => exact .done fun _ same => by cases same; exact told.1 _ rfl
  | existing claim => exact resume_names context fingerprint (told.2 claim rfl)

/-- Adopting a stored message. -/
theorem adopt_names {draft : Draft} {winner : Message}
    (own : belongs winner.serverId (.ofOrigin draft.origin)) :
    Names belongs draft.origin (adopt config draft winner).run fun _ => True := by
  -- Only promoting makes a call, and it names the winner's own identifier.
  unfold adopt
  dsimp only
  split
  · exact .done trivial
  · exact .lift (promote_names own) fun _ _ => .done trivial

/-- Adopting whatever is stored under the key. -/
theorem adoptWinner_names (draft : Draft) :
    Names belongs draft.origin (adoptWinner config draft).run fun _ => True := by
  -- That the winner's identifier belongs to the key is what the search told.
  refine .attempt (findStored_names draft.context) (fun _ _ => trivial) fun found told => ?_
  cases found with
  | none => exact .done trivial
  | some winner => exact adopt_names (told winner rfl).2

/-- Ending a save whose message is stored. -/
theorem finish_names {message : Message} (own : belongs message.serverId message.key) :
    Names belongs message.origin (finish config message) fun _ => True := by
  -- The second of the two calls names no identifier at all.
  have records : Names belongs message.origin
      (Allocator.recordCommitted message.conversation message.sequence).run fun _ => True :=
    .adapt (.call rfl nofun fun _ _ => trivial)
  exact .bind (promote_names own) fun _ _ => .bind (records.withDeadline trivial) fun _ _ =>
    .done trivial

/-- Rolling the claim back. -/
theorem rollBack_names :
    Names belongs origin (rollBack config (.ofOrigin origin)) fun _ => True :=
  .bind (.withDeadline (.call rfl nofun fun _ _ => trivial) trivial) fun _ _ => .done trivial

/-- Allocating a number for a draft. -/
theorem allocate_names (allocator : Allocator) (draft : Draft) :
    Names belongs draft.origin (allocate config allocator draft).run fun _ => True := by
  -- An allocation is about numbers of the conversation alone.
  have quiet : ∀ request, Service.NumbersOf draft.conversation request →
      Service.Names belongs draft.origin request ∧ request ≠ .freshServerId := by
    intro request numbers
    cases request
    case now | freshToken | reserve | loadWatermarks | take | install | increment | seedCounter | lock |
      unlock => exact ⟨numbers, nofun⟩
    all_goals exact numbers.elim
  have allocates := Names.of_asks (allocator.allocate_asks draft.conversation 1) quiet
  exact .followed (.adapt (allocates.withDeadline trivial)) fun _ => .done trivial

/-- Moving the allocator past a number. -/
theorem reconcile_names (allocator : Allocator) (floor : SequenceNumber) :
    Names belongs origin (allocator.reconcile (.ofOrigin origin) floor).run fun _ => True := by
  -- The allocators pass a number by different calls, neither of which names an identifier.
  refine .followed (.adapt (.call rfl nofun fun _ _ => trivial)) fun _ => ?_
  cases allocator with
  | segmented _ => exact .adapt (.call rfl nofun fun _ _ => trivial)
  | singleCounter _ => exact .adapt (.call rfl nofun fun _ _ => trivial)

/-- Allocating another number for a draft. -/
theorem renumber_names (allocator : Allocator) (draft : Draft) (occupied : SequenceNumber) :
    Names belongs draft.origin (renumber config allocator draft occupied).run fun _ => True := by
  -- Reading, passing and drawing are about numbers only.
  refine .followed (.adapt (.retryTransient (.call rfl nofun fun _ _ => trivial) fun _ => trivial))
    fun _ => ?_
  exact .followed (.adapt ((reconcile_names allocator _).withDeadline trivial)) fun _ =>
    allocate_names allocator draft

/-- Inserting a draft under an identifier that belongs to its key, in as many rounds as it takes. -/
theorem insertIn_names (allocator : Allocator) (rounds : Nat) {draft : Draft}
    (own : belongs draft.serverId draft.key) :
    ∀ (setbacks : Setbacks) (sequence : SequenceNumber), Names belongs draft.origin
      (insertIn config allocator rounds setbacks draft sequence).run fun _ => True := by
  -- The induction is on the rounds that are left. The draft keeps its identifier in all of them.
  induction rounds with
  | zero => exact fun _ _ => .done trivial
  | succ rounds ih =>
    intro setbacks sequence
    unfold insertIn
    refine .lift (.call trivial nofun fun _ _ => trivial) fun now _ => ?_
    refine .lift (.withDeadline (.call ⟨rfl, own⟩ nofun fun _ told => told) nofun) fun inserted told => ?_
    split
    · have stored : belongs (draft.message sequence now).serverId (draft.message sequence now).key :=
        own
      exact Plan.Keeps.liftLast (finish_names stored)
    · exact adoptWinner_names draft
    -- The identifier is not what keeps the message from being stored.
    · rename_i serverId
      exact absurd rfl (told serverId)
    · dsimp only
      split
      · exact .done trivial
      · exact .followed (renumber_names allocator draft _) fun next => ih _ next
    · split
      · dsimp only
        split
        · exact .done trivial
        · have pauses : Names belongs draft.origin
              (Plan.pause (config.retry.backoffFor (setbacks.failures + 1))) fun _ => True :=
            ⟨rfl, rfl, trivial⟩
          exact .lift pauses fun _ _ => ih _ sequence
      · exact .done trivial

end Save

/-- A save draws a single candidate, and names nothing but its own message by what belongs to its key. -/
theorem save_names (belongs : ServerId → ClaimKey → Prop) (config : SaveConfig) (allocator : Allocator)
    (submission : Submission) :
    (save config allocator submission).Keeps (Service.naming belongs submission.origin) (fun _ => True)
      (fun _ _ => True) false := by
  -- Once the key is claimed, the save goes on with an identifier that belongs to it.
  unfold save
  dsimp only
  refine .bind ((Save.claim_names _ _).weaken fun outcome drawn _ ended => ?_)
  obtain ⟨rfl, told⟩ := ended
  refine Plan.Keeps.mono (?_ : Names belongs submission.origin _ fun _ => True) (fun _ _ => trivial)
    fun _ _ _ => trivial
  split
  · exact .done trivial
  · exact .done trivial
  · rename_i serverId
    let draft : Draft :=
      ⟨submission.origin, submission.payload, submission.fingerprint, serverId⟩
    have own : belongs draft.serverId draft.key := told serverId rfl
    have commits : Names belongs submission.origin (Save.commit config allocator draft).run
        fun _ => True :=
      .followed (Save.allocate_names allocator draft) fun sequence =>
        Save.insertIn_names allocator _ own _ sequence
    refine .bind commits fun outcome _ => ?_
    split
    · exact .done trivial
    · exact .bind Save.rollBack_names fun _ _ => .done trivial

end Intake
