import Intake.Proofs.Numbering.Calls
import Intake.Proofs.Save.Calls

/-! What a save calls on: nothing but its own key, its own conversation and its own message. -/

namespace Intake

namespace Service

/-- Calls on the key and the conversation of a message that neither store a message, nor commit a
claim, nor raise another mark than that of the issued numbers. -/
def Prepares (origin : Origin) : Request → Prop
  | .now | .freshToken | .freshServerId => True
  | .reserve conversation _ | .raiseIssued conversation _ | .loadWatermarks conversation
  | .take conversation _ | .install conversation _ _ | .dropSegment conversation
  | .increment conversation _ _ | .seedCounter conversation _ _ | .lock conversation _ _
  | .unlock conversation _ | .dropCounter conversation | .greatestSequence conversation =>
    conversation = .ofOrigin origin
  | .claim key _ _ | .renameClaim key _ _ | .rollBackClaim key | .findByKey key =>
    key = .ofOrigin origin
  | .insert _ | .commitClaim _ _ _ | .raiseCommitted _ _ | .raiseRetained _ _ => False

/-- Calls on the key and the conversation of a message, or on the message. -/
def Concerns (origin : Origin) : Request → Prop
  | .insert message => message.origin = origin
  | .commitClaim key _ _ => key = .ofOrigin origin
  | .raiseCommitted conversation _ => conversation = .ofOrigin origin
  | request => Prepares origin request

/-- What prepares a message concerns it. -/
theorem Prepares.concerns {origin : Origin} {request : Request}
    (prepares : Prepares origin request) : Concerns origin request := by
  -- What a save does once its message is prepared is the only difference between the two.
  cases request
  case insert | commitClaim | raiseCommitted => exact prepares.elim
  all_goals exact prepares

/-- What is about the numbers of the conversation prepares a message of it. -/
theorem NumbersOf.prepares {origin : Origin} {request : Request}
    (about : NumbersOf (.ofOrigin origin) request) : Prepares origin request := by
  cases request <;> first | exact about | exact about.elim

/-- What moves the conversation past a floor prepares a message of it. -/
theorem MovesPast.prepares {origin : Origin} {request : Request}
    (moves : MovesPast (.ofOrigin origin) request) : Prepares origin request := by
  cases request <;> first | exact moves | exact moves.elim

/-- What calls on the key of a message concerns it. -/
theorem Keyed.concerns {origin : Origin} {request : Request} (keyed : Keyed origin request) :
    Concerns origin request := by
  cases request <;> first | exact keyed | exact keyed.elim

end Service

variable {origin : Origin}

/-- A plan that prepares a message makes no call but on what concerns that. -/
theorem asks_concerns {α : Type} {plan : Procedure α}
    (prepares : plan.Asks (Service.Prepares origin)) : plan.Asks (Service.Concerns origin) :=
  prepares.permits fun _ => Service.Prepares.concerns

namespace Save

variable {config : SaveConfig}

/-- Rolling the claim back. -/
theorem rollBack_prepares : (rollBack config (.ofOrigin origin)).Asks (Service.Prepares origin) :=
  (rollBack_asks _).permits_one rfl

/-- Allocating a number for a draft. -/
theorem allocate_prepares (allocator : Allocator) (draft : Draft) :
    (allocate config allocator draft).run.Asks (Service.Prepares draft.origin) :=
  .attempt (.adapt (.withDeadline
    ((allocator.allocate_asks _ 1).permits fun _ => Service.NumbersOf.prepares))) fun _ => .done _

/-- Allocating another number for a draft. -/
theorem renumber_prepares (allocator : Allocator) (draft : Draft) (occupied : SequenceNumber) :
    (renumber config allocator draft occupied).run.Asks (Service.Prepares draft.origin) :=
  -- Each of the three parts is about the numbers of the conversation.
  .attempt (.adapt (.retryTransient (.call rfl))) fun _ =>
    .attempt (.adapt (.withDeadline
      ((allocator.reconcile_asks _ _).permits fun _ => Service.MovesPast.prepares))) fun _ =>
        allocate_prepares allocator draft

/-- Inserting a draft, in as many rounds as it takes. -/
theorem insertIn_concerns (allocator : Allocator) (rounds : Nat) :
    ∀ (setbacks : Setbacks) (draft : Draft) (sequence : SequenceNumber),
      (insertIn config allocator rounds setbacks draft sequence).run.Asks
        (Service.Concerns draft.origin) := by
  -- The induction is on the rounds that are left. Every round keeps the draft's origin.
  induction rounds with
  | zero => exact fun _ _ _ => .done _
  | succ rounds ih =>
    intro setbacks draft sequence
    unfold insertIn
    -- One case for each outcome of the insert, in the order in which the round decides them.
    refine .lift (.call trivial) fun now => .lift (.withDeadline (.call rfl)) fun inserted => ?_
    split
    · exact Plan.Keeps.liftLast
        ((finish_keyed (draft.message sequence now)).permits fun _ => Service.Keyed.concerns)
    · exact (adoptWinner_keyed draft).permits fun _ => Service.Keyed.concerns
    · dsimp only
      split
      · exact .done _
      have renames := (@rename_keyed config draft).permits fun _ => Service.Keyed.concerns
      refine Plan.Keeps.attempt renames (by simp) fun renamed _ sameOrigin => ?_
      cases renamed with
      | stored receipt => exact ⟨trivial, trivial⟩
      | draft renamed => exact sameOrigin renamed rfl ▸ ih _ renamed sequence
    · dsimp only
      split
      · exact .done _
      refine .attempt (asks_concerns (renumber_prepares allocator draft _)) fun next => ?_
      exact ih _ draft next
    · split
      · dsimp only
        split
        · exact .done _
        · exact .lift ⟨trivial, trivial⟩ fun _ => ih _ draft sequence
      · exact .done _

end Save

/-- A save makes no call but on the key, the conversation and the message of what was submitted. -/
theorem save_concerns (config : SaveConfig) (allocator : Allocator) (submission : Submission) :
    (save config allocator submission).Asks (Service.Concerns submission.origin) := by
  -- Claiming is followed by a commit, and a failed commit by the roll-back of the claim.
  unfold save
  dsimp only
  refine .bind ((Save.claim_keyed _ _).permits fun _ => Service.Keyed.concerns) fun outcome => ?_
  split
  · exact .done _
  · exact .done _
  · rename_i serverId
    let draft : Draft :=
      ⟨submission.origin, submission.payload, submission.fingerprint, serverId⟩
    have commits : (Save.commit config allocator draft).run.Asks
        (Service.Concerns submission.origin) := by
      refine .attempt (asks_concerns (Save.allocate_prepares allocator draft)) fun sequence => ?_
      exact Save.insertIn_concerns allocator _ _ draft sequence
    refine .bind commits fun outcome => ?_
    split
    · exact .done _
    · exact .bind (asks_concerns Save.rollBack_prepares) fun _ => .done _

end Intake
