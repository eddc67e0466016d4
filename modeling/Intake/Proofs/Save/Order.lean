import Intake.Proofs.Concurrency.InTurn
import Intake.Proofs.Numbering.Ascending
import Intake.Proofs.Numbering.Calls
import Intake.Proofs.Samples
import Intake.Proofs.Save.Calls

/-! Saves one after the other, with numbers from cached blocks, store each conversation in order: every
row that is added lies above all that were stored before. -/

namespace Intake

/-- A save that was asked for, with numbers from cached blocks and the settings of its node. -/
structure SegmentedSave where
  config : SaveConfig
  numbering : SegmentConfig
  submission : Submission

/-- Saves with numbers from cached blocks over the services in memory, where any call may fail. -/
def savingSegmented : Setting services World fun _ : SegmentedSave => Except SaveError Receipt where
  reacts := World.Reacts Service.Failed
  drifts := World.Drifts
  begins job := save job.config (.segmented job.numbering) job.submission

/-- Calls that neither take or give numbers nor insert messages. -/
def Service.IsAside : Request → Prop
  | .reserve _ _ | .take _ _ | .install _ _ _ | .insert _ => False
  | _ => True

/-- What calls on the key of a message is aside. -/
theorem Service.Keyed.aside {origin : Origin} {request : Request} (keyed : Keyed origin request) :
    IsAside request := by
  cases request <;> trivial

/-- What moves a conversation past a floor is aside. -/
theorem Service.MovesPast.aside {conversation : Conversation} {request : Request}
    (moves : MovesPast conversation request) : IsAside request := by
  cases request <;> trivial

/-- What neither takes or gives numbers nor inserts messages is permitted, and moves nothing. -/
theorem inTurn_neutral (conversation : Conversation) (turn : Turn) (request : Service.Request)
    (aside : Service.IsAside request) : (inTurn conversation).permits request turn ∧
      ∀ reply after, (inTurn conversation).moves request turn reply after → after = turn := by
  -- The four requests that are not aside are the ones that a turn speaks of.
  cases request
  case reserve | take | install | insert => exact aside.elim
  all_goals exact ⟨trivial, fun _ _ moved => moved⟩

/-- A plan of such calls leaves the saver with what it holds. -/
theorem keeps_inTurn {α : Type} {plan : Procedure α} (aside : plan.Asks Service.IsAside)
    (conversation : Conversation) (turn : Turn) :
    plan.Keeps (inTurn conversation) (fun _ => True) (fun _ after => after = turn) turn :=
  (Plan.Keeps.of_only aside (inTurn_neutral conversation turn)).mono (fun _ _ => trivial)
    fun _ _ ended => ended.1

/-- A saver holds the key of its message, and no block of a conversation if that is its own. -/
def Turn.Idle (conversation other : Conversation) (key : ClaimKey) (turn : Turn) : Prop :=
  turn.key = key ∧ (other = conversation → turn.block = none)

/-- A saver holds a number as well, if the conversation is its own. -/
def Turn.Took (conversation other : Conversation) (key : ClaimKey) (number : Nat) (turn : Turn) :
    Prop :=
  turn.Idle conversation other key ∧ (other = conversation → turn.number = some number)

namespace Segmented

variable {conversation other : Conversation} {key : ClaimKey} {turn : Turn}

/-- A range that is taken gives the saver its first number. -/
theorem take_inTurn (need : UInt64) (idle : turn.Idle conversation other key) :
    (Attempt.onCache (Procedure.take other need)).run.Keeps (inTurn conversation) (fun _ => True)
      (fun outcome after => after.Idle conversation other key ∧ ∀ range,
        outcome = .ok (.taken range) → after.Took conversation other key range.span.first) turn := by
  -- A range of another conversation moves nothing.
  refine .adapt (.call trivial idle.2 fun reply after moved => ⟨trivial, ?_⟩)
  subst moved
  rcases reply with failure | outcome
  · exact ⟨idle, fun _ taken => by cases taken⟩
  cases outcome with
  | taken range =>
    by_cases same : other = conversation
    · have gained : (turn.give conversation (.take other need)).gain conversation (.take other need)
          (.ok (.taken range)) = { turn with number := some range.span.first } := if_pos same
      rw [gained]
      exact ⟨idle, fun _ taken => by cases taken; exact ⟨idle, fun _ => rfl⟩⟩
    · have gained : (turn.give conversation (.take other need)).gain conversation (.take other need)
          (.ok (.taken range)) = turn := if_neg same
      rw [gained]
      exact ⟨idle, fun _ _ => ⟨idle, fun same' => absurd same' same⟩⟩
  | notFound | exhausted => exact ⟨idle, fun _ taken => by cases taken⟩

/-- A block that is reserved is the saver's, to be installed next. -/
theorem reserve_inTurn (count : UInt64) (idle : turn.Idle conversation other key) :
    (Attempt.onLedger (Procedure.reserve other count)).run.Keeps (inTurn conversation)
      (fun _ => True) (fun outcome after => ∀ segment, outcome = .ok segment →
        after.key = key ∧ (other = conversation → after.block = some segment)) turn := by
  -- A block of another conversation moves nothing.
  refine .adapt (.call trivial trivial fun reply after moved => ⟨trivial, fun segment got => ?_⟩)
  have answered := Plan.ok_of_renamed got
  subst answered moved
  by_cases same : other = conversation
  · have gained : (turn.give conversation (.reserve other count)).gain conversation
        (.reserve other count) (.ok segment) = { turn with block := some segment } := if_pos same
    rw [gained]
    exact ⟨idle.1, fun _ => rfl⟩
  · have gained : (turn.give conversation (.reserve other count)).gain conversation
        (.reserve other count) (.ok segment) = turn := if_neg same
    rw [gained]
    exact ⟨idle.1, fun same' => absurd same' same⟩

/-- The saver's block is out of its hands when it is installed. -/
theorem install_inTurn {segment : Segment} (lifetime : Duration) (holds : turn.key = key)
    (reserved : other = conversation → turn.block = some segment) :
    (Attempt.onCache (Procedure.install other segment lifetime)).run.Keeps (inTurn conversation)
      (fun _ => True) (fun _ after => after.Idle conversation other key) turn := by
  refine .adapt (.call trivial reserved fun reply after moved => ⟨trivial, ?_⟩)
  subst moved
  -- An install for another conversation leaves the turn's block to be installed.
  by_cases same : other = conversation
  · have given : (turn.give conversation (.install other segment lifetime)).gain conversation
        (.install other segment lifetime) reply = { turn with block := none } := if_pos same
    rw [given]
    exact ⟨holds, fun _ => rfl⟩
  · have given : (turn.give conversation (.install other segment lifetime)).gain conversation
        (.install other segment lifetime) reply = turn := if_neg same
    rw [given]
    exact ⟨holds, fun same' => absurd same' same⟩

/-- A grant is of the number that the saver took last. -/
def GrantsTaken (conversation other : Conversation) (key : ClaimKey)
    (outcome : Except AllocationError Grant) (turn : Turn) : Prop :=
  ∀ grant, outcome = .ok grant → turn.Took conversation other key grant.range.span.first

/-- A range that was taken is granted when the clock has been read. -/
theorem grant_inTurn {range : NumberRange}
    (took : turn.Took conversation other key range.span.first) :
    (do return ⟨range, ← ExceptT.lift Procedure.now⟩ : Attempt AllocationError Grant).run.Keeps
      (inTurn conversation) (fun _ => True) (GrantsTaken conversation other key) turn := by
  -- The number was taken before the clock is read.
  refine .lift (.call trivial trivial fun now after moved => ⟨trivial, trivial, ?_⟩)
  subst moved
  intro grant granted
  cases granted
  exact took

/-- Every way out of the rounds of an allocation grants only the number that was taken last. -/
theorem allocateIn_inTurn (config : SegmentConfig) (need : UInt64) (rounds : Nat) :
    ∀ turn : Turn, turn.Idle conversation other key →
      (allocateIn config other need rounds).run.Keeps (inTurn conversation) (fun _ => True)
        (GrantsTaken conversation other key) turn := by
  -- The induction is on the rounds that are left, of which each begins without a block.
  have failed : ∀ {failure : AllocationError} {turn : Turn},
      GrantsTaken conversation other key (.error failure) turn := fun _ granted => by cases granted
  induction rounds with
  | zero => exact fun _ _ => ⟨trivial, failed⟩
  | succ rounds ih =>
    intro turn idle
    unfold allocateIn
    refine .attempt (take_inTurn need idle) (fun _ _ _ => failed) fun outcome after took => ?_
    split
    · exact grant_inTurn (took.2 _ rfl)
    refine .attempt (reserve_inTurn _ took.1) (fun _ _ _ => failed) fun segment later reserved => ?_
    obtain ⟨holds, block⟩ := reserved segment rfl
    refine .attempt (install_inTurn config.lifetime holds block) (fun _ _ _ => failed)
      fun _ installed idle => ?_
    refine .attempt (take_inTurn need idle) (fun _ _ _ => failed) fun outcome last took => ?_
    split
    · exact grant_inTurn (took.2 _ rfl)
    · exact ih last took.1

end Segmented

namespace Save

variable {config : SaveConfig} {numbering : SegmentConfig} {conversation : Conversation} {turn : Turn}

/-- A number that is allocated for a draft is the one that the saver took last. -/
theorem allocate_inTurn (draft : Draft) (idle : turn.Idle conversation draft.conversation draft.key) :
    (allocate config (.segmented numbering) draft).run.Keeps (inTurn conversation) (fun _ => True)
      (fun outcome after => ∀ sequence, outcome = .ok sequence →
        after.Took conversation draft.conversation draft.key sequence.value.toNat) turn := by
  -- A deadline that cuts the allocation leaves no number to account for.
  have bounded : (ExceptT.adapt (SaveError.ofAllocation draft.context) (ExceptT.mk
      (Plan.withDeadline "allocate" config.callTimeout
        ((Allocator.segmented numbering).allocate draft.conversation 1).run))).run.Keeps
      (inTurn conversation) (fun _ => True) (fun outcome after => ∀ grant, outcome = .ok grant →
        after.Took conversation draft.conversation draft.key grant.range.span.first) turn := by
    refine .adapt (.withDeadline ((Segmented.allocateIn_inTurn numbering 1 _ turn idle).mono
      (fun _ _ => ⟨trivial, fun _ granted => by cases granted⟩) fun outcome _ granted => ?_))
    exact ⟨trivial, fun grant same => granted grant (Plan.ok_of_renamed same)⟩
  refine bounded.attempt (fun _ _ _ _ same => by cases same) fun grant after took => ?_
  exact ⟨trivial, fun _ same => by cases same; exact took grant rfl⟩

/-- Another number that is allocated past what is stored is the one that the saver took last. -/
theorem renumber_inTurn (draft : Draft) (occupied : SequenceNumber)
    (idle : turn.Idle conversation draft.conversation draft.key) :
    (renumber config (.segmented numbering) draft occupied).run.Keeps (inTurn conversation)
      (fun _ => True) (fun outcome after => ∀ sequence, outcome = .ok sequence →
        after.Took conversation draft.conversation draft.key sequence.value.toNat) turn := by
  -- Finding the greatest number and raising the mark move nothing.
  have looks : (ExceptT.adapt (fun source => SaveError.writeFailed draft.context (.store source))
      (ExceptT.mk (Plan.retryTransient config.retry config.callTimeout "max_sequence"
        (Procedure.greatestSequence draft.conversation)))).run.Asks Service.IsAside :=
    .adapt (.retryTransient (.call trivial))
  have raises : ∀ floor, (ExceptT.adapt (SaveError.ofAllocation draft.context) (ExceptT.mk
      (Plan.withDeadline "reconcile_floor" config.callTimeout
        ((Allocator.segmented numbering).reconcile draft.conversation floor).run))).run.Asks
          Service.IsAside :=
    fun floor => .adapt (.withDeadline
      ((Allocator.reconcile_asks _ _ floor).permits fun _ => Service.MovesPast.aside))
  unfold renumber
  refine (keeps_inTurn looks conversation turn).attempt (fun _ _ _ _ same => by cases same) ?_
  rintro greatest _ rfl
  refine (keeps_inTurn (raises _) conversation _).attempt (fun _ _ _ _ same => by cases same) ?_
  rintro _ _ rfl
  exact allocate_inTurn draft idle

/-- Every round of inserting uses the number that the saver took last. -/
theorem insertIn_inTurn (rounds : Nat) :
    ∀ (setbacks : Setbacks) (draft : Draft) (sequence : SequenceNumber) (turn : Turn),
      turn.Took conversation draft.conversation draft.key sequence.value.toNat →
      (insertIn config (.segmented numbering) rounds setbacks draft sequence).run.Keeps
        (inTurn conversation) (fun _ => True) (fun _ _ => True) turn := by
  -- The induction is on the rounds that are left. A round goes on with the number, or with a new one.
  induction rounds with
  | zero => exact fun _ _ _ _ _ => ⟨trivial, trivial⟩
  | succ rounds ih =>
    intro setbacks draft sequence turn took
    unfold insertIn
    refine .lift (.call trivial trivial fun now after moved => ⟨trivial, ?_⟩)
    obtain rfl : turn = after := moved.symm
    -- The insert is permitted because the number is the last one taken. It changes no turn.
    have inserts : (Plan.withDeadline "insert" config.callTimeout
        (Procedure.insert (draft.message sequence now))).Keeps (inTurn conversation)
        (fun _ => True) (fun _ after => after = turn) turn :=
      .withDeadline (.call ⟨trivial, rfl⟩ (fun same => ⟨took.1.1.symm, took.2 same⟩)
        fun _ _ moved => ⟨⟨trivial, moved⟩, trivial, moved⟩)
    refine .lift (inserts.weaken fun inserted after _ same => ?_)
    obtain rfl : turn = after := same.symm
    split
    -- A stored message and a winner are seen to without another number.
    · have finishes := (@finish_keyed config (draft.message sequence now)).permits fun _ =>
        Service.Keyed.aside
      exact .liftLast ((keeps_inTurn finishes conversation _).weaken fun _ _ _ _ => trivial)
    · have adopts := (@adoptWinner_keyed config draft).permits fun _ => Service.Keyed.aside
      exact (keeps_inTurn adopts conversation _).weaken fun _ _ _ _ => trivial
    · dsimp only
      split
      · exact ⟨trivial, trivial⟩
      -- A renamed draft keeps its origin, so that the number is one of its conversation still.
      have renames := (Plan.Keeps.of_only (@rename_keyed config draft) fun request keyed =>
        inTurn_neutral conversation turn request keyed.aside).mono (fun _ _ => trivial)
          fun _ _ ended => ended
      refine renames.attempt (fun _ _ _ => trivial) fun renamed later ended => ?_
      obtain ⟨rfl, same⟩ := ended
      cases renamed with
      | stored receipt => exact ⟨trivial, trivial⟩
      | draft renamed =>
        have sameOrigin := same renamed rfl
        refine ih _ _ _ _ ?_
        unfold Draft.conversation Draft.key
        rw [sameOrigin]
        exact took
    · dsimp only
      split
      · exact ⟨trivial, trivial⟩
      -- Renumbering draws a number, and that is then the last one taken.
      refine (renumber_inTurn draft _ took.1).attempt (fun _ _ _ => trivial) ?_
      exact fun next later took => ih _ _ _ _ (took next rfl)
    · split
      · dsimp only
        split
        · exact ⟨trivial, trivial⟩
        · exact .lift ⟨trivial, ih _ _ _ _ took⟩
      · exact ⟨trivial, trivial⟩

end Save

/-- A save whose turn it is inserts only with the number that it took last. -/
theorem save_inTurn (conversation : Conversation) (job : SegmentedSave) :
    (savingSegmented.begins job).Keeps (inTurn conversation) (fun _ => True) (fun _ _ => True)
      ⟨.ofOrigin job.submission.origin, none, none⟩ := by
  -- Until it draws a number, a save asks for nothing that a turn speaks of.
  show (save job.config (.segmented job.numbering) job.submission).Keeps _ _ _ _
  unfold save
  dsimp only
  refine .bind ((keeps_inTurn ((Save.claim_keyed _ _).permits fun _ => Service.Keyed.aside)
    conversation _).weaken ?_)
  rintro outcome _ - rfl
  split
  · exact ⟨trivial, trivial⟩
  · exact ⟨trivial, trivial⟩
  · rename_i serverId
    let draft : Draft :=
      ⟨job.submission.origin, job.submission.payload, job.submission.fingerprint, serverId⟩
    -- From the first number on the turn is carried through the rounds of the insert.
    have committed : (Save.commit job.config (.segmented job.numbering) draft).run.Keeps
        (inTurn conversation) (fun _ => True) (fun _ _ => True)
        ⟨.ofOrigin job.submission.origin, none, none⟩ :=
      (Save.allocate_inTurn draft ⟨rfl, fun _ => rfl⟩).attempt (fun _ _ _ => trivial)
        fun sequence after took => Save.insertIn_inTurn _ _ draft sequence after (took sequence rfl)
    refine .bind (committed.weaken fun outcome after _ _ => ?_)
    split
    · exact ⟨trivial, trivial⟩
    -- Rolling back is aside again.
    · exact .bind ((keeps_inTurn ((Save.rollBack_asks _).permits_one trivial) conversation
        after).weaken fun _ _ _ _ => ⟨trivial, trivial⟩)

namespace Site

variable {site site' : Site Intake.services World fun _ : SegmentedSave => Except SaveError Receipt}

/-- At every point of every run of saves in turn the numbers of all rows are passed, and the save under
way goes on with the number that it took last. -/
theorem savingSegmented_upholds (conversation : Conversation) {clock : Instant}
    {lifetimes : ClaimLifetimes} {ready : List ServerId}
    (run : Relation.ReflTransGen (StepInTurn savingSegmented)
      ⟨World.fresh clock lifetimes ready, []⟩ site) :
    site.UpholdsLast (inTurn conversation) (Ascending conversation) := by
  -- What each kind of step keeps is one case, and a new save begins with a turn of its own.
  apply upholdsLast_of_turns run
  · exact ⟨⟨.ofOrigin Sample.origin, none, none⟩, .opening clock lifetimes ready _⟩
  · exact fun _ _ job ascending => ⟨_, save_inTurn conversation job, ascending.begin _⟩
  · exact fun _ _ _ _ _ ascending permitted reacted => ascending.reacts permitted reacted
  · exact fun _ _ _ ascending drifted => ascending.drifts drifted

/-- A step keeps all rows where they are. -/
theorem StepInTurn.keeps_row (taken : StepInTurn savingSegmented site site') {serverId : ServerId}
    {row : Message} (found : site.services.store.findByServerId serverId = some row) :
    site'.services.store.findByServerId serverId = some row := by
  -- Only a call may touch the store.
  cases taken with
  | starts job => exact found
  | calls called reacted =>
    rcases World.Reacts.store reacted with same | same
    · rw [same]; exact found
    · rw [same]; exact World.findByServerId_answer found _
  | passes passed => exact found
  | drifts drifted => rw [drifted.store]; exact found

/-- A row that a step adds lies above all rows of its conversation. -/
theorem StepInTurn.adds_above (taken : StepInTurn savingSegmented site site')
    {conversation : Conversation}
    (upheld : site.UpholdsLast (inTurn conversation) (Ascending conversation)) {serverId : ServerId}
    {row : Message} (found : site'.services.store.findByServerId serverId = some row)
    (new : site.services.store.findByServerId serverId = none)
    (same : row.conversation = conversation) :
    site.services.store.Below conversation row.sequence.value.toNat := by
  -- Only a call that the saver is permitted may add a row.
  have old : site'.services.store ≠ site.services.store := by
    intro equal
    rw [equal, new] at found
    cases found
  obtain ⟨turn, ascending, keeps⟩ := upheld
  cases taken with
  | starts job => exact absurd rfl old
  | calls called reacted =>
    obtain ⟨permitted, _⟩ := (keeps _ List.getLast?_concat).calls called
    rcases World.Reacts.store reacted with unchanged | changed
    · exact absurd unchanged old
    · exact ascending.added_above permitted (by rw [← changed]; exact found) new same
  | passes passed => exact absurd rfl old
  | drifts drifted => exact absurd drifted.store old

end Site

/-- However saves with numbers from blocks run one after the other, and whatever fails or is lost: every
row that is added lies above all that its conversation held before. -/
theorem added_rows_ascend {clock : Instant} {lifetimes : ClaimLifetimes} {ready : List ServerId}
    {site site' : Site services World fun _ : SegmentedSave => Except SaveError Receipt}
    (run : Relation.ReflTransGen (Site.StepInTurn savingSegmented)
      ⟨World.fresh clock lifetimes ready, []⟩ site)
    (goesOn : Relation.ReflTransGen (Site.StepInTurn savingSegmented) site site') :
    ∀ serverId row, site'.services.store.findByServerId serverId = some row →
      site.services.store.findByServerId serverId = none →
      ∀ earlierId earlier, site.services.store.findByServerId earlierId = some earlier →
        earlier.conversation = row.conversation → earlier.sequence.value < row.sequence.value := by
  -- The induction is on the steps from that point on, which keep all rows that are there.
  have kept : ∀ {middle : Site services World fun _ : SegmentedSave => Except SaveError Receipt},
      Relation.ReflTransGen (Site.StepInTurn savingSegmented) site middle →
      ∀ {earlierId earlier}, site.services.store.findByServerId earlierId = some earlier →
        middle.services.store.findByServerId earlierId = some earlier := by
    intro middle steps earlierId earlier found
    induction steps with
    | refl => exact found
    | tail _ taken ih => exact taken.keeps_row ih
  intro serverId row found new earlierId earlier stored same
  induction goesOn with
  | refl => rw [new] at found; cases found
  | @tail middle last steps taken ih =>
    cases there : middle.services.store.findByServerId serverId with
    | some row' =>
      rw [taken.keeps_row there] at found
      cases found
      exact ih there
    | none =>
      have upheld := Site.savingSegmented_upholds row.conversation (run.trans steps)
      have above := taken.adds_above upheld found there rfl
      exact UInt64.lt_iff_toNat_lt.mpr (above earlierId earlier (kept steps stored) same)

/-- The save of a greeting with numbers from cached blocks. -/
def helloSave : SegmentedSave := ⟨.standard, .standard, Sample.hello⟩

/-- The save of another message to the same conversation. -/
def nextSave : SegmentedSave := ⟨.standard, .standard, Sample.next⟩

/-- The site at which a save has begun behind the callers of another one, and run until it was done. -/
def afterSave (site : Site services World fun _ : SegmentedSave => Except SaveError Receipt)
    (job : SegmentedSave) : Site services World fun _ : SegmentedSave => Except SaveError Receipt :=
  (Site.turnOfLast World.answer)^[40]
    { site with callers := site.callers ++ [⟨job, savingSegmented.begins job⟩] }

/-- A save that runs until it is done is a run in turn. -/
theorem leads_afterSave
    (site : Site services World fun _ : SegmentedSave => Except SaveError Receipt)
    (job : SegmentedSave) :
    Relation.ReflTransGen (Site.StepInTurn savingSegmented) site (afterSave site job) :=
  -- The save begins, and is then given every turn until it has ended.
  (Relation.ReflTransGen.single (.starts site job)).trans
    (Site.leads_of_turnOfLast (fun _ _ => World.Reacts.answers) _ _)

/-- A greeting was saved. -/
def helloStored : Site services World fun _ : SegmentedSave => Except SaveError Receipt :=
  afterSave ⟨Sample.services, []⟩ helloSave

/-- The cached block was lost, and another message was saved. -/
def nextStored : Site services World fun _ : SegmentedSave => Except SaveError Receipt :=
  afterSave ⟨{ helloStored.services with
    segments := helloStored.services.segments.remove Sample.conversation }, helloStored.callers⟩
    nextSave

set_option maxRecDepth 100000 in
/-- A message that is saved after the cached block was lost is stored behind the one before the loss. -/
theorem nextStored_above_hello : ∃ row earlier,
    nextStored.services.store.findByServerId ⟨Uuid.ofNat 0x1002⟩ = some row ∧
      helloStored.services.store.findByServerId ⟨Uuid.ofNat 0x1001⟩ = some earlier ∧
      earlier.sequence.value < row.sequence.value := by
  -- Between the saves the block is lost, so that the second one is numbered from a new block.
  have lost : Site.StepInTurn savingSegmented helloStored ⟨{ helloStored.services with
      segments := helloStored.services.segments.remove Sample.conversation }, helloStored.callers⟩ :=
    .drifts ⟨rfl, rfl, rfl, rfl, rfl, ExpiringTable.remove_forgets _ _, .refl _, .refl _, .refl _⟩
  let earlier : Message := ⟨Sample.origin, ⟨Uuid.ofNat 0x1001⟩, ⟨1⟩, ⟨[]⟩,
    Sample.hello.fingerprint, Sample.clock⟩
  let row : Message := ⟨nextSave.submission.origin, ⟨Uuid.ofNat 0x1002⟩, ⟨257⟩, ⟨[]⟩,
    Sample.hello.fingerprint, Sample.clock⟩
  have stored : helloStored.services.store.findByServerId ⟨Uuid.ofNat 0x1001⟩ = some earlier := rfl
  have found : nextStored.services.store.findByServerId ⟨Uuid.ofNat 0x1002⟩ = some row := rfl
  exact ⟨row, earlier, found, stored, added_rows_ascend (leads_afterSave _ helloSave)
    ((Relation.ReflTransGen.single lost).trans (leads_afterSave _ nextSave))
    _ row found rfl _ earlier stored rfl⟩

end Intake
