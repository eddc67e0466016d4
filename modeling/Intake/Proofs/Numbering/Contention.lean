import Intake.Allocator.Segmented
import Intake.Memory.World
import Intake.Proofs.Concurrency.Site
import Intake.Proofs.Memory.Expiring
import Intake.Proofs.Numbering.Span

/-! Calls for one number each of the same conversation, and how far each of them has come. -/

namespace Intake

/-- A range of a single number has no other one. -/
theorem NumberRange.numbers_of_one {range : NumberRange} (single : range.count = 1) :
    range.numbers = [range.start] := by
  -- The range ends where it starts, whatever number that is.
  obtain ⟨⟨start⟩, count⟩ := range
  obtain rfl : count = 1 := single
  have last : NumberRange.last ⟨⟨start⟩, 1⟩ = ⟨start⟩ := by
    unfold last
    rw [SequenceNumber.mk.injEq, ← UInt64.toNat_inj, Word.saturatingAdd_toNat]
    have bound := start.toNat_lt_size
    simp only [Word.saturatingSub_toNat, UInt64.toNat_one]
    omega
  simp [numbers, firstNumbers, last]

/-- There are as many rounds as are allowed, and one if none are. -/
theorem roundsOf_toNat (maxAttempts : UInt32) :
    (roundsOf maxAttempts).toNat = max 1 maxAttempts.toNat := by
  -- A limit of zero allows one round, and any other as many as it says.
  unfold roundsOf
  split
  · rename_i none'
    subst none'
    decide
  · rename_i limited
    have some : maxAttempts.toNat ≠ 0 := fun none' => limited (UInt32.toNat_inj.mp none')
    omega

/-- A call for one number, with settings of its own but for the lifetime of cached blocks. -/
structure Contender where
  blockSize : BlockSize
  maxAttempts : UInt32

/-- The clock may be set while no cached block expires: blocks that are cached anew live at the
reading, and of the conversation there lives what lived before. -/
def World.Ticks (conversation : Conversation) (lifetime : Duration) (before after : World) : Prop :=
  ∃ reading, after = { before with clock := reading } ∧ reading < reading.plus lifetime ∧
    before.segments.liveEntry conversation reading =
      before.segments.liveEntry conversation before.clock

/-- Calls for one number each of a conversation over the services in memory, where nothing fails, is
lost or expires. -/
def contending (conversation : Conversation) (lifetime : Duration) :
    Setting services World (fun _ : Contender => Except AllocationError Grant) where
  reacts request before reply after := World.answer request before = (reply, after)
  drifts := World.Ticks conversation lifetime
  begins contender :=
    (Segmented.allocate ⟨contender.blockSize, lifetime, contender.maxAttempts⟩ conversation 1).run

/-- A caller has been granted a number: it asks for the time alone any more, and ends with a grant of
the number. -/
def Plan.Granted (number : SequenceNumber) (plan : Procedure (Except AllocationError Grant)) : Prop :=
  plan.Keeps (.only (· = Service.Request.now)) (fun _ => True)
    (fun outcome _ => ∃ grant, outcome = .ok grant ∧ number ∈ grant.range.numbers) ()

/-- What a call for one number is about: to look for it in the cached block, to reserve or cache a block,
or to state the number it has taken. -/
inductive Stage where
  | looks
  | holds (segment : Segment)
  | expects (segment : Segment)
  | took (number : SequenceNumber)

/-- How far a call has come: the highest number reserved when it began, the last number of a used-up
block for each of its rounds so far, latest first, and its stage. -/
structure Pursuit where
  since : Nat
  passed : List SequenceNumber
  stage : Stage

namespace Pursuit

/-- Whether the next thing is to look for a number in the cached block. -/
def Seeks (pursuit : Pursuit) : Prop :=
  pursuit.stage = .looks ∨ ∃ segment, pursuit.stage = .expects segment

/-- A look that finds no number leads on to a reservation, or ends the round. Then it is noted by its last
number which block was found used up. -/
def Misses (pursuit after : Pursuit) : Prop :=
  match pursuit.stage with
  | .expects _ => ∃ last, after = { pursuit with passed := last :: pursuit.passed, stage := .looks }
  | _ => after = pursuit

/-- A call that fails, but not because its rounds are exhausted, has taken no number. -/
def Fails (failure : AllocationError) (pursuit : Pursuit) : Prop :=
  (∀ number, pursuit.stage ≠ .took number) ∧
    ∀ conversation limit, failure ≠ .retriesExhausted conversation limit

/-- A call that is granted a number has taken it. One that fails has taken none, and if its rounds are
exhausted each of them has found a used-up block. -/
def Ends (rounds : Nat) (outcome : Except AllocationError Grant) (pursuit : Pursuit) : Prop :=
  match outcome with
  | .ok grant => pursuit.stage = .took grant.range.start ∧ grant.range.count = 1
  | .error failure => (∀ number, pursuit.stage ≠ .took number) ∧
      ∀ conversation limit, failure = .retriesExhausted conversation limit →
        rounds ≤ pursuit.passed.length

/-- A call that fails for another reason ends as a failed one does. -/
theorem Fails.ends {failure : AllocationError} {pursuit : Pursuit} (fails : pursuit.Fails failure)
    (rounds : Nat) : pursuit.Ends rounds (.error failure) :=
  ⟨fails.1, fun conversation limit exhausted => absurd exhausted (fails.2 conversation limit)⟩

/-- A call that looks for a number has taken none. -/
theorem Seeks.untaken {pursuit : Pursuit} (seeks : pursuit.Seeks) (number : SequenceNumber) :
    pursuit.stage ≠ .took number := by
  -- Looking and expecting are other stages than having taken.
  rcases seeks with looks | ⟨segment, expects⟩
  · simp [looks]
  · simp [expects]

/-- A look that finds nothing takes nothing. -/
theorem Misses.untaken {pursuit after : Pursuit} (seeks : pursuit.Seeks)
    (misses : pursuit.Misses after) (number : SequenceNumber) : after.stage ≠ .took number := by
  -- A look that misses sends the call back to looking, or leaves it where it was.
  unfold Misses at misses
  split at misses
  · obtain ⟨last, rfl⟩ := misses
    simp
  · rw [misses]
    exact seeks.untaken number

end Pursuit

/-- What calls for one number ask for at each stage, and how they go on. -/
def pursuing (conversation : Conversation) (lifetime : Duration) : Protocol services Pursuit where
  permits
    | .take other need, pursuit => other = conversation ∧ need = 1 ∧ pursuit.Seeks
    | .reserve other _, pursuit => other = conversation ∧ pursuit.stage = .looks
    | .install other segment lives, pursuit =>
      other = conversation ∧ lives = lifetime ∧ pursuit.stage = .holds segment
    | .now, pursuit => ∃ number, pursuit.stage = .took number
    | _, _ => False
  moves
    | .take _ _, pursuit, .ok (.taken range), after =>
      range.count = 1 ∧ after = { pursuit with stage := .took range.start }
    | .take _ _, pursuit, _, after => pursuit.Misses after
    | .reserve _ _, pursuit, .ok segment, after => after = { pursuit with stage := .holds segment }
    | .install _ segment _, pursuit, _, after => after = { pursuit with stage := .expects segment }
    | _, pursuit, _, after => after = pursuit

/-- No call forgets what was reserved when it began. -/
theorem pursuing_since {conversation : Conversation} {lifetime : Duration} {request : Service.Request}
    {reply : Service.Reply request} {pursuit after : Pursuit}
    (permitted : (pursuing conversation lifetime).permits request pursuit)
    (moved : (pursuing conversation lifetime).moves request pursuit reply after) :
    after.since = pursuit.since := by
  -- What a call goes on to differs in its stage, and in what it has noted.
  cases request
  case now =>
    obtain rfl : after = pursuit := moved
    rfl
  case take =>
    have missed : pursuit.Misses after → after.since = pursuit.since := by
      intro misses
      unfold Pursuit.Misses at misses
      split at misses
      · obtain ⟨last, rfl⟩ := misses
        rfl
      · rw [misses]
    rcases reply with failure | ⟨range | _ | _⟩
    · exact missed moved
    · obtain ⟨_, rfl⟩ := moved
      rfl
    · exact missed moved
    · exact missed moved
  case reserve =>
    rcases reply with failure | segment
    · obtain rfl : after = pursuit := moved
      rfl
    · obtain rfl : after = { pursuit with stage := .holds segment } := moved
      rfl
  case install other segment lives =>
    obtain rfl : after = { pursuit with stage := .expects segment } := moved
    rfl
  all_goals exact permitted.elim

namespace Segmented

variable {conversation : Conversation} {lifetime : Duration} {pursuit : Pursuit} {rounds : Nat}

/-- A look takes a number, or misses. -/
theorem take_pursues (seeks : pursuit.Seeks) :
    (Attempt.onCache (Procedure.take conversation 1)).run.Keeps (pursuing conversation lifetime)
      (fun _ => True) (fun outcome after => match outcome with
        | .ok outcome =>
          (∀ range, outcome = .taken range →
            range.count = 1 ∧ after = { pursuit with stage := .took range.start }) ∧
          ((∀ range, outcome ≠ .taken range) → pursuit.Misses after)
        | .error failure => after.Fails failure) pursuit := by
  -- Whatever else is answered than a range, the look has missed.
  refine .adapt (.call trivial ⟨rfl, rfl, seeks⟩ fun reply after moved => ⟨trivial, ?_⟩)
  rcases reply with failure | ⟨range | _ | _⟩
  · have misses : pursuit.Misses after := moved
    exact ⟨misses.untaken seeks, by simp⟩
  · have took : range.count = 1 ∧ after = { pursuit with stage := .took range.start } := moved
    exact ⟨fun _ same => by cases same; exact took, fun missed => absurd rfl (missed range)⟩
  · exact ⟨fun _ same => (nomatch same), fun _ => moved⟩
  · exact ⟨fun _ same => (nomatch same), fun _ => moved⟩

/-- A block that is reserved is in the hands of its caller. -/
theorem reserve_pursues (count : UInt64) (looks : pursuit.stage = .looks) :
    (Attempt.onLedger (Procedure.reserve conversation count)).run.Keeps
      (pursuing conversation lifetime) (fun _ => True) (fun outcome after => match outcome with
        | .ok segment => after = { pursuit with stage := .holds segment }
        | .error failure => after.Fails failure) pursuit := by
  -- A refused reservation leaves the call looking.
  refine .adapt (.call trivial ⟨rfl, looks⟩ fun reply after moved => ⟨trivial, ?_⟩)
  rcases reply with failure | segment
  · obtain rfl : after = pursuit := moved
    exact ⟨by simp [looks], by simp⟩
  · exact moved

/-- A block that is put to the cache is expected there, or one that reaches above it. -/
theorem install_pursues {segment : Segment} (holds : pursuit.stage = .holds segment) :
    (Attempt.onCache (Procedure.install conversation segment lifetime)).run.Keeps
      (pursuing conversation lifetime) (fun _ => True) (fun outcome after => match outcome with
        | .ok _ => after = { pursuit with stage := .expects segment }
        | .error failure => after.Fails failure) pursuit := by
  -- Whatever is answered, the call goes on to look.
  refine .adapt (.call trivial ⟨rfl, rfl, holds⟩ fun reply after moved => ⟨trivial, ?_⟩)
  obtain rfl : after = { pursuit with stage := .expects segment } := moved
  rcases reply with failure | outcome
  · exact ⟨by simp, by simp⟩
  · rfl

/-- A number that was taken is granted when the clock has been read. -/
theorem grant_pursues {range : NumberRange} (single : range.count = 1)
    (took : pursuit.stage = .took range.start) :
    (do return ⟨range, ← ExceptT.lift Procedure.now⟩ : Attempt AllocationError Grant).run.Keeps
      (pursuing conversation lifetime) (fun _ => True) (Pursuit.Ends rounds) pursuit := by
  -- Reading the clock is all that is left, and leaves the call as it is.
  refine .lift (.call trivial ⟨_, took⟩ fun now after moved => ⟨trivial, trivial, ?_⟩)
  obtain rfl : after = pursuit := moved
  exact ⟨took, single⟩

/-- A call whose rounds are exhausted has found a used-up block in each of them. -/
theorem allocateIn_pursues (config : SegmentConfig) (conversation : Conversation) (left : Nat) :
    ∀ pursuit : Pursuit, pursuit.stage = .looks → rounds ≤ pursuit.passed.length + left →
      (allocateIn config conversation 1 left).run.Keeps (pursuing conversation config.lifetime)
        (fun _ => True) (Pursuit.Ends rounds) pursuit := by
  -- The induction is on the rounds that are left, each of which is to note one block.
  induction left with
  | zero =>
    intro pursuit looks enough
    exact ⟨trivial, by simp [looks], fun _ _ _ => enough⟩
  | succ left ih =>
    intro pursuit looks enough
    unfold allocateIn
    refine .attempt (take_pursues (.inl looks)) (fun _ _ fails => fails.ends rounds)
      fun outcome after looked => ?_
    split
    · rename_i range
      obtain ⟨single, rfl⟩ := looked.1 range rfl
      exact grant_pursues single rfl
    rename_i missed
    obtain rfl : after = pursuit := by
      have misses := looked.2 fun range => missed range
      rwa [Pursuit.Misses, looks] at misses
    refine .attempt (reserve_pursues _ looks) (fun _ _ fails => fails.ends rounds)
      fun segment holder reserved => ?_
    subst reserved
    refine .attempt (install_pursues rfl) (fun _ _ fails => fails.ends rounds)
      fun _ expecting installed => ?_
    subst installed
    refine .attempt (take_pursues (.inr ⟨segment, rfl⟩)) (fun _ _ fails => fails.ends rounds)
      fun outcome last looked => ?_
    split
    · rename_i range
      obtain ⟨single, rfl⟩ := looked.1 range rfl
      exact grant_pursues single rfl
    · rename_i missed
      -- The round ends with a used-up block that is noted.
      obtain ⟨number, rfl⟩ := looked.2 fun range => missed range
      refine ih _ rfl ?_
      simp only [List.length_cons]
      omega

/-- A call for one number pursues it from the start for as many rounds as are allowed. -/
theorem allocate_pursues (config : SegmentConfig) (conversation : Conversation) (since : Nat) :
    (allocate config conversation 1).run.Keeps (pursuing conversation config.lifetime)
      (fun _ => True) (Pursuit.Ends (max 1 config.maxAttempts.toNat)) ⟨since, [], .looks⟩ := by
  -- It asks for a number, so it goes into its rounds.
  have some : (1 : UInt64) ≠ 0 := by decide
  unfold allocate
  rw [if_neg some]
  refine allocateIn_pursues config conversation _ _ rfl ?_
  rw [roundsOf_toNat]
  exact Nat.le_add_left _ _

end Segmented

namespace Plan.Keeps

variable {conversation : Conversation} {lifetime : Duration} {pursuit : Pursuit} {rounds : Nat}
  {number : SequenceNumber} {plan : Procedure (Except AllocationError Grant)}

/-- From what is held a plan makes certain calls only, if the protocol permits no others and may go on
from each of them with the same held. -/
theorem standing {I : Interface} {H α : Type} {protocol : Protocol I H} {allowed : I.Request → Prop}
    {held : H} (stands : ∀ request, protocol.permits request held →
      allowed request ∧ ∀ reply, protocol.moves request held reply held)
    {plan : Plan I α} {cut : H → Prop} {ends : α → H → Prop}
    (keeps : plan.Keeps protocol cut ends held) :
    plan.Keeps (.only allowed) (fun _ => cut held) (fun value _ => ends value held) () := by
  -- The induction is on the plan, at every call of which the same is held.
  induction plan generalizing cut with
  | done value => exact keeps
  | ask request next ih =>
    obtain ⟨before, permitted, goesOn⟩ := keeps
    obtain ⟨allows, stays⟩ := stands request permitted
    exact ⟨before, allows, fun reply _ _ => ih reply (goesOn reply held (stays reply))⟩
  | sleep span next ih => exact ih keeps
  | within limit body next ihBody ihNext =>
    have bounded : body.Keeps protocol _ _ held := keeps
    exact (ihBody bounded).mono (fun _ kept => ihNext none kept)
      fun value _ kept => ihNext (some value) kept

/-- A call that has taken a number has been granted it. -/
theorem granted (keeps : plan.Keeps (pursuing conversation lifetime) (fun _ => True)
      (Pursuit.Ends rounds) pursuit) (took : pursuit.stage = .took number) : plan.Granted number := by
  -- At this stage the clock alone is asked for, and what the call has taken stays the same.
  have stands : ∀ request, (pursuing conversation lifetime).permits request pursuit →
      request = .now ∧ ∀ reply, (pursuing conversation lifetime).moves request pursuit reply pursuit := by
    intro request permitted
    cases request
    case now => exact ⟨rfl, fun _ => rfl⟩
    case take => exact absurd took (permitted.2.2.untaken number)
    case reserve => exact absurd (took.symm.trans permitted.2) (by simp)
    case install => exact absurd (took.symm.trans permitted.2.2) (by simp)
    all_goals exact permitted.elim
  refine (keeps.standing stands).mono (fun _ _ => trivial) fun outcome _ ended => ?_
  rcases outcome with failure | grant
  · exact absurd took (ended.1 number)
  · obtain ⟨same, single⟩ := ended
    refine ⟨grant, rfl, ?_⟩
    rw [NumberRange.numbers_of_one single]
    rw [took] at same
    cases same
    exact List.mem_singleton_self _

/-- A plan that asks for the time alone has taken a number if its end says so. -/
theorem took_of_ends {α : Type} {plan : Procedure α} {cut : Pursuit → Prop} {cut' : Unit → Prop}
    {ends : α → Pursuit → Prop} {ends' : α → Unit → Prop}
    (keeps : plan.Keeps (pursuing conversation lifetime) cut ends pursuit)
    (waits : plan.Keeps (.only (· = Service.Request.now)) cut' ends' ())
    (took : ∀ value, ends value pursuit → ends' value () → pursuit.stage = .took number) :
    pursuit.stage = .took number := by
  -- The induction is on the plan. What is held stays the same whatever the clock reads.
  induction plan generalizing cut cut' with
  | done value => exact took value keeps.2 waits.2
  | ask request next ih =>
    obtain rfl : request = .now := waits.2.1
    exact ih Instant.latest (keeps.2.2 _ pursuit rfl) (waits.2.2 _ () trivial) took
  | sleep span next ih => exact ih keeps waits took
  | within limit body next _ ihNext =>
    have bounded : body.Keeps (pursuing conversation lifetime) _ _ pursuit := keeps
    have bounded' : body.Keeps (.only (· = Service.Request.now)) _ _ () := waits
    exact ihNext none bounded.cut_held bounded'.cut_held took

/-- A call has been granted a number exactly when it has taken it. -/
theorem granted_iff (keeps : plan.Keeps (pursuing conversation lifetime) (fun _ => True)
      (Pursuit.Ends rounds) pursuit) : plan.Granted number ↔ pursuit.stage = .took number := by
  -- A grant of one number is of the number that was taken.
  refine ⟨fun granted => keeps.took_of_ends granted fun outcome ended got => ?_, keeps.granted⟩
  obtain ⟨grant, rfl, member⟩ := got
  obtain ⟨took, single⟩ := ended
  rw [NumberRange.numbers_of_one single, List.mem_singleton] at member
  rw [member, took]

end Plan.Keeps

end Intake
