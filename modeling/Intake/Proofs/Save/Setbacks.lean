import Intake.Proofs.Save.Account

/-! The setbacks of a save: the answers to its inserts that it mends, within a limit for each kind, and the
one answer that it ends with. -/

namespace Intake

/-- An outcome in which no write was given up. -/
def Save.Decided {α : Type} (outcome : Except SaveError α) : Prop :=
  ∀ context reason, outcome ≠ .error (.writeFailed context reason)

/-- A failed allocation gives up no write. -/
theorem Save.decided_ofAllocation {α : Type} (context : SaveContext) (source : AllocationError) :
    Save.Decided (.error (.ofAllocation context source) : Except SaveError α) := by
  -- A failed allocation is passed on as such, or as an inconsistency.
  intro other reason same
  unfold SaveError.ofAllocation at same
  split at same <;> cases same

/-- What adopting comes to: the receipt of the row that was found, if that is of the same content. -/
def Save.adopted (context : SaveContext) (fingerprint : Fingerprint) :
    Option Message → Except SaveError Receipt
  | some row => if row.fingerprint = fingerprint then .ok row.receipt else .error (.conflict context)
  | none => .error (.inconsistency context
      "store reported a duplicate client message id but holds no such row")

/-- Adopting gives up no write. -/
theorem Save.decided_adopted (context : SaveContext) (fingerprint : Fingerprint)
    (row : Option Message) : Save.Decided (Save.adopted context fingerprint row) := by
  -- What is adopted ends in a receipt, a conflict or an inconsistency.
  intro other reason same
  unfold adopted at same
  split at same
  · split at same <;> cases same
  · cases same

namespace Inserted

/-- Answers after each of which a save inserts again, within its limits. -/
structure Mended (config : SaveConfig) (answers : List Inserted) : Prop where
  setbacks : ∀ answer ∈ answers, answer.isConflict ∨ answer.isCollision ∨ answer.mayPass
  conflicts_le : answers.countP isConflict ≤ config.maxSequenceConflicts.toNat
  collisions_le : answers.countP isCollision ≤ config.maxServerIdCollisions.toNat
  failures_lt : answers.countP mayPass < max config.retry.maxAttempts.toNat 1

/-- What a save ends with for the answer to its last insert, after the answers before it. -/
inductive Closes (config : SaveConfig) (context : SaveContext) (message : Message)
    (before : List Inserted) : Inserted → Except SaveError Receipt → Prop where
  | stored : Closes config context message before (.ok ()) (.ok message.receipt)
  /-- The row that the look-up found under the key is adopted, if there was one. -/
  | found {key : ClaimKey} (row : Option Message) :
      Closes config context message before (.error (.duplicateClientMessage key))
        (Save.adopted context message.fingerprint row)
  | conflicted {conversation : Conversation} {taken : SequenceNumber} {attempts : UInt32} :
      before.countP isConflict = config.maxSequenceConflicts.toNat →
        attempts.toNat = config.maxSequenceConflicts.toNat + 1 →
          Closes config context message before (.error (.duplicateSequence conversation taken))
            (.error (.writeFailed context (.sequenceConflicts attempts)))
  | unnumbered {conversation : Conversation} {taken : SequenceNumber} (source : AllocationError) :
      before.countP isConflict < config.maxSequenceConflicts.toNat →
        Closes config context message before (.error (.duplicateSequence conversation taken))
          (.error (.ofAllocation context source))
  | collided {taken : ServerId} {attempts : UInt32} :
      before.countP isCollision = config.maxServerIdCollisions.toNat →
        attempts.toNat = config.maxServerIdCollisions.toNat + 1 →
          Closes config context message before (.error (.duplicateServerId taken))
            (.error (.writeFailed context (.serverIdCollisions attempts)))
  | gaveUp {failure : StoreError} :
      Transient.isTransient failure = true →
        before.countP mayPass + 1 = max config.retry.maxAttempts.toNat 1 →
          Closes config context message before (.error failure)
            (.error (.writeFailed context (.store failure)))
  | refused {failure : StoreError} :
      Transient.isTransient failure = false → (∀ key, failure ≠ .duplicateClientMessage key) →
        isConflict (.error failure) = false → isCollision (.error failure) = false →
          Closes config context message before (.error failure)
            (.error (.writeFailed context (.store failure)))

variable {config : SaveConfig} {answers : List Inserted}

/-- A save never has more setbacks behind it than its limits add up to. -/
theorem Mended.length_lt (mended : Mended config answers) : answers.length < Save.roundLimit config := by
  -- Every answer counts against one of the limits.
  have counted : ∀ answers : List Inserted,
      (∀ answer ∈ answers, answer.isConflict ∨ answer.isCollision ∨ answer.mayPass) →
      answers.length ≤ answers.countP isConflict + answers.countP isCollision +
        answers.countP mayPass := by
    intro answers setbacks
    induction answers with
    | nil => exact Nat.zero_le _
    | cons answer answers ih =>
      obtain ⟨one, others⟩ := List.forall_mem_cons.mp setbacks
      have fewer := ih others
      simp only [List.length_cons, List.countP_cons]
      rcases one with one | one | one <;> simp only [one, ↓reduceIte] <;> omega
  have all := counted answers mended.setbacks
  obtain ⟨_, conflicts, collisions, failures⟩ := mended
  unfold Save.roundLimit
  omega

/-- With nothing inserted there is nothing to mend. -/
theorem mended_nil (config : SaveConfig) : Mended config [] :=
  ⟨by simp, Nat.zero_le _, Nat.zero_le _, Nat.le_max_right _ _⟩

/-- One more place that was taken is mended below the limit. -/
theorem Mended.conflict (mended : Mended config answers)
    (below : answers.countP isConflict < config.maxSequenceConflicts.toNat)
    (conversation : Conversation) (taken : SequenceNumber) :
    Mended config (answers ++ [.error (.duplicateSequence conversation taken)]) where
  -- The answer counts as a conflict and as nothing else.
  setbacks := List.forall_mem_append.mpr ⟨mended.setbacks, by simp [isConflict]⟩
  conflicts_le := by simpa [isConflict] using Nat.succ_le_of_lt below
  collisions_le := by simpa [isCollision] using mended.collisions_le
  failures_lt := by simpa [mayPass, Transient.isTransient] using mended.failures_lt

/-- One more identifier that was taken is mended below the limit. -/
theorem Mended.collision (mended : Mended config answers)
    (below : answers.countP isCollision < config.maxServerIdCollisions.toNat) (taken : ServerId) :
    Mended config (answers ++ [.error (.duplicateServerId taken)]) where
  -- The answer counts as a collision and as nothing else.
  setbacks := List.forall_mem_append.mpr ⟨mended.setbacks, by simp [isCollision]⟩
  conflicts_le := by simpa [isConflict] using mended.conflicts_le
  collisions_le := by simpa [isCollision] using Nat.succ_le_of_lt below
  failures_lt := by simpa [mayPass, Transient.isTransient] using mended.failures_lt

/-- A failure that may pass is of none of the other kinds. -/
theorem passing_cases {failure : StoreError} (passing : Transient.isTransient failure = true) :
    isConflict (.error failure) = false ∧ isCollision (.error failure) = false := by
  cases failure <;> first | exact ⟨rfl, rfl⟩ | cases passing

/-- One more failure that may pass is mended below the limit. -/
theorem Mended.failure (mended : Mended config answers) {failure : StoreError}
    (passing : Transient.isTransient failure = true)
    (below : answers.countP mayPass + 1 < config.retry.maxAttempts.toNat) :
    Mended config (answers ++ [.error failure]) := by
  -- A failure that may pass is neither a conflict nor a collision.
  obtain ⟨unconflicted, uncollided⟩ := passing_cases passing
  have passes : mayPass (.error failure) = true := passing
  constructor
  · exact List.forall_mem_append.mpr ⟨mended.setbacks, by simp [passes]⟩
  · simpa [unconflicted] using mended.conflicts_le
  · simpa [uncollided] using mended.collisions_le
  · simp only [List.countP_append, List.countP_singleton, passes, ↓reduceIte]
    omega

variable {context : SaveContext} {message : Message} {before : List Inserted} {answer : Inserted}
  {outcome : Except SaveError Receipt}

/-- A save ends for its conflicts with the first one above the limit. -/
theorem Closes.conflicts_iff (closes : Closes config context message before answer outcome)
    (mended : Mended config before) (attempts : UInt32) :
    outcome = .error (.writeFailed context (.sequenceConflicts attempts)) ↔
      (before ++ [answer]).countP isConflict = config.maxSequenceConflicts.toNat + 1 ∧
        attempts.toNat = config.maxSequenceConflicts.toNat + 1 := by
  -- The mended answers are within the limit, so that only the last one can exceed it.
  have within := mended.conflicts_le
  rw [List.countP_append, List.countP_singleton]
  cases closes with
  | conflicted reached counts =>
    constructor
    · intro same
      cases same
      exact ⟨by rw [reached]; rfl, counts⟩
    · rintro ⟨_, counts'⟩
      rw [UInt32.toNat.inj (counts.trans counts'.symm)]
  | unnumbered source below =>
    exact ⟨fun same => absurd same (Save.decided_ofAllocation context source _ _),
      fun many => absurd many.1 (by simp only [isConflict, ↓reduceIte]; omega)⟩
  | found row =>
    exact ⟨fun same => absurd same (Save.decided_adopted _ _ row _ _),
      fun many => absurd many.1 (by simp [isConflict]; omega)⟩
  | gaveUp passing =>
    have other := (passing_cases passing).1
    exact ⟨nofun, fun many => absurd many.1 (by simp [other]; omega)⟩
  | refused _ _ other _ => exact ⟨nofun, fun many => absurd many.1 (by simp [other]; omega)⟩
  | stored | collided => exact ⟨nofun, fun many => absurd many.1 (by simp [isConflict]; omega)⟩

/-- A save ends for its collisions with the first one above the limit. -/
theorem Closes.collisions_iff (closes : Closes config context message before answer outcome)
    (mended : Mended config before) (attempts : UInt32) :
    outcome = .error (.writeFailed context (.serverIdCollisions attempts)) ↔
      (before ++ [answer]).countP isCollision = config.maxServerIdCollisions.toNat + 1 ∧
        attempts.toNat = config.maxServerIdCollisions.toNat + 1 := by
  -- Again only the last answer can exceed the limit, and only as a collision.
  have within := mended.collisions_le
  rw [List.countP_append, List.countP_singleton]
  cases closes with
  | collided reached counts =>
    constructor
    · intro same
      cases same
      exact ⟨by rw [reached]; rfl, counts⟩
    · rintro ⟨_, counts'⟩
      rw [UInt32.toNat.inj (counts.trans counts'.symm)]
  | unnumbered source =>
    exact ⟨fun same => absurd same (Save.decided_ofAllocation context source _ _),
      fun many => absurd many.1 (by simp [isCollision]; omega)⟩
  | found row =>
    exact ⟨fun same => absurd same (Save.decided_adopted _ _ row _ _),
      fun many => absurd many.1 (by simp [isCollision]; omega)⟩
  | gaveUp passing =>
    have other := (passing_cases passing).2
    exact ⟨nofun, fun many => absurd many.1 (by simp [other]; omega)⟩
  | refused _ _ _ other => exact ⟨nofun, fun many => absurd many.1 (by simp [other]; omega)⟩
  | stored | conflicted => exact ⟨nofun, fun many => absurd many.1 (by simp [isCollision]; omega)⟩

/-- A save ends for a failure that may pass with the first one that uses up its attempts. -/
theorem Closes.failures_iff (closes : Closes config context message before answer outcome)
    (mended : Mended config before) {failure : StoreError}
    (passing : Transient.isTransient failure = true) :
    outcome = .error (.writeFailed context (.store failure)) ↔
      (before ++ [answer]).countP mayPass = max config.retry.maxAttempts.toNat 1 ∧
        answer = .error failure := by
  -- The mended failures leave an attempt to make, so that only the last answer can use it up.
  have within := mended.failures_lt
  rw [List.countP_append, List.countP_singleton]
  cases closes with
  | gaveUp passing' reached =>
    have passes : mayPass (.error failure) = true := passing
    constructor
    · intro same
      cases same
      exact ⟨by simp only [passes, ↓reduceIte]; exact reached, rfl⟩
    · rintro ⟨_, same⟩
      cases same
      rfl
  -- A refusal is a lasting failure, whereas this one may pass.
  | refused lasting =>
    constructor
    · intro same
      cases same
      exact absurd passing (by simp [lasting])
    · rintro ⟨_, same⟩
      cases same
      exact absurd passing (by simp [lasting])
  | unnumbered source =>
    exact ⟨fun same => absurd same (Save.decided_ofAllocation context source _ _),
      fun last => by cases last.2; cases passing⟩
  | found row =>
    exact ⟨fun same => absurd same (Save.decided_adopted _ _ row _ _),
      fun last => by cases last.2; cases passing⟩
  | stored => exact ⟨nofun, fun last => by cases last.2⟩
  | collided | conflicted => exact ⟨nofun, fun last => by cases last.2; cases passing⟩

end Inserted

namespace Account

open Inserted

/-- Each insert is at the number granted last before it: there is one to begin with, and another one for
every place that was taken. -/
def Numbered (account : Account) : Prop :=
  ∀ place message answer, account.inserts[place]? = some (message, answer) →
    account.grants[(account.answers.take place).countP isConflict]? = some message.sequence

/-- How a save stands that is about to insert at a number. -/
structure Standing (config : SaveConfig) (setbacks : Save.Setbacks) (sequence : SequenceNumber)
    (account : Account) : Prop where
  mended : Mended config account.answers
  conflicts : setbacks.conflicts.toNat = account.answers.countP isConflict
  collisions : setbacks.collisions.toNat = account.answers.countP isCollision
  failures : setbacks.failures.toNat = account.answers.countP mayPass
  granted : account.grants.length = 1 + account.answers.countP isConflict
  current : account.grants[account.answers.countP isConflict]? = some sequence
  numbered : account.Numbered

variable {config : SaveConfig} {setbacks : Save.Setbacks} {sequence : SequenceNumber}
  {account : Account}

/-- An insert at the number granted last keeps all inserts numbered. -/
theorem Numbered.insert (numbered : account.Numbered) {message : Message}
    (current : account.grants[account.answers.countP isConflict]? = some message.sequence)
    (answer : Inserted) : (account.insert message answer).Numbered := by
  intro place other answer' found
  rw [answers_insert]
  have length : account.answers.length = account.inserts.length := List.length_map _
  rcases Nat.lt_trichotomy place account.inserts.length with earlier | same | later
  · -- The answers before an earlier insert are the ones that were there.
    rw [List.take_append_of_le_length (by omega)]
    exact numbered place other answer' ((List.getElem?_append_left earlier).symm.trans found)
  · rw [same, ← length, List.take_left]
    simp only [inserts_insert, same, List.getElem?_concat_length, Option.some.injEq,
      Prod.mk.injEq] at found
    rw [← found.1]
    exact current
  · have beyond : (account.insert message answer).inserts.length ≤ place := by
      simp only [inserts_insert, List.length_append, List.length_singleton]
      omega
    rw [List.getElem?_eq_none beyond] at found
    cases found

/-- Further grants keep all inserts numbered. -/
theorem Numbered.onlyGrants {after : Account} (numbered : account.Numbered)
    (only : account.OnlyGrants after) : after.Numbered := by
  -- Grants are added behind those that number the inserts made so far.
  intro place message answer found
  rw [only.inserts] at found
  have earlier := numbered place message answer found
  have answers : after.answers = account.answers := by simp [Account.answers, only.inserts]
  rw [answers]
  obtain ⟨more, same⟩ := only.grants
  rw [← same, List.getElem?_append_left (List.getElem?_eq_some_iff.mp earlier).1]
  exact earlier

/-- A save starts to insert at the number that it was granted first. -/
theorem standing_granted (config : SaveConfig) (sequence : SequenceNumber) :
    (opening.grant sequence).Standing config ⟨0, 0, 0⟩ sequence where
  -- One number is drawn and nothing is inserted yet.
  mended := mended_nil config
  conflicts := rfl
  collisions := rfl
  failures := rfl
  granted := rfl
  current := rfl
  numbered := fun _ _ _ found => by cases found

/-- One more setback counts as one more, below the largest word. -/
theorem counted_next {counter : UInt32} {count : Nat} (same : counter.toNat = count)
    (below : count < 4294967295) : (counter + 1).toNat = count + 1 := by
  rw [UInt32.toNat_add, same, UInt32.toNat_one, Nat.mod_eq_of_lt (by omega)]

/-- The insert that a save stands at is at the number granted last. -/
theorem Standing.numbered_insert (standing : account.Standing config setbacks sequence)
    {message : Message} (numbers : message.sequence = sequence) (answer : Inserted) :
    (account.insert message answer).Numbered :=
  standing.numbered.insert (numbers ▸ standing.current) answer

/-- After a place that was taken, a save that puts up with it stands at the next number that it is granted. -/
theorem Standing.conflict (standing : account.Standing config setbacks sequence) {message : Message}
    (numbers : message.sequence = sequence) (below : config.maxSequenceConflicts.toNat < 4294967295)
    (within : ¬ config.maxSequenceConflicts < setbacks.conflicts + 1) (conversation : Conversation)
    (taken next : SequenceNumber) :
    ((account.insert message (.error (.duplicateSequence conversation taken))).grant next).Standing
      config { setbacks with conflicts := setbacks.conflicts + 1 } next := by
  have counts := counted_next standing.conflicts (Nat.lt_of_le_of_lt standing.mended.conflicts_le below)
  have within := Nat.not_lt.mp fun above => within (UInt32.lt_iff_toNat_lt.mpr above)
  -- The conflict and the grant that follows it are counted together.
  have last : account.answers.countP isConflict + 1 = account.grants.length := by
    rw [standing.granted, Nat.add_comm]
  constructor
  · rw [answers_grant, answers_insert]
    exact standing.mended.conflict (by omega) conversation taken
  · simp [isConflict, counts]
  · simp [isCollision, standing.collisions]
  · simp [mayPass, Transient.isTransient, standing.failures]
  · simp [isConflict, standing.granted]
    omega
  · simp [isConflict, last]
  · exact (standing.numbered_insert numbers _).onlyGrants ⟨rfl, List.prefix_append _ _⟩

/-- A place that was taken once more than a save puts up with is what it ends with. -/
theorem Standing.conflicted (standing : account.Standing config setbacks sequence)
    {context : SaveContext} {message : Message} {conversation : Conversation} {taken : SequenceNumber}
    (below : config.maxSequenceConflicts.toNat < 4294967295)
    (above : config.maxSequenceConflicts < setbacks.conflicts + 1) :
    Closes config context message account.answers (.error (.duplicateSequence conversation taken))
      (.error (.writeFailed context (.sequenceConflicts (setbacks.conflicts + 1)))) := by
  -- Those before it were put up with, so that it is the first one past the limit.
  have within := standing.mended.conflicts_le
  have counts := counted_next standing.conflicts (Nat.lt_of_le_of_lt within below)
  have reached := UInt32.lt_iff_toNat_lt.mp above
  exact .conflicted (by omega) (by omega)

/-- A save that puts up with a place that was taken ends with the allocator when that gives no other. -/
theorem Standing.unnumbered (standing : account.Standing config setbacks sequence)
    {context : SaveContext} {message : Message} {conversation : Conversation} {taken : SequenceNumber}
    (below : config.maxSequenceConflicts.toNat < 4294967295)
    (within : ¬ config.maxSequenceConflicts < setbacks.conflicts + 1) (source : AllocationError) :
    Closes config context message account.answers (.error (.duplicateSequence conversation taken))
      (.error (.ofAllocation context source)) := by
  -- The conflict itself was put up with, which is why the save had asked for another number.
  have counts := counted_next standing.conflicts (Nat.lt_of_le_of_lt standing.mended.conflicts_le below)
  have within := Nat.not_lt.mp fun above => within (UInt32.lt_iff_toNat_lt.mpr above)
  exact .unnumbered source (by omega)

/-- After an identifier that was taken, a save that puts up with it stands at the same number. -/
theorem Standing.collision (standing : account.Standing config setbacks sequence) {message : Message}
    (numbers : message.sequence = sequence) (below : config.maxServerIdCollisions.toNat < 4294967295)
    (within : ¬ config.maxServerIdCollisions < setbacks.collisions + 1) (taken : ServerId) :
    (account.insert message (.error (.duplicateServerId taken))).Standing config
      { setbacks with collisions := setbacks.collisions + 1 } sequence := by
  have counts := counted_next standing.collisions (Nat.lt_of_le_of_lt standing.mended.collisions_le below)
  have within := Nat.not_lt.mp fun above => within (UInt32.lt_iff_toNat_lt.mpr above)
  -- A collision is mended under the same number, so that the grants stay as they are.
  constructor
  · rw [answers_insert]
    exact standing.mended.collision (by omega) taken
  · simp [isConflict, standing.conflicts]
  · simp [isCollision, counts]
  · simp [mayPass, Transient.isTransient, standing.failures]
  · simp [isConflict, standing.granted]
  · simpa [isConflict] using standing.current
  · exact standing.numbered_insert numbers _

/-- An identifier that was taken once more than a save puts up with is what it ends with. -/
theorem Standing.collided (standing : account.Standing config setbacks sequence)
    {context : SaveContext} {message : Message} {taken : ServerId}
    (below : config.maxServerIdCollisions.toNat < 4294967295)
    (above : config.maxServerIdCollisions < setbacks.collisions + 1) :
    Closes config context message account.answers (.error (.duplicateServerId taken))
      (.error (.writeFailed context (.serverIdCollisions (setbacks.collisions + 1)))) := by
  -- As with a conflict, it is the first one past the limit.
  have within := standing.mended.collisions_le
  have counts := counted_next standing.collisions (Nat.lt_of_le_of_lt within below)
  have reached := UInt32.lt_iff_toNat_lt.mp above
  exact .collided (by omega) (by omega)

/-- Another failure counts as one more, because attempts are counted in the same words. -/
theorem Standing.failures_next (standing : account.Standing config setbacks sequence) :
    (setbacks.failures + 1).toNat = account.answers.countP mayPass + 1 := by
  have attempts := config.retry.maxAttempts.toNat_lt
  have fewer := standing.mended.failures_lt
  exact counted_next standing.failures (by omega)

/-- After a failure that may pass, a save with an attempt left stands at the same number. -/
theorem Standing.failure (standing : account.Standing config setbacks sequence) {message : Message}
    (numbers : message.sequence = sequence)
    (left : ¬ config.retry.maxAttempts ≤ setbacks.failures + 1) {failure : StoreError}
    (passing : Transient.isTransient failure = true) :
    (account.insert message (.error failure)).Standing config
      { setbacks with failures := setbacks.failures + 1 } sequence := by
  have counts := standing.failures_next
  have left := Nat.not_le.mp fun spent => left (UInt32.le_iff_toNat_le.mpr spent)
  -- The same insert is made again, under the same number and identifier.
  obtain ⟨unconflicted, uncollided⟩ := passing_cases passing
  have passes : mayPass (.error failure) = true := passing
  constructor
  · rw [answers_insert]
    exact standing.mended.failure passing (by omega)
  · simp [unconflicted, standing.conflicts]
  · simp [uncollided, standing.collisions]
  · simp [passes, counts]
  · simp [unconflicted, standing.granted]
  · simpa [unconflicted] using standing.current
  · exact standing.numbered_insert numbers _

/-- A failure that may pass is what a save without another attempt ends with. -/
theorem Standing.gaveUp (standing : account.Standing config setbacks sequence)
    {context : SaveContext} {message : Message} {failure : StoreError}
    (passing : Transient.isTransient failure = true)
    (spent : config.retry.maxAttempts ≤ setbacks.failures + 1) :
    Closes config context message account.answers (.error failure)
      (.error (.writeFailed context (.store failure))) := by
  -- At least one attempt is made, even where none is allowed for.
  have counts := standing.failures_next
  have fewer := standing.mended.failures_lt
  have reached := UInt32.le_iff_toNat_le.mp spent
  exact .gaveUp passing (by omega)

/-- What a save within its limits has asked of the store, and what it has made of the answers. -/
structure WithinLimits (config : SaveConfig) (context : SaveContext)
    (outcome : Except SaveError Receipt) (account : Account) : Prop where
  inserts_le : account.inserts.length ≤ 1 + config.maxSequenceConflicts.toNat +
    config.maxServerIdCollisions.toNat + (max config.retry.maxAttempts.toNat 1 - 1)
  /-- Before its last insert, the save has mended what was in its way. -/
  mended : Mended config account.answers.dropLast
  /-- The last answer decides how the save ends. -/
  closes : ∀ message answer, account.inserts.getLast? = some (message, answer) →
    Closes config context message account.answers.dropLast answer outcome
  conflicts_iff : ∀ attempts, outcome = .error (.writeFailed context (.sequenceConflicts attempts)) ↔
    account.answers.countP isConflict = config.maxSequenceConflicts.toNat + 1 ∧
      attempts.toNat = config.maxSequenceConflicts.toNat + 1
  collisions_iff : ∀ attempts, outcome = .error (.writeFailed context (.serverIdCollisions attempts)) ↔
    account.answers.countP isCollision = config.maxServerIdCollisions.toNat + 1 ∧
      attempts.toNat = config.maxServerIdCollisions.toNat + 1
  failures_iff : ∀ failure, Transient.isTransient failure = true →
    (outcome = .error (.writeFailed context (.store failure)) ↔
      account.answers.countP mayPass = max config.retry.maxAttempts.toNat 1 ∧
        account.answers.getLast? = some (.error failure))
  /-- Where the allocator answers, it was asked once, and once for each conflict that was mended. -/
  grants_length : account.inserts ≠ [] → (∀ source, outcome ≠ .error (.ofAllocation context source)) →
    account.grants.length = 1 + account.answers.dropLast.countP isConflict
  numbered : account.Numbered

/-- A save that makes no insert is within its limits. -/
theorem withinLimits_of_none {context : SaveContext} {outcome : Except SaveError Receipt}
    (none : account.inserts = []) (decided : Save.Decided outcome) :
    account.WithinLimits config context outcome := by
  -- Nothing is inserted, so that every count is zero and below its limit.
  have unanswered : account.answers = [] := by simp [answers, none]
  constructor
  · simp [none]
  · simp [unanswered, mended_nil]
  · simp [none]
  · simp [unanswered, decided context]
  · simp [unanswered, decided context]
  · intro failure _
    simp [unanswered, decided context]
  · exact fun some => absurd none some
  · simp [Numbered, none]

/-- A save that has mended what was in its way and ends with the answer to its last insert is within its
limits. -/
theorem withinLimits_of_closes {context : SaveContext} {outcome : Except SaveError Receipt}
    {message : Message} {answer : Inserted} {after : Account}
    (mended : Mended config account.answers) (numbered : after.Numbered)
    (inserted : after.inserts = account.inserts ++ [(message, answer)])
    (closes : Closes config context message account.answers answer outcome)
    (granted : (∀ source, outcome ≠ .error (.ofAllocation context source)) →
      after.grants.length = 1 + account.answers.countP isConflict) :
    after.WithinLimits config context outcome := by
  have answers : after.answers = account.answers ++ [answer] := by simp [Account.answers, inserted]
  have length : after.inserts.length = account.answers.length + 1 := by
    simp [Account.answers, inserted]
  constructor
  -- Each mended answer used up one of the rounds, and the last insert the one that is left.
  · have fewer := mended.length_lt
    unfold Save.roundLimit at fewer
    omega
  · simpa [answers] using mended
  · intro last answer' same
    simp only [inserted, List.getLast?_concat, Option.some.injEq, Prod.mk.injEq] at same
    obtain ⟨rfl, rfl⟩ := same
    simpa [answers] using closes
  · exact fun attempts => answers ▸ closes.conflicts_iff mended attempts
  · exact fun attempts => answers ▸ closes.collisions_iff mended attempts
  · intro failure passing
    have iff := closes.failures_iff mended passing
    simpa [answers] using iff
  · intro _ served
    simpa [answers] using granted served
  · exact numbered

/-- A save that ends with the answer to the insert that it stood at is within its limits. -/
theorem Standing.withinLimits (standing : account.Standing config setbacks sequence)
    {context : SaveContext} {outcome : Except SaveError Receipt} {message : Message} {answer : Inserted}
    (numbers : message.sequence = sequence)
    (closes : Closes config context message account.answers answer outcome) :
    (account.insert message answer).WithinLimits config context outcome :=
  -- No number was granted since the save stood there.
  withinLimits_of_closes standing.mended (standing.numbered_insert numbers answer) rfl closes fun _ =>
    standing.granted

end Account

end Intake
