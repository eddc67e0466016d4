import Intake.Failure.Save
import Intake.Memory.World

/-! A log of messages: what a service amounts to that stores each message once, and counts the messages
of a conversation from one on. -/

namespace Intake

/-- Takes a step for each input, one after the other: what the steps give, and the state after them. -/
def inOrder {ι σ α : Type} (step : ι → σ → α × σ) : List ι → σ → List α × σ
  | [], s => ([], s)
  | input :: inputs, s =>
    let (value, s) := step input s
    let (values, s) := inOrder step inputs s
    (value :: values, s)

/-- The state after a list of steps is the one after those of its second part, from the state after the
first one. -/
theorem inOrder_append {ι σ α : Type} (step : ι → σ → α × σ) (earlier later : List ι) (s : σ) :
    (inOrder step (earlier ++ later) s).2 = (inOrder step later (inOrder step earlier s).2).2 := by
  -- The induction is on the earlier inputs, from any state on.
  induction earlier generalizing s with
  | nil => rfl
  | cons input earlier ih => exact ih (step input s).2

/-- So many candidates for identifiers, in the order in which they are drawn. -/
def IdSupply.candidates (supply : IdSupply) : Nat → List ServerId
  | 0 => []
  | count + 1 => supply.next.1 :: supply.next.2.candidates count

/-- Messages in the order in which they were stored. -/
structure Log where
  messages : List Message

namespace Log

/-- The log without messages. -/
def empty : Log := ⟨[]⟩

/-- The message stored under a key. -/
def findByKey (log : Log) (key : ClaimKey) : Option Message := log.messages.find? (·.key = key)

/-- The message stored under an identifier. -/
def findByServerId (log : Log) (serverId : ServerId) : Option Message :=
  log.messages.find? (·.serverId = serverId)

/-- The messages of a conversation. -/
def messagesOf (log : Log) (conversation : Conversation) : List Message :=
  log.messages.filter (·.conversation = conversation)

/-- The log with one more message. -/
def add (log : Log) (message : Message) : Log := ⟨log.messages ++ [message]⟩

/-- What a submission is stored as: with a candidate for its identifier, and the number after those of
its conversation. -/
def entry (log : Log) (clock : Instant) (submission : Submission) (candidate : ServerId) : Message where
  origin := submission.origin
  serverId := candidate
  sequence := ⟨UInt64.ofNat (1 + (log.messagesOf (.ofOrigin submission.origin)).length)⟩
  payload := submission.payload
  fingerprint := submission.fingerprint
  createdAt := clock

/-- Stores a submission, unless its key is taken. Then it is answered with the receipt of what is stored
if that has the same fingerprint, and refused if it has another one. -/
def save (clock : Instant) (submission : Submission) (candidate : ServerId) (log : Log) :
    Except SaveError Receipt × Log :=
  match log.findByKey (.ofOrigin submission.origin) with
  | some stored =>
    if stored.fingerprint = submission.fingerprint then (.ok stored.receipt, log)
    else (.error (.conflict (.ofOrigin submission.origin)), log)
  | none =>
    let message := log.entry clock submission candidate
    (.ok message.receipt, log.add message)

/-- Submissions stored in a log one after the other, each with a candidate of its own. -/
def saveInOrder (clock : Instant) : List (Submission × ServerId) → Log →
    List (Except SaveError Receipt) × Log :=
  inOrder fun input => save clock input.1 input.2

/-- The messages of every conversation are numbered one, two, three, and so on. -/
def Numbered (log : Log) : Prop :=
  ∀ conversation, (log.messagesOf conversation).map (·.sequence.value.toNat) =
    List.range' 1 (log.messagesOf conversation).length

variable {log : Log} {message : Message}

/-- After a message is added under a free key it is what the key leads to. -/
theorem findByKey_add (keyFree : log.findByKey message.key = none) (key : ClaimKey) :
    (log.add message).findByKey key = if key = message.key then some message else log.findByKey key := by
  -- The message stands last, so it is found by its key alone, as no other one has it.
  unfold findByKey at keyFree ⊢
  unfold add
  rw [List.find?_append]
  split
  · rename_i same
    rw [same, keyFree]
    simp
  · rename_i differ
    simp [Ne.symm differ]

/-- After a message is added under a free identifier it is what the identifier leads to. -/
theorem findByServerId_add (idFree : log.findByServerId message.serverId = none)
    (serverId : ServerId) : (log.add message).findByServerId serverId =
      if serverId = message.serverId then some message else log.findByServerId serverId := by
  -- The message comes last, but no earlier one has its identifier.
  unfold findByServerId at idFree ⊢
  unfold add
  rw [List.find?_append]
  split
  · rename_i same
    rw [same, idFree]
    simp
  · rename_i differ
    simp [Ne.symm differ]

/-- After a message is added its conversation has one more, and the others have what they had. -/
theorem messagesOf_add (log : Log) (message : Message) (conversation : Conversation) :
    (log.add message).messagesOf conversation =
      if conversation = message.conversation then log.messagesOf conversation ++ [message]
      else log.messagesOf conversation := by
  -- The message comes last in its own conversation and is filtered out of the others.
  unfold messagesOf add
  rw [List.filter_append]
  split
  · rename_i same
    simp [same]
  · rename_i differ
    simp [Ne.symm differ]

/-- A submission whose key is taken leaves the log as it is. -/
theorem save_of_taken {clock : Instant} {submission : Submission} {candidate : ServerId}
    {stored : Message} (found : log.findByKey (.ofOrigin submission.origin) = some stored) :
    log.save clock submission candidate =
      (if stored.fingerprint = submission.fingerprint then .ok stored.receipt
        else .error (.conflict (.ofOrigin submission.origin)), log) := by
  -- Whether it is a replay or a conflict, the log stays as it is.
  unfold save
  rw [found]
  dsimp only
  split <;> rfl

/-- A submission whose key is free is added to the log. -/
theorem save_of_free {clock : Instant} {submission : Submission} {candidate : ServerId}
    (free : log.findByKey (.ofOrigin submission.origin) = none) :
    log.save clock submission candidate =
      (.ok (log.entry clock submission candidate).receipt,
        log.add (log.entry clock submission candidate)) := by
  -- The key is not in the log yet, and nothing else is decided by.
  unfold save
  rw [free]

/-- Storing a submission with a candidate that is free leaves the other identifiers as they are. -/
theorem findByServerId_save_of_ne {clock : Instant} {submission : Submission} {candidate : ServerId}
    (free : log.findByServerId candidate = none) {other : ServerId} (differ : other ≠ candidate) :
    (log.save clock submission candidate).2.findByServerId other = log.findByServerId other := by
  -- Only a save under a free key adds a message, and that one has the candidate.
  cases found : log.findByKey (.ofOrigin submission.origin) with
  | some stored => rw [save_of_taken found]
  | none =>
    have added : ((log.entry clock submission candidate).serverId) = candidate := rfl
    rw [save_of_free found]
    exact (findByServerId_add (added ▸ free) other).trans (if_neg differ)

/-- Storing a submission adds one message at the most. -/
theorem length_save_le (log : Log) (clock : Instant) (submission : Submission) (candidate : ServerId) :
    (log.save clock submission candidate).2.messages.length ≤ log.messages.length + 1 := by
  -- A replay and a conflict add nothing, and any other save adds one message.
  cases found : log.findByKey (.ofOrigin submission.origin) with
  | some stored =>
    rw [save_of_taken found]
    exact Nat.le_succ _
  | none =>
    rw [save_of_free found]
    exact Nat.le_of_eq List.length_append

/-- A log never lacks numbers. -/
theorem save_ne_allocation (log : Log) (clock : Instant) (submission : Submission)
    (candidate : ServerId) (context : SaveContext) (source : AllocationError) :
    (log.save clock submission candidate).1 ≠ .error (.allocation context source) := by
  -- A log numbers by itself, so that only a conflict can fail.
  cases found : log.findByKey (.ofOrigin submission.origin) with
  | some stored =>
    rw [save_of_taken found]
    dsimp only
    split <;> simp
  | none =>
    rw [save_of_free found]
    simp

/-- The log without messages is numbered. -/
theorem numbered_empty : empty.Numbered := fun _ => rfl

/-- A log stays numbered when a message is added with the number after those of its conversation. -/
theorem Numbered.add (numbered : log.Numbered)
    (next : message.sequence.value.toNat = (log.messagesOf message.conversation).length + 1) :
    (log.add message).Numbered := by
  -- The number that was next is the end of the longer range.
  intro conversation
  rw [messagesOf_add]
  split
  · rename_i same
    subst same
    rw [List.map_append, numbered, List.length_append, List.length_singleton,
      List.range'_1_concat, Nat.add_comm 1]
    exact congrArg _ (congrArg (fun number => [number]) next)
  · exact numbered conversation

/-- In a numbered log every message of a conversation has a number up to how many there are. -/
theorem Numbered.sequence_le (numbered : log.Numbered) {conversation : Conversation} {row : Message}
    (member : row ∈ log.messagesOf conversation) :
    row.sequence.value.toNat ≤ (log.messagesOf conversation).length := by
  -- The numbers are those from one up to the length.
  have listed := List.mem_map_of_mem (f := fun row : Message => row.sequence.value.toNat) member
  rw [numbered, List.mem_range'_1] at listed
  omega

end Log

/-- The next so many candidates for identifiers differ from each other and from those of a log. -/
structure IdSupply.FreshFor (supply : IdSupply) (count : Nat) (log : Log) : Prop where
  distinct : (supply.candidates count).Nodup
  unused : ∀ candidate ∈ supply.candidates count, log.findByServerId candidate = none

/-- After a save with the next candidate, the ones behind it are fresh for the log that is left. -/
theorem IdSupply.FreshFor.save {supply : IdSupply} {count : Nat} {log : Log}
    (fresh : supply.FreshFor (count + 1) log) (clock : Instant) (submission : Submission) :
    supply.next.2.FreshFor count (log.save clock submission supply.next.1).2 := by
  -- Of the candidates only the first may be in the log after the save, and it is none of the others.
  obtain ⟨other, distinct⟩ := List.nodup_cons.mp fresh.distinct
  refine ⟨distinct, fun candidate member => ?_⟩
  have differ : candidate ≠ supply.next.1 := by rintro rfl; exact other member
  rw [Log.findByServerId_save_of_ne (fresh.unused _ List.mem_cons_self) differ]
  exact fresh.unused candidate (List.mem_cons_of_mem _ member)

end Intake
