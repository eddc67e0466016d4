import Intake.Proofs.Concurrency.World
import Intake.Proofs.Memory.ClaimLifecycle
import Intake.Proofs.Numbering.Gapless
import Intake.Proofs.Save.Scope

/-! What a save leaves of the services while it prepares: the messages, the marks of what is stored and
all committed claims are as they were, and so is everything under other keys and in other conversations. -/

namespace Intake

/-- A change of a key that commits nothing: a pending claim is made, gets another identifier, or is
shortened, to no life at all at the most. -/
inductive PendingStep : Option (Expiring Claim) → Option (Expiring Claim) → Prop where
  | made (entry : Expiring Claim) : entry.value.status = .pending → PendingStep none (some entry)
  | renamed (entry : Expiring Claim) (serverId : ServerId) : entry.value.status = .pending →
      PendingStep (some entry) (some ⟨{ entry.value with serverId }, entry.expiresAt⟩)
  | shortened (entry : Expiring Claim) (expiresAt : Instant) : entry.value.status = .pending →
      expiresAt ≤ entry.expiresAt → PendingStep (some entry) (some ⟨entry.value, expiresAt⟩)
  | ended (entry : Expiring Claim) : entry.value.status = .pending → PendingStep (some entry) none

/-- Whatever such changes a key goes through, a committed claim stays as it is, and none becomes
committed. -/
theorem committed_iff_of_pendingSteps {before after : Option (Expiring Claim)}
    (steps : Relation.ReflTransGen PendingStep before after) {entry : Expiring Claim}
    (committed : entry.value.status = .committed) : before = some entry ↔ after = some entry := by
  -- The induction is on the changes, each of which is from and to a pending claim or none.
  induction steps with
  | refl => exact Iff.rfl
  | tail _ step ih =>
    rw [ih]
    have apart : ∀ {other : Expiring Claim}, other.value.status = .pending → other ≠ entry := by
      rintro other pending rfl
      rw [pending] at committed
      cases committed
    cases step with
    | made made pending => simp [apart pending]
    | renamed earlier serverId pending =>
      simp only [Option.some.injEq, apart pending, false_iff]
      exact apart pending
    | shortened earlier expiresAt pending _ =>
      simp only [Option.some.injEq, apart pending, false_iff]
      exact apart pending
    | ended earlier pending => simp [apart pending]

/-- Whether a call commits a claim. -/
def ClaimCall.commits : ClaimCall → Bool
  | .commit _ _ _ => true
  | _ => false

namespace ClaimIndex

/-- A call that does not commit changes its own key by such a change at the most. -/
theorem pendingSteps_answer (index : ClaimIndex) (now : Instant) (call : ClaimCall)
    (uncommitting : call.commits = false) :
    Relation.ReflTransGen PendingStep (index.entry call.key now)
      ((index.answer now call).2.entry call.key now) := by
  rw [entry_answer]
  -- What lives now stays alive as long as its expiry is not changed.
  have unmoved : (index.entry call.key now).filter (·.isLive now) = index.entry call.key now :=
    ExpiringTable.liveEntry_filter _ _ _
  cases call with
  | claim key fingerprint proposed =>
    simp only [ClaimCall.key] at unmoved ⊢
    cases found : index.entry key now with
    | none =>
      simp only [ClaimCall.act, Option.filter]
      split
      · exact .single (.made _ rfl)
      · exact .refl
    | some entry =>
      rw [found] at unmoved
      simp only [ClaimCall.act, unmoved]
      exact .refl
  -- Committing is the one call that is not such a change.
  | commit key serverId fingerprint => cases uncommitting
  | rename key fingerprint serverId =>
    simp only [ClaimCall.key] at unmoved ⊢
    -- Only a pending claim of the same content is renamed.
    rcases found : index.entry key now with _ | ⟨⟨old, own, _ | _⟩, expiresAt⟩
    · exact .refl
    · have alive := (ExpiringTable.liveEntry_eq_some.mp found).2
      rw [found] at unmoved
      by_cases same : own = fingerprint
      · have lives : Option.filter (·.isLive now)
            (some (⟨⟨serverId, fingerprint, .pending⟩, expiresAt⟩ : Expiring Claim)) =
              some ⟨⟨serverId, fingerprint, .pending⟩, expiresAt⟩ := if_pos alive
        simp only [ClaimCall.act, same, ↓reduceIte, lives]
        exact .single (.renamed ⟨⟨old, fingerprint, .pending⟩, expiresAt⟩ serverId rfl)
      · simp only [ClaimCall.act, same, ↓reduceIte, unmoved]
        exact .refl
    · rw [found] at unmoved
      simp only [ClaimCall.act, unmoved]
      exact .refl
  | rollBack key =>
    simp only [ClaimCall.key] at unmoved ⊢
    -- Only a pending claim is shortened, and one that is shortened to nothing has ended.
    rcases found : index.entry key now with _ | ⟨⟨old, own, _ | _⟩, expiresAt⟩
    · exact .refl
    · simp only [ClaimCall.act, Option.filter]
      split
      · exact .single (.shortened ⟨⟨old, own, .pending⟩, expiresAt⟩ _ rfl
          (Instant.earlier_le_left _ _))
      · exact .single (.ended _ rfl)
    · rw [found] at unmoved
      simp only [ClaimCall.act, unmoved]
      exact .refl
  | get key =>
    simp only [ClaimCall.key] at unmoved ⊢
    simp only [ClaimCall.act, unmoved]
    exact .refl

end ClaimIndex

namespace World

/-- What is as it was before: the messages, the stored marks, the committed claims, and all that is under
other keys and in other conversations. -/
structure Prepared (origin : Origin) (before after : World) : Prop where
  others : OthersKept (.ofOrigin origin) before after
  store : after.store = before.store
  lifetimes : after.claims.lifetimes = before.claims.lifetimes
  marks : after.ledger.storedMarks (.ofOrigin origin) = before.ledger.storedMarks (.ofOrigin origin)
  /-- Numbers may have been issued in the own conversation, and its block, counter and lock may differ. -/
  issued : before.ledger.issued (.ofOrigin origin) ≤ after.ledger.issued (.ofOrigin origin)
  locks : ∀ other, other ≠ .ofOrigin origin →
    after.counters.locks.liveEntry other before.clock =
      before.counters.locks.liveEntry other before.clock
  claims : ∀ other, other ≠ .ofOrigin origin →
    after.claims.entry other before.clock = before.claims.entry other before.clock
  /-- Under the own key a pending claim may have been made, renamed or shortened. -/
  pending : Relation.ReflTransGen PendingStep (before.claims.entry (.ofOrigin origin) before.clock)
    (after.claims.entry (.ofOrigin origin) before.clock)

namespace Prepared

variable {origin : Origin} {first second third : World}

/-- Where nothing has changed everything is as it was. -/
theorem refl (origin : Origin) (w : World) : Prepared origin w w :=
  ⟨.refl _ w, rfl, rfl, rfl, Nat.le_refl _, fun _ _ => rfl, fun _ _ => rfl, .refl⟩

/-- Of two such changes in a row the whole is one. -/
theorem trans (one : Prepared origin first second) (two : Prepared origin second third) :
    Prepared origin first third := by
  -- What lives is read at the time of the first state, which is that of the others as well.
  have clock := one.others.clock
  constructor
  · exact one.others.trans two.others
  · exact two.store.trans one.store
  · exact two.lifetimes.trans one.lifetimes
  · exact two.marks.trans one.marks
  · exact Nat.le_trans one.issued two.issued
  · intro other differ
    have locks := two.locks other differ
    rw [clock] at locks
    exact locks.trans (one.locks other differ)
  · intro other differ
    have claims := two.claims other differ
    rw [clock] at claims
    exact claims.trans (one.claims other differ)
  · have pending := two.pending
    rw [clock] at pending
    exact one.pending.trans pending

/-- The marks of what is stored are as they were in every conversation. -/
theorem storedMarks (prepared : Prepared origin first second) (conversation : Conversation) :
    second.ledger.storedMarks conversation = first.ledger.storedMarks conversation := by
  -- In other conversations all watermarks are as they were.
  by_cases own : conversation = .ofOrigin origin
  · rw [own]
    exact prepared.marks
  · unfold Ledger.storedMarks
    rw [prepared.others.ledger conversation own]

/-- A committed claim is the same before and after, on whatever key it is. -/
theorem committed_entry_iff (prepared : Prepared origin first second) (key : ClaimKey)
    {entry : Expiring Claim} (committed : entry.value.status = .committed) :
    first.claims.entry key first.clock = some entry ↔
      second.claims.entry key first.clock = some entry := by
  -- Under the own key only pending steps were taken, and other keys were not touched.
  by_cases own : key = .ofOrigin origin
  · rw [own]
    exact committed_iff_of_pendingSteps prepared.pending committed
  · rw [prepared.claims key own]

/-- What changes nothing but the ledger, the blocks, the counters, and what is named anew, leaves the
rest as it was. -/
theorem of_numbers {before after : World} (others : OthersKept (.ofOrigin origin) before after)
    (store : after.store = before.store) (claims : after.claims = before.claims)
    (marks : after.ledger.storedMarks (.ofOrigin origin) =
      before.ledger.storedMarks (.ofOrigin origin))
    (issued : before.ledger.issued (.ofOrigin origin) ≤ after.ledger.issued (.ofOrigin origin))
    (locks : ∀ other, other ≠ .ofOrigin origin →
      after.counters.locks.liveEntry other before.clock =
        before.counters.locks.liveEntry other before.clock) : Prepared origin before after where
  -- With the claims and the store unchanged, what is left are the marks and the locks.
  others := others
  store := store
  lifetimes := by rw [claims]
  marks := marks
  issued := issued
  locks := locks
  claims := fun _ _ => by rw [claims]
  pending := by rw [claims]

/-- A call on the own claim that does not commit it leaves everything else as it was. -/
theorem of_claim (before : World) (call : ClaimCall) (own : call.key = .ofOrigin origin)
    (uncommitting : call.commits = false) :
    Prepared origin before
      { before with claims := (before.claims.answer before.clock call).2 } := by
  -- The claims are a service of their own, and of them the call touches its own key alone.
  constructor
  · exact ⟨rfl, fun _ _ => rfl, fun _ _ => rfl, fun _ _ => rfl⟩
  · rfl
  · exact ClaimIndex.lifetimes_answer _ _ _
  · rfl
  · exact Nat.le_refl _
  · exact fun _ _ => rfl
  · exact fun other differ =>
      ClaimIndex.entry_answer_of_ne before.claims before.clock call (own ▸ differ)
  · exact own ▸ before.claims.pendingSteps_answer before.clock call uncommitting

/-- What prepares a message leaves everything else as it was. -/
theorem answer {request : Service.Request} (prepares : Service.Prepares origin request) (w : World) :
    Prepared origin w (World.answer request w).2 := by
  have keeps : Service.NumbersOf (.ofOrigin origin) request →
      OthersKept (.ofOrigin origin) w (World.answer request w).2 :=
    World.answer_keeps_others request w
  have unlocked : ∀ other, other ≠ .ofOrigin origin →
      w.counters.locks.liveEntry other w.clock = w.counters.locks.liveEntry other w.clock :=
    fun _ _ => rfl
  -- One case for each service: the names, the numbers, the locks, the claims and the messages.
  cases request
  case now | freshToken =>
    exact of_numbers (keeps trivial) rfl rfl rfl (Nat.le_refl _) unlocked
  case freshServerId =>
    exact of_numbers ⟨rfl, fun _ _ => rfl, fun _ _ => rfl, fun _ _ => rfl⟩ rfl rfl rfl
      (Nat.le_refl _) unlocked
  case loadWatermarks | take | install =>
    exact of_numbers (keeps prepares) rfl rfl rfl (Nat.le_refl _) unlocked
  case reserve conversation count =>
    cases prepares
    exact of_numbers (keeps rfl) rfl rfl (w.ledger.storedMarks_reserve _ count w.clock)
      (w.ledger.issued_le_reserve _ _ count w.clock) unlocked
  case raiseIssued conversation floor =>
    cases prepares
    exact of_numbers ⟨rfl, fun _ => w.ledger.load_put_of_ne _, fun _ _ => rfl, fun _ _ => rfl⟩ rfl rfl
      (w.ledger.storedMarks_raiseIssued _ floor w.clock)
      (w.ledger.issued_le_raiseIssued _ _ floor w.clock) unlocked
  case dropSegment conversation =>
    cases prepares
    exact of_numbers ⟨rfl, fun _ _ => rfl, fun _ differ =>
      ExpiringTable.liveEntry_of_kept _ (Table.find?_erase_of_ne _ differ), fun _ _ => rfl⟩ rfl rfl rfl
      (Nat.le_refl _) unlocked
  case dropCounter conversation =>
    cases prepares
    exact of_numbers ⟨rfl, fun _ _ => rfl, fun _ _ => rfl, fun _ differ =>
      ExpiringTable.liveEntry_of_kept _ (Table.find?_erase_of_ne _ differ)⟩ rfl rfl rfl
      (Nat.le_refl _) unlocked
  -- Counters and locks share a cache, but a counter changes no lock and a lock no counter.
  case increment conversation amount lifetime =>
    exact of_numbers (keeps prepares) rfl rfl rfl (Nat.le_refl _) fun _ _ =>
      congrArg (ExpiringTable.liveEntry · _ _) (CounterCache.locks_increment amount lifetime)
  case seedCounter conversation value lifetime =>
    exact of_numbers (keeps prepares) rfl rfl rfl (Nat.le_refl _) fun _ _ =>
      congrArg (ExpiringTable.liveEntry · _ _) (CounterCache.locks_seed value lifetime)
  case lock conversation token lifetime =>
    cases prepares
    exact of_numbers (keeps rfl) rfl rfl rfl (Nat.le_refl _) fun _ =>
      CounterCache.liveEntry_lock_of_ne token lifetime
  case unlock conversation token =>
    cases prepares
    exact of_numbers (keeps rfl) rfl rfl rfl (Nat.le_refl _) fun _ =>
      CounterCache.liveEntry_unlock_of_ne token
  case claim key fingerprint proposed =>
    exact of_claim w (.claim key fingerprint proposed) prepares rfl
  case renameClaim key fingerprint serverId =>
    exact of_claim w (.rename key fingerprint serverId) prepares rfl
  case rollBackClaim key => exact of_claim w (.rollBack key) prepares rfl
  case findByKey | greatestSequence => exact refl origin w
  -- These are what a save does once its message is prepared.
  case insert | commitClaim | raiseCommitted | raiseRetained => exact prepares.elim

/-- Whatever a call comes to that prepares a message, it leaves everything else as it was. -/
theorem reacts {fails : (request : Service.Request) → Service.Reply request → Prop}
    {request : Service.Request} {w after : World} {reply : Service.Reply request}
    (prepares : Service.Prepares origin request)
    (reacted : World.Reacts fails request w reply after) : Prepared origin w after := by
  -- A call that fails has the effect of its answer, or none.
  cases reacted with
  | answers => exact answer prepares w
  | failsBefore _ => exact refl origin w
  | failsAfter _ => exact answer prepares w

/-- An insert leaves everything but the messages as it was. -/
theorem insert {fails : (request : Service.Request) → Service.Reply request → Prop}
    {message : Message} {w after : World} {reply : Service.Reply (.insert message)}
    (reacted : World.Reacts fails (.insert message) w reply after) (kept : after.store = w.store) :
    Prepared origin w after := by
  -- There is nothing else that an insert could change.
  have same : after = w := by
    cases reacted with
    | answers => exact congrArg (fun store => { w with store }) kept
    | failsBefore _ => rfl
    | failsAfter _ => exact congrArg (fun store => { w with store }) kept
  rw [same]
  exact refl origin w

end Prepared

end World

end Intake
