import Intake.Proofs.Concurrency.World
import Intake.Proofs.Memory.SegmentCache
import Intake.Proofs.Numbering.Cached

/-! Drawing from cached blocks above a mark: where neither the cache nor any caller has a block below
it, no number below it is handed out any more. -/

namespace Intake

/-- What a caller of an allocator holds: a number that all it is handed out lies above, and the block
that it has reserved and has yet to give to the cache. -/
structure Draw where
  above : Nat
  block : Option Segment

/-- The block of a conversation that a reply puts into the caller's hands. -/
def reservedBlock (conversation : Conversation) :
    (request : Service.Request) → Service.Reply request → Option Segment
  | .reserve other _, .ok segment => if other = conversation then some segment else none
  | _, _ => none

/-- The blocks and ranges of a conversation that a reply hands out start above a number. -/
def HandsOutAbove (conversation : Conversation) (above : Nat) :
    (request : Service.Request) → Service.Reply request → Prop
  | .reserve other _, .ok segment => other = conversation → above < segment.span.first
  | .take other _, .ok (.taken range) => other = conversation → above < range.span.first
  | _, _ => True

/-- Callers give a block to the cache as soon as they have reserved it, and do nothing else before. -/
def drawing (conversation : Conversation) : Protocol services Draw where
  permits
    | .install other segment _, held =>
      held.block = if other = conversation then some segment else none
    | _, held => held.block = none
  moves request held reply after :=
    after = ⟨held.above, reservedBlock conversation request reply⟩ ∧
      HandsOutAbove conversation held.above request reply

/-- A failed call hands out nothing. -/
theorem reservedBlock_of_failed (conversation : Conversation) (above : Nat)
    {request : Service.Request} {reply : Service.Reply request}
    (failed : Service.Failed request reply) :
    reservedBlock conversation request reply = none ∧
      HandsOutAbove conversation above request reply := by
  -- Only replies to reservations and to requests for ranges hand anything out.
  cases request
  case reserve => obtain ⟨failure, rfl⟩ := failed; exact ⟨rfl, trivial⟩
  case take => obtain ⟨failure, rfl⟩ := failed; exact ⟨rfl, trivial⟩
  all_goals exact ⟨rfl, trivial⟩

/-- All numbers that a cached block has left lie above a mark, if it has any and is not expired at all
times. -/
def World.LeftAbove (w : World) (conversation : Conversation) (mark : Nat) : Prop :=
  ∀ slot now, w.segments.liveEntry conversation now = some slot →
    slot.value.entry.current.toNat < slot.value.entry.last.toNat →
    mark ≤ slot.value.entry.current.toNat

/-- All that may still be handed out lies above a mark: what is cached, what callers hold, and what is
yet to be reserved. Callers that are known to have begun later expect no less. -/
structure DrawnAbove (conversation : Conversation) (mark known : Nat) (w : World)
    (holdings : List Draw) : Prop where
  cached : w.CachedReserved conversation
  issued : mark ≤ w.ledger.issued conversation
  left : w.LeftAbove conversation mark
  blocks : ∀ held ∈ holdings, ∀ segment, held.block = some segment →
    mark < segment.span.first ∧ segment.span.first ≤ segment.span.last ∧
      segment.span.last ≤ w.ledger.issued conversation
  expected : ∀ held ∈ holdings, held.above ≤ mark
  begun : known ≤ holdings.length
  later : ∀ place held, known ≤ place → holdings[place]? = some held → held.above = mark

namespace DrawnAbove

variable {conversation : Conversation} {mark known : Nat} {w after : World}
  {holdings : List Draw} {place : Nat} {held : Draw}

/-- Where nothing is cached and nobody is at work, everything lies above zero. -/
theorem opening (empty : w.segments.entries.find? conversation = none) :
    DrawnAbove conversation 0 0 w [] where
  -- Above zero lies everything, and nothing is cached or held.
  cached := by simp [World.CachedReserved, empty]
  issued := Nat.zero_le _
  left := fun _ _ _ _ => Nat.zero_le _
  blocks := by simp
  expected := by simp
  begun := Nat.le_refl 0
  later := by simp

/-- A caller that joins expects numbers above the mark. -/
theorem join (drawn : DrawnAbove conversation mark known w holdings) :
    DrawnAbove conversation mark known w (holdings ++ [⟨mark, none⟩]) where
  cached := drawn.cached
  issued := drawn.issued
  left := drawn.left
  -- The newcomer holds no block, and expects what is above the mark.
  blocks := by
    intro held member
    rcases List.mem_append.mp member with earlier | new
    · exact drawn.blocks held earlier
    · obtain rfl := List.mem_singleton.mp new
      simp
  expected := by
    intro held member
    rcases List.mem_append.mp member with earlier | new
    · exact drawn.expected held earlier
    · obtain rfl := List.mem_singleton.mp new
      exact Nat.le_refl mark
  begun := by simpa using Nat.le_succ_of_le drawn.begun
  -- A place behind all others is that of the newcomer.
  later := by
    intro place held from_ atPlace
    rcases Nat.lt_or_ge place holdings.length with before | behind
    · exact drawn.later place held from_ (by rwa [List.getElem?_append_left before] at atPlace)
    · rw [List.getElem?_append_right behind, List.getElem?_singleton] at atPlace
      split at atPlace <;> simp at atPlace
      rw [← atPlace]

/-- What is cached may vanish, and the highest reserved number may rise. -/
theorem forget (drawn : DrawnAbove conversation mark known w holdings)
    (cached : ∀ slot, after.segments.entries.find? conversation = some slot →
      w.segments.entries.find? conversation = some slot)
    (risen : w.ledger.issued conversation ≤ after.ledger.issued conversation) :
    DrawnAbove conversation mark known after holdings where
  cached := drawn.cached.forget cached risen
  issued := Nat.le_trans drawn.issued risen
  -- A block that is live afterwards was cached before, so that it was known to lie above.
  left := by
    intro slot now alive some'
    obtain ⟨found, lives⟩ := ExpiringTable.liveEntry_eq_some.mp alive
    exact drawn.left slot now (ExpiringTable.liveEntry_eq_some.mpr ⟨cached slot found, lives⟩) some'
  blocks := by
    intro held member segment reserved
    obtain ⟨above, ordered, bound⟩ := drawn.blocks held member segment reserved
    exact ⟨above, ordered, Nat.le_trans bound risen⟩
  expected := drawn.expected
  begun := drawn.begun
  later := drawn.later

/-- A caller may come to hold another block that lies above the mark and is reserved, or none. -/
theorem hold (drawn : DrawnAbove conversation mark known w holdings)
    (atPlace : holdings[place]? = some held) {block : Option Segment}
    (fits : ∀ segment, block = some segment → mark < segment.span.first ∧
      segment.span.first ≤ segment.span.last ∧
      segment.span.last ≤ w.ledger.issued conversation) :
    DrawnAbove conversation mark known w (holdings.set place ⟨held.above, block⟩) where
  cached := drawn.cached
  issued := drawn.issued
  left := drawn.left
  -- The block that changes hands fits as given. What the caller expects stays as it was.
  blocks := by
    intro held' member
    rcases List.mem_or_eq_of_mem_set member with earlier | same
    · exact drawn.blocks held' earlier
    · subst same; exact fits
  expected := by
    intro held' member
    rcases List.mem_or_eq_of_mem_set member with earlier | same
    · exact drawn.expected held' earlier
    · subst same; exact drawn.expected held (List.mem_of_getElem? atPlace)
  begun := by simpa using drawn.begun
  later := by
    intro place' held' from_ atPlace'
    by_cases same : place = place'
    · subst same
      simp only [List.getElem?_set, ↓reduceIte] at atPlace'
      split at atPlace' <;> simp at atPlace'
      subst atPlace'
      exact drawn.later place held from_ atPlace
    · rw [List.getElem?_set_ne same] at atPlace'
      exact drawn.later place' held' from_ atPlace'

/-- A caller may come to hold no block. -/
theorem drop (drawn : DrawnAbove conversation mark known w holdings)
    (atPlace : holdings[place]? = some held) :
    DrawnAbove conversation mark known w (holdings.set place ⟨held.above, none⟩) :=
  drawn.hold atPlace (by simp)

/-- The cached block may be replaced by one that has only reserved numbers above the mark left. -/
theorem recache (drawn : DrawnAbove conversation mark known w holdings)
    {slot : Expiring SegmentSlot}
    (left : after.segments.entries.find? conversation = some slot)
    (issued : after.ledger.issued conversation = w.ledger.issued conversation)
    (above : mark ≤ slot.value.entry.current.toNat)
    (ordered : slot.value.entry.current.toNat ≤ slot.value.entry.last.toNat)
    (bound : slot.value.entry.last.toNat ≤ w.ledger.issued conversation) :
    DrawnAbove conversation mark known after holdings where
  -- The block under the conversation is the one that was put there.
  cached := by
    intro slot' found
    rw [left] at found
    cases found
    exact ⟨ordered, issued ▸ bound⟩
  issued := issued ▸ drawn.issued
  left := by
    intro slot' now alive _
    have found := (ExpiringTable.liveEntry_eq_some.mp alive).1
    rw [left] at found
    cases found
    exact above
  blocks := by rw [issued]; exact drawn.blocks
  expected := drawn.expected
  begun := drawn.begun
  later := drawn.later

/-- An answered reservation hands out a block above all that were reserved before. -/
theorem answer_reserve (drawn : DrawnAbove conversation mark known w holdings)
    (atPlace : holdings[place]? = some held) (other : Conversation) (count : UInt64) :
    DrawnAbove conversation mark known (World.answer (.reserve other count) w).2
      (holdings.set place ⟨held.above, reservedBlock conversation (.reserve other count)
        (World.answer (.reserve other count) w).1⟩) ∧
      HandsOutAbove conversation held.above (.reserve other count)
        (World.answer (.reserve other count) w).1 := by
  -- The mark is reserved, so a block of the conversation that is reserved now starts above it.
  have risen := w.ledger.issued_le_reserve other conversation count w.clock
  have expects := drawn.expected held (List.mem_of_getElem? atPlace)
  have mark := drawn.issued
  have kept : DrawnAbove conversation _ known (World.answer (.reserve other count) w).2 holdings :=
    drawn.forget (fun _ found => found) risen
  rcases w.ledger.reserve_cases other count w.clock with
    ⟨segment, after, reserved, positive, _, spans, issued⟩ | ⟨after, refused, _, _⟩
  · simp only [World.answer, reserved, reservedBlock, HandsOutAbove] at kept ⊢
    refine ⟨kept.hold atPlace fun segment' same => ?_, fun same => ?_⟩
    · split at same <;> cases same
      rename_i same
      subst same
      simp only [spans, issued]
      omega
    · subst same
      rw [spans]
      dsimp only
      omega
  · simp only [World.answer, refused, reservedBlock, HandsOutAbove, and_true] at kept ⊢
    exact kept.drop atPlace

/-- An answered request for a range hands out numbers that a cached block had left. -/
theorem answer_take (drawn : DrawnAbove conversation mark known w holdings)
    (atPlace : holdings[place]? = some held) (other : Conversation) (need : UInt64) :
    DrawnAbove conversation mark known (World.answer (.take other need) w).2
      (holdings.set place ⟨held.above, none⟩) ∧
      HandsOutAbove conversation held.above (.take other need)
        (World.answer (.take other need) w).1 := by
  -- Only a live block of this conversation matters, and what it has left lies above the mark.
  have expects := drawn.expected held (List.mem_of_getElem? atPlace)
  have dropped := drawn.drop atPlace
  rcases SegmentCache.take_cases w.segments other need w.clock with
    ⟨slot, expiresAt, range, rest, alive, taken, answered⟩ |
    ⟨slot, expiresAt, alive, short, answered⟩ | ⟨after, gone, answered, lost, others⟩
  · simp only [World.answer, answered, HandsOutAbove]
    by_cases same : other = conversation
    · subst same
      have stored := (ExpiringTable.liveEntry_eq_some.mp alive).1
      obtain ⟨ordered, bound⟩ := drawn.cached _ stored
      rcases CachedSegment.take_cases ordered need w.clock with
        ⟨positive, fits, range', rest', taken', _, spans, current, last⟩ | ⟨_, refused⟩
      · rw [taken] at taken'
        cases taken'
        have above := drawn.left _ _ alive (by dsimp only at fits ⊢; omega)
        dsimp only at fits spans current last above bound
        refine ⟨dropped.recache (ExpiringTable.find?_update_self _ _ _) rfl ?_ ?_ ?_, fun _ => ?_⟩
        · dsimp only; omega
        · dsimp only; rw [last]; omega
        · dsimp only; rw [last]; exact bound
        · rw [spans]; dsimp only; omega
      · rw [taken] at refused; cases refused
    · refine ⟨dropped.forget (fun slot found => ?_) (Nat.le_refl _), fun same' => absurd same' same⟩
      rwa [ExpiringTable.find?_update_of_ne _ _ (Ne.symm same)] at found
  -- A block with too few numbers left hands out none of them.
  · have nothing : HandsOutAbove conversation held.above (.take other need)
        (.ok (slot.entry.take need w.clock).1) := by
      cases outcome : (slot.entry.take need w.clock).1 with
      | taken range => exact absurd outcome (short range)
      | notFound | exhausted => trivial
    simp only [World.answer, answered]
    exact ⟨dropped.forget (fun _ found => found) (Nat.le_refl _), nothing⟩
  · simp only [World.answer, answered, HandsOutAbove, and_true]
    exact dropped.forget (ExpiringTable.Forgets.of_lost lost others conversation) (Nat.le_refl _)

/-- An answered request to install the block that the caller holds keeps the cache above the mark. -/
theorem answer_install (drawn : DrawnAbove conversation mark known w holdings)
    (atPlace : holdings[place]? = some held) (other : Conversation) (segment : Segment)
    (lifetime : Duration)
    (permitted : (drawing conversation).permits (.install other segment lifetime) held) :
    DrawnAbove conversation mark known (World.answer (.install other segment lifetime) w).2
      (holdings.set place ⟨held.above, none⟩) := by
  -- A block that is held lies above the mark, and it is cached with all of its numbers left.
  have dropped := drawn.drop atPlace
  rcases SegmentCache.install_cases w.segments other segment lifetime w.clock with
    ⟨_, base, forgot, answered⟩ | ⟨slot, expiresAt, alive, older, answered⟩
  · simp only [World.answer, answered]
    by_cases same : other = conversation
    · subst same
      have holds : held.block = some segment := by simpa [drawing] using permitted
      obtain ⟨above, ordered, bound⟩ :=
        drawn.blocks held (List.mem_of_getElem? atPlace) segment holds
      have spans := CachedSegment.span_fresh w.clock (by omega : 0 < segment.span.first)
      simp only [CachedSegment.span, Segment.span, Span.mk.injEq] at spans
      simp only [Segment.span] at above ordered bound
      refine dropped.recache (ExpiringTable.find?_insert_self _ _ _ _ _) rfl ?_ ?_ ?_ <;>
        dsimp only <;> omega
    · refine dropped.forget (fun slot found => ?_) (Nat.le_refl _)
      exact forgot _ _ (ExpiringTable.find?_of_insert (Ne.symm same) found)
  · simp only [World.answer, answered]
    exact dropped.forget (fun _ found => found) (Nat.le_refl _)

/-- Every answered call leaves all that may still be handed out above the mark. -/
theorem answer (drawn : DrawnAbove conversation mark known w holdings)
    (atPlace : holdings[place]? = some held) {request : Service.Request}
    (permitted : (drawing conversation).permits request held) :
    DrawnAbove conversation mark known (World.answer request w).2 (holdings.set place
        ⟨held.above, reservedBlock conversation request (World.answer request w).1⟩) ∧
      HandsOutAbove conversation held.above request (World.answer request w).1 := by
  -- Three calls move blocks. The others raise a watermark, drop a block, or touch neither.
  have dropped := drawn.drop atPlace
  cases request
  case reserve other count => exact drawn.answer_reserve atPlace other count
  case take other need => exact drawn.answer_take atPlace other need
  case install other segment lifetime =>
    exact ⟨drawn.answer_install atPlace other segment lifetime permitted, trivial⟩
  case raiseIssued other floor =>
    refine ⟨dropped.forget (fun _ found => found) ?_, trivial⟩
    exact w.ledger.issued_le_raiseIssued other conversation floor w.clock
  case raiseCommitted other stored =>
    refine ⟨dropped.forget (fun _ found => found) ?_, trivial⟩
    exact w.ledger.issued_le_raiseCommitted other conversation stored w.clock
  case raiseRetained other floor =>
    refine ⟨dropped.forget (fun _ found => found) ?_, trivial⟩
    exact Nat.le_of_eq (w.ledger.issued_raiseRetained other conversation floor w.clock).symm
  case dropSegment other =>
    exact ⟨dropped.forget (w.segments.remove_forgets other conversation) (Nat.le_refl _), trivial⟩
  all_goals exact ⟨dropped.forget (fun _ found => found) (Nat.le_refl _), trivial⟩

/-- Whatever a call comes to, all that may still be handed out lies above the mark. -/
theorem reacts (drawn : DrawnAbove conversation mark known w holdings)
    (atPlace : holdings[place]? = some held) {request : Service.Request}
    {reply : Service.Reply request} (permitted : (drawing conversation).permits request held)
    (reacted : World.Reacts Service.Failed request w reply after) :
    ∃ later, (drawing conversation).moves request held reply later ∧
      DrawnAbove conversation mark known after (holdings.set place later) := by
  -- A failure hands out nothing, whether or not the call took effect.
  cases reacted with
  | answers =>
    obtain ⟨drawn, handed⟩ := drawn.answer atPlace permitted
    exact ⟨_, ⟨rfl, handed⟩, drawn⟩
  | failsBefore failed =>
    obtain ⟨nothing, handed⟩ := reservedBlock_of_failed conversation held.above failed
    exact ⟨_, ⟨rfl, handed⟩, by rw [nothing]; exact drawn.drop atPlace⟩
  | failsAfter failed =>
    -- A block that was reserved is lost with the reply.
    obtain ⟨nothing, handed⟩ := reservedBlock_of_failed conversation held.above failed
    obtain ⟨drawn, _⟩ := drawn.answer atPlace permitted
    refine ⟨_, ⟨rfl, handed⟩, ?_⟩
    have inside := (List.getElem?_eq_some_iff.mp atPlace).1
    have lost := drawn.drop (List.getElem?_set_self inside)
    rw [nothing]
    rwa [List.set_set] at lost

/-- Changes of the services by themselves leave all that may still be handed out above the mark. -/
theorem drifts (drawn : DrawnAbove conversation mark known w holdings)
    (drifted : World.Drifts w after) : DrawnAbove conversation mark known after holdings :=
  drawn.forget (drifted.segments conversation) (Nat.le_of_eq (by rw [drifted.ledger]))

end DrawnAbove

end Intake
