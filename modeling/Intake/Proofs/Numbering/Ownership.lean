import Intake.Proofs.Concurrency.World
import Intake.Proofs.Memory.SegmentCache
import Intake.Proofs.Numbering.Cached

/-! Who has the numbers of a conversation: the cached block, and the callers that reserved blocks or
took ranges. No number is ever in two places, and none lies above the highest reserved one. -/

namespace Intake

/-- The numbers that the cached block of a conversation may still hand out, expired or not. -/
def World.cachedSpans (w : World) (conversation : Conversation) : List Span :=
  ((w.segments.entries.find? conversation).map (·.value.entry.span)).toList

/-- In how many places a number is: in the given spans or in those that callers hold. -/
def copies (spans : List Span) (holdings : List (List Span)) (n : Nat) : Nat :=
  (spans ++ holdings.flatten).countP (·.holds n)

/-- The copies of a number change by those of the one holding that is replaced. -/
theorem copies_set {holdings : List (List Span)} {place : Nat} {held : List Span}
    (atPlace : holdings[place]? = some held) (spans after : List Span) (n : Nat) :
    copies spans (holdings.set place after) n + held.countP (·.holds n) =
      copies spans holdings n + after.countP (·.holds n) := by
  -- The spans that nobody holds count the same on both sides, so only the holdings matter.
  unfold copies
  simp only [List.countP_append]
  induction holdings generalizing place with
  | nil => simp at atPlace
  | cons first rest ih =>
    cases place with
    | zero =>
      simp only [List.getElem?_cons_zero, Option.some.injEq] at atPlace
      subst atPlace
      simp only [List.set_cons_zero, List.flatten_cons, List.countP_append]
      omega
    | succ place =>
      have step := ih (by simpa using atPlace)
      simp only [List.set_cons_succ, List.flatten_cons, List.countP_append]
      omega

/-- Every number is in one place at the most, and only if it is reserved. What is cached has been
reserved as well. -/
structure NumberedOnce (conversation : Conversation) (w : World) (holdings : List (List Span)) :
    Prop where
  once : ∀ n, copies (w.cachedSpans conversation) holdings n ≤
    if 0 < n ∧ n ≤ w.ledger.issued conversation then 1 else 0
  cached : w.CachedReserved conversation

namespace NumberedOnce

variable {conversation : Conversation} {w after : World} {holdings : List (List Span)}
  {place : Nat} {held : List Span}

/-- Where nothing is cached and nothing held, no number is anywhere. -/
theorem opening (empty : w.segments.entries.find? conversation = none) :
    NumberedOnce conversation w [] where
  once := by simp [copies, World.cachedSpans, empty]
  cached := by simp [World.CachedReserved, empty]

/-- A caller may join that holds nothing. -/
theorem join (numbered : NumberedOnce conversation w holdings) :
    NumberedOnce conversation w (holdings ++ [[]]) where
  once := by simpa [copies] using numbered.once
  cached := numbered.cached

/-- What is cached may vanish, and the highest reserved number may rise. -/
theorem forget (numbered : NumberedOnce conversation w holdings)
    (cached : ∀ slot, after.segments.entries.find? conversation = some slot →
      w.segments.entries.find? conversation = some slot)
    (risen : w.ledger.issued conversation ≤ after.ledger.issued conversation) :
    NumberedOnce conversation after holdings where
  once := by
    intro n
    have before := numbered.once n
    -- A cached block that vanishes takes its copies with it.
    have fewer : copies (after.cachedSpans conversation) holdings n ≤
        copies (w.cachedSpans conversation) holdings n := by
      unfold copies World.cachedSpans
      cases found : after.segments.entries.find? conversation with
      | none => simp [List.countP_append]
      | some slot => exact Nat.le_of_eq (by rw [cached slot found])
    split at before <;> split <;> omega
  cached := numbered.cached.forget cached risen

/-- A caller may let go of what it holds. -/
theorem release (numbered : NumberedOnce conversation w holdings)
    (atPlace : holdings[place]? = some held) {fewer : List Span}
    (less : ∀ n, fewer.countP (·.holds n) ≤ held.countP (·.holds n)) :
    NumberedOnce conversation w (holdings.set place fewer) where
  -- Of the caller's copies of a number none is added, and the other copies stay.
  once := by
    intro n
    have before := numbered.once n
    have changed := copies_set atPlace (w.cachedSpans conversation) fewer n
    have bound := less n
    omega
  cached := numbered.cached

/-- What a caller holds is reserved, and so are its numbers. -/
theorem held_bounds (numbered : NumberedOnce conversation w holdings)
    (atPlace : holdings[place]? = some held) {span : Span} (member : span ∈ held)
    {n : Nat} (holds : span.holds n = true) : 0 < n ∧ n ≤ w.ledger.issued conversation := by
  -- A held number has a copy, and without a bound it could not have one.
  have before := numbered.once n
  have without := copies_set atPlace (w.cachedSpans conversation) [] n
  have counted : 0 < held.countP (·.holds n) := List.countP_pos_iff.mpr ⟨span, member, holds⟩
  simp only [List.countP_nil] at without
  split at before
  · assumption
  · omega

/-- What two callers hold has no number in common. -/
theorem apart (numbered : NumberedOnce conversation w holdings) {place' : Nat} {held' : List Span}
    (differ : place ≠ place') (atPlace : holdings[place]? = some held)
    (atPlace' : holdings[place']? = some held') {span span' : Span} (member : span ∈ held)
    (member' : span' ∈ held') {n : Nat} (holds : span.holds n = true) :
    span'.holds n = false := by
  -- A number of both would be counted twice.
  refine Bool.eq_false_iff.mpr fun holds' => ?_
  have before := numbered.once n
  have first := copies_set atPlace (w.cachedSpans conversation) [] n
  have elsewhere : (holdings.set place [])[place']? = some held' := by
    rw [List.getElem?_set_ne differ, atPlace']
  have second := copies_set elsewhere (w.cachedSpans conversation) [] n
  have counted : 0 < held.countP (·.holds n) := List.countP_pos_iff.mpr ⟨span, member, holds⟩
  have counted' : 0 < held'.countP (·.holds n) := List.countP_pos_iff.mpr ⟨span', member', holds'⟩
  -- Both holdings are emptied one after the other, which takes away two copies of the number.
  simp only [List.countP_nil] at first second
  split at before <;> omega

/-- What a caller holds and what is cached have no number in common. -/
theorem apart_cached (numbered : NumberedOnce conversation w holdings)
    (atPlace : holdings[place]? = some held) {span : Span} (member : span ∈ held)
    {slot : Expiring SegmentSlot} (found : w.segments.entries.find? conversation = some slot)
    {n : Nat} (holds : span.holds n = true) : slot.value.entry.span.holds n = false := by
  -- A number of both would be counted twice.
  refine Bool.eq_false_iff.mpr fun holds' => ?_
  have before := numbered.once n
  have without := copies_set atPlace (w.cachedSpans conversation) [] n
  have counted : 0 < held.countP (·.holds n) := List.countP_pos_iff.mpr ⟨span, member, holds⟩
  have cached : 0 < copies (w.cachedSpans conversation) (holdings.set place []) n :=
    List.countP_pos_iff.mpr ⟨_, by simp [World.cachedSpans, found], holds'⟩
  simp only [List.countP_nil] at without
  split at before <;> omega

/-- A range that is taken from the cache is reserved. -/
theorem taken_bounds (numbered : NumberedOnce conversation w holdings) {need : UInt64}
    {range : NumberRange}
    (taken : (World.answer (.take conversation need) w).1 = .ok (.taken range)) :
    range.span.last ≤ w.ledger.issued conversation := by
  -- A range that is taken lies in the cached block, which was reserved as a whole.
  rcases SegmentCache.take_cases w.segments conversation need w.clock with
    ⟨slot, expiresAt, range', rest, alive, took, answered⟩ |
    ⟨slot, expiresAt, alive, short, answered⟩ | ⟨after, gone, answered, lost, others⟩
  · have stored := (ExpiringTable.liveEntry_eq_some.mp alive).1
    obtain ⟨ordered, bound⟩ := numbered.cached _ stored
    simp only [World.answer, answered, Except.ok.injEq, TakeOutcome.taken.injEq] at taken
    subst taken
    rcases CachedSegment.take_cases ordered need w.clock with
      ⟨_, fits, range'', rest', took', _, spans, _⟩ | ⟨_, refused⟩
    · rw [took] at took'
      cases took'
      rw [spans]
      exact Nat.le_trans fits bound
    · rw [took] at refused; cases refused
  · simp only [World.answer, answered, Except.ok.injEq] at taken
    exact absurd taken (short range)
  · simp [World.answer, answered] at taken

/-- A caller that reserves a block holds numbers that no one else has. -/
theorem reserve (numbered : NumberedOnce conversation w holdings)
    (atPlace : holdings[place]? = some held) {segment : Segment} {count : Nat}
    (spans : segment.span =
      ⟨w.ledger.issued conversation + 1, w.ledger.issued conversation + count⟩)
    (same : after.segments = w.segments)
    (issued : after.ledger.issued conversation = w.ledger.issued conversation + count) :
    NumberedOnce conversation after (holdings.set place (segment.span :: held)) where
  once := by
    intro n
    have before := numbered.once n
    have changed := copies_set atPlace (w.cachedSpans conversation) (segment.span :: held) n
    have unchanged : after.cachedSpans conversation = w.cachedSpans conversation := by
      unfold World.cachedSpans; rw [same]
    simp only [List.countP_cons, spans, Span.holds_eq_true] at changed
    rw [unchanged, issued, spans]
    -- The new numbers lie above all that were reserved, so nobody had a copy of them.
    split at before <;> split at changed <;> split <;> omega
  cached := by
    intro slot found
    rw [same] at found
    have bounds := numbered.cached slot found
    omega

/-- A caller that takes a range from the cached block holds numbers that the block gave away. -/
theorem take (numbered : NumberedOnce conversation w holdings)
    (atPlace : holdings[place]? = some held) {slot slot' : Expiring SegmentSlot}
    {range : NumberRange} {need : Nat}
    (found : w.segments.entries.find? conversation = some slot)
    (left : after.segments.entries.find? conversation = some slot')
    (fits : slot.value.entry.current.toNat + need ≤ slot.value.entry.last.toNat)
    (spans : range.span =
      ⟨slot.value.entry.current.toNat + 1, slot.value.entry.current.toNat + need⟩)
    (current : slot'.value.entry.current.toNat = slot.value.entry.current.toNat + need)
    (last : slot'.value.entry.last = slot.value.entry.last)
    (issued : after.ledger.issued conversation = w.ledger.issued conversation) :
    NumberedOnce conversation after (holdings.set place (range.span :: held)) where
  once := by
    intro n
    have before := numbered.once n
    have changed := copies_set atPlace (after.cachedSpans conversation) (range.span :: held) n
    -- The range and the rest of the block are together what the block was.
    have parts := Span.holds_adjacent (Nat.le_add_right _ need) fits n
    simp only [copies, World.cachedSpans, found, left, Option.map_some, Option.toList_some,
      List.countP_append, List.countP_cons, List.countP_nil, CachedSegment.span, spans, current,
      last, issued] at before changed ⊢
    omega
  cached := by
    intro other found'
    rw [left] at found'
    cases found'
    have bounds := numbered.cached slot found
    rw [last, current, issued]
    omega

/-- A caller that installs a block it holds gives its numbers to the cache. -/
theorem install (numbered : NumberedOnce conversation w holdings)
    (atPlace : holdings[place]? = some held) {segment : Segment} (member : segment.span ∈ held)
    (nonempty : segment.span.first ≤ segment.span.last) {slot : Expiring SegmentSlot}
    {now : Instant} (fresh : slot.value.entry = .fresh segment now)
    (left : after.segments.entries.find? conversation = some slot)
    (issued : after.ledger.issued conversation = w.ledger.issued conversation) :
    NumberedOnce conversation after (holdings.set place (held.erase segment.span)) := by
  -- The block was held, so its numbers are reserved, and it is cached with all of them.
  have firstReserved := numbered.held_bounds atPlace member
    (n := segment.span.first) (by simp [nonempty])
  have lastReserved := numbered.held_bounds atPlace member
    (n := segment.span.last) (by simp [nonempty])
  have spans : slot.value.entry.span = segment.span := by
    rw [fresh]; exact CachedSegment.span_fresh now firstReserved.1
  constructor
  · intro n
    have before := numbered.once n
    have changed := copies_set atPlace [segment.span] (held.erase segment.span) n
    -- The block is held once, and after the call cached once and no longer held.
    have given : held.countP (·.holds n) =
        (segment.span :: held.erase segment.span).countP (·.holds n) :=
      (List.perm_cons_erase member).countP_eq _
    simp only [copies, World.cachedSpans, left, Option.map_some, Option.toList_some, spans,
      List.countP_append, List.countP_cons, List.countP_nil, issued] at before changed given ⊢
    omega
  · intro other found
    rw [left] at found
    cases found
    simp only [CachedSegment.span, Segment.span, Span.mk.injEq] at spans
    simp only [Segment.span] at firstReserved lastReserved nonempty
    omega

end NumberedOnce

/-- The numbers of a conversation that a reply puts into the caller's hands. -/
def gained (conversation : Conversation) :
    (request : Service.Request) → Service.Reply request → List Span
  | .reserve other _, .ok segment => if other = conversation then [segment.span] else []
  | .take other _, .ok (.taken range) => if other = conversation then [range.span] else []
  | _, _ => []

/-- What a caller keeps of the numbers it holds when it makes a call: a block that it asks to be
installed it gives away, whatever comes of the call. -/
def kept (conversation : Conversation) : Service.Request → List Span → List Span
  | .install other segment _, held =>
    if other = conversation then held.erase segment.span else held
  | _, held => held

/-- What every reply says of itself: reserved blocks hold something above zero, and a range has as
many numbers as were asked for. -/
def Fitting : (request : Service.Request) → Service.Reply request → Prop
  | .reserve _ _, .ok segment => segment.span.first ≤ segment.span.last
  | .take _ need, .ok (.taken range) => range.count = need
  | _, _ => True

/-- Callers install only blocks of the conversation that they hold, and gain and give away numbers
with their calls. -/
def owning (conversation : Conversation) : Protocol services (List Span) where
  permits
    | .install other segment _, held => other = conversation →
        segment.span ∈ held ∧ segment.span.first ≤ segment.span.last
    | _, _ => True
  moves request held reply after :=
    after = gained conversation request reply ++ kept conversation request held ∧
      Fitting request reply

/-- A failed call puts nothing into the caller's hands. -/
theorem gained_of_failed (conversation : Conversation) {request : Service.Request}
    {reply : Service.Reply request} (failed : Service.Failed request reply) :
    gained conversation request reply = [] ∧ Fitting request reply := by
  -- Only replies to reservations and to requests for ranges carry numbers.
  cases request
  case reserve => obtain ⟨failure, rfl⟩ := failed; exact ⟨rfl, trivial⟩
  case take => obtain ⟨failure, rfl⟩ := failed; exact ⟨rfl, trivial⟩
  all_goals exact ⟨rfl, trivial⟩

namespace NumberedOnce

variable {conversation : Conversation} {w after : World} {holdings : List (List Span)}
  {place : Nat} {held : List Span}

/-- A caller that keeps what it holds leaves the holdings as they are. -/
theorem keep (numbered : NumberedOnce conversation w holdings)
    (atPlace : holdings[place]? = some held) :
    NumberedOnce conversation w (holdings.set place held) :=
  numbered.release atPlace fun _ => Nat.le_refl _

/-- Giving away what a call is to install leaves no more copies than before. -/
theorem keep_kept (numbered : NumberedOnce conversation w holdings)
    (atPlace : holdings[place]? = some held) (request : Service.Request) :
    NumberedOnce conversation w (holdings.set place (kept conversation request held)) := by
  -- At the most one of the held blocks is given away.
  refine numbered.release atPlace fun n => ?_
  unfold kept
  split
  · split
    · exact (List.erase_sublist).countP_le
    · exact Nat.le_refl _
  · exact Nat.le_refl _

/-- An answered reservation gives the caller numbers that no one else has. -/
theorem answer_reserve (numbered : NumberedOnce conversation w holdings)
    (atPlace : holdings[place]? = some held) (other : Conversation) (count : UInt64) :
    NumberedOnce conversation (World.answer (.reserve other count) w).2
      (holdings.set place
        (gained conversation (.reserve other count) (World.answer (.reserve other count) w).1 ++
          held)) ∧
      Fitting (.reserve other count) (World.answer (.reserve other count) w).1 := by
  -- A reservation that is refused, or is for another conversation, moves no numbers of this one.
  rcases w.ledger.reserve_cases other count w.clock with
    ⟨segment, after, reserved, positive, _, spans, issued⟩ | ⟨after, refused, _, issued⟩
  · simp only [World.answer, reserved, gained, Fitting, spans]
    refine ⟨?_, by omega⟩
    by_cases same : other = conversation
    · subst same
      simp only [if_true, List.singleton_append, ← spans]
      exact numbered.reserve atPlace spans rfl issued
    · simp only [if_neg same, List.nil_append]
      refine (numbered.keep atPlace).forget (fun _ found => found) (Nat.le_of_eq ?_)
      -- The numbers of this conversation are not what the reservation is about.
      have kept := w.ledger.issued_reserve_of_ne count w.clock (Ne.symm same)
      rw [reserved] at kept
      exact kept.symm
  · simp only [World.answer, refused, gained, Fitting, List.nil_append, and_true]
    refine (numbered.keep atPlace).forget (fun _ found => found) (Nat.le_of_eq ?_)
    by_cases same : other = conversation
    · subst same; exact issued.symm
    · have kept := w.ledger.issued_reserve_of_ne count w.clock (Ne.symm same)
      rw [refused] at kept
      exact kept.symm

/-- An answered request for a range gives the caller numbers that the cached block gave away. -/
theorem answer_take (numbered : NumberedOnce conversation w holdings)
    (atPlace : holdings[place]? = some held) (other : Conversation) (need : UInt64) :
    NumberedOnce conversation (World.answer (.take other need) w).2
      (holdings.set place
        (gained conversation (.take other need) (World.answer (.take other need) w).1 ++ held)) ∧
      Fitting (.take other need) (World.answer (.take other need) w).1 := by
  -- Only a live block of this conversation hands out numbers that are counted here.
  rcases SegmentCache.take_cases w.segments other need w.clock with
    ⟨slot, expiresAt, range, rest, alive, taken, answered⟩ |
    ⟨slot, expiresAt, alive, short, answered⟩ | ⟨after, gone, answered, lost, others⟩
  · have stored := (ExpiringTable.liveEntry_eq_some.mp alive).1
    simp only [World.answer, answered, gained, Fitting]
    refine ⟨?_, CachedSegment.count_of_taken taken⟩
    by_cases same : other = conversation
    · subst same
      rcases CachedSegment.take_cases (numbered.cached _ stored).1 need w.clock with
        ⟨positive, fits, range', rest', taken', counted, spans, current, last⟩ | ⟨_, refused⟩
      · rw [taken] at taken'
        cases taken'
        simp only [if_true, List.singleton_append]
        exact numbered.take atPlace stored (ExpiringTable.find?_update_self _ _ _) fits spans
          current last rfl
      · rw [taken] at refused; cases refused
    · simp only [if_neg same, List.nil_append]
      refine (numbered.keep atPlace).forget (fun slot found => ?_) (Nat.le_refl _)
      rwa [ExpiringTable.find?_update_of_ne _ _ (Ne.symm same)] at found
  -- A block with too few numbers left hands out none of them.
  · have nothing : gained conversation (.take other need) (.ok (slot.entry.take need w.clock).1) = []
        ∧ Fitting (.take other need) (.ok (slot.entry.take need w.clock).1) := by
      cases outcome : (slot.entry.take need w.clock).1 with
      | taken range => exact absurd outcome (short range)
      | notFound | exhausted => exact ⟨rfl, trivial⟩
    simp only [World.answer, answered, nothing, List.nil_append, and_true]
    exact (numbered.keep atPlace).forget (fun _ found => found) (Nat.le_refl _)
  · simp only [World.answer, answered, gained, Fitting, List.nil_append, and_true]
    exact (numbered.keep atPlace).forget
      (ExpiringTable.Forgets.of_lost lost others conversation) (Nat.le_refl _)

/-- An answered request to install a block that the caller holds gives its numbers to the cache. -/
theorem answer_install (numbered : NumberedOnce conversation w holdings)
    (atPlace : holdings[place]? = some held) (other : Conversation) (segment : Segment)
    (lifetime : Duration) (permitted : (owning conversation).permits
      (.install other segment lifetime) held) :
    NumberedOnce conversation (World.answer (.install other segment lifetime) w).2
      (holdings.set place (kept conversation (.install other segment lifetime) held)) := by
  -- Whether or not the block is cached, the caller has given it away.
  rcases SegmentCache.install_cases w.segments other segment lifetime w.clock with
    ⟨_, base, forgot, answered⟩ | ⟨slot, expiresAt, alive, older, answered⟩
  · simp only [World.answer, answered, kept]
    by_cases same : other = conversation
    · subst same
      obtain ⟨member, nonempty⟩ := permitted rfl
      simp only [if_true]
      exact numbered.install atPlace member nonempty rfl (ExpiringTable.find?_insert_self _ _ _ _ _)
        rfl
    · simp only [if_neg same]
      refine (numbered.keep atPlace).forget (fun slot found => ?_) (Nat.le_refl _)
      exact forgot _ _ (ExpiringTable.find?_of_insert (Ne.symm same) found)
  · simp only [World.answer, answered]
    exact (numbered.keep_kept atPlace (.install other segment lifetime)).forget
      (fun _ found => found) (Nat.le_refl _)

/-- Every answered call leaves each number in one place at the most. -/
theorem answer (numbered : NumberedOnce conversation w holdings)
    (atPlace : holdings[place]? = some held) {request : Service.Request}
    (permitted : (owning conversation).permits request held) :
    NumberedOnce conversation (World.answer request w).2
      (holdings.set place (gained conversation request (World.answer request w).1 ++
        kept conversation request held)) ∧
      Fitting request (World.answer request w).1 := by
  -- Three calls move numbers. The others raise a watermark, drop a block, or touch neither.
  cases request
  case reserve other count => exact numbered.answer_reserve atPlace other count
  case take other need => exact numbered.answer_take atPlace other need
  case install other segment lifetime =>
    exact ⟨numbered.answer_install atPlace other segment lifetime permitted, trivial⟩
  case raiseIssued other floor =>
    refine ⟨(numbered.keep atPlace).forget (fun _ found => found) ?_, trivial⟩
    exact w.ledger.issued_le_raiseIssued other conversation floor w.clock
  case raiseCommitted other stored =>
    refine ⟨(numbered.keep atPlace).forget (fun _ found => found) ?_, trivial⟩
    exact w.ledger.issued_le_raiseCommitted other conversation stored w.clock
  case raiseRetained other floor =>
    refine ⟨(numbered.keep atPlace).forget (fun _ found => found) ?_, trivial⟩
    exact Nat.le_of_eq (w.ledger.issued_raiseRetained other conversation floor w.clock).symm
  case dropSegment other =>
    exact ⟨(numbered.keep atPlace).forget (w.segments.remove_forgets other conversation)
      (Nat.le_refl _), trivial⟩
  all_goals
    exact ⟨(numbered.keep atPlace).forget (fun _ found => found) (Nat.le_refl _), trivial⟩

/-- Whatever a call comes to, each number is in one place at the most. -/
theorem reacts (numbered : NumberedOnce conversation w holdings)
    (atPlace : holdings[place]? = some held) {request : Service.Request}
    {reply : Service.Reply request} (permitted : (owning conversation).permits request held)
    (reacted : World.Reacts Service.Failed request w reply after) :
    ∃ later, (owning conversation).moves request held reply later ∧
      NumberedOnce conversation after (holdings.set place later) := by
  -- A failure shows the caller no numbers, whether or not the call took effect.
  cases reacted with
  | answers =>
    obtain ⟨numbered, fitting⟩ := numbered.answer atPlace permitted
    exact ⟨_, ⟨rfl, fitting⟩, numbered⟩
  | failsBefore failed =>
    -- Without an effect the call only takes the block that it was to install.
    obtain ⟨nothing, fitting⟩ := gained_of_failed conversation failed
    exact ⟨_, ⟨rfl, fitting⟩, by rw [nothing]; exact numbered.keep_kept atPlace request⟩
  | failsAfter failed =>
    -- The numbers that the call took are lost with the reply.
    obtain ⟨nothing, fitting⟩ := gained_of_failed conversation failed
    obtain ⟨numbered, _⟩ := numbered.answer atPlace permitted
    refine ⟨_, ⟨rfl, fitting⟩, ?_⟩
    rw [nothing]
    have inside := (List.getElem?_eq_some_iff.mp atPlace).1
    have lost : NumberedOnce conversation _
        (List.set (holdings.set place _) place (kept conversation request held)) :=
      numbered.release (List.getElem?_set_self inside) fun n => by simp [List.countP_append]
    rwa [List.set_set] at lost

/-- Changes of the services by themselves leave each number in one place at the most. -/
theorem drifts (numbered : NumberedOnce conversation w holdings)
    (drifted : World.Drifts w after) : NumberedOnce conversation after holdings :=
  numbered.forget (drifted.segments conversation) (Nat.le_of_eq (by rw [drifted.ledger]))

end NumberedOnce

end Intake
