import Intake.Text.Blank

/-! Names given by callers: trimmed, not empty, and short enough for an index. -/

namespace Intake

/-- What a caller's name identifies. -/
inductive IdentifierKind where
  | tenant
  | conversation
  | sender
  | clientMessage
deriving DecidableEq, Repr

/-- The words for a kind of identifier. -/
def IdentifierKind.words : IdentifierKind → String
  | .tenant => "tenant id"
  | .conversation => "conversation id"
  | .sender => "sender id"
  | .clientMessage => "client message id"

/-- Why a text is no identifier. -/
inductive IdentifierError where
  | empty (kind : IdentifierKind)
  | tooLong (kind : IdentifierKind) (length : Nat)
deriving DecidableEq, Repr

/-- The most bytes an identifier may have. -/
def greatestIdentifierLength : Nat := 255

/-- The text of a refused identifier. -/
def IdentifierError.message : IdentifierError → String
  | .empty kind => s!"{kind.words} must not be empty"
  | .tooLong kind length =>
    s!"{kind.words} is {length} bytes, exceeds limit of {greatestIdentifierLength}"

/-- An identifier of one kind: a text without blanks at its ends, from 1 to 255 bytes long. -/
structure Identifier (kind : IdentifierKind) where
  text : String
  trimmed : trim text = text
  nonempty : 0 < text.utf8ByteSize
  bounded : text.utf8ByteSize ≤ greatestIdentifierLength
deriving DecidableEq

/-- The tenant that owns a conversation. -/
abbrev TenantId := Identifier .tenant

/-- A conversation of a tenant. -/
abbrev ConversationId := Identifier .conversation

/-- The authenticated sender of a message. -/
abbrev SenderId := Identifier .sender

/-- The name a client gives a message, kept when the client sends it again. -/
abbrev ClientMessageId := Identifier .clientMessage

namespace Identifier

variable {kind : IdentifierKind}

/-- The identifier a text holds between its blanks. -/
def ofText (kind : IdentifierKind) (text : String) : Except IdentifierError (Identifier kind) :=
  if empty : (trim text).utf8ByteSize = 0 then .error (.empty kind)
  else if fits : (trim text).utf8ByteSize ≤ greatestIdentifierLength then
    .ok ⟨trim text, trim_trim text, Nat.pos_of_ne_zero empty, fits⟩
  else .error (.tooLong kind (trim text).utf8ByteSize)

/-- Identifiers are equal when their texts are. -/
@[ext] theorem ext {a b : Identifier kind} (same : a.text = b.text) : a = b := by
  cases a
  cases b
  cases same
  rfl

/-- The text of an identifier names it again. -/
@[simp] theorem ofText_text (id : Identifier kind) : ofText kind id.text = .ok id := by
  -- Trimming changes nothing, and the length bounds are the identifier's own.
  have some := id.nonempty
  have fits := id.bounded
  simp only [ofText, id.trimmed]
  rw [dif_neg (by omega), dif_pos fits]

/-- Texts name an identifier exactly when between 1 and 255 bytes remain after trimming. -/
theorem ofText_eq_ok {text : String} {id : Identifier kind} :
    ofText kind text = .ok id ↔ id.text = trim text := by
  -- An identifier carries its bounds, which are the two checks that its text has to pass.
  constructor
  · intro named
    unfold ofText at named
    split at named
    · cases named
    · split at named
      · cases named; rfl
      · cases named
  · intro same
    have some := id.nonempty
    have fits := id.bounded
    rw [same] at some fits
    simp only [ofText]
    rw [dif_neg (by omega), dif_pos fits]
    exact congrArg Except.ok (ext same.symm)

/-- The order of identifiers is that of their bytes, which is that of their code points. -/
def order (a b : Identifier kind) : Ordering :=
  if a.text < b.text then .lt else if a.text = b.text then .eq else .gt

end Identifier

end Intake
