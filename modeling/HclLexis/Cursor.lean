import HclLexis.Location

/-! A reading position in a text. The cursor keeps what it has read, what is still ahead, and the
location between the two, and it only moves forward over whole characters. Every movement is a
number of steps over single characters. -/

namespace HclLexis

structure Cursor where
  /-- The characters read, the latest first. -/
  consumed : Text
  rest : Text
  location : Location
deriving DecidableEq

inductive CursorError where
  /-- The offset to be reached does not fit into 64 bits. -/
  | outOfReach
  | notABoundary
deriving DecidableEq

namespace Cursor

def ofText (t : Text) : Cursor := ⟨[], Text.withoutMark t, .start⟩

def input (cursor : Cursor) : Text := cursor.consumed.reverse ++ cursor.rest

def isAtEnd (cursor : Cursor) : Bool := cursor.rest.isEmpty

def peek (cursor : Cursor) (n : Nat) : Option Char := cursor.rest[n]?

def atLineBreak (cursor : Cursor) : Bool := Text.atLineBreak cursor.rest

def step (cursor : Cursor) : Cursor :=
  match cursor.rest with
  | [] => cursor
  | c :: rest => ⟨c :: cursor.consumed, rest, cursor.location.advance c⟩

def advance (cursor : Cursor) : Nat → Cursor
  | 0 => cursor
  | n + 1 => cursor.step.advance n

theorem advance_append (consumed t rest : Text) (location : Location) :
    advance ⟨consumed, t ++ rest, location⟩ t.length
      = ⟨t.reverse ++ consumed, rest, location.advanceOver t⟩ := by
  induction t generalizing consumed location with
  | nil => rfl
  | cons c cs ih =>
    rw [List.cons_append, List.length_cons, advance, step, ih]
    simp [Location.advanceOver]

def skipWhile (cursor : Cursor) (test : Char → Bool) : Cursor :=
  cursor.advance (cursor.rest.takeWhile test).length

/-- How many characters a test with a memory accepts in a row. -/
def acceptedLength {σ : Type} (test : σ → Char → Option σ) : σ → Text → Nat
  | _, [] => 0
  | memory, c :: cs => match test memory c with
    | none => 0
    | some memory => acceptedLength test memory cs + 1

def skipAccepted {σ : Type} (cursor : Cursor) (test : σ → Char → Option σ) (memory : σ) : Cursor :=
  cursor.advance (acceptedLength test memory cursor.rest)

def skipLineBreak (cursor : Cursor) : Cursor :=
  cursor.advance ((Text.lineBreak? cursor.rest).getD []).length

/-- Moves over whole characters until `n` bytes are read or the text ends. The offset to be
reached must fit into 64 bits, even if the text ends before. -/
def skipBytes (cursor : Cursor) (n : Nat) : Except CursorError Cursor :=
  if cursor.location.offset + n < UInt64.size then
    .ok (cursor.advance (Text.charsCovering n cursor.rest))
  else .error .outOfReach

def textSince (cursor : Cursor) (offset : Nat) : Except CursorError Text :=
  match Text.dropBytes? offset cursor.consumed.reverse with
  | some t => .ok t
  | none => .error .notABoundary

end Cursor

end HclLexis
