import HclLexis.Diagnostics
import HclLexis.Proofs.Calls

/-! Other locations for the same text. Locations are kept in frames and told by tokens, and nothing
else depends on them. -/

namespace HclLexis

namespace Location

/-- The location in a text that starts at `origin` of what is at `here` in the text on its own. Only
the first line starts in another column. -/
def startingAt (origin here : Location) : Location where
  offset := here.offset + origin.offset
  line := here.line + (origin.line - 1)
  column := if here.line = 1 then here.column + (origin.column - 1) else here.column

theorem line_pos_advance {here : Location} (positive : 0 < here.line) (c : Char) :
    0 < (here.advance c).line := by
  rw [advance]
  split
  · exact Nat.succ_pos _
  · exact positive

theorem line_pos_advanceOver {here : Location} (positive : 0 < here.line) (t : Text) :
    0 < (here.advanceOver t).line := by
  induction t generalizing here with
  | nil => exact positive
  | cons c cs ih => exact ih (line_pos_advance positive c)

theorem startingAt_advance {here : Location} (positive : 0 < here.line) (origin : Location)
    (c : Char) : startingAt origin (here.advance c) = (startingAt origin here).advance c := by
  by_cases feed : c = '\n'
  · have other : here.line + 1 ≠ 1 := by omega
    simp only [advance, startingAt, if_pos feed, if_neg other, Nat.add_right_comm]
  · by_cases first : here.line = 1
    · simp only [advance, startingAt, if_neg feed, if_pos first, Nat.add_right_comm]
    · simp only [advance, startingAt, if_neg feed, if_neg first, Nat.add_right_comm]

theorem startingAt_advanceOver {here : Location} (positive : 0 < here.line) (origin : Location)
    (t : Text) :
    startingAt origin (here.advanceOver t) = (startingAt origin here).advanceOver t := by
  induction t generalizing here with
  | nil => rfl
  | cons c cs ih =>
    have first := startingAt_advance positive origin c
    have others := ih (line_pos_advance positive c)
    rw [first] at others
    exact others

end Location

def OpenConstruct.relocate (place : Location → Location) (construct : OpenConstruct) :
    OpenConstruct :=
  { construct with openedAt := place construct.openedAt }

def TokenKind.relocate (place : Location → Location) : TokenKind → TokenKind
  | .eof unterminated => .eof (unterminated.map (·.relocate place))
  | kind => kind

def Token.relocate (place : Location → Location) (token : Token) : Token :=
  { token with
    kind := token.kind.relocate place
    start := place token.start
    stop := place token.stop }

def LexError.relocate (place : Location → Location) (error : LexError) : LexError :=
  { error with location := place error.location }

def Frame.relocate (place : Location → Location) (frame : Frame) : Frame :=
  { frame with openedAt := place frame.openedAt }

def ModeStack.relocate (place : Location → Location) (modes : ModeStack) : ModeStack :=
  { modes with frames := modes.frames.map (·.relocate place) }

theorem TokenKind.relocate_of_not_isEof {kind : TokenKind} (place : Location → Location)
    (running : ¬ kind.isEof) : kind.relocate place = kind := by
  cases kind with
  | eof => exact absurd rfl running
  | _ => rfl

theorem Token.errors_relocate (place : Location → Location) (token : Token) :
    (token.relocate place).errors = token.errors.map (·.relocate place) := by
  obtain ⟨kind, text, start, stop⟩ := token
  cases kind with
  | eof unterminated =>
    simp [errors, Token.relocate, TokenKind.relocate, LexError.relocate, OpenConstruct.relocate]
  | _ => rfl

theorem LexError.ofTokens_relocate (place : Location → Location) (tokens : List Token) :
    ofTokens (tokens.map (·.relocate place)) = (ofTokens tokens).map (·.relocate place) := by
  simp only [ofTokens, List.flatMap_map, List.map_flatMap, Token.errors_relocate]

namespace ModeStack

variable (place : Location → Location) (modes : ModeStack)

@[simp] theorem current_relocate : (modes.relocate place).current = modes.current := by
  obtain ⟨base, frames⟩ := modes
  cases frames <;> rfl

@[simp] theorem unclosed_relocate :
    (modes.relocate place).unclosed = modes.unclosed.map (·.relocate place) := by
  simp only [unclosed, relocate, ← List.map_reverse, List.map_map]
  rfl

theorem setCurrent_relocate (mode : Mode) :
    (modes.relocate place).setCurrent mode = (modes.setCurrent mode).relocate place := by
  obtain ⟨base, frames⟩ := modes
  cases frames <;> rfl

theorem follow_relocate (openedAt : Location) (move : Move) :
    (modes.relocate place).follow (place openedAt) move =
      (modes.follow openedAt move).relocate place := by
  obtain ⟨base, frames⟩ := modes
  cases move with
  | leave => cases frames <;> rfl
  | _ => rfl

end ModeStack

theorem ModeStack.relocate_step_eq {place : Location → Location} {modes modes' : ModeStack}
    (same : modes'.relocate place = modes.relocate place) (mode : Mode) {here here' : Location}
    (sameHere : place here' = place here) (move : Move) :
    ((modes'.setCurrent mode).follow here' move).relocate place =
      ((modes.setCurrent mode).follow here move).relocate place := by
  rw [← follow_relocate, ← follow_relocate, ← setCurrent_relocate, ← setCurrent_relocate, same,
    sameHere]

theorem ModeStack.unclosed_eq_of_relocate {place : Location → Location} {modes modes' : ModeStack}
    (same : modes'.relocate place = modes.relocate place) :
    modes'.unclosed.map (·.relocate place) = modes.unclosed.map (·.relocate place) := by
  rw [← unclosed_relocate, same, unclosed_relocate]

theorem ModeStack.current_eq_of_relocate {place : Location → Location} {modes modes' : ModeStack}
    (same : modes'.relocate place = modes.relocate place) : modes'.current = modes.current := by
  rw [← current_relocate place modes', same, current_relocate]

theorem Lexer.Reads.line_pos {t : Text} {lexer : Lexer} (reads : Reads t lexer) :
    0 < lexer.cursor.location.line := by
  rw [reads.location]
  exact Location.line_pos_advanceOver Nat.one_pos _

end HclLexis
