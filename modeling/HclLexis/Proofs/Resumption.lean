import HclLexis.Proofs.Places
import HclLexis.Proofs.Relocation

/-! Runs that go on. What a lexer has ahead depends on the modes and the text ahead only; where it
stands shows in locations alone. So behind a call that leaves no construct open the tokens are those
of the text ahead on its own, located from there on. -/

namespace HclLexis

theorem Location.Counts.startingAt_start {here : Location} {before : Text}
    (counts : here.Counts before) : startingAt here start = here := by
  obtain ⟨offset, line, column⟩ := here
  obtain ⟨-, rfl, rfl⟩ := counts
  simp [startingAt, start]

namespace Lexer

open Location

variable {t s : Text} {lexer other : Lexer} {origin : Location} {tokens : List Token}

/-- Another lexer with the same text ahead and the same modes, in a text that starts at `origin`. -/
structure RelocatedTo (lexer other : Lexer) (origin : Location) : Prop where
  rest : other.cursor.rest = lexer.cursor.rest
  location : other.cursor.location = startingAt origin lexer.cursor.location
  modes : other.modes = lexer.modes.relocate (startingAt origin)

theorem RelocatedTo.endToken (relocated : lexer.RelocatedTo other origin) :
    other.endToken = lexer.endToken.relocate (startingAt origin) := by
  rw [Lexer.endToken, relocated.modes, relocated.location, ModeStack.unclosed_relocate]
  rfl

theorem RelocatedTo.pull (relocated : lexer.RelocatedTo other origin) (reads : Reads t lexer)
    (ahead : lexer.cursor.rest ≠ []) :
    other.pull.1 = lexer.pull.1.relocate (startingAt origin) ∧
      lexer.pull.2.RelocatedTo other.pull.2 origin := by
  obtain ⟨mode, scan, tail, scans, split, -⟩ := reads.exists_scans ahead
  have scansAgain := scans
  rw [← ModeStack.current_relocate (startingAt origin), ← relocated.modes] at scansAgain
  have splitAgain := relocated.rest.trans split
  have running : ¬ scan.kind.isEof := (outcome_of_scans scans).not_isEof
  -- columns are moved on the first line only, which a lexeme may end
  have moved := startingAt_advanceOver reads.line_pos origin scan.lexeme
  rw [pull_of_scans scans split, pull_of_scans scansAgain splitAgain]
  refine ⟨?_, rfl, ?_, ?_⟩
  · simp only [Token.relocate, TokenKind.relocate_of_not_isEof _ running, relocated.location, moved]
  · simp only [Lexer.behind, relocated.location, moved]
  · simp only [Lexer.behind, relocated.location, relocated.modes, ModeStack.setCurrent_relocate,
      ModeStack.follow_relocate]

theorem Drains.relocatedTo (drains : lexer.Drains tokens) (reads : Reads t lexer)
    (relocated : lexer.RelocatedTo other origin) :
    other.Drains (tokens.map (·.relocate (startingAt origin))) := by
  induction drains generalizing other with
  | @ended lexer ended =>
    rw [List.map_singleton, ← relocated.endToken]
    exact .ended (relocated.rest.trans ended)
  | @next lexer tokens ahead _ ih =>
    obtain ⟨token, next⟩ := relocated.pull reads ahead
    rw [List.map_cons, ← token]
    exact .next (by rwa [relocated.rest]) (ih reads.pull next)

theorem RelocatedTo.of_isBalanced (reads : Reads t lexer) (balanced : lexer.modes.isBalanced)
    (noMark : lexer.cursor.rest.head? ≠ some Text.byteOrderMark) :
    (ofText lexer.cursor.rest).RelocatedTo lexer lexer.cursor.location where
  rest := (Text.withoutMark_eq noMark).symm
  location := by
    obtain ⟨before, -, counts⟩ := reads.isPlaceIn
    exact counts.startingAt_start.symm
  modes := by
    have base := reads.base
    have frames := List.isEmpty_iff.mp balanced
    generalize lexer.modes = modes at base frames
    obtain ⟨_, _⟩ := modes
    subst base frames
    rfl

/-- Behind calls that leave no construct open, the tokens up to the end are those of the text ahead
on its own, located from there on, and they complete the token list of the whole text. -/
theorem drain_skip_of_isBalanced (t : Text) (n : Nat)
    (balanced : ((ofText t).skip n).modes.isBalanced)
    (noMark : ((ofText t).skip n).cursor.rest.head? ≠ some Text.byteOrderMark) :
    ((ofText t).skip n).drain.1 = (tokenize ((ofText t).skip n).cursor.rest).map
        (·.relocate (startingAt ((ofText t).skip n).cursor.location)) ∧
      (n ≤ (tokensBeforeEnd t).length →
        tokenize t = (ofText t).pulls n ++ ((ofText t).skip n).drain.1) := by
  have reads := (reads_ofText t).skip n
  have drains := reads.drains_drain (skip_done (ofText t) n)
  constructor
  · have alone := drains_tokenize ((ofText t).skip n).cursor.rest
    exact drains.eq (alone.relocatedTo (reads_ofText _) (.of_isBalanced reads balanced noMark))
  · intro before
    obtain ⟨last, -, first, body, -⟩ := exists_tokensBeforeEnd t
    have size : (tokensBeforeEnd t).length = last := by rw [← body, length_pulls]
    exact (drains_tokenize t).eq (.of_skip (fun m less => first m (by omega)) drains)

def stringBehindString : Text := ['\n', '"', 'a', '"', ' ', '"', '$', '{', '\n']

theorem drain_skip_stringBehindString :
    ((ofText stringBehindString).skip 4).modes.isBalanced ∧
      ((ofText stringBehindString).skip 4).drain.1 =
        (tokenize [' ', '"', '$', '{', '\n']).map (·.relocate (startingAt ⟨4, 2, 4⟩)) ∧
      tokenize stringBehindString =
        (ofText stringBehindString).pulls 4 ++ ((ofText stringBehindString).skip 4).drain.1 ∧
      ((tokenize stringBehindString).getLast?.map Token.kind) =
        some (.eof [⟨.quotedTemplate, ⟨5, 2, 5⟩⟩, ⟨.interpolation, ⟨6, 2, 6⟩⟩]) := by
  have balanced : ((ofText stringBehindString).skip 4).modes.isBalanced := by decide
  have resumed := drain_skip_of_isBalanced stringBehindString 4 balanced (by decide)
  exact ⟨balanced, resumed.1, resumed.2 (by decide), by decide⟩

end Lexer

end HclLexis
