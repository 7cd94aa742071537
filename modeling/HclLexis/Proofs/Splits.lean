import HclLexis.Proofs.Lexemes
import HclLexis.Proofs.Run

/-! Readings of a text. A lexer splits the text ahead into pieces up to some tail, one lexeme after
another; readings join where the modes and the text behind one are those in front of the next. -/

namespace HclLexis

open Lexeme Document

def Token.piece (token : Token) : Piece := (token.kind, token.text)

namespace Lexer

/-- Calls before the end of the text turn it, up to `tail`, into `pieces`, and lead to `modes`. -/
inductive Splits : Lexer → List Piece → ModeStack → Text → Prop
  | nil (lexer : Lexer) : Splits lexer [] lexer.modes lexer.cursor.rest
  | cons {lexer : Lexer} {pieces : List Piece} {modes : ModeStack} {tail : Text}
      (ahead : lexer.cursor.rest ≠ []) (others : Splits lexer.pull.2 pieces modes tail) :
      Splits lexer (lexer.pull.1.piece :: pieces) modes tail

variable {lexer : Lexer} {pieces pieces' : List Piece} {modes modes' : ModeStack}
  {mode mode' : Mode} {ahead tail tail' lexeme : Text} {kind : TokenKind} {openedAt : Location}

theorem Splits.append (first : lexer.Splits pieces modes tail)
    (others : ∀ next : Lexer, next.modes = modes → next.cursor.rest = tail →
      next.Splits pieces' modes' tail') : lexer.Splits (pieces ++ pieces') modes' tail' := by
  induction first with
  | nil lexer => exact others lexer rfl rfl
  | cons ahead _ ih => exact .cons ahead (ih others)

theorem Splits.append_kept (first : lexer.Splits pieces modes tail)
    (others : ∀ next : Lexer, next.modes = modes → next.cursor.rest = tail →
      next.Splits pieces' next.modes tail') : lexer.Splits (pieces ++ pieces') modes tail' := by
  refine first.append fun next same ahead => ?_
  have kept := others next same ahead
  rwa [same] at kept

theorem Splits.exists_skip (splits : lexer.Splits pieces modes tail) :
    ∃ n, (∀ m < n, ¬ lexer.EndsAt m) ∧ (lexer.pulls n).map Token.piece = pieces ∧
      (lexer.skip n).modes = modes ∧ (lexer.skip n).cursor.rest = tail := by
  induction splits with
  | nil lexer => exact ⟨0, fun m less => absurd less (Nat.not_lt_zero m), rfl, rfl, rfl⟩
  | @cons lexer pieces modes tail ahead _ ih =>
    obtain ⟨n, before, same, stack, rest⟩ := ih
    refine ⟨n + 1, fun m less => ?_, by rw [pulls, List.map_cons, same], stack, rest⟩
    cases m with
    | zero => exact ahead
    | succ m => exact before m (Nat.lt_of_succ_lt_succ less)

theorem Splits.of_pull_eq {other : Lexer} (same : lexer.pull = other.pull)
    (ahead : lexer.cursor.rest ≠ []) (nonempty : pieces ≠ [])
    (splits : other.Splits pieces modes tail) : lexer.Splits pieces modes tail := by
  cases splits with
  | nil => exact absurd rfl nonempty
  | cons _ others =>
    rw [← same] at others ⊢
    exact .cons ahead others

theorem splits_scan {scan : Scan} (scans : lexer.modes.current.Scans mode scan tail)
    (ahead : lexer.cursor.rest = scan.lexeme ++ tail) :
    lexer.Splits [(scan.kind, scan.lexeme)]
      ((lexer.modes.setCurrent mode).follow lexer.cursor.location scan.move) tail := by
  obtain ⟨c, cs, shape, scanned⟩ := scans
  have found := pull_of_scan (ahead.trans shape) scanned shape.symm
  have nonempty : lexer.cursor.rest ≠ [] := by
    rw [ahead, shape]
    exact List.cons_ne_nil c cs
  have step := Splits.cons nonempty (.nil lexer.pull.2)
  rw [found] at step
  exact step

theorem splits_open (scans : lexer.modes.current.Scans lexer.modes.current
      { kind, lexeme, move := .enter mode } tail)
    (ahead : lexer.cursor.rest = lexeme ++ tail) :
    lexer.Splits [(kind, lexeme)] (lexer.modes.push mode lexer.cursor.location) tail := by
  have step := splits_scan scans ahead
  rwa [ModeStack.setCurrent_current rfl] at step

theorem splits_stay (scans : lexer.modes.current.Scans lexer.modes.current { kind, lexeme } tail)
    (ahead : lexer.cursor.rest = lexeme ++ tail) :
    lexer.Splits [(kind, lexeme)] lexer.modes tail := by
  have step := splits_scan scans ahead
  rwa [ModeStack.setCurrent_current rfl] at step

theorem Splits.append_stay (first : lexer.Splits pieces modes ahead)
    (scans : modes.current.Scans mode { kind, lexeme } tail) (shape : ahead = lexeme ++ tail) :
    lexer.Splits (pieces ++ [(kind, lexeme)]) (modes.setCurrent mode) tail := by
  refine first.append fun next same rest => ?_
  subst same
  exact splits_scan scans (rest.trans shape)

theorem Splits.append_leave (first : lexer.Splits pieces (modes.push mode openedAt) ahead)
    (scans : mode.Scans mode' { kind, lexeme, move := .leave } tail)
    (shape : ahead = lexeme ++ tail) : lexer.Splits (pieces ++ [(kind, lexeme)]) modes tail := by
  refine first.append fun next same rest => ?_
  have found : next.modes.current.Scans mode' { kind, lexeme, move := .leave } tail := by
    rwa [same]
  have step := splits_scan found (rest.trans shape)
  rw [same] at step
  exact step

theorem Splits.append_space (first : lexer.Splits pieces modes (' ' :: tail))
    (reads : modes.current.readsExpressions) (noBlank : startsBlank tail = false) :
    lexer.Splits (pieces ++ [space]) modes tail := by
  have step := first.append_stay (Mode.scans_space reads noBlank) rfl
  rwa [ModeStack.setCurrent_current rfl] at step

end Lexer

end HclLexis
