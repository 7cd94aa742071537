import HclLexis.Proofs.HeredocClosing
import HclLexis.Proofs.Lexemes

/-! Calls for tokens as scans of the active mode, and the tokens that a lexer still has ahead up to
the end of its text. -/

namespace HclLexis

theorem Text.withoutMark_eq {t : Text} (noMark : t.head? ≠ some byteOrderMark) :
    withoutMark t = t := by
  cases t with
  | nil => rfl
  | cons c cs =>
    have other : c ≠ byteOrderMark := fun same => noMark (by rw [same]; rfl)
    rw [withoutMark, if_neg other]

namespace Lexer

variable {t : Text} {lexer : Lexer} {mode : Mode} {scan : Scan} {tail : Text}

def behind (lexer : Lexer) (mode : Mode) (scan : Scan) (tail : Text) : Lexer :=
  ⟨⟨scan.lexeme.reverse ++ lexer.cursor.consumed, tail,
      lexer.cursor.location.advanceOver scan.lexeme⟩,
    (lexer.modes.setCurrent mode).follow lexer.cursor.location scan.move, lexer.done⟩

theorem pull_of_scans (scans : lexer.modes.current.Scans mode scan tail)
    (ahead : lexer.cursor.rest = scan.lexeme ++ tail) :
    lexer.pull =
      (⟨scan.kind, scan.lexeme, lexer.cursor.location,
        lexer.cursor.location.advanceOver scan.lexeme⟩, lexer.behind mode scan tail) := by
  obtain ⟨c, cs, shape, scanned⟩ := scans
  exact pull_of_scan (ahead.trans shape) scanned shape.symm

theorem Reads.exists_scans (reads : Reads t lexer) (ahead : lexer.cursor.rest ≠ []) :
    ∃ mode scan tail, lexer.modes.current.Scans mode scan tail ∧
      lexer.cursor.rest = scan.lexeme ++ tail ∧ scan.lexeme ≠ [] := by
  obtain ⟨c, cs, shape⟩ := List.exists_cons_of_ne_nil ahead
  have covers := Mode.scan_covers reads.named.current.isNamed c cs
  rcases scanned : lexer.modes.current.scan c cs with ⟨mode, scan⟩
  rw [scanned] at covers
  obtain ⟨nonempty, tail, split⟩ := covers
  exact ⟨mode, scan, tail, ⟨c, cs, split, scanned⟩, shape.trans split.symm, nonempty⟩

theorem Reads.behind (reads : Reads t lexer) (scans : lexer.modes.current.Scans mode scan tail)
    (ahead : lexer.cursor.rest = scan.lexeme ++ tail) : Reads t (lexer.behind mode scan tail) := by
  have next := reads.pull
  rwa [pull_of_scans scans ahead] at next

theorem ne_nil_of_scans (ahead : lexer.cursor.rest = scan.lexeme ++ tail)
    (nonempty : scan.lexeme ≠ []) : lexer.cursor.rest ≠ [] := by
  simp [ahead, nonempty]

theorem outcome_of_scans (scans : lexer.modes.current.Scans mode scan tail) :
    Outcome (scan.lexeme ++ tail) lexer.modes.current mode scan := by
  obtain ⟨c, cs, shape, scanned⟩ := scans
  have outcome := lexer.modes.current.scan_outcome c cs
  rwa [scanned, ← shape] at outcome

theorem Reads.rest_skip_suffix (reads : Reads t lexer) (n : Nat) :
    (lexer.skip n).cursor.rest <:+ lexer.cursor.rest := by
  induction n generalizing lexer with
  | zero => exact List.suffix_rfl
  | succ n ih => exact (ih reads.pull).trans ⟨_, reads.turn.rest.symm⟩

theorem pulls_add (lexer : Lexer) (m n : Nat) :
    lexer.pulls (m + n) = lexer.pulls m ++ (lexer.skip m).pulls n := by
  induction m generalizing lexer with
  | zero => rw [Nat.zero_add, pulls, skip, List.nil_append]
  | succ m ih => rw [Nat.succ_add, pulls, ih, pulls, skip, List.cons_append]

/-- The tokens of the calls up to the end of the text, the end included. -/
inductive Drains : Lexer → List Token → Prop
  | ended {lexer : Lexer} (ended : lexer.cursor.rest = []) : Drains lexer [lexer.endToken]
  | next {lexer : Lexer} {tokens : List Token} (ahead : lexer.cursor.rest ≠ [])
      (others : Drains lexer.pull.2 tokens) : Drains lexer (lexer.pull.1 :: tokens)

theorem Drains.eq {tokens tokens' : List Token} (drains : lexer.Drains tokens)
    (drains' : lexer.Drains tokens') : tokens = tokens' := by
  induction drains generalizing tokens' with
  | ended ended =>
    cases drains' with
    | ended => rfl
    | next ahead => exact absurd ended ahead
  | next ahead _ ih =>
    cases drains' with
    | ended ended => exact absurd ended ahead
    | next _ others => rw [ih others]

theorem Drains.of_skip {n : Nat} {tokens : List Token} (ahead : ∀ m < n, ¬ lexer.EndsAt m)
    (others : (lexer.skip n).Drains tokens) : lexer.Drains (lexer.pulls n ++ tokens) := by
  induction n generalizing lexer with
  | zero => exact others
  | succ n ih =>
    exact .next (ahead 0 (Nat.succ_pos n))
      (ih (fun m less => ahead (m + 1) (Nat.succ_lt_succ less)) others)

theorem Reads.drains_drain (reads : Reads t lexer) (running : lexer.done = false) :
    lexer.Drains lexer.drain.1 := by
  obtain ⟨n, -, ends, first, drained⟩ := reads.drain_eq_pulls running
  have last : lexer.token n = (lexer.skip n).endToken := congrArg Prod.fst (pull_of_ended ends)
  rw [drained, pulls_succ, last]
  exact .of_skip first (.ended ends)

theorem drains_tokenize (t : Text) : (ofText t).Drains (tokenize t) :=
  (reads_ofText t).drains_drain rfl

theorem Drains.of_scans (lexer : Lexer) {tokens : List Token}
    (scans : lexer.modes.current.Scans mode scan tail)
    (ahead : lexer.cursor.rest = scan.lexeme ++ tail) (nonempty : scan.lexeme ≠ [])
    (others : (lexer.behind mode scan tail).Drains tokens) :
    lexer.Drains (⟨scan.kind, scan.lexeme, lexer.cursor.location,
      lexer.cursor.location.advanceOver scan.lexeme⟩ :: tokens) := by
  have called := pull_of_scans scans ahead
  have drains : lexer.Drains (lexer.pull.1 :: tokens) :=
    .next (ne_nil_of_scans ahead nonempty) (by rwa [called])
  rwa [called] at drains

end Lexer

def tokensBeforeEnd (t : Text) : List Token := (tokenize t).filter fun token => !token.isEof

namespace Lexer

theorem Reads.filter_pulls {t : Text} {lexer : Lexer} (reads : Reads t lexer) {n : Nat}
    (first : ∀ m < n, ¬ lexer.EndsAt m) :
    (lexer.pulls n).filter (fun token => !token.isEof) = lexer.pulls n := by
  rw [List.filter_eq_self]
  intro token member
  obtain ⟨m, less, rfl⟩ := mem_pulls member
  have running : ¬ (lexer.token m).isEof := fun isEof =>
    first m less ((reads.skip m).isEof_iff.mp isEof)
  simpa using running

theorem exists_tokensBeforeEnd (t : Text) :
    ∃ n, (ofText t).EndsAt n ∧ (∀ m < n, ¬ (ofText t).EndsAt m) ∧
      (ofText t).pulls n = tokensBeforeEnd t ∧
      tokenize t = tokensBeforeEnd t ++ [((ofText t).skip n).endToken] ∧
      (ofText t).drain.2.modes = ((ofText t).skip n).modes := by
  obtain ⟨n, -, ends, first, drained⟩ := tokenize_eq_pulls t
  have last : (ofText t).token n = ((ofText t).skip n).endToken :=
    congrArg Prod.fst (pull_of_ended ends)
  have whole : tokenize t = (ofText t).pulls n ++ [((ofText t).skip n).endToken] := by
    rw [tokenize, drained, pulls_succ, last]
  have before : tokensBeforeEnd t = (ofText t).pulls n := by
    rw [tokensBeforeEnd, whole, List.filter_append, (reads_ofText t).filter_pulls first]
    exact List.append_nil _
  refine ⟨n, ends, first, before.symm, ?_, ?_⟩
  · rw [before, whole]
  · rw [drained]

end Lexer

end HclLexis
