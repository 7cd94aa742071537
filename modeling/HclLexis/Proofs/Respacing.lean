import HclLexis.Proofs.Layout
import HclLexis.Proofs.Relocation

/-! Blanks and comments that do not matter. A single space can stand for each of them: the tokens in
between are read from the respaced text as they are from the text itself, in the same modes. -/

namespace HclLexis

open Text Lexeme

def Location.forget (_ : Location) : Location := .start

def Token.respaced (token : Token) : Text := if token.kind.isTrivia then [' '] else token.text

def respaced (tokens : List Token) : Text := tokens.flatMap Token.respaced

/-- The tokens that matter, with their kinds and texts; of open constructs only the kinds count. -/
def significant (tokens : List Token) : List (TokenKind × Text) :=
  (tokens.filter fun token => !token.kind.isTrivia).map fun token =>
    (token.kind.relocate .forget, token.text)

theorem respaced_cons (token : Token) (tokens : List Token) :
    respaced (token :: tokens) = token.respaced ++ respaced tokens := rfl

theorem significant_cons_of_trivia {token : Token} (trivia : token.kind.isTrivia)
    (tokens : List Token) : significant (token :: tokens) = significant tokens := by
  rw [significant, List.filter_cons_of_neg (by simp [trivia])]
  rfl

theorem significant_cons {token : Token} (matters : ¬ token.kind.isTrivia) (tokens : List Token) :
    significant (token :: tokens) =
      (token.kind.relocate .forget, token.text) :: significant tokens := by
  rw [significant, List.filter_cons_of_pos (by simpa using matters)]
  rfl

theorem Outcome.stays_of_trivia {t : Text} {mode mode' : Mode} {scan : Scan}
    (outcome : Outcome t mode mode' scan) (trivia : scan.kind.isTrivia) : scan.move = .stay := by
  have noOpener {kind : TokenKind} (trivia : kind.isTrivia) : kind.opens? = none := by
    cases kind <;> first | rfl | cases trivia
  cases outcome with
  | stringSequence _ opens => rw [noOpener trivia] at opens; cases opens
  | heredocSequence _ _ opens => rw [noOpener trivia] at opens; cases opens
  | neutral | bodyBrace | openBrace | closeBrace => rfl
  | stringText | heredocLineBreak | heredocText => rfl
  | _ => cases trivia

theorem Outcome.readsExpressions_eq {t : Text} {mode mode' : Mode} {scan : Scan}
    (outcome : Outcome t mode mode' scan) : mode'.readsExpressions = mode.readsExpressions := by
  cases outcome <;> rfl

namespace Mode

variable {mode mode' : Mode} {scan : Scan} {tail : Text}

theorem Scans.whitespace_of_startsBlank (scans : mode.Scans mode' scan tail)
    (reads : mode.readsExpressions) (blank : startsBlank (scan.lexeme ++ tail)) :
    scan.kind = .whitespace := by
  obtain ⟨c, cs, shape, scanned⟩ := scans
  rw [shape] at blank
  have found := body_scan_of_startsBlank blank
  cases mode with
  | structural =>
    cases scanned
    exact blanks?_kind found
  | interpolation depth =>
    have body : Rules.Sequence.scan depth c cs = (depth, Rules.Body.scan c cs) := by
      rcases sign_of_startsBlank blank with rfl | rfl | ⟨rfl, -⟩ <;> rfl
    rw [Mode.scan, body] at scanned
    cases scanned
    exact blanks?_kind found
  | quotedTemplate | heredocTemplate => cases reads

theorem takeBefore_spaces (k : Nat) (noBlank : startsBlank tail = false) :
    takeBefore (fun rest => !startsBlank rest) (List.replicate k ' ' ++ tail) =
      List.replicate k ' ' := by
  induction k with
  | zero =>
    cases tail with
    | nil => rfl
    | cons c cs =>
      rw [List.replicate_zero, List.nil_append, takeBefore, noBlank]
      rfl
  | succ k ih =>
    rw [List.replicate_succ, List.cons_append, takeBefore, ih]
    rfl

theorem scans_spaces (reads : mode.readsExpressions) (k : Nat)
    (noBlank : startsBlank tail = false) :
    mode.Scans mode { kind := .whitespace, lexeme := List.replicate (k + 1) ' ' } tail := by
  have blank : startsBlank (' ' :: (List.replicate k ' ' ++ tail)) = true := rfl
  have found := body_scan_of_startsBlank blank
  rw [blanks?, if_pos blank, Option.some_inj, ← List.cons_append, ← List.replicate_succ,
    takeBefore_spaces (k + 1) noBlank] at found
  refine ⟨' ', List.replicate k ' ' ++ tail, rfl, ?_⟩
  cases mode with
  | structural => rw [scan, ← found]
  | interpolation depth =>
    rw [found]
    rfl
  | quotedTemplate | heredocTemplate => cases reads

end Mode

namespace Lexer

variable {t : Text} {lexer : Lexer} {tokens : List Token}

theorem Drains.seenBehind_respaced (drains : lexer.Drains tokens) (reads : Reads t lexer)
    (lexeme : Text) : SeenBehind lexeme lexer.cursor.rest (respaced tokens) := by
  induction drains generalizing lexeme with
  | ended ended =>
    rw [ended]
    exact ⟨.ends, fun _ => Iff.rfl⟩
  | @next lexer tokens ahead others ih =>
    obtain ⟨mode, scan, tail, scans, split, nonempty⟩ := reads.exists_scans ahead
    have pulled := pull_of_scans scans split
    have behind := ih reads.pull scan.lexeme
    rw [respaced_cons, Token.respaced]
    rw [pulled] at behind ⊢
    by_cases trivia : scan.kind.isTrivia
    · rw [if_pos trivia]
      have starts := (scans.trivia trivia).2.2
      rw [← split] at starts
      refine ⟨.gap starts _, fun _ => iff_of_false nofun fun feed => ?_⟩
      obtain ⟨rest, same⟩ := List.head?_eq_some_iff.mp feed
      rw [same] at starts
      cases starts
    · rw [if_neg trivia, split]
      obtain ⟨c, cs, shape⟩ := List.exists_cons_of_ne_nil nonempty
      refine ⟨behind.append, fun _ => ?_⟩
      rw [shape]
      exact Iff.rfl

theorem Drains.head?_respaced (drains : lexer.Drains tokens) (reads : Reads t lexer)
    (template : ¬ lexer.modes.current.readsExpressions) :
    (respaced tokens).head? = lexer.cursor.rest.head? := by
  cases drains with
  | ended ended =>
    rw [ended]
    rfl
  | next ahead others =>
    obtain ⟨mode, scan, tail, scans, split, nonempty⟩ := reads.exists_scans ahead
    obtain ⟨c, cs, shape⟩ := List.exists_cons_of_ne_nil nonempty
    have matters : ¬ scan.kind.isTrivia := fun trivia => template (scans.trivia trivia).1
    rw [respaced_cons, Token.respaced, pull_of_scans scans split, if_neg matters, split, shape]
    rfl

theorem drains_spaces {other : Lexer} {spaces : Nat} {rest : Text}
    (ahead : other.cursor.rest = List.replicate spaces ' ' ++ rest)
    (inExpression : spaces ≠ 0 → other.modes.current.readsExpressions)
    (noBlank : spaces ≠ 0 → startsBlank rest = false)
    (others : ∀ next : Lexer, next.cursor.rest = rest → next.modes = other.modes →
      ∃ tokens', next.Drains tokens' ∧ significant tokens' = significant tokens) :
    ∃ tokens', other.Drains tokens' ∧ significant tokens' = significant tokens := by
  cases spaces with
  | zero => exact others other ahead rfl
  | succ spaces =>
    have scans := Mode.scans_spaces (inExpression (Nat.succ_ne_zero _)) spaces
      (noBlank (Nat.succ_ne_zero _))
    have stays : (other.modes.setCurrent other.modes.current) = other.modes :=
      ModeStack.setCurrent_current rfl
    obtain ⟨tokens', drains, same⟩ := others (other.behind other.modes.current
      { kind := .whitespace, lexeme := List.replicate (spaces + 1) ' ' } rest) rfl stays
    refine ⟨_, .of_scans _ scans ahead (by simp) drains, ?_⟩
    rw [significant_cons_of_trivia rfl, same]

section

variable {mode : Mode} {scan : Scan} {tail : Text} (reads : Reads t lexer)
  (scans : lexer.modes.current.Scans mode scan tail)
  (split : lexer.cursor.rest = scan.lexeme ++ tail)
  (others : (lexer.behind mode scan tail).Drains tokens) (matters : ¬ scan.kind.isTrivia)

include reads scans split others matters

theorem scans_respaced (noReturn : tail.getLast? ≠ some '\r') :
    lexer.modes.current.Scans mode scan (respaced tokens) := by
  have reads' := reads.behind scans split
  refine scans.of_seenBehind reads.named.current (others.seenBehind_respaced reads' scan.lexeme)
    ?_ ?_
  · rintro (blank | ⟨template, stays⟩)
    · exact absurd (by rw [blank]; rfl) matters
    · have inside : ¬ (lexer.behind mode scan tail).modes.current.readsExpressions := by
        rw [Lexer.behind, stays]
        dsimp only [ModeStack.follow]
        rwa [ModeStack.current_setCurrent, (outcome_of_scans scans).readsExpressions_eq]
      rw [others.head?_respaced reads' inside]
      exact id
  · rintro rfl
    exact noReturn rfl

theorem startsBlank_respaced (nonempty : scan.lexeme ≠ [])
    (inExpression : lexer.modes.current.readsExpressions) :
    startsBlank (scan.lexeme ++ respaced tokens) = false := by
  have behind := others.seenBehind_respaced (reads.behind scans split) scan.lexeme
  rw [Bool.eq_false_iff]
  intro blank
  obtain ⟨c, piece, shape⟩ := List.exists_cons_of_ne_nil nonempty
  have blankBefore : startsBlank (scan.lexeme ++ tail) := by
    rw [shape] at behind blank ⊢
    exact (startsBlank_alike behind.lineBreak?_cons).symm.trans blank
  exact matters (by rw [scans.whitespace_of_startsBlank inExpression blankBefore]; rfl)

end

/-- What a lexer has ahead, respaced behind spaces, gives the same tokens that matter. -/
theorem Drains.exists_respaced (drains : lexer.Drains tokens) (reads : Reads t lexer)
    (noReturn : lexer.cursor.rest.getLast? ≠ some '\r') (other : Lexer) (spaces : Nat)
    (ahead : other.cursor.rest = List.replicate spaces ' ' ++ respaced tokens)
    (modes : other.modes.relocate .forget = lexer.modes.relocate .forget)
    (inExpression : spaces ≠ 0 → lexer.modes.current.readsExpressions) :
    ∃ tokens', other.Drains tokens' ∧ significant tokens' = significant tokens := by
  -- by the tokens of the lexer; those that do not matter add to the spaces
  induction drains generalizing other spaces with
  | @ended lexer ended =>
    have current := ModeStack.current_eq_of_relocate modes
    refine drains_spaces ahead (by rwa [current]) (fun _ => rfl) fun next nextAhead nextModes => ?_
    refine ⟨_, .ended nextAhead, ?_⟩
    have unclosed := ModeStack.unclosed_eq_of_relocate (nextModes ▸ modes)
    have matters (lexer : Lexer) : ¬ lexer.endToken.kind.isTrivia := Bool.false_ne_true
    rw [significant_cons (matters next), significant_cons (matters lexer)]
    simp only [endToken, TokenKind.relocate, unclosed]
  | @next lexer tokens here others ih =>
    obtain ⟨mode, scan, tail, scans, split, nonempty⟩ := reads.exists_scans here
    have current := ModeStack.current_eq_of_relocate modes
    have ih := ih reads.pull
    rw [pull_of_scans scans split] at ih others ahead ⊢
    rw [respaced_cons, Token.respaced] at ahead
    have noReturn : tail.getLast? ≠ some '\r' := by
      intro last
      rw [split, List.getLast?_append, last] at noReturn
      exact noReturn rfl
    by_cases trivia : scan.kind.isTrivia
    · obtain ⟨reads, rfl, -⟩ := scans.trivia trivia
      have still : (lexer.behind lexer.modes.current scan tail).modes = lexer.modes := by
        rw [Lexer.behind, (outcome_of_scans scans).stays_of_trivia trivia]
        exact ModeStack.setCurrent_current rfl
      rw [if_pos trivia] at ahead
      rw [significant_cons_of_trivia trivia]
      refine ih noReturn other (spaces + 1) ?_ (by rw [still, modes]) fun _ => ?_
      · rw [ahead, List.replicate_succ', List.append_assoc]
      · rw [still, reads]
    · rw [if_neg trivia] at ahead
      have noBlank (inside : spaces ≠ 0) :=
        startsBlank_respaced reads scans split others trivia nonempty (inExpression inside)
      refine drains_spaces ahead (by rwa [current]) noBlank fun next nextAhead nextModes => ?_
      have scansAgain : next.modes.current.Scans mode scan (respaced tokens) := by
        rw [nextModes, current]
        exact scans_respaced reads scans split others trivia noReturn
      have sameModes : next.modes.relocate .forget = lexer.modes.relocate .forget := by
        rw [nextModes, modes]
      have sameHere : next.cursor.location.forget = lexer.cursor.location.forget := rfl
      obtain ⟨tokens', drains, same⟩ := ih noReturn (next.behind mode scan (respaced tokens)) 0 rfl
        (ModeStack.relocate_step_eq sameModes mode sameHere scan.move)
        fun spaces => absurd rfl spaces
      refine ⟨_, .of_scans _ scansAgain nextAhead nonempty drains, ?_⟩
      rw [significant_cons trivia, significant_cons trivia, same]

/-- Each blank and each comment can be replaced by a space: the tokens that matter stay. -/
theorem significant_tokenize_respaced (s : Text) (noMark : s.head? ≠ some Text.byteOrderMark)
    (noReturn : s.getLast? ≠ some '\r') :
    significant (tokenize (respaced (tokenize s))) = significant (tokenize s) := by
  have reads := reads_ofText s
  have drains := drains_tokenize s
  have input : (ofText s).cursor.rest = s := Text.withoutMark_eq noMark
  have alike := (drains.seenBehind_respaced reads []).alike
  rw [input] at alike
  have noMark' : (respaced (tokenize s)).head? ≠ some Text.byteOrderMark := by
    rw [Ne, alike.head?_eq_some_iff (by decide)]
    exact noMark
  obtain ⟨tokens, drains', same⟩ := drains.exists_respaced reads (by rwa [input])
    (ofText (respaced (tokenize s))) 0 (Text.withoutMark_eq noMark') rfl nofun
  rw [(drains_tokenize _).eq drains', same]

def commentedText : Text :=
  ['a', '/', '*', '*', '/', '=', '<', '<', '-', 'E', '\n', '$', '{', '1', '.', '.', '#', '}', '\n',
    '}', '/', '/', '\n', 'E']

theorem significant_tokenize_commentedText :
    respaced (tokenize commentedText) =
        ['a', ' ', '=', '<', '<', '-', 'E', '\n', '$', '{', '1', '.', '.', ' ', '\n', '}', '/', '/',
          '\n', 'E'] ∧
      significant (tokenize (respaced (tokenize commentedText))) =
        significant (tokenize commentedText) :=
  ⟨by decide, significant_tokenize_respaced commentedText (by decide) (by decide)⟩

end Lexer

end HclLexis
