import HclLexis.Proofs.Layout
import HclLexis.Proofs.Relocation

/-! Line ends of two characters. A carriage return in front of each line feed of a text without
carriage returns changes the texts of tokens and the offsets, but no kind, line or column. -/

namespace HclLexis

open Text Lexeme Rules

def Location.inLines (here : Location) : Location := { here with offset := 0 }

def Text.crlf (t : Text) : Text := t.flatMap fun c => if c = '\n' then ['\r', '\n'] else [c]

def Scan.crlf (scan : Scan) : Scan := { scan with lexeme := scan.lexeme.crlf }

def Token.crlf (token : Token) : Token := { token with text := token.text.crlf }

namespace Text

@[simp] theorem crlf_feed (t : Text) : crlf ('\n' :: t) = '\r' :: '\n' :: crlf t := rfl

@[simp] theorem crlf_append (s t : Text) : crlf (s ++ t) = crlf s ++ crlf t :=
  List.flatMap_append

theorem crlf_cons {c : Char} (other : c ≠ '\n') (t : Text) : crlf (c :: t) = c :: crlf t := by
  rw [crlf, List.flatMap_cons, if_neg other]
  rfl

@[simp] theorem crlf_eq_nil_iff {t : Text} : crlf t = [] ↔ t = [] := by
  cases t with
  | nil => exact iff_of_true rfl rfl
  | cons c cs =>
    by_cases feed : c = '\n'
    · simp [feed]
    · simp [crlf_cons feed]

theorem crlf_eq_self {t : Text} (inLine : '\n' ∉ t) : crlf t = t := by
  induction t with
  | nil => rfl
  | cons c cs ih =>
    rw [List.mem_cons, not_or] at inLine
    rw [crlf_cons (Ne.symm inLine.1), ih inLine.2]

theorem withoutMark_crlf (t : Text) : withoutMark (crlf t) = crlf (withoutMark t) := by
  cases t with
  | nil => rfl
  | cons c cs =>
    by_cases feed : c = '\n'
    · subst feed
      rfl
    · rw [crlf_cons feed, withoutMark, withoutMark]
      split
      · rfl
      · rw [crlf_cons feed]

theorem withoutMark_suffix (t : Text) : withoutMark t <:+ t := by
  cases t with
  | nil => exact List.suffix_rfl
  | cons c cs =>
    rw [withoutMark]
    split
    · exact List.suffix_cons c cs
    · exact List.suffix_rfl

theorem seenAlike_crlf {t : Text} (noReturn : '\r' ∉ t) : SeenAlike t (crlf t) := by
  induction t with
  | nil => exact .ends
  | cons c cs ih =>
    rw [List.mem_cons, not_or] at noReturn
    by_cases feed : c = '\n'
    · subst feed
      exact .pair _ _
    · have breaks (s : Text) : lineBreak? (c :: s) = none := by
        rw [lineBreak?_cons, if_neg feed, if_neg fun pair => noReturn.1 pair.1.symm]
      rw [crlf_cons feed]
      exact .cons c (by rw [breaks, breaks]) (ih noReturn.2)

theorem head?_crlf_eq_some_iff {c : Char} (other : c ≠ '\n' ∧ c ≠ '\r') (t : Text) :
    (crlf t).head? = some c ↔ t.head? = some c := by
  cases t with
  | nil => exact Iff.rfl
  | cons d ds =>
    by_cases feed : d = '\n'
    · subst feed
      exact iff_of_false (fun same => other.2 (Option.some.inj same).symm)
        fun same => other.1 (Option.some.inj same).symm
    · rw [crlf_cons feed]
      exact Iff.rfl

theorem feed_notMem_takeBefore {stop : Text → Bool} (stops : ∀ s, stop ('\n' :: s)) (t : Text) :
    '\n' ∉ takeBefore stop t := by
  induction t with
  | nil => exact List.not_mem_nil
  | cons c cs ih =>
    rw [takeBefore]
    split
    · exact List.not_mem_nil
    · rename_i goesOn
      rw [List.mem_cons, not_or]
      refine ⟨?_, ih⟩
      rintro rfl
      exact goesOn (stops cs)

theorem takeBefore_commentEnd_crlf (t : Text) :
    takeBefore commentEnd.isPrefixOf (crlf t) = crlf (takeBefore commentEnd.isPrefixOf t) := by
  induction t with
  | nil => rfl
  | cons c cs ih =>
    by_cases feed : c = '\n'
    · subst feed
      have goesOn (s : Text) : commentEnd.isPrefixOf ('\n' :: s) = false := rfl
      have goesOn' (s : Text) : commentEnd.isPrefixOf ('\r' :: s) = false := rfl
      rw [crlf_feed, takeBefore, goesOn', takeBefore, goesOn, takeBefore, goesOn]
      simp [ih]
    · have same : commentEnd.isPrefixOf (c :: crlf cs) ↔ commentEnd.isPrefixOf (c :: cs) := by
        rw [isPrefixOf_commentEnd, isPrefixOf_commentEnd, head?_crlf_eq_some_iff (by decide)]
      rw [crlf_cons feed, takeBefore, takeBefore]
      simp only [same]
      split
      · rfl
      · rw [crlf_cons feed, ih]

end Text

theorem LexError.ofTokens_crlf (tokens : List Token) :
    ofTokens (tokens.map Token.crlf) = ofTokens tokens :=
  List.flatMap_map Token.crlf Token.errors tokens

namespace Location

variable {here here' : Location}

theorem inLines_advance (same : here'.inLines = here.inLines) (c : Char) :
    (here'.advance c).inLines = (here.advance c).inLines := by
  simp only [inLines, mk.injEq] at same
  obtain ⟨-, line, column⟩ := same
  rw [advance, advance]
  split <;> simp [inLines, line, column]

theorem inLines_advanceOver_crlf (same : here'.inLines = here.inLines) (t : Text) :
    (here'.advanceOver t.crlf).inLines = (here.advanceOver t).inLines := by
  induction t generalizing here here' with
  | nil => exact same
  | cons c cs ih =>
    by_cases feed : c = '\n'
    · subst feed
      refine ih ?_
      have step := inLines_advance same '\n'
      simpa [advance, inLines] using step
    · rw [crlf_cons feed]
      exact ih (inLines_advance same c)

end Location

namespace Mode

variable {mode mode' : Mode} {scan : Scan} {tail : Text}

theorem Scans.crlf_of_feed (scans : mode.Scans mode' scan tail) (feed : scan.lexeme = ['\n'])
    (tail' : Text) : mode.Scans mode' scan.crlf tail' := by
  obtain ⟨c, cs, shape, scanned⟩ := scans
  rw [feed] at shape
  cases shape
  refine ⟨'\r', '\n' :: tail', by rw [Scan.crlf, feed]; rfl, ?_⟩
  cases mode with
  | structural | quotedTemplate | interpolation =>
    cases scanned
    rfl
  | heredocTemplate heredoc =>
    -- both lines are empty
    by_cases closes : heredoc.atLineStart && heredoc.closesAt []
    · have closing (cs : Text) : HeredocBody.closingLine? heredoc ('\n' :: cs) = some
          { kind := .heredocClose heredoc.closingIndent, lexeme := [], move := .leave } :=
        if_pos closes
      rw [Mode.scan, HeredocBody.scan, closing] at scanned
      cases scanned
      cases feed
    · have goesOn (cs : Text) : HeredocBody.closingLine? heredoc ('\n' :: cs) = none :=
        if_neg closes
      have goesOn' : HeredocBody.closingLine? heredoc ('\r' :: '\n' :: tail') = none :=
        if_neg closes
      rw [Mode.scan, HeredocBody.scan, goesOn] at scanned
      rw [Mode.scan, HeredocBody.scan, goesOn']
      cases scanned
      rfl

theorem scan_of_blockComment? {rest : Text} (found : blockComment? ('/' :: '*' :: rest) = some scan)
    (reads : mode.readsExpressions) : mode.scan '/' ('*' :: rest) = (mode, scan) := by
  have body := body_scan_of_blockComment? found
  cases mode with
  | structural => rw [Mode.scan, body]
  | interpolation depth =>
    rw [← body]
    rfl
  | quotedTemplate | heredocTemplate => cases reads

theorem blockComment?_crlf {t : Text} (found : blockComment? t = some scan) :
    ∃ rest : Text, t = '/' :: '*' :: rest ∧
      blockComment? ('/' :: '*' :: rest.crlf) = some scan.crlf := by
  obtain ⟨rest, rfl⟩ := exists_of_blockComment? found
  refine ⟨rest, rfl, ?_⟩
  have searched := takeBefore_commentEnd_crlf rest
  obtain ⟨more, split⟩ := takeBefore_isPrefix commentEnd.isPrefixOf rest
  rw [blockComment?] at found ⊢
  rw [searched]
  generalize takeBefore commentEnd.isPrefixOf rest = body at found split
  subst split
  have closes : body.crlf.length < (crlf (body ++ more)).length ↔
      body.length < (body ++ more).length := by
    simp [List.length_pos_iff]
  simp only [closes]
  split at found
  · rename_i closed
    cases found
    rw [if_pos closed]
    simp [Scan.crlf, crlf_cons, commentEnd]
  · rename_i unclosed
    cases found
    rw [if_neg unclosed]
    simp [Scan.crlf, crlf_cons]

theorem Scans.crlf_of_inLine (scans : mode.Scans mode' scan tail) (named : mode.NamesIdentifier)
    (noReturn : '\r' ∉ scan.lexeme ++ tail) (inLine : '\n' ∉ scan.lexeme) :
    mode.Scans mode' scan.crlf tail.crlf := by
  rw [List.mem_append, not_or] at noReturn
  have same : scan.crlf = scan := by rw [Scan.crlf, crlf_eq_self inLine]
  rw [same]
  refine scans.of_seenBehind named ⟨seenAlike_crlf noReturn.2, fun member => ?_⟩ (fun _ => ?_) ?_
  · exact absurd member noReturn.1
  · exact (head?_crlf_eq_some_iff (by decide) tail).mp
  · rintro rfl
    exact noReturn.2 List.mem_cons_self

/-- What a mode scans it scans with line breaks of two characters too. -/
theorem Scans.crlf (scans : mode.Scans mode' scan tail) (named : mode.NamesIdentifier)
    (noReturn : '\r' ∉ scan.lexeme ++ tail) : mode.Scans mode' scan.crlf tail.crlf := by
  have feed {lexeme : Text} (breaks : lineBreak? (scan.lexeme ++ tail) = some lexeme) :
      lexeme = ['\n'] := by
    refine (lineBreak?_eq_some breaks).resolve_right ?_
    rintro rfl
    exact noReturn ((lineBreak?_isPrefix breaks).2.subset List.mem_cons_self)
  have inLine := scans.crlf_of_inLine named noReturn
  cases scans.layout with
  | lineBreak found =>
    obtain ⟨lexeme, breaks, rfl⟩ := Option.map_eq_some_iff.mp found
    exact scans.crlf_of_feed (feed breaks) _
  | stringBreak found =>
    obtain ⟨lexeme, breaks, rfl⟩ := Option.map_eq_some_iff.mp found
    exact scans.crlf_of_feed (feed breaks) _
  | blanks _ _ found =>
    rw [blanks?, Option.ite_none_right_eq_some] at found
    refine inLine ?_
    rw [← Option.some.inj found.2]
    exact feed_notMem_takeBefore (fun _ => rfl) _
  | lineComment _ _ found =>
    rw [lineComment?, Option.ite_none_right_eq_some] at found
    refine inLine ?_
    rw [← Option.some.inj found.2]
    exact feed_notMem_takeBefore (fun _ => rfl) _
  | blockComment reads stays found =>
    obtain ⟨rest, same, found⟩ := blockComment?_crlf found
    refine ⟨'/', '*' :: rest.crlf, ?_, by rw [stays, scan_of_blockComment? found reads]⟩
    rw [Scan.crlf, ← crlf_append, same]
    simp [crlf_cons]
  | word isWord => exact inLine isWord.inLine

end Mode

namespace Lexer

variable {t : Text} {lexer : Lexer} {tokens : List Token}

theorem Drains.exists_crlf (drains : lexer.Drains tokens) (reads : Reads t lexer)
    (noReturn : '\r' ∉ lexer.cursor.rest) (other : Lexer)
    (ahead : other.cursor.rest = lexer.cursor.rest.crlf)
    (location : other.cursor.location.inLines = lexer.cursor.location.inLines)
    (modes : other.modes.relocate .inLines = lexer.modes.relocate .inLines) :
    ∃ tokens', other.Drains tokens' ∧
      tokens'.map (·.relocate .inLines) = (tokens.map Token.crlf).map (·.relocate .inLines) := by
  -- by the calls of the first run, each of which reads one lexeme in both texts
  induction drains generalizing other with
  | @ended lexer ended =>
    rw [ended] at ahead
    refine ⟨_, .ended ahead, ?_⟩
    have unclosed := ModeStack.unclosed_eq_of_relocate modes
    simp [endToken, Token.relocate, Token.crlf, TokenKind.relocate, unclosed, location]
  | @next lexer tokens here others ih =>
    obtain ⟨mode, scan, tail, scans, split, nonempty⟩ := reads.exists_scans here
    have ih := ih reads.pull
    rw [pull_of_scans scans split] at ih ⊢
    rw [split] at noReturn
    rw [split, crlf_append] at ahead
    have scansAgain := scans.crlf reads.named.current noReturn
    rw [← ModeStack.current_eq_of_relocate modes] at scansAgain
    have locationBehind := Location.inLines_advanceOver_crlf location scan.lexeme
    have modesBehind := ModeStack.relocate_step_eq modes mode location scan.move
    obtain ⟨tokens', drains, same⟩ := ih (fun member => noReturn (List.mem_append_right _ member))
      (other.behind mode scan.crlf tail.crlf) rfl locationBehind modesBehind
    refine ⟨_, .of_scans _ scansAgain ahead (by simpa [Scan.crlf] using nonempty) drains, ?_⟩
    rw [List.map_cons, List.map_cons, List.map_cons, same]
    simp [Token.relocate, Token.crlf, Scan.crlf, location, locationBehind]

/-- Kinds, lines, columns and errors are the same with line feeds and with carriage returns in
front of them. -/
theorem tokenize_crlf (s : Text) (noReturn : '\r' ∉ s) :
    (tokenize s.crlf).map (·.relocate .inLines) =
        ((tokenize s).map Token.crlf).map (·.relocate .inLines) ∧
      (LexError.ofTokens (tokenize s.crlf)).map (·.relocate .inLines) =
        (LexError.ofTokens (tokenize s)).map (·.relocate .inLines) := by
  have input : '\r' ∉ (ofText s).cursor.rest :=
    fun member => noReturn ((withoutMark_suffix s).mem member)
  obtain ⟨tokens, drains, same⟩ := (drains_tokenize s).exists_crlf (reads_ofText s) input
    (ofText s.crlf) (withoutMark_crlf s) rfl rfl
  rw [(drains_tokenize _).eq drains]
  refine ⟨same, ?_⟩
  rw [← LexError.ofTokens_relocate, same, LexError.ofTokens_relocate, LexError.ofTokens_crlf]

/-- Lines of a comment, of a string and of a heredoc, and a sequence that is not closed. -/
def brokenLines : Text :=
  ['/', '*', '\n', '*', '/', 'a', '=', '"', '\\', '\n', '"', '\n', '<', '<', '-', 'E', '\n', '\n',
    ' ', '$', '{', '\n']

theorem tokenize_crlf_brokenLines :
    (tokenize brokenLines.crlf).map (·.relocate .inLines) =
        ((tokenize brokenLines).map Token.crlf).map (·.relocate .inLines) ∧
      (LexError.ofTokens (tokenize brokenLines.crlf)).map (·.relocate .inLines) =
        [⟨.invalidEscape, ⟨0, 2, 6⟩⟩, ⟨.newlineInString, ⟨0, 2, 7⟩⟩,
          ⟨.unterminated .heredocTemplate, ⟨0, 4, 1⟩⟩,
          ⟨.unterminated .interpolation, ⟨0, 6, 2⟩⟩] := by
  have inLines := tokenize_crlf brokenLines (by decide)
  exact ⟨inLines.1, inLines.2.trans (by decide)⟩

end Lexer

end HclLexis
