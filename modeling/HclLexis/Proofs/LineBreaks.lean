import HclLexis.Proofs.ByteSlices
import HclLexis.Proofs.Places
import HclLexis.Proofs.StringUnits

/-! Line breaks are neither hidden nor split. A token with a line feed in it is a line break or a
block comment, every other token starts and stops on one line, and no token starts or stops between
the two characters of a line break. -/

namespace HclLexis

open Lexeme Rules

/-- Kinds that are line breaks: those between tokens, and the error at one in a string. -/
def TokenKind.isLineBreak : TokenKind → Bool
  | newline | error .newlineInString => true
  | _ => false

namespace Text

theorem inLine_of_notMem {piece : Text} (plain : '\n' ∉ piece ∧ '\r' ∉ piece) (tail : Text) :
    InLine piece tail :=
  ⟨plain.1, fun pair => plain.2 (List.mem_of_getLast? pair.1)⟩

theorem inLine_line {t tail : Text} (split : t.line ++ tail = t) : InLine t.line tail := by
  refine ⟨feed_notMem_line t, ?_⟩
  rintro ⟨last, feed⟩
  obtain ⟨whole, rest, same, -, -, trimmed⟩ := startsWithLine_iff.mpr (rfl : t.line = t.line)
  rcases trimmed with trimmed | ⟨-, noReturn⟩
  · have behind : tail = '\r' :: rest := by
      rw [trimmed, List.append_assoc] at same
      exact List.append_cancel_left (split.trans same)
    rw [behind] at feed
    cases feed
  · exact noReturn last

end Text

namespace Lexeme

open Text

theorem IsIdentifier.notMem_lineBreak {name : Text} (isIdentifier : IsIdentifier name) :
    '\n' ∉ name ∧ '\r' ∉ name :=
  ⟨fun member => isIdentifier.ne_of_mem member '\n' (by decide) rfl,
    fun member => isIdentifier.ne_of_mem member '\r' (by decide) rfl⟩

theorem Escape.notMem_lineBreak {rest : Text} {escape : Escape}
    (read : Escape.read rest = escape) : '\n' ∉ escape.lexeme ∧ '\r' ∉ escape.lexeme := by
  rw [← read]
  exact ⟨Escape.notMem_read (.inl rfl) rest, Escape.notMem_read (.inr rfl) rest⟩

def UnitsStayInLine (unit? : Char → Text → Option Nat) : Prop :=
  ∀ c cs pending, unit? c cs = some pending → InLine (c :: cs.take pending) (cs.drop pending)

theorem unitsStayInLine_sharedUnit? : UnitsStayInLine sharedUnit? := by
  intro c cs pending unit
  have noBreak := (starts_of_sharedUnit? unit).1
  rw [inLine_cons_iff, List.take_append_drop]
  refine ⟨noBreak, ?_⟩
  rw [sharedUnit?, Option.ite_none_left_eq_some] at unit
  replace unit := unit.2
  split at unit
  · rename_i doubled
    cases unit
    obtain ⟨sign, rest, isSign, shape⟩ := (isDoubledOpen_iff_exists _).mp doubled
    cases shape
    rcases isSign with rfl | rfl <;> exact inLine_of_notMem (by simp) _
  · cases unit
    exact inLine_nil _

theorem IsUnit.inLine {unit tail : Text} (isUnit : IsUnit unit tail) : unit.InLine tail := by
  cases isUnit with
  | escape isEscape =>
    obtain ⟨piece, rfl, read⟩ := isEscape.read_append []
    exact inLine_of_notMem (Escape.notMem_lineBreak read) tail
  | doubled isSign =>
    rcases isSign with rfl | rfl <;> exact inLine_of_notMem (by decide) tail
  | single _ _ inLine =>
    exact inLine_cons_iff.mpr ⟨lineBreak?_eq_none_iff.mpr inLine, inLine_nil tail⟩

theorem unitsStayInLine_unit? : UnitsStayInLine QuotedString.unit? :=
  fun _ _ _ unit => (isUnit_of_unit? unit).2.inLine

theorem inLine_literalRun {unit? : Char → Text → Option Nat} (units : UnitsStayInLine unit?)
    {pending : Nat} {t tail : Text} (split : literalRun unit? pending t ++ tail = t)
    (inLine : InLine (t.take pending) (t.drop pending)) :
    InLine (literalRun unit? pending t) tail := by
  -- what is left of a unit is on its line, and the run goes on from there
  have step {c : Char} {cs run : Text} {pending : Nat} (split : run ++ tail = cs)
      (whole : InLine (c :: cs.take pending) (cs.drop pending))
      (others : InLine (cs.take pending) (cs.drop pending) → InLine run tail) :
      InLine (c :: run) tail := by
    rw [inLine_cons_iff, List.take_append_drop, ← split] at whole
    exact inLine_cons_iff.mpr ⟨whole.1, others (by rw [← split]; exact whole.2)⟩
  fun_induction literalRun unit? pending t with
  | case1 => exact inLine_nil tail
  | case2 pending c cs ih =>
    have rest := List.tail_eq_of_cons_eq split
    exact step rest inLine (ih rest)
  | case3 => exact inLine_nil tail
  | case4 c cs pending unit ih =>
    have rest := List.tail_eq_of_cons_eq split
    exact step rest (units c cs pending unit) (ih rest)

end Lexeme

open Text

/-- How a lexeme meets the line breaks of its text: it is one, or a comment that goes on over lines,
or it is on one line and leaves the line break behind it whole. -/
inductive MeetsLineBreaks : TokenKind → Text → Text → Prop
  | lineBreak {kind : TokenKind} (isBreak : kind.isLineBreak) {lexeme : Text}
      (spelled : lexeme = ['\n'] ∨ lexeme = ['\r', '\n']) (tail : Text) :
      MeetsLineBreaks kind lexeme tail
  | blockComment (body tail : Text) :
      MeetsLineBreaks .comment (['/', '*'] ++ body ++ ['*', '/']) tail
  | unclosedComment (lexeme : Text) : MeetsLineBreaks (.error .unterminatedComment) lexeme []
  | inLine {kind : TokenKind} (notBreak : kind.isLineBreak = false) {lexeme tail : Text}
      (inLine : lexeme.InLine tail) : MeetsLineBreaks kind lexeme tail

namespace MeetsLineBreaks

variable {kind : TokenKind} {lexeme tail : Text}

theorem spelled (meets : MeetsLineBreaks kind lexeme tail) (isBreak : kind.isLineBreak) :
    lexeme = ['\n'] ∨ lexeme = ['\r', '\n'] := by
  cases meets with
  | lineBreak _ spelled => exact spelled
  | blockComment | unclosedComment => cases isBreak
  | inLine notBreak =>
    rw [notBreak] at isBreak
    cases isBreak

theorem noSplit (meets : MeetsLineBreaks kind lexeme tail) :
    ¬ (lexeme.getLast? = some '\r' ∧ tail.head? = some '\n') := by
  cases meets with
  | lineBreak _ spelled => rcases spelled with rfl | rfl <;> simp
  | blockComment =>
    rintro ⟨last, -⟩
    rw [List.getLast?_append] at last
    cases last
  | unclosedComment => nofun
  | inLine _ inLine => exact inLine.2

theorem ofPlain (notBreak : kind.isLineBreak = false) (plain : '\n' ∉ lexeme ∧ '\r' ∉ lexeme)
    (tail : Text) : MeetsLineBreaks kind lexeme tail :=
  .inLine notBreak (inLine_of_notMem plain tail)

end MeetsLineBreaks

theorem IsLexeme.meetsLineBreaks {kind : TokenKind} {lexeme tail : Text}
    (isLexeme : IsLexeme kind lexeme tail) : MeetsLineBreaks kind lexeme tail := by
  cases isLexeme with
  | sign spelled =>
    have plain : ∀ entry ∈ operators, entry.2.isLineBreak = false ∧
        '\n' ∉ entry.1 ∧ '\r' ∉ entry.1 := by decide
    obtain ⟨notBreak, plain⟩ := plain _ (mem_operators_iff.mpr spelled)
    exact .ofPlain notBreak plain tail
  | lineBreak spelled => exact .lineBreak rfl spelled tail
  | blanks _ _ inLine => exact .inLine rfl inLine
  | lineComment isMark inLine => exact .inLine rfl (inLine_mark_append isMark inLine)
  | @blockComment body => exact .blockComment body tail
  | quote => exact .ofPlain rfl (by decide) tail
  | identifier name => exact .ofPlain rfl name.notMem_lineBreak tail
  | heredocOpen stripIndent name =>
    obtain ⟨noFeed, noReturn⟩ := name.notMem_lineBreak
    refine .ofPlain rfl ?_ tail
    cases stripIndent <;> simp [heredocMarker, noFeed, noReturn]

theorem meetsLineBreaks_number (t tail : Text) :
    MeetsLineBreaks (number t).kind (number t).lexeme tail := by
  have plain : '\n' ∉ (number t).lexeme ∧ '\r' ∉ (number t).lexeme :=
    ⟨notMem_number rfl (by decide) t, notMem_number rfl (by decide) t⟩
  rcases number_kind t with kind | kind <;> rw [kind] <;> exact .ofPlain rfl plain tail

section

variable {c : Char} {cs tail : Text}

theorem meetsLineBreaks_body (split : (Body.scan c cs).lexeme ++ tail = c :: cs) :
    MeetsLineBreaks (Body.scan c cs).kind (Body.scan c cs).lexeme tail := by
  by_cases digit : c.isDigit
  · rw [body_scan_of_isDigit digit]
    exact meetsLineBreaks_number (c :: cs) tail
  by_cases unclosed : IsUnclosedComment (c :: cs)
  · rw [body_scan_of_isUnclosedComment unclosed] at split ⊢
    obtain rfl : tail = [] := List.append_right_eq_self.mp split
    exact .unclosedComment (c :: cs)
  rw [Body.scan] at split ⊢
  cases found : Scan.first? Body.rules (c :: cs) with
  | none =>
    have noBreak : lineBreak? (c :: cs) = none := Option.map_eq_none_iff.mp
      (Scan.first?_eq_none.mp found newline? (by simp [Body.rules]))
    rw [found] at split
    obtain ⟨-, rfl⟩ := List.cons_eq_cons.mp split
    exact .inLine rfl (inLine_cons_iff.mpr ⟨noBreak, inLine_nil _⟩)
  | some scan =>
    rw [found, Option.getD_some] at split
    obtain ⟨rule, member, read⟩ := List.exists_of_findSome?_eq_some found
    obtain ⟨rest, shape, isLexeme⟩ := startsWith_of_rule digit unclosed member read
    rw [← split, List.append_cancel_left_eq] at shape
    subst shape
    exact isLexeme.meetsLineBreaks

theorem meetsLineBreaks_sequence {depth : Nat}
    (split : (Sequence.scan depth c cs).2.lexeme ++ tail = c :: cs) :
    MeetsLineBreaks (Sequence.scan depth c cs).2.kind (Sequence.scan depth c cs).2.lexeme tail := by
  have forms := sequence_scan_forms depth c cs
  generalize Sequence.scan depth c cs = found at forms split
  cases forms with
  | openBrace | closeBrace => exact .ofPlain rfl (by simp) tail
  | close isEnd =>
    rcases isEnd with rfl | rfl <;> exact .ofPlain rfl (by simp [Sequence.close]) tail
  | body => exact meetsLineBreaks_body split

theorem meetsLineBreaks_sequenceOpen {t : Text} {scan : Scan} (found : sequenceOpen? t = some scan)
    (tail : Text) : MeetsLineBreaks scan.kind scan.lexeme tail := by
  have strips (rest : Text) : '\n' ∉ stripMarker rest ∧ '\r' ∉ stripMarker rest := by
    rw [stripMarker_eq]
    split <;> decide
  unfold sequenceOpen? at found
  split at found <;> cases found
  · exact .ofPlain rfl (by simp [strips]) tail
  · exact .ofPlain rfl (by simp [strips]) tail

theorem meetsLineBreaks_literal {unit? : Char → Text → Option Nat} (units : UnitsStayInLine unit?)
    {t : Text} (split : (literal unit? t).lexeme ++ tail = t) :
    MeetsLineBreaks (literal unit? t).kind (literal unit? t).lexeme tail :=
  .inLine rfl (inLine_literalRun units split (inLine_nil t))

theorem meetsLineBreaks_string (split : (QuotedString.scan c cs).lexeme ++ tail = c :: cs) :
    MeetsLineBreaks (QuotedString.scan c cs).kind (QuotedString.scan c cs).lexeme tail := by
  by_cases quote : c = '"'
  · subst quote
    have plain : '\n' ∉ ['"'] ∧ '\r' ∉ ['"'] := by decide
    exact .ofPlain rfl plain tail
  rw [string_scan_eq quote] at split ⊢
  cases opened : sequenceOpen? (c :: cs) with
  | some scan => exact meetsLineBreaks_sequenceOpen opened tail
  | none =>
    cases broken : QuotedString.lineBreak? (c :: cs) with
    | some scan =>
      obtain ⟨lexeme, breaks, rfl⟩ := Option.map_eq_some_iff.mp broken
      exact .lineBreak rfl (lineBreak?_eq_some breaks) tail
    | none =>
      cases faulty : QuotedString.faultyEscape? (c :: cs) with
      | some scan =>
        obtain ⟨rest, lexeme, -, read, rfl⟩ := exists_of_faultyEscape? faulty
        exact .ofPlain rfl (Escape.notMem_lineBreak read) tail
      | none =>
        rw [opened, broken, faulty] at split
        exact meetsLineBreaks_literal unitsStayInLine_unit? split

theorem meetsLineBreaks_heredoc {heredoc : Heredoc}
    (split : (HeredocBody.scan heredoc c cs).2.lexeme ++ tail = c :: cs) :
    MeetsLineBreaks (HeredocBody.scan heredoc c cs).2.kind
      (HeredocBody.scan heredoc c cs).2.lexeme tail := by
  rw [HeredocBody.scan] at split ⊢
  cases closing : HeredocBody.closingLine? heredoc (c :: cs) with
  | some scan =>
    rw [closing] at split
    rw [HeredocBody.closingLine?, Option.ite_none_right_eq_some] at closing
    cases closing.2
    exact .inLine rfl (inLine_line split)
  | none =>
    rw [closing, HeredocBody.scanLine] at split
    dsimp only
    rw [HeredocBody.scanLine]
    cases broken : newline? (c :: cs) with
    | some scan =>
      obtain ⟨lexeme, breaks, rfl⟩ := Option.map_eq_some_iff.mp broken
      exact .lineBreak rfl (lineBreak?_eq_some breaks) tail
    | none =>
      cases opened : sequenceOpen? (c :: cs) with
      | some scan => exact meetsLineBreaks_sequenceOpen opened tail
      | none =>
        rw [broken, opened] at split
        exact meetsLineBreaks_literal unitsStayInLine_sharedUnit? split

end

theorem Mode.Scans.meetsLineBreaks {mode mode' : Mode} {scan : Scan} {tail : Text}
    (scans : mode.Scans mode' scan tail) : MeetsLineBreaks scan.kind scan.lexeme tail := by
  obtain ⟨c, cs, split, scanned⟩ := scans
  obtain rfl : (mode.scan c cs).2 = scan := congrArg Prod.snd scanned
  cases mode with
  | structural => exact meetsLineBreaks_body split
  | quotedTemplate => exact meetsLineBreaks_string split
  | heredocTemplate heredoc => exact meetsLineBreaks_heredoc split
  | interpolation depth => exact meetsLineBreaks_sequence split

namespace Token

def holdsLineBreaks (token : Token) : Bool :=
  match token.kind with
  | .newline | .error .newlineInString | .error .unterminatedComment => true
  | .comment => ['/', '*'].isPrefixOf token.text
  | _ => false

theorem holdsLineBreaks_of_mem {token : Token} {tail : Text}
    (meets : MeetsLineBreaks token.kind token.text tail) (feed : '\n' ∈ token.text) :
    token.holdsLineBreaks := by
  obtain ⟨kind, text, start, stop⟩ := token
  cases meets with
  | lineBreak isBreak =>
    rw [TokenKind.isLineBreak.eq_def] at isBreak
    dsimp only at isBreak
    split at isBreak
    · rfl
    · rfl
    · cases isBreak
  | blockComment | unclosedComment => rfl
  | inLine _ inLine => exact absurd feed inLine.1

end Token

theorem Location.line_advanceOver {t : Text} (inLine : '\n' ∉ t) (here : Location) :
    (here.advanceOver t).line = here.line := by
  induction t generalizing here with
  | nil => rfl
  | cons c cs ih =>
    rw [List.mem_cons, not_or] at inLine
    rw [advanceOver, List.foldl_cons, ← advanceOver, ih inLine.2, advance,
      if_neg (Ne.symm inLine.1)]

namespace Lexer

variable {t before behind : Text} {lexer : Lexer} {tokens : List Token}

theorem Reads.meetsLineBreaks (reads : Reads t lexer) :
    MeetsLineBreaks lexer.pull.1.kind lexer.pull.1.text lexer.pull.2.cursor.rest := by
  by_cases ended : lexer.cursor.rest = []
  · rw [pull_of_ended ended]
    exact .inLine rfl (Text.inLine_nil _)
  · obtain ⟨mode, scan, tail, scans, split, -⟩ := reads.exists_scans ended
    rw [pull_of_scans scans split]
    exact scans.meetsLineBreaks

theorem Turn.stop_eq_advanceOver {next : Lexer} {token : Token} (turn : Turn lexer token next) :
    token.stop = token.start.advanceOver token.text := by
  cases turn <;> rfl

theorem Drains.exists_mem (drains : lexer.Drains tokens) (reads : Reads t lexer) {c : Char}
    (ahead : lexer.cursor.rest = before ++ c :: behind) :
    ∃ token ∈ tokens, ∃ inside more, token.text = inside ++ c :: more ∧
      token.start.offset + Text.byteSize inside =
        lexer.cursor.location.offset + Text.byteSize before := by
  induction drains generalizing before with
  | ended ended =>
    rw [ended] at ahead
    exact absurd ahead.symm (by simp)
  | @next lexer tokens _ _ ih =>
    have later (before' : Text) (rest : lexer.pull.2.cursor.rest = before' ++ c :: behind)
        (split : before = lexer.pull.1.text ++ before') :
        ∃ token ∈ lexer.pull.1 :: tokens, ∃ inside more, token.text = inside ++ c :: more ∧
          token.start.offset + Text.byteSize inside =
            lexer.cursor.location.offset + Text.byteSize before := by
      obtain ⟨token, member, inside, more, text, offset⟩ := ih reads.pull rest
      refine ⟨token, .tail _ member, inside, more, text, ?_⟩
      rw [offset, ← reads.turn.stop, reads.turn.stop_eq_advanceOver, reads.turn.start,
        Location.offset_advanceOver, split, Text.byteSize_append, Nat.add_assoc]
    rw [reads.turn.rest, List.append_eq_append_iff] at ahead
    -- the first token ends in front of the character, or has it inside
    rcases ahead with ⟨before', split, rest⟩ | ⟨more, text, rest⟩
    · exact later before' rest split
    · cases more with
      | nil =>
        rw [List.append_nil] at text
        exact later [] rest.symm (by rw [text, List.append_nil])
      | cons d more =>
        obtain ⟨rfl, -⟩ := List.cons_eq_cons.mp rest
        exact ⟨_, List.mem_cons_self, before, more, text, by rw [reads.turn.start]⟩

def BetweenLineBreaks (lexer : Lexer) : Prop :=
  ¬ (lexer.cursor.consumed.head? = some '\r' ∧ lexer.cursor.rest.head? = some '\n')

theorem BetweenLineBreaks.pull (between : lexer.BetweenLineBreaks) (reads : Reads t lexer) :
    lexer.pull.2.BetweenLineBreaks := by
  by_cases ended : lexer.cursor.rest = []
  · rwa [pull_of_ended ended]
  · have nonempty := reads.text_ne_nil ended
    rw [BetweenLineBreaks, reads.turn.consumed, List.head?_append_of_ne_nil, List.head?_reverse]
    · exact reads.meetsLineBreaks.noSplit
    · simpa using nonempty

theorem betweenLineBreaks_skip (t : Text) (n : Nat) : ((ofText t).skip n).BetweenLineBreaks := by
  induction n with
  | zero => nofun
  | succ n ih =>
    rw [skip_succ]
    exact ih.pull ((reads_ofText t).skip n)

theorem BetweenLineBreaks.offset_ne (between : lexer.BetweenLineBreaks) (reads : Reads t lexer)
    (split : Text.withoutMark t = before ++ '\r' :: '\n' :: behind) :
    lexer.cursor.location.offset ≠ Text.byteSize (before ++ ['\r']) := by
  intro same
  have input := reads.input
  rw [split, List.append_cons, Cursor.input] at input
  rw [reads.location, Location.offset_advanceOver, Location.offset_start, Nat.zero_add] at same
  obtain ⟨consumed, rest⟩ := Text.append_inj_of_byteSize input same
  refine between ⟨?_, by rw [rest]; rfl⟩
  rw [← List.getLast?_reverse, consumed, List.getLast?_concat]

end Lexer

open Lexer

/-- Line breaks are neither hidden nor split. Each line feed lies in a token that may hold one, line
breaks are tokens of just their characters, any other token is on one line, and no token starts or
stops between a carriage return and the line feed behind it. -/
theorem lineBreaks_whole (t : Text) :
    (∀ before behind, Text.withoutMark t = before ++ '\n' :: behind →
      ∃ token ∈ tokenize t, token.holdsLineBreaks ∧
        ∃ inside more, token.text = inside ++ '\n' :: more ∧
          token.start.offset + Text.byteSize inside = Text.byteSize before) ∧
    (∀ token ∈ tokenize t, token.kind.isLineBreak →
      token.text = ['\n'] ∨ token.text = ['\r', '\n']) ∧
    (∀ token ∈ tokenize t, token.holdsLineBreaks = false → token.stop.line = token.start.line) ∧
    ∀ before behind, Text.withoutMark t = before ++ '\r' :: '\n' :: behind →
      ∀ token ∈ tokenize t, token.start.offset ≠ Text.byteSize (before ++ ['\r']) ∧
        token.stop.offset ≠ Text.byteSize (before ++ ['\r']) := by
  have reads := reads_ofText t
  refine ⟨fun before behind split => ?_, fun token member isBreak => ?_,
    fun token member plain => ?_, fun before behind split token member => ?_⟩
  · obtain ⟨token, member, inside, more, text, offset⟩ :=
      (drains_tokenize t).exists_mem reads split
    obtain ⟨n, rfl⟩ := exists_token_of_mem member
    have feed : '\n' ∈ ((ofText t).token n).text := by simp [text]
    have holds := Token.holdsLineBreaks_of_mem (reads.skip n).meetsLineBreaks feed
    exact ⟨_, member, holds, inside, more, text, offset.trans (Nat.zero_add _)⟩
  · obtain ⟨n, rfl⟩ := exists_token_of_mem member
    exact (reads.skip n).meetsLineBreaks.spelled isBreak
  · obtain ⟨n, rfl⟩ := exists_token_of_mem member
    rw [(reads.turn_token n).stop_eq_advanceOver]
    refine Location.line_advanceOver (fun feed => ?_) _
    have holds := Token.holdsLineBreaks_of_mem (reads.skip n).meetsLineBreaks feed
    exact Bool.false_ne_true (plain.symm.trans holds)
  · obtain ⟨n, rfl⟩ := exists_token_of_mem member
    have turn := reads.turn_token n
    rw [turn.start, turn.stop]
    exact ⟨(betweenLineBreaks_skip t n).offset_ne (reads.skip n) split,
      (betweenLineBreaks_skip t (n + 1)).offset_ne (reads.skip (n + 1)) split⟩

end HclLexis
