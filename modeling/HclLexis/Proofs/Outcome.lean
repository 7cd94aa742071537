import HclLexis.Rules

/-! All that one scan can come to. An `Outcome` relates the active mode, the mode as the scan leaves
it, and the scan. Later proofs know the rules of a mode by `Mode.scan_outcome` only. -/

namespace HclLexis

namespace TokenKind

theorem isEof_iff {kind : TokenKind} : kind.isEof ↔ ∃ unterminated, kind = eof unterminated := by
  cases kind <;> simp [isEof]

def opens? : TokenKind → Option ModeKind
  | openQuote => some .quotedTemplate
  | templateInterp | templateControl => some .interpolation
  | heredocOpen _ => some .heredocTemplate
  | _ => none

def closes? : TokenKind → Option ModeKind
  | closeQuote => some .quotedTemplate
  | templateSeqEnd => some .interpolation
  | heredocClose _ => some .heredocTemplate
  | _ => none

def isBrace : TokenKind → Bool
  | openBrace | closeBrace => true
  | _ => false

/-- Kinds that stand for text alone: they neither move between modes nor count as braces. -/
def isNeutral (kind : TokenKind) : Bool :=
  !kind.isEof && !kind.isBrace && kind.opens?.isNone && kind.closes?.isNone

end TokenKind

namespace Lexeme

def IsIdentifier (t : Text) : Prop :=
  ∃ c cs, t = c :: cs ∧ isIdentifierStart c ∧ ∀ d ∈ cs, isIdentifierContinue d

theorem IsIdentifier.ne_nil {t : Text} (name : IsIdentifier t) : t ≠ [] := by
  obtain ⟨c, cs, rfl, -, -⟩ := name
  exact List.cons_ne_nil c cs

theorem isIdentifier_identifier {t : Text} (found : identifier t ≠ []) :
    IsIdentifier (identifier t) := by
  cases t with
  | nil => exact absurd rfl found
  | cons c cs =>
    by_cases start : isIdentifierStart c
    · rw [identifier, if_pos start]
      have continued : ∀ d ∈ cs.takeWhile isIdentifierContinue, isIdentifierContinue d :=
        List.all_eq_true.mp List.all_takeWhile
      exact ⟨c, _, rfl, start, continued⟩
    · rw [identifier, if_neg start] at found
      exact absurd rfl found

theorem numberTail_still (mantissa rest : Text) :
    (numberTail mantissa rest).kind.isNeutral ∧ (numberTail mantissa rest).move = .stay := by
  cases rest with
  | nil => exact ⟨rfl, rfl⟩
  | cons marker rest =>
    rw [numberTail]
    split
    · dsimp only
      split <;> exact ⟨rfl, rfl⟩
    · exact ⟨rfl, rfl⟩

theorem number_still (t : Text) : (number t).kind.isNeutral ∧ (number t).move = .stay := by
  rw [number]
  split
  · split
    · exact ⟨rfl, rfl⟩
    · split
      · exact numberTail_still _ _
      · split <;> exact ⟨rfl, rfl⟩
  · exact numberTail_still _ _

theorem operators_neutral : ∀ entry ∈ operators,
    entry.2.isNeutral ∨ entry.2.isBrace ∧ (entry.1 = ['{'] ∨ entry.1 = ['}']) := by
  decide

end Lexeme

def Mode.readsExpressions : Mode → Bool
  | .structural | .interpolation _ => true
  | _ => false

def heredocMarker (stripIndent : Bool) : Text := if stripIndent then ['<', '<', '-'] else ['<', '<']

open Rules Lexeme

/-- The outcome of a scan of the text `t`: the mode before it, the mode that it leaves behind
before its move, and what it found. -/
inductive Outcome (t : Text) : Mode → Mode → Scan → Prop
  | openQuote {mode : Mode} (reads : mode.readsExpressions) :
      Outcome t mode mode ⟨.openQuote, ['"'], .enter .quotedTemplate⟩
  | heredocOpen {mode : Mode} (reads : mode.readsExpressions) (stripIndent : Bool)
      {terminator : Text} (name : IsIdentifier terminator) :
      Outcome t mode mode ⟨.heredocOpen stripIndent, heredocMarker stripIndent ++ terminator,
        .enter (.heredocTemplate { terminator, stripIndent })⟩
  | neutral {mode : Mode} (reads : mode.readsExpressions) {kind : TokenKind} (lexeme : Text)
      (neutral : kind.isNeutral) : Outcome t mode mode ⟨kind, lexeme, .stay⟩
  | bodyBrace {kind : TokenKind} (lexeme : Text) (brace : kind.isBrace) :
      Outcome t .structural .structural ⟨kind, lexeme, .stay⟩
  | openBrace (depth : Nat) :
      Outcome t (.interpolation depth) (.interpolation (depth + 1)) ⟨.openBrace, ['{'], .stay⟩
  | closeBrace (depth : Nat) :
      Outcome t (.interpolation (depth + 1)) (.interpolation depth) ⟨.closeBrace, ['}'], .stay⟩
  | closeSequence (lexeme : Text) :
      Outcome t (.interpolation 0) (.interpolation 0) ⟨.templateSeqEnd, lexeme, .leave⟩
  | closeQuote : Outcome t .quotedTemplate .quotedTemplate ⟨.closeQuote, ['"'], .leave⟩
  | stringSequence {kind : TokenKind} (lexeme : Text) (opens : kind.opens? = some .interpolation) :
      Outcome t .quotedTemplate .quotedTemplate ⟨kind, lexeme, .enter (.interpolation 0)⟩
  | stringText {kind : TokenKind} (lexeme : Text) (neutral : kind.isNeutral) :
      Outcome t .quotedTemplate .quotedTemplate ⟨kind, lexeme, .stay⟩
  | heredocClose {heredoc : Heredoc} (lineStart : heredoc.atLineStart)
      (closes : heredoc.closesAt (Text.line t)) :
      Outcome t (.heredocTemplate heredoc) (.heredocTemplate heredoc)
        ⟨.heredocClose heredoc.closingIndent, Text.line t, .leave⟩
  | heredocLineBreak {heredoc : Heredoc} (lexeme : Text)
      (inside : heredoc.atLineStart → ¬ heredoc.closesAt (Text.line t)) :
      Outcome t (.heredocTemplate heredoc)
        (.heredocTemplate { HeredocBody.enterLine heredoc t with atLineStart := true })
        ⟨.newline, lexeme, .stay⟩
  | heredocSequence {heredoc : Heredoc} {kind : TokenKind} (lexeme : Text)
      (inside : heredoc.atLineStart → ¬ heredoc.closesAt (Text.line t))
      (opens : kind.opens? = some .interpolation) :
      Outcome t (.heredocTemplate heredoc) (.heredocTemplate (HeredocBody.enterLine heredoc t))
        ⟨kind, lexeme, .enter (.interpolation 0)⟩
  | heredocText {heredoc : Heredoc} (lexeme : Text)
      (inside : heredoc.atLineStart → ¬ heredoc.closesAt (Text.line t)) :
      Outcome t (.heredocTemplate heredoc) (.heredocTemplate (HeredocBody.enterLine heredoc t))
        ⟨.templateLiteral, lexeme, .stay⟩

namespace Outcome

theorem ofStill {mode : Mode} (reads : mode.readsExpressions) {c : Char} {cs : Text}
    {kind : TokenKind} (lexeme : Text)
    (braces : mode ≠ .structural → c ≠ '{' ∧ c ≠ '}')
    (still : kind.isNeutral ∨ kind.isBrace ∧ (c = '{' ∨ c = '}')) :
    Outcome (c :: cs) mode mode ⟨kind, lexeme, .stay⟩ := by
  rcases still with neutral | ⟨brace, sign⟩
  · exact .neutral reads lexeme neutral
  · by_cases body : mode = .structural
    · subst body
      exact .bodyBrace lexeme brace
    · rcases sign with rfl | rfl
      · exact absurd rfl (braces body).1
      · exact absurd rfl (braces body).2

variable {mode : Mode} {t : Text} {scan : Scan}

theorem of_heredocOpen? (reads : mode.readsExpressions) (h : heredocOpen? t = some scan) :
    Outcome t mode mode scan := by
  have named (stripIndent : Bool) (rest : Text)
      (h : heredocNamed? (heredocMarker stripIndent) stripIndent rest = some scan) :
      Outcome t mode mode scan := by
    unfold heredocNamed? at h
    dsimp only at h
    split at h
    · rename_i found
      cases h
      simp only [Bool.and_eq_true, Bool.not_eq_true', List.isEmpty_eq_false_iff] at found
      exact .heredocOpen reads stripIndent (isIdentifier_identifier found.1)
    · cases h
  unfold heredocOpen? at h
  split at h
  · exact named true _ h
  · exact named false _ h
  · cases h

theorem of_openQuote? (reads : mode.readsExpressions) (h : Body.openQuote? t = some scan) :
    Outcome t mode mode scan := by
  unfold Body.openQuote? at h
  split at h
  · cases h
    exact .openQuote reads
  · cases h

theorem of_body (reads : mode.readsExpressions) (c : Char) (cs : Text)
    (braces : mode ≠ .structural → c ≠ '{' ∧ c ≠ '}') :
    Outcome (c :: cs) mode mode (Body.scan c cs) := by
  rw [Body.scan]
  cases found : Scan.first? Body.rules (c :: cs) with
  | none => exact .neutral reads [c] rfl
  | some scan =>
    obtain ⟨rule, member, h⟩ := List.exists_of_findSome?_eq_some found
    simp only [Body.rules, List.mem_cons, List.not_mem_nil, or_false] at member
    rcases member with rfl | rfl | rfl | rfl | rfl | rfl | rfl | rfl | rfl
    · exact of_heredocOpen? reads h
    · obtain ⟨lexeme, -, rfl⟩ := Option.map_eq_some_iff.mp h
      exact .neutral reads lexeme rfl
    · rw [blanks?, Option.ite_none_right_eq_some] at h
      cases h.2
      exact .neutral reads _ rfl
    · rw [lineComment?, Option.ite_none_right_eq_some] at h
      cases h.2
      exact .neutral reads _ rfl
    · unfold blockComment? at h
      split at h
      · dsimp only at h
        split at h
        · cases h
          exact .neutral reads _ rfl
        · cases h
          exact .neutral reads _ rfl
      · cases h
    · exact of_openQuote? reads h
    · rw [identifier?, Option.ite_none_left_eq_some] at h
      cases h.2
      exact .neutral reads _ rfl
    · rw [number?, Option.ite_none_right_eq_some] at h
      cases h.2
      have still := number_still (c :: cs)
      generalize number (c :: cs) = scan at still
      obtain ⟨kind, lexeme, move⟩ := scan
      obtain ⟨neutral, rfl⟩ := still
      exact .neutral reads lexeme neutral
    · obtain ⟨entry, sign, rfl⟩ := Option.map_eq_some_iff.mp h
      refine ofStill reads entry.1 braces ?_
      refine (operators_neutral entry (List.mem_of_find?_eq_some sign)).imp id fun brace => ?_
      have head := List.find?_some sign
      rcases brace with ⟨brace, same | same⟩ <;> simp [same] at head
      · exact ⟨brace, .inl head.symm⟩
      · exact ⟨brace, .inr head.symm⟩

theorem of_sequenceOpen? (h : sequenceOpen? t = some scan) :
    ∃ kind lexeme, kind.opens? = some .interpolation ∧
      scan = ⟨kind, lexeme, .enter (.interpolation 0)⟩ := by
  unfold sequenceOpen? at h
  split at h
  · cases h
    exact ⟨_, _, rfl, rfl⟩
  · cases h
    exact ⟨_, _, rfl, rfl⟩
  · cases h

theorem of_sequence (depth : Nat) (c : Char) (cs : Text) :
    Outcome (c :: cs) (.interpolation depth) (.interpolation (Sequence.scan depth c cs).1)
      (Sequence.scan depth c cs).2 := by
  unfold Sequence.scan
  split
  · exact .openBrace depth
  rename_i notOpen
  split
  · cases depth with
    | zero => exact .closeSequence _
    | succ depth => exact .closeBrace depth
  rename_i notClose
  split
  · rename_i tilde
    simp only [Bool.and_eq_true, decide_eq_true_eq] at tilde
    rw [tilde.1.2]
    exact .closeSequence _
  · exact of_body rfl c cs fun _ => ⟨notOpen, notClose⟩

theorem of_string (c : Char) (cs : Text) :
    Outcome (c :: cs) .quotedTemplate .quotedTemplate (QuotedString.scan c cs) := by
  rw [QuotedString.scan]
  cases found : Scan.first? QuotedString.rules (c :: cs) with
  | none => exact .stringText _ rfl
  | some scan =>
    obtain ⟨rule, member, h⟩ := List.exists_of_findSome?_eq_some found
    simp only [QuotedString.rules, List.mem_cons, List.not_mem_nil, or_false] at member
    rcases member with rfl | rfl | rfl | rfl
    · obtain ⟨kind, lexeme, opens, rfl⟩ := of_sequenceOpen? h
      exact .stringSequence lexeme opens
    · unfold QuotedString.closeQuote? at h
      split at h
      · cases h
        exact .closeQuote
      · cases h
    · obtain ⟨lexeme, -, rfl⟩ := Option.map_eq_some_iff.mp h
      exact .stringText lexeme rfl
    · unfold QuotedString.faultyEscape? at h
      split at h
      · split at h
        · cases h
        · cases h
          exact .stringText _ rfl
      · cases h

theorem of_heredoc (heredoc : Heredoc) (c : Char) (cs : Text) :
    Outcome (c :: cs) (.heredocTemplate heredoc)
      (.heredocTemplate (HeredocBody.scan heredoc c cs).1) (HeredocBody.scan heredoc c cs).2 := by
  rw [HeredocBody.scan, HeredocBody.closingLine?]
  by_cases closing : heredoc.atLineStart && heredoc.closesAt (Text.line (c :: cs))
  · rw [if_pos closing]
    rw [Bool.and_eq_true] at closing
    exact .heredocClose closing.1 closing.2
  · rw [if_neg closing]
    rw [Bool.and_eq_true, not_and] at closing
    dsimp only
    rw [HeredocBody.scanLine]
    cases broken : newline? (c :: cs) with
    | some scan =>
      obtain ⟨lexeme, -, rfl⟩ := Option.map_eq_some_iff.mp broken
      exact .heredocLineBreak lexeme closing
    | none =>
      cases opened : sequenceOpen? (c :: cs) with
      | some scan =>
        obtain ⟨kind, lexeme, opens, rfl⟩ := of_sequenceOpen? opened
        exact .heredocSequence lexeme closing opens
      | none => exact .heredocText _ closing

end Outcome

theorem Mode.scan_outcome (mode : Mode) (c : Char) (cs : Text) :
    Outcome (c :: cs) mode (mode.scan c cs).1 (mode.scan c cs).2 := by
  cases mode with
  | structural => exact Outcome.of_body rfl c cs fun other => absurd rfl other
  | quotedTemplate => exact Outcome.of_string c cs
  | heredocTemplate heredoc => exact Outcome.of_heredoc heredoc c cs
  | interpolation depth => exact Outcome.of_sequence depth c cs

theorem Outcome.not_isEof {t : Text} {mode mode' : Mode} {scan : Scan}
    (outcome : Outcome t mode mode' scan) : ¬ scan.kind.isEof := by
  intro isEof
  obtain ⟨unterminated, eof⟩ := TokenKind.isEof_iff.mp isEof
  cases outcome with
  | neutral _ _ neutral => cases eof; cases neutral
  | stringText _ neutral => cases eof; cases neutral
  | bodyBrace _ brace => cases eof; cases brace
  | stringSequence _ opens => cases eof; cases opens
  | heredocSequence _ _ opens => cases eof; cases opens
  | _ => cases eof

end HclLexis
