import HclLexis.Proofs.ByteSlices
import HclLexis.Proofs.HeredocPairs
import HclLexis.Proofs.Layout
import HclLexis.Proofs.Places

/-! The terminator at both ends of a heredoc. An opener and its closing line tell the same name, and
the opener ends its line. So does the closing line, unless a carriage return alone ends the text
behind it: the line is compared without that, and closes the heredoc in the middle of its line. -/

namespace HclLexis

open Lexeme

def TokenKind.bordersHeredoc : TokenKind → Bool
  | heredocOpen _ | heredocClose _ => true
  | _ => false

theorem Token.terminator?_eq_none {token : Token} (other : token.kind.bordersHeredoc = false) :
    token.terminator? = none := by
  obtain ⟨kind, text, start, stop⟩ := token
  cases kind with
  | heredocOpen | heredocClose => cases other
  | _ => rfl

namespace Lexer

variable {t : Text} {lexer next : Lexer} {token : Token} {heredoc : Heredoc}

theorem Reads.named_of_frames (reads : Reads t lexer) {openedAt : Location} {below : List Frame}
    (frames : lexer.modes.frames = ⟨.heredocTemplate heredoc, openedAt⟩ :: below) :
    IsIdentifier heredoc.terminator := by
  have named := reads.named.current
  rwa [ModeStack.current, frames] at named

theorem ReadsClosingLine.terminator? {below : List Frame}
    (closing : ReadsClosingLine lexer next token heredoc below)
    (named : IsIdentifier heredoc.terminator) : token.terminator? = some heredoc.terminator := by
  have isTerminator := closing.isTerminator
  rw [Heredoc.closesAt, beq_iff_eq, ← closing.text] at isTerminator
  have bare : token.text.dropWhile Text.isIndent = heredoc.terminator := by
    split at isTerminator
    · exact isTerminator
    · rw [isTerminator, named.dropWhile_isIndent]
  rw [Token.terminator?, closing.kind]
  exact congrArg some bare

theorem ReadsClosingLine.text_eq {below : List Frame}
    (closing : ReadsClosingLine lexer next token heredoc below) :
    if heredoc.stripIndent then
      ∃ indent, (∀ c ∈ indent, Text.isIndent c) ∧ token.text = indent ++ heredoc.terminator
    else token.text = heredoc.terminator := by
  have isTerminator := closing.isTerminator
  rw [Heredoc.closesAt, beq_iff_eq, ← closing.text] at isTerminator
  split at isTerminator
  · rename_i strips
    rw [if_pos strips]
    refine ⟨token.text.takeWhile Text.isIndent, List.all_eq_true.mp List.all_takeWhile, ?_⟩
    rw [← isTerminator, List.takeWhile_append_dropWhile]
  · rename_i keeps
    rw [if_neg keeps]
    exact isTerminator

theorem Reads.exists_terminator? (reads : Reads t lexer)
    (borders : lexer.pull.1.kind.bordersHeredoc) :
    ∃ name, lexer.pull.1.terminator? = some name ∧ IsIdentifier name := by
  have turn := reads.turn
  cases kind : lexer.pull.1.kind with
  | heredocOpen stripIndent =>
    obtain ⟨terminator, name, pushed⟩ := turn.of_heredocOpen kind
    exact ⟨terminator, name, reads.pull.named_of_frames (congrArg ModeStack.frames pushed)⟩
  | heredocClose minIndent =>
    obtain ⟨heredoc, openedAt, below, frames, closing⟩ := turn.of_heredocClose reads kind
    have named := reads.named_of_frames frames
    exact ⟨heredoc.terminator, closing.terminator? named, named⟩
  | _ => rw [kind] at borders; cases borders

/-- The tokens at both ends of a heredoc tell its terminator and no others do, and a closing line is
the name that the opener it belongs to tells. -/
theorem terminator?_agrees (t : Text) :
    (∀ token ∈ tokenize t,
      if token.kind.bordersHeredoc then ∃ name, token.terminator? = some name ∧ IsIdentifier name
      else token.terminator? = none) ∧
    ∀ n minIndent closer, (tokenize t)[n]? = some closer → closer.kind = .heredocClose minIndent →
      ∃ i opener stripIndent name,
        heredocOpener? (tokenize t) n = some i ∧ (tokenize t)[i]? = some opener ∧
        opener.kind = .heredocOpen stripIndent ∧ opener.terminator? = some name ∧
        closer.terminator? = some name ∧
        if stripIndent then
          ∃ indent, (∀ c ∈ indent, Text.isIndent c) ∧ closer.text = indent ++ name
        else closer.text = name := by
  have reads := reads_ofText t
  constructor
  · intro token member
    obtain ⟨n, rfl⟩ := exists_token_of_mem member
    split
    · rename_i borders
      exact (reads.skip n).exists_terminator? borders
    · rename_i other
      exact Token.terminator?_eq_none (Bool.eq_false_iff.mpr other)
  · intro n minIndent closer found kind
    have closes : (tokenize t)[n]?.map Token.kind = some (.heredocClose minIndent) := by
      rw [found, Option.map_some, kind]
    obtain ⟨i, heredoc, place, less, within, closed⟩ := exists_isClosedBy closes
    rw [getElem?_tokenize within, Option.some_inj] at found
    subst found
    have named := (reads.skip n).named_of_frames closed.holds.frames
    exact ⟨i, (ofText t).token i, heredoc.stripIndent, heredoc.terminator, place,
      getElem?_tokenize (Nat.lt_trans less within), closed.opener, closed.name,
      closed.closing.terminator? named, closed.closing.text_eq⟩

example : heredocOpener? (tokenize nestedHeredocs) 5 = some 3 ∧
    heredocOpener? (tokenize nestedHeredocs) 9 = some 0 := by
  decide

end Lexer

namespace Text

/-- A text where a line ends: there is nothing more, or a line break. -/
def EndsLine (t : Text) : Prop := t = [] ∨ t.atLineBreak

instance (t : Text) : Decidable t.EndsLine := inferInstanceAs (Decidable (_ ∨ _))

theorem endsLine_iff_of_line {t tail : Text} (split : t = t.line ++ tail) :
    tail.EndsLine ↔ tail ≠ ['\r'] := by
  obtain ⟨whole, rest, shape, -, ends, trimmed⟩ := startsWithLine_iff.mpr (Eq.refl t.line)
  have same := split.symm.trans shape
  have tails : tail = '\r' :: rest ∨ tail = rest := by
    rcases trimmed with carriage | ⟨bare, -⟩
    · rw [carriage, List.append_assoc, List.append_cancel_left_eq] at same
      exact .inl same
    · rw [bare, List.append_cancel_left_eq] at same
      exact .inr same
  rcases ends with rfl | feed
  · rcases tails with rfl | rfl <;> decide
  · obtain ⟨more, rfl⟩ := List.head?_eq_some_iff.mp feed
    rcases tails with rfl | rfl <;> exact iff_of_true (.inr rfl) (by simp)

end Text

section

variable {t tail : Text} {scan : Scan} {stripIndent : Bool}

theorem endsLine_of_heredocNamed? {marker rest : Text}
    (found : heredocNamed? marker stripIndent rest = some scan)
    (split : marker ++ rest = scan.lexeme ++ tail) : tail.EndsLine := by
  rw [heredocNamed?, Option.ite_none_right_eq_some] at found
  obtain ⟨ends, same⟩ := found
  cases same
  rw [List.append_assoc, List.append_cancel_left_eq] at split
  have behind := congrArg (List.drop (identifier rest).length) split
  rw [List.drop_left] at behind
  rw [behind, Bool.and_eq_true, Bool.or_eq_true, List.isEmpty_iff] at ends
  exact ends.2

theorem endsLine_of_heredocOpen? (found : heredocOpen? t = some scan)
    (split : t = scan.lexeme ++ tail) : tail.EndsLine := by
  unfold heredocOpen? at found
  split at found
  · exact endsLine_of_heredocNamed? found split
  · exact endsLine_of_heredocNamed? found split
  · cases found

open Rules

theorem heredocOpen?_of_rule {rule : Text → Option Scan} (member : rule ∈ Body.rules)
    (found : rule t = some scan) (opener : scan.kind = .heredocOpen stripIndent) :
    heredocOpen? t = some scan := by
  have differ {kind : TokenKind} (same : scan.kind = kind) (other : kind.bordersHeredoc = false) :
      heredocOpen? t = some scan := by
    rw [← same, opener] at other
    cases other
  simp only [Body.rules, List.mem_cons, List.not_mem_nil, or_false] at member
  rcases member with rfl | rfl | rfl | rfl | rfl | rfl | rfl | rfl | rfl
  · exact found
  · exact differ (newline?_kind found) rfl
  · exact differ (blanks?_kind found) rfl
  · exact differ (lineComment?_kind found) rfl
  · rcases blockComment?_kind found with kind | kind
    · exact differ kind rfl
    · exact differ kind rfl
  · unfold Body.openQuote? at found
    split at found <;> cases found
    exact differ rfl rfl
  · rw [identifier?, Option.ite_none_left_eq_some] at found
    cases found.2
    exact differ rfl rfl
  · unfold number? at found
    split at found
    · cases found
    · rw [Option.ite_none_right_eq_some, Option.some_inj] at found
      obtain ⟨-, rfl⟩ := found
      rcases number_kind _ with kind | kind
      · exact differ kind rfl
      · exact differ kind rfl
  · obtain ⟨entry, sign, rfl⟩ := Option.map_eq_some_iff.mp found
    have plain : ∀ entry ∈ operators, entry.2.bordersHeredoc = false := by decide
    exact differ rfl (plain entry (List.mem_of_find?_eq_some sign))

theorem heredocOpen?_of_body {c : Char} {cs : Text}
    (opener : (Body.scan c cs).kind = .heredocOpen stripIndent) :
    heredocOpen? (c :: cs) = some (Body.scan c cs) := by
  rw [Body.scan] at opener ⊢
  cases found : Scan.first? Body.rules (c :: cs) with
  | none =>
    rw [found] at opener
    cases opener
  | some scan =>
    rw [found, Option.getD_some] at opener
    obtain ⟨rule, member, same⟩ := List.exists_of_findSome?_eq_some found
    exact heredocOpen?_of_rule member same opener

theorem sequence_scan_eq_body {depth : Nat} {c : Char} {cs : Text}
    (noBrace : (Sequence.scan depth c cs).2.kind.isBrace = false)
    (noEnd : (Sequence.scan depth c cs).2.kind ≠ .templateSeqEnd) :
    Sequence.scan depth c cs = (depth, Body.scan c cs) := by
  rw [Sequence.scan.eq_def] at noBrace noEnd ⊢
  by_cases opens : c = '{'
  · rw [if_pos opens] at noBrace
    cases noBrace
  rw [if_neg opens] at noBrace noEnd ⊢
  by_cases closes : c = '}'
  · rw [if_pos closes] at noBrace noEnd
    cases depth with
    | zero => exact absurd rfl noEnd
    | succ depth => cases noBrace
  rw [if_neg closes] at noEnd ⊢
  split at noEnd
  · exact absurd rfl noEnd
  rename_i noTilde
  rw [if_neg noTilde]

theorem heredocOpen?_of_sequence {depth : Nat} {c : Char} {cs : Text}
    (opener : (Sequence.scan depth c cs).2.kind = .heredocOpen stripIndent) :
    heredocOpen? (c :: cs) = some (Sequence.scan depth c cs).2 := by
  have body := sequence_scan_eq_body (by rw [opener]; rfl) (by simp [opener])
  rw [body] at opener ⊢
  exact heredocOpen?_of_body opener

theorem Outcome.readsExpressions {mode mode' : Mode} (outcome : Outcome t mode mode' scan)
    (opener : scan.kind = .heredocOpen stripIndent) : mode.readsExpressions := by
  cases outcome with
  | openQuote reads | heredocOpen reads | neutral reads => exact reads
  | bodyBrace _ brace => cases opener; cases brace
  | stringText _ neutral => cases opener; cases neutral
  | stringSequence _ opens => cases opener; cases opens
  | heredocSequence _ _ opens => cases opener; cases opens
  | _ => cases opener

theorem heredocOpen?_of_scans {mode mode' : Mode} (scans : mode.Scans mode' scan tail)
    (opener : scan.kind = .heredocOpen stripIndent) :
    heredocOpen? (scan.lexeme ++ tail) = some scan := by
  obtain ⟨c, cs, shape, scanned⟩ := scans
  obtain rfl : (mode.scan c cs).2 = scan := congrArg Prod.snd scanned
  have reads := (mode.scan_outcome c cs).readsExpressions opener
  rw [shape]
  cases mode with
  | structural => exact heredocOpen?_of_body opener
  | interpolation => exact heredocOpen?_of_sequence opener
  | quotedTemplate | heredocTemplate => cases reads

end

def Token.behind? (token : Token) (t : Text) : Option Text :=
  Text.dropBytes? token.stop.offset (Text.withoutMark t)

namespace Lexer

variable {t : Text} {lexer : Lexer} {token : Token}

theorem Reads.behind?_eq (reads : Reads t lexer) :
    lexer.pull.1.behind? t = some lexer.pull.2.cursor.rest := by
  have next := reads.pull
  rw [Token.behind?, reads.turn.stop, next.location, Location.offset_advanceOver,
    Location.offset_start, Nat.zero_add, ← next.input, Cursor.input, Text.dropBytes?_append]

theorem Reads.endsLine_of_heredocOpen (reads : Reads t lexer) {stripIndent : Bool}
    (opener : lexer.pull.1.kind = .heredocOpen stripIndent) :
    lexer.pull.2.cursor.rest.EndsLine := by
  have ahead := ahead_of_kind opener rfl
  obtain ⟨mode, scan, tail, scans, split, -⟩ := reads.exists_scans ahead
  rw [pull_of_scans scans split] at opener ⊢
  exact endsLine_of_heredocOpen? (heredocOpen?_of_scans scans opener) rfl

/-- The line ends behind every heredoc opener. Behind the closing line of a heredoc it ends unless a
carriage return alone is left of the text. -/
theorem endsLine_behind_heredoc (t : Text) (member : token ∈ tokenize t) :
    ∃ behind, token.behind? t = some behind ∧
      (∀ stripIndent, token.kind = .heredocOpen stripIndent → behind.EndsLine) ∧
      ∀ minIndent, token.kind = .heredocClose minIndent →
        (behind.EndsLine ↔ behind ≠ ['\r']) := by
  obtain ⟨n, rfl⟩ := exists_token_of_mem member
  have reads := (reads_ofText t).skip n
  refine ⟨_, reads.behind?_eq, fun stripIndent opener => ?_, fun minIndent closer => ?_⟩
  · exact reads.endsLine_of_heredocOpen opener
  · obtain ⟨_, _, _, -, closing⟩ := reads.turn.of_heredocClose reads closer
    have split := reads.turn.rest
    rw [closing.text] at split
    exact Text.endsLine_iff_of_line split

theorem endsLine_behind_nestedHeredoc :
    ∃ behind, ((ofText nestedHeredocs).token 5).behind? nestedHeredocs = some behind ∧
      behind.EndsLine := by
  have member : (ofText nestedHeredocs).token 5 ∈ tokenize nestedHeredocs := by decide
  have closer : ((ofText nestedHeredocs).token 5).kind = .heredocClose none := by decide
  obtain ⟨behind, found, -, closes⟩ := endsLine_behind_heredoc nestedHeredocs member
  refine ⟨behind, found, (closes none closer).mpr ?_⟩
  rintro rfl
  revert found
  decide

/-- A heredoc whose last line is the terminator with a carriage return. -/
def returnBehindTerminator : Text := ['<', '<', 'E', '\n', 'x', '\n', 'E', '\r']

/-- The carriage return is not part of a line break, and the heredoc closes in front of it. -/
theorem heredocClose_before_return : ∃ token ∈ tokenize returnBehindTerminator,
    token.kind = .heredocClose none ∧ token.behind? returnBehindTerminator = some ['\r'] ∧
      ¬ Text.EndsLine ['\r'] := by
  decide

end Lexer

end HclLexis
