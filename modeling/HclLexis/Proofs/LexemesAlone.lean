import HclLexis.Proofs.Numbers

/-! Lexemes alone. What a body reads of a text it reads of the lexeme alone as well, with the same
kind: no rule needs what is behind a lexeme to go as far, and none goes on without it. So each token
of an expression keeps its kind in a text of its own. -/

namespace HclLexis

open Lexeme Rules Document Text

theorem Text.InLine.alone {piece tail : Text} (inLine : piece.InLine tail) : piece.InLine [] :=
  ⟨inLine.1, nofun⟩

theorem Text.IsBareExponent.alone {lead tail : Text} (bare : IsBareExponent lead tail) :
    IsBareExponent lead [] := by
  obtain ⟨marker, sign, shape, isMarker, isSign, -⟩ := bare
  refine ⟨marker, sign, shape, isMarker, ?_, nofun⟩
  exact isSign.imp id (.imp id fun unsigned => ⟨unsigned.1, nofun⟩)

theorem IsLexeme.alone {kind : TokenKind} {lexeme tail : Text}
    (isLexeme : IsLexeme kind lexeme tail) : IsLexeme kind lexeme [] := by
  cases isLexeme with
  | sign spelled => exact .sign spelled []
  | lineBreak spelled => exact .lineBreak spelled []
  | blanks nonempty blank inLine => exact .blanks nonempty blank inLine.alone
  | lineComment isMark inLine => exact .lineComment isMark inLine.alone
  | blockComment first =>
    refine .blockComment fun before ends => first before (ends.trans ?_)
    rw [List.append_nil]
    exact List.prefix_append _ tail
  | quote => exact .quote []
  | identifier name => exact .identifier name []
  | heredocOpen stripIndent name => exact .heredocOpen stripIndent name (.inl rfl)

theorem IsLexeme.startsWith_cons {kind : TokenKind} {c : Char} {tail : Text}
    (isLexeme : IsLexeme kind [c] tail) (cs : Text) :
    ∃ kind' lexeme, StartsWith (c :: cs) kind' lexeme := by
  generalize single : [c] = lexeme at isLexeme
  cases isLexeme with
  | sign spelled => exact ⟨_, _, cs, rfl, .sign (single ▸ spelled) cs⟩
  | lineBreak spelled => exact ⟨_, _, cs, rfl, .lineBreak (single ▸ spelled) cs⟩
  | blanks nonempty blank =>
    by_cases breaks : Text.lineBreak? (c :: cs) = none
    · have inLine : Text.InLine [c] cs := Text.inLine_cons_iff.mpr ⟨breaks, Text.inLine_nil cs⟩
      exact ⟨_, _, cs, rfl, .blanks (List.cons_ne_nil c []) (single ▸ blank) inLine⟩
    · obtain ⟨lexeme, found⟩ := Option.ne_none_iff_exists'.mp breaks
      obtain ⟨-, rest, split⟩ := Text.lineBreak?_isPrefix found
      exact ⟨_, _, rest, split.symm, .lineBreak (Text.lineBreak?_eq_some found) rest⟩
  | lineComment isMark =>
    rcases isMark with rfl | rfl
    · cases single
      exact ⟨_, ['#'], cs, rfl, .lineComment (.inl rfl) (Text.inLine_nil cs)⟩
    · cases single
  | blockComment => simp at single
  | quote =>
    cases single
    exact ⟨_, _, cs, rfl, .quote cs⟩
  | identifier name => exact ⟨_, _, cs, rfl, .identifier (single ▸ name) cs⟩
  | heredocOpen stripIndent => cases stripIndent <;> simp [heredocMarker] at single

namespace Lexeme

variable {whole : Digits} {fraction : Option Digits} {behind : Text}

theorem number_decimalText (marked : ∀ c ∈ behind.head?, c = 'e' ∨ c = 'E') :
    number (decimalText whole fraction ++ behind) =
      numberTail (decimalText whole fraction) behind := by
  have stops : behind.takeWhile Char.isDigit = [] := by
    refine takeWhile_eq_nil_iff_head?.mpr fun c head => ?_
    rcases marked c head with rfl | rfl <;> decide
  refine number_decimal stops fun rest point => ?_
  rcases marked '.' (point ▸ rfl) with same | same <;> cases same

theorem number_alone {t : Text} (digit : t.takeWhile Char.isDigit ≠ []) :
    number (number t).lexeme = number t := by
  have parts := Digits.atHead_append t digit
  have stops := takeWhile_dropWhile (p := Char.isDigit) t
  generalize Digits.atHead t digit = whole at parts
  generalize t.dropWhile Char.isDigit = rest at parts stops
  subst parts
  -- a point or an exponent that is bare is so in front of nothing too
  by_cases bare : IsBarePoint rest
  · rw [number_of_isBarePoint whole bare]
    exact number_of_isBarePoint whole ⟨[], rfl, nofun⟩
  obtain ⟨fraction, behind, -, -, ended⟩ := exists_number_eq_numberTail whole stops bare
  rw [ended]
  by_cases bareExponent : ∃ lead tail, behind = lead ++ tail ∧ IsBareExponent lead tail
  · obtain ⟨lead, tail, rfl, bare⟩ := bareExponent
    obtain ⟨marker, sign, rfl, isMarker, isSign, -⟩ := id bare
    have marked : ∀ c ∈ (marker :: sign).head?, c = 'e' ∨ c = 'E' := by simpa using isMarker
    rw [numberTail_of_isBareExponent bare, number_decimalText marked]
    simpa using numberTail_of_isBareExponent bare.alone
  · push Not at bareExponent
    obtain ⟨exponent, tail, -, read⟩ := exists_numberTail bareExponent (decimalText whole fraction)
    rw [read]
    cases exponent with
    | none =>
      have ends : ∀ c ∈ ([] : Text).head?, c = 'e' ∨ c = 'E' := nofun
      rw [Option.elim_none, number_decimalText ends]
      simp [numberTail]
    | some exponent =>
      have marked : ∀ c ∈ exponent.text.head?, c = 'e' ∨ c = 'E' := by
        simpa [Exponent.text] using exponent.isMarker
      have read : numberTail (decimalText whole fraction) (exponent.text ++ []) = _ :=
        numberTail_exponent (decimalText whole fraction) exponent rfl
      rw [List.append_nil] at read
      exact (number_decimalText marked).trans read

/-- Alone a body reads the lexeme whole, and as the same kind. -/
def StandsAlone (kind : TokenKind) (lexeme : Text) : Prop :=
  ∃ c cs, lexeme = c :: cs ∧ (Body.scan c cs).kind = kind ∧ (Body.scan c cs).lexeme = lexeme

end Lexeme

theorem IsLexeme.standsAlone {kind : TokenKind} {lexeme tail : Text}
    (isLexeme : IsLexeme kind lexeme tail) : StandsAlone kind lexeme := by
  obtain ⟨c, cs, rfl⟩ := List.exists_cons_of_ne_nil isLexeme.ne_nil
  refine ⟨c, cs, rfl, ?_⟩
  rcases body_scan_outreads isLexeme.alone (List.append_nil _) with longer | ⟨kind, lexeme⟩
  · have bound := (Body.scan_covers c cs).isPrefix.length_le
    exact absurd bound (Nat.not_le.mpr longer)
  · exact ⟨kind.symm, lexeme.symm⟩

theorem body_scan_unrecognized {c : Char} {cs : Text} (noDigit : ¬ c.isDigit)
    (noRule : Scan.first? Body.rules (c :: cs) = none) : Body.scan c [] = Body.unrecognized c := by
  rw [Body.scan]
  cases found : Scan.first? Body.rules [c] with
  | none => rfl
  | some scan =>
    have closed : ¬ IsUnclosedComment [c] := by
      rintro ⟨rest, shape, -⟩
      cases shape
    obtain ⟨rule, member, read⟩ := List.exists_of_findSome?_eq_some found
    obtain ⟨tail, split, isLexeme⟩ := startsWith_of_rule noDigit closed member read
    obtain ⟨same, -⟩ | ⟨empty, -⟩ := List.singleton_eq_append_iff.mp split
    · exact absurd same isLexeme.ne_nil
    · rw [empty] at isLexeme
      obtain ⟨kind, lexeme, starts⟩ := isLexeme.startsWith_cons cs
      exact absurd starts (not_startsWith_of_noRule noRule kind lexeme)

namespace Lexeme

theorem standsAlone_body (c : Char) (cs : Text) :
    StandsAlone (Body.scan c cs).kind (Body.scan c cs).lexeme := by
  by_cases digit : c.isDigit
  · have covers := Body.scan_covers c cs
    rw [body_scan_of_isDigit digit] at covers ⊢
    obtain ⟨d, piece, shape⟩ := List.exists_cons_of_ne_nil covers.nonempty
    have isPrefix := covers.isPrefix
    rw [shape] at isPrefix
    obtain ⟨rfl, -⟩ := List.cons_prefix_cons.mp isPrefix
    have alone := number_alone (t := d :: cs) (by simp [digit])
    rw [shape] at alone
    refine ⟨d, piece, shape, ?_⟩
    rw [body_scan_of_isDigit digit, alone]
    exact ⟨rfl, rfl⟩
  by_cases unclosed : IsUnclosedComment (c :: cs)
  · exact ⟨c, cs, by rw [body_scan_of_isUnclosedComment unclosed], rfl, rfl⟩
  cases found : Scan.first? Body.rules (c :: cs) with
  | none =>
    have alone := body_scan_unrecognized digit found
    rw [Body.scan, found]
    exact ⟨c, [], rfl, by rw [alone]; rfl, by rw [alone]; rfl⟩
  | some scan =>
    obtain ⟨rule, member, read⟩ := List.exists_of_findSome?_eq_some found
    obtain ⟨tail, -, isLexeme⟩ := startsWith_of_rule digit unclosed member read
    rw [Body.scan, found]
    exact isLexeme.standsAlone

theorem standsAlone_sequence {depth : Nat} {c : Char} {cs : Text}
    (notEnd : (Sequence.scan depth c cs).2.kind ≠ .templateSeqEnd) :
    StandsAlone (Sequence.scan depth c cs).2.kind (Sequence.scan depth c cs).2.lexeme := by
  have forms := sequence_scan_forms depth c cs
  generalize Sequence.scan depth c cs = found at forms notEnd
  cases forms with
  | openBrace => exact ⟨'{', [], rfl, rfl, rfl⟩
  | closeBrace => exact ⟨'}', [], rfl, rfl, rfl⟩
  | close => exact absurd rfl notEnd
  | body => exact standsAlone_body c cs

theorem body_scan_byteOrderMark (cs : Text) :
    Body.scan byteOrderMark cs = Body.unrecognized byteOrderMark := by
  have noName : isIdentifierStart byteOrderMark = false := by decide +kernel
  have noIdentifier : identifier? (byteOrderMark :: cs) = none := by
    simp [identifier?, identifier, noName]
  have noRule : Scan.first? Body.rules (byteOrderMark :: cs) = none := by
    simp only [Scan.first?_eq_none, Body.rules, List.forall_mem_cons]
    exact ⟨rfl, rfl, rfl, rfl, rfl, rfl, noIdentifier, rfl, rfl, List.forall_mem_nil _⟩
  rw [Body.scan, noRule, Option.getD_none]

theorem StandsAlone.head?_ne_byteOrderMark {kind : TokenKind} {lexeme : Text}
    (alone : StandsAlone kind lexeme)
    (notMark : kind ≠ .error (.unrecognizedCharacter byteOrderMark)) :
    lexeme.head? ≠ some byteOrderMark := by
  obtain ⟨c, cs, rfl, rfl, -⟩ := alone
  intro head
  obtain rfl := Option.some.inj head
  exact notMark (congrArg Scan.kind (body_scan_byteOrderMark cs))

end Lexeme

theorem Mode.Scans.standsAlone {mode mode' : Mode} {scan : Scan} {tail : Text}
    (scans : mode.Scans mode' scan tail) (reads : mode.readsExpressions)
    (notEnd : scan.kind ≠ .templateSeqEnd) : StandsAlone scan.kind scan.lexeme := by
  obtain ⟨c, cs, -, scanned⟩ := scans
  obtain rfl : (mode.scan c cs).2 = scan := congrArg Prod.snd scanned
  cases mode with
  | structural => exact standsAlone_body c cs
  | interpolation depth => exact standsAlone_sequence notEnd
  | quotedTemplate | heredocTemplate => cases reads

namespace Lexer

theorem tokenize_of_standsAlone {kind : TokenKind} {lexeme : Text}
    (alone : StandsAlone kind lexeme) (noMark : lexeme.head? ≠ some byteOrderMark) :
    ∃ stop unterminated, tokenize lexeme =
      [⟨kind, lexeme, .start, stop⟩, ⟨.eof unterminated, [], stop, stop⟩] := by
  obtain ⟨c, cs, shape, rfl, rfl⟩ := alone
  have split : (Body.scan c cs).lexeme ++ [] = c :: cs := (List.append_nil _).trans shape
  have scans : (ofText (Body.scan c cs).lexeme).modes.current.Scans .structural
      (Body.scan c cs) [] := ⟨c, cs, split, rfl⟩
  have ahead : withoutMark (Body.scan c cs).lexeme = (Body.scan c cs).lexeme ++ [] := by
    rw [withoutMark_eq noMark, List.append_nil]
  have drains := Drains.of_scans _ scans ahead (Body.scan_covers c cs).nonempty (.ended rfl)
  rw [(drains_tokenize _).eq drains]
  exact ⟨_, _, rfl⟩

/-- The kind of a token of an expression does not depend on where it stands. A text of its own,
tokenized, is that one token and the end. Apart are the ends of sequences, which are other signs
elsewhere, and the byte-order mark, which is no part of a text that it starts. -/
theorem tokenize_text_of_token {t : Text} {n : Nat} {token : Token}
    (found : (tokenize t)[n]? = some token)
    (reads : ((ofText t).skip n).modes.current.readsExpressions) (notEof : ¬ token.isEof)
    (notEnd : token.kind ≠ .templateSeqEnd)
    (notMark : token.kind ≠ .error (.unrecognizedCharacter byteOrderMark)) :
    ∃ stop unterminated, tokenize token.text =
      [⟨token.kind, token.text, .start, stop⟩, ⟨.eof unterminated, [], stop, stop⟩] := by
  have within := (List.getElem?_eq_some_iff.mp found).1
  obtain rfl : (ofText t).token n = token :=
    Option.some.inj ((getElem?_tokenize within).symm.trans found)
  have reading := (reads_ofText t).skip n
  have ahead : ((ofText t).skip n).cursor.rest ≠ [] := mt reading.isEof_iff.mpr notEof
  obtain ⟨mode, scan, tail, scans, split, -⟩ := reading.exists_scans ahead
  have pulled : (ofText t).token n = _ := congrArg Prod.fst (pull_of_scans scans split)
  rw [pulled] at notEnd notMark ⊢
  have alone := scans.standsAlone reads notEnd
  exact tokenize_of_standsAlone alone (alone.head?_ne_byteOrderMark notMark)

def brokenNumber : Text := ['"', '$', '{', '1', '.', '~', '}']

theorem tokenize_text_of_brokenNumber : ∃ stop unterminated, tokenize ['1', '.'] =
    [⟨.error .malformedNumber, ['1', '.'], .start, stop⟩, ⟨.eof unterminated, [], stop, stop⟩] := by
  have found : (tokenize brokenNumber)[2]? =
      some ⟨.error .malformedNumber, ['1', '.'], ⟨3, 1, 4⟩, ⟨5, 1, 6⟩⟩ := by decide
  exact tokenize_text_of_token found (by decide) (by decide) nofun nofun

end Lexer

end HclLexis
