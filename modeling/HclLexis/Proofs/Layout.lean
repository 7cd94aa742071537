import HclLexis.Proofs.TemplateLookahead

/-! Which rules read the layout of a text. Line breaks, blanks and comments each have their own
rule, and strings one for the error at a line break; what any other rule reads is on one line and
matters to a reader of the tokens. -/

namespace HclLexis

open Rules

def TokenKind.isLayout (kind : TokenKind) : Bool := kind.isTrivia || kind == .newline

structure Scan.IsWord (scan : Scan) : Prop where
  kind : scan.kind.isLayout = false
  inLine : '\n' ∉ scan.lexeme

namespace Text

theorem notMem_takeWhile {p : Char → Bool} {d : Char} (fail : p d = false) (t : Text) :
    d ∉ t.takeWhile p := by
  intro member
  have pass := List.all_eq_true.mp List.all_takeWhile d member
  rw [fail] at pass
  cases pass

theorem feed_notMem_line (t : Text) : '\n' ∉ line t := by
  have whole : '\n' ∉ t.takeWhile fun c => c != '\n' := notMem_takeWhile rfl t
  rw [line]
  split
  · exact fun member => whole (List.dropLast_subset _ member)
  · exact whole

end Text

namespace Lexeme

open Text

theorem feed_notMem_identifier (t : Text) : '\n' ∉ identifier t := by
  intro member
  have name := isIdentifier_identifier (List.ne_nil_of_mem member)
  exact name.ne_of_mem member '\n' (by decide) rfl

def numberSigns : Text := ['.', 'e', 'E', '+', '-']

section

variable {d : Char} (noDigit : d.isDigit = false) (noSign : d ∉ numberSigns)

include noDigit noSign

theorem notMem_numberTail {mantissa : Text} (noMantissa : d ∉ mantissa) (rest : Text) :
    d ∉ (numberTail mantissa rest).lexeme := by
  simp only [numberSigns, List.mem_cons, List.not_mem_nil, or_false, not_or] at noSign
  obtain ⟨-, lower, upper, plus, minus⟩ := noSign
  cases rest with
  | nil => exact noMantissa
  | cons marker rest =>
    rw [numberTail]
    split
    · rename_i isMarker
      have other : d ≠ marker := by
        rintro rfl
        simp [lower, upper] at isMarker
      have sign : d ∉ exponentSign rest := by
        unfold exponentSign
        split <;> simp [plus, minus]
      have digits := notMem_takeWhile noDigit (rest.drop (exponentSign rest).length)
      simp [noMantissa, other, sign, digits]
    · exact noMantissa

theorem notMem_number (t : Text) : d ∉ (number t).lexeme := by
  have digits (t : Text) := notMem_takeWhile noDigit t
  have point : d ≠ '.' := fun same => noSign (same ▸ List.mem_cons_self)
  rw [number]
  split
  · split
    · simp [digits, point]
    · split
      · exact notMem_numberTail noDigit noSign (by simp [digits, point]) _
      · split
        · exact digits t
        · simp [digits, point]
  · exact notMem_numberTail noDigit noSign (digits t) _

end

theorem numberTail_kind (mantissa rest : Text) : (numberTail mantissa rest).kind = .number ∨
    (numberTail mantissa rest).kind = .error .malformedNumber := by
  cases rest with
  | nil => exact .inl rfl
  | cons marker rest =>
    rw [numberTail]
    split
    · dsimp only
      split
      · exact .inr rfl
      · exact .inl rfl
    · exact .inl rfl

theorem number_kind (t : Text) :
    (number t).kind = .number ∨ (number t).kind = .error .malformedNumber := by
  rw [number]
  split
  · split
    · exact .inr rfl
    · split
      · exact numberTail_kind _ _
      · split
        · exact .inl rfl
        · exact .inr rfl
  · exact numberTail_kind _ _

theorem isWord_number (t : Text) : (number t).IsWord := by
  refine ⟨?_, notMem_number rfl (by decide) t⟩
  rcases number_kind t with kind | kind <;> rw [kind] <;> rfl

theorem isWord_heredocOpen? {t : Text} {scan : Scan} (found : heredocOpen? t = some scan) :
    scan.IsWord := by
  have named {marker : Text} (inLine : '\n' ∉ marker) {stripIndent : Bool} {rest : Text}
      (found : heredocNamed? marker stripIndent rest = some scan) : scan.IsWord := by
    rw [heredocNamed?, Option.ite_none_right_eq_some] at found
    cases found.2
    exact ⟨rfl, by simp [inLine, feed_notMem_identifier]⟩
  unfold heredocOpen? at found
  split at found
  · exact named (by decide) found
  · exact named (by decide) found
  · cases found

section

variable {t : Text} {scan : Scan}

theorem newline?_kind (found : newline? t = some scan) : scan.kind = .newline := by
  obtain ⟨lexeme, -, rfl⟩ := Option.map_eq_some_iff.mp found
  rfl

theorem stringBreak_kind (found : QuotedString.lineBreak? t = some scan) :
    scan.kind = .error .newlineInString := by
  obtain ⟨lexeme, -, rfl⟩ := Option.map_eq_some_iff.mp found
  rfl

theorem blanks?_kind (found : blanks? t = some scan) : scan.kind = .whitespace := by
  rw [blanks?, Option.ite_none_right_eq_some] at found
  cases found.2
  rfl

theorem lineComment?_kind (found : lineComment? t = some scan) : scan.kind = .comment := by
  rw [lineComment?, Option.ite_none_right_eq_some] at found
  cases found.2
  rfl

theorem blockComment?_kind (found : blockComment? t = some scan) :
    scan.kind = .comment ∨ scan.kind = .error .unterminatedComment := by
  unfold blockComment? at found
  split at found
  · dsimp only at found
    split at found <;> cases found
    · exact .inl rfl
    · exact .inr rfl
  · cases found

theorem startsGap_of_blanks? (found : blanks? t = some scan) : startsGap t := by
  rw [blanks?, Option.ite_none_right_eq_some] at found
  obtain ⟨starts, -⟩ := found
  cases t with
  | nil => cases starts
  | cons c cs =>
    simp only [startsBlank, isIndent, Bool.or_eq_true, Bool.and_eq_true, beq_iff_eq] at starts
    rcases starts with (rfl | rfl) | ⟨rfl, noBreak⟩
    · rfl
    · rfl
    · rw [startsGap, noBreak]
      rfl

theorem startsGap_of_lineComment? (found : lineComment? t = some scan) : startsGap t := by
  rw [lineComment?, Option.ite_none_right_eq_some] at found
  obtain ⟨starts, -⟩ := found
  unfold startsLineComment at starts
  split at starts
  · rfl
  · rfl
  · cases starts

theorem startsGap_of_blockComment? (found : blockComment? t = some scan) : startsGap t := by
  unfold blockComment? at found
  split at found
  · rfl
  · cases found

end

theorem sign_of_startsBlank {c : Char} {cs : Text} (blank : startsBlank (c :: cs)) :
    c = ' ' ∨ c = '\t' ∨ c = '\r' ∧ newline? (c :: cs) = none := by
  simp only [startsBlank, isIndent, Bool.or_eq_true, Bool.and_eq_true, beq_iff_eq] at blank
  rcases blank with (space | tab) | ⟨carriage, noBreak⟩
  · exact .inl space
  · exact .inr (.inl tab)
  · refine .inr (.inr ⟨carriage, ?_⟩)
    simpa [atLineBreak, newline?] using noBreak

theorem body_scan_of_startsBlank {c : Char} {cs : Text} (blank : startsBlank (c :: cs)) :
    blanks? (c :: cs) = some (Body.scan c cs) := by
  have signs := sign_of_startsBlank blank
  have noBreak : newline? (c :: cs) = none := by
    rcases signs with rfl | rfl | ⟨-, noBreak⟩
    · rfl
    · rfl
    · exact noBreak
  have noHeredoc : heredocOpen? (c :: cs) = none := by
    rcases signs with rfl | rfl | ⟨rfl, -⟩ <;> rfl
  have found : blanks? (c :: cs) = some _ := if_pos blank
  have first : Scan.first? Body.rules (c :: cs) = some _ :=
    Scan.first?_append_cons found [heredocOpen?, newline?] _ (by simp [noHeredoc, noBreak])
  rw [Body.scan, first, found, Option.getD_some]

theorem body_scan_of_blockComment? {rest : Text} {scan : Scan}
    (found : blockComment? ('/' :: '*' :: rest) = some scan) :
    Body.scan '/' ('*' :: rest) = scan := by
  have first : Scan.first? Body.rules ('/' :: '*' :: rest) = some scan := by
    refine Scan.first?_append_cons found [heredocOpen?, newline?, blanks?, lineComment?] _ ?_
    simp only [List.forall_mem_cons]
    exact ⟨rfl, rfl, rfl, rfl, nofun⟩
  rw [Body.scan, first, Option.getD_some]

theorem body_rule_cases {t : Text} {scan : Scan} {rule : Text → Option Scan}
    (member : rule ∈ Body.rules) (found : rule t = some scan) :
    newline? t = some scan ∨ blanks? t = some scan ∨ lineComment? t = some scan ∨
      blockComment? t = some scan ∨ scan.IsWord := by
  simp only [Body.rules, List.mem_cons, List.not_mem_nil, or_false] at member
  rcases member with rfl | rfl | rfl | rfl | rfl | rfl | rfl | rfl | rfl
  · right; right; right; right
    exact isWord_heredocOpen? found
  · exact .inl found
  · exact .inr (.inl found)
  · exact .inr (.inr (.inl found))
  · exact .inr (.inr (.inr (.inl found)))
  all_goals right; right; right; right
  · unfold Body.openQuote? at found
    split at found <;> cases found
    exact ⟨rfl, by decide⟩
  · rw [identifier?, Option.ite_none_left_eq_some] at found
    cases found.2
    exact ⟨rfl, feed_notMem_identifier t⟩
  · unfold number? at found
    split at found
    · cases found
    · rename_i c cs
      rw [Option.ite_none_right_eq_some, Option.some_inj] at found
      rw [← found.2]
      exact isWord_number _
  · obtain ⟨entry, sign, rfl⟩ := Option.map_eq_some_iff.mp found
    have plain : ∀ entry ∈ operators, entry.2.isLayout = false ∧ '\n' ∉ entry.1 := by decide
    obtain ⟨kind, inLine⟩ := plain entry (List.mem_of_find?_eq_some sign)
    exact ⟨kind, inLine⟩

theorem body_scan_cases (c : Char) (cs : Text) :
    newline? (c :: cs) = some (Body.scan c cs) ∨ blanks? (c :: cs) = some (Body.scan c cs) ∨
      lineComment? (c :: cs) = some (Body.scan c cs) ∨
      blockComment? (c :: cs) = some (Body.scan c cs) ∨ (Body.scan c cs).IsWord := by
  rw [Body.scan]
  cases found : Scan.first? Body.rules (c :: cs) with
  | none =>
    right; right; right; right
    have noBreak := Scan.first?_eq_none.mp found newline? (by simp [Body.rules])
    have other : '\n' ≠ c := by
      rintro rfl
      cases noBreak
    exact ⟨rfl, by simpa [Body.unrecognized] using other⟩
  | some scan =>
    obtain ⟨rule, member, same⟩ := List.exists_of_findSome?_eq_some found
    exact body_rule_cases member same

theorem isWord_brace {kind : TokenKind} {sign : Char} {move : Move} (plain : kind.isLayout = false)
    (other : sign ≠ '\n') : Scan.IsWord { kind, lexeme := [sign], move } :=
  ⟨plain, by simpa using other.symm⟩

inductive SequenceScan (depth : Nat) (c : Char) (cs : Text) : Nat × Scan → Prop
  | openBrace : SequenceScan depth c cs (depth + 1, { kind := .openBrace, lexeme := ['{'] })
  | closeBrace (rest : Nat) :
      SequenceScan depth c cs (rest, { kind := .closeBrace, lexeme := ['}'] })
  | close {lexeme : Text} (isEnd : lexeme = ['}'] ∨ lexeme = ['~', '}']) :
      SequenceScan depth c cs (0, Sequence.close lexeme)
  | body : SequenceScan depth c cs (depth, Body.scan c cs)

theorem sequence_scan_forms (depth : Nat) (c : Char) (cs : Text) :
    SequenceScan depth c cs (Sequence.scan depth c cs) := by
  rw [Sequence.scan.eq_def]
  split
  · exact .openBrace
  split
  · cases depth with
    | zero => exact .close (.inl rfl)
    | succ depth => exact .closeBrace depth
  split
  · exact .close (.inr rfl)
  · exact .body

theorem sequence_scan_cases (depth : Nat) (c : Char) (cs : Text) :
    Sequence.scan depth c cs = (depth, Body.scan c cs) ∨ (Sequence.scan depth c cs).2.IsWord := by
  have forms := sequence_scan_forms depth c cs
  generalize Sequence.scan depth c cs = found at forms
  cases forms with
  | openBrace | closeBrace => exact .inr (isWord_brace rfl (by decide))
  | close isEnd => rcases isEnd with rfl | rfl <;> exact .inr ⟨rfl, by decide⟩
  | body => exact .inl rfl

theorem Escape.notMem_read {d : Char} (isBreak : d = '\n' ∨ d = '\r') (cs : Text) :
    d ∉ (Escape.read cs).lexeme := by
  obtain ⟨backslash, short, long⟩ : d ≠ '\\' ∧ d ≠ 'u' ∧ d ≠ 'U' := by
    rcases isBreak with rfl | rfl <;> decide
  have noHex : Escape.isHexDigit d = false := by
    rcases isBreak with rfl | rfl <;> decide
  have digits (marker : Char) (other : d ≠ marker) (width : Nat) (rest : Text) :
      d ∉ (Escape.ofDigits marker width rest).lexeme := by
    have inLine := notMem_takeWhile noHex (rest.take width)
    rw [Escape.ofDigits]
    split <;> simp [Escape.lexeme, backslash, other, inLine]
  cases cs with
  | nil => simp [Escape.read, Escape.lexeme, backslash]
  | cons c cs =>
    rw [Escape.read]
    by_cases breaks : c = '\n' || c = '\r'
    · rw [if_pos breaks]
      simp [Escape.lexeme, backslash]
    · have other : d ≠ c := by
        rintro rfl
        exact breaks (by simpa using isBreak)
      rw [if_neg breaks]
      repeat' split
      · simp [Escape.lexeme, backslash, other]
      · exact digits 'u' short 4 cs
      · exact digits 'U' long 8 cs
      · simp [Escape.lexeme, backslash, other]

def UnitsInLine (unit? : Char → Text → Option Nat) : Prop :=
  ∀ c cs pending, unit? c cs = some pending → '\n' ∉ c :: cs.take pending

theorem unitsInLine_sharedUnit? : UnitsInLine sharedUnit? := by
  intro c cs pending unit
  have noBreak : ¬ atLineBreak (c :: cs) := by
    intro breaks
    rw [readsUnits_sharedUnit?.breaks c cs breaks] at unit
    cases unit
  have other : '\n' ≠ c := by
    rintro rfl
    exact noBreak rfl
  rw [sharedUnit?] at unit
  split at unit
  · cases unit
  split at unit
  · rename_i doubled
    cases unit
    have signs : ∃ rest, cs = ['$', '{'] ++ rest ∨ cs = ['%', '{'] ++ rest := by
      simp only [isDoubledOpen, Bool.or_eq_true, List.isPrefixOf_cons_cons, Bool.and_eq_true,
        List.isPrefixOf_iff_prefix] at doubled
      rcases doubled with ⟨-, rest, same⟩ | ⟨-, rest, same⟩
      · exact ⟨rest, .inl same.symm⟩
      · exact ⟨rest, .inr same.symm⟩
    obtain ⟨rest, rfl | rfl⟩ := signs
    · simp [other]
    · simp [other]
  · cases unit
    simpa using other

theorem unitsInLine_unit? : UnitsInLine QuotedString.unit? := by
  intro c cs pending unit
  rw [QuotedString.unit?] at unit
  split at unit
  · cases unit
  split at unit
  · rename_i backslash
    have inLine := Escape.notMem_read (.inl rfl) cs
    have piece := Escape.read_isPrefix cs
    split at unit
    · rename_i lexeme read
      cases unit
      rw [read] at inLine piece
      subst backslash
      obtain ⟨rest, same⟩ := piece
      cases lexeme with
      | nil => simp
      | cons d ds =>
        obtain ⟨rfl, rfl⟩ := List.cons_eq_cons.mp same
        simpa [Escape.lexeme] using inLine
    · cases unit
  · exact unitsInLine_sharedUnit? c cs pending unit

theorem feed_notMem_literalRun {unit? : Char → Text → Option Nat} (units : UnitsInLine unit?)
    {pending : Nat} {t : Text} (inLine : '\n' ∉ t.take pending) :
    '\n' ∉ literalRun unit? pending t := by
  induction t generalizing pending with
  | nil => rw [literalRun]; exact List.not_mem_nil
  | cons c cs ih =>
    cases pending with
    | succ pending =>
      rw [List.take_succ_cons, List.mem_cons, not_or] at inLine
      rw [literalRun, List.mem_cons, not_or]
      exact ⟨inLine.1, ih inLine.2⟩
    | zero =>
      rw [literalRun]
      cases unit : unit? c cs with
      | none => exact List.not_mem_nil
      | some pending =>
        have line := units c cs pending unit
        rw [List.mem_cons, not_or] at line ⊢
        exact ⟨line.1, ih line.2⟩

theorem isWord_literal {unit? : Char → Text → Option Nat} (units : UnitsInLine unit?) (t : Text) :
    (literal unit? t).IsWord :=
  ⟨rfl, feed_notMem_literalRun units (by simp)⟩

theorem isWord_sequenceOpen? {t : Text} {scan : Scan} (found : sequenceOpen? t = some scan) :
    scan.IsWord := by
  unfold sequenceOpen? at found
  have strips (rest : Text) : '\n' ∉ stripMarker rest := by
    rw [stripMarker_eq]
    split <;> decide
  split at found <;> cases found
  · exact ⟨rfl, by simp [strips]⟩
  · exact ⟨rfl, by simp [strips]⟩

theorem string_scan_cases (c : Char) (cs : Text) :
    QuotedString.lineBreak? (c :: cs) = some (QuotedString.scan c cs) ∨
      (QuotedString.scan c cs).IsWord := by
  by_cases quote : c = '"'
  · subst quote
    exact .inr (isWord_brace rfl (by decide))
  rw [string_scan_eq quote]
  cases opened : sequenceOpen? (c :: cs) with
  | some found => exact .inr (isWord_sequenceOpen? opened)
  | none =>
    cases broken : QuotedString.lineBreak? (c :: cs) with
    | some found => exact .inl rfl
    | none =>
      right
      cases faulty : QuotedString.faultyEscape? (c :: cs) with
      | some found =>
        obtain ⟨rest, lexeme, -, read, rfl⟩ := exists_of_faultyEscape? faulty
        have inLine := Escape.notMem_read (.inl rfl) rest
        rw [read] at inLine
        exact ⟨rfl, inLine⟩
      | none => exact isWord_literal unitsInLine_unit? _

theorem heredoc_scan_cases (heredoc : Heredoc) (c : Char) (cs : Text) :
    newline? (c :: cs) = some (HeredocBody.scan heredoc c cs).2 ∨
      (HeredocBody.scan heredoc c cs).2.IsWord := by
  rw [HeredocBody.scan, HeredocBody.closingLine?]
  split
  · rename_i found
    rw [Option.ite_none_right_eq_some] at found
    cases found.2
    exact .inr ⟨rfl, feed_notMem_line _⟩
  · rw [HeredocBody.scanLine]
    cases broken : newline? (c :: cs) with
    | some found => exact .inl rfl
    | none =>
      right
      cases opened : sequenceOpen? (c :: cs) with
      | some found => exact isWord_sequenceOpen? opened
      | none => exact isWord_literal unitsInLine_sharedUnit? _

end Lexeme

namespace Mode

open Lexeme

/-- What a scan reads: layout by one of its rules, the error at a line break in a string, or a
word. -/
inductive Layout (t : Text) (mode mode' : Mode) (scan : Scan) : Prop
  | lineBreak (found : newline? t = some scan)
  | stringBreak (found : QuotedString.lineBreak? t = some scan)
  | blanks (reads : mode.readsExpressions) (stays : mode' = mode) (found : blanks? t = some scan)
  | lineComment (reads : mode.readsExpressions) (stays : mode' = mode)
      (found : lineComment? t = some scan)
  | blockComment (reads : mode.readsExpressions) (stays : mode' = mode)
      (found : blockComment? t = some scan)
  | word (isWord : scan.IsWord)

theorem layout_of_body {mode : Mode} (reads : mode.readsExpressions) (c : Char) (cs : Text) :
    Layout (c :: cs) mode mode (Body.scan c cs) := by
  rcases body_scan_cases c cs with found | found | found | found | isWord
  · exact .lineBreak found
  · exact .blanks reads rfl found
  · exact .lineComment reads rfl found
  · exact .blockComment reads rfl found
  · exact .word isWord

theorem scan_layout (mode : Mode) (c : Char) (cs : Text) :
    Layout (c :: cs) mode (mode.scan c cs).1 (mode.scan c cs).2 := by
  cases mode with
  | structural => exact layout_of_body rfl c cs
  | quotedTemplate =>
    rcases string_scan_cases c cs with found | isWord
    · exact .stringBreak found
    · exact .word isWord
  | heredocTemplate heredoc =>
    rcases heredoc_scan_cases heredoc c cs with found | isWord
    · exact .lineBreak found
    · exact .word isWord
  | interpolation depth =>
    rcases sequence_scan_cases depth c cs with body | isWord
    · rw [scan, body]
      exact layout_of_body rfl c cs
    · exact .word isWord

variable {mode mode' : Mode} {scan : Scan} {tail : Text}

theorem Scans.layout (scans : mode.Scans mode' scan tail) :
    Layout (scan.lexeme ++ tail) mode mode' scan := by
  obtain ⟨c, cs, shape, scanned⟩ := scans
  have layout := mode.scan_layout c cs
  rwa [scanned, ← shape] at layout

theorem Scans.newline?_eq (scans : mode.Scans mode' scan tail)
    (newline : scan.kind = .newline) : newline? (scan.lexeme ++ tail) = some scan := by
  have differ {kind : TokenKind} (same : scan.kind = kind) (other : kind ≠ .newline) : False :=
    other (same.symm.trans newline)
  cases scans.layout with
  | lineBreak found => exact found
  | stringBreak found => cases differ (stringBreak_kind found) nofun
  | blanks _ _ found => cases differ (blanks?_kind found) nofun
  | lineComment _ _ found => cases differ (lineComment?_kind found) nofun
  | blockComment _ _ found =>
    rcases blockComment?_kind found with kind | kind
    · cases differ kind nofun
    · cases differ kind nofun
  | word isWord =>
    have plain := isWord.kind
    rw [newline] at plain
    cases plain

theorem Scans.trivia (scans : mode.Scans mode' scan tail) (trivia : scan.kind.isTrivia) :
    mode.readsExpressions ∧ mode' = mode ∧ Text.startsGap (scan.lexeme ++ tail) := by
  have differ {kind : TokenKind} (same : scan.kind = kind) (other : kind.isTrivia = false) :
      False := by
    rw [same, other] at trivia
    cases trivia
  cases scans.layout with
  | lineBreak found => cases differ (newline?_kind found) rfl
  | stringBreak found => cases differ (stringBreak_kind found) rfl
  | blanks reads stays found => exact ⟨reads, stays, startsGap_of_blanks? found⟩
  | lineComment reads stays found => exact ⟨reads, stays, startsGap_of_lineComment? found⟩
  | blockComment reads stays found => exact ⟨reads, stays, startsGap_of_blockComment? found⟩
  | word isWord =>
    have plain := isWord.kind
    rw [TokenKind.isLayout, trivia] at plain
    cases plain

theorem Scans.of_newline (scans : mode.Scans mode' scan tail) (newline : scan.kind = .newline)
    (tail' : Text) : mode.Scans mode' scan tail' := by
  have found := scans.newline?_eq newline
  obtain ⟨lexeme, breaks, rfl⟩ := Option.map_eq_some_iff.mp found
  obtain ⟨c, cs, shape, scanned⟩ := scans
  rcases Text.lineBreak?_eq_some breaks with rfl | rfl
  · cases shape
    exact ⟨_, _, rfl, scanned⟩
  · cases shape
    exact ⟨_, _, rfl, scanned⟩

end Mode

end HclLexis
