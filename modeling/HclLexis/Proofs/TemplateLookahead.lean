import HclLexis.Proofs.LinesAgree

/-! How far the rules of templates look ahead. A string is read unit by unit, and a heredoc compares
whole lines with its terminator; in front of texts that are seen alike both come to the same, as
long as text of the template is not followed by a gap. -/

namespace HclLexis

open Rules

namespace Lexeme

open Text

theorem stripMarker_eq (t : Text) :
    stripMarker t = if t.head? = some '~' then ['~'] else [] := by
  cases t with
  | nil => rfl
  | cons c cs =>
    by_cases tilde : c = '~'
    · subst tilde
      rfl
    · simp [stripMarker, tilde]

theorem sequenceOpen?_eq_none_of_head? (c : Char) {t : Text} (other : t.head? ≠ some '{') :
    sequenceOpen? (c :: t) = none := by
  unfold sequenceOpen?
  split
  · rename_i same
    cases same
    exact absurd rfl other
  · rename_i same
    cases same
    exact absurd rfl other
  · rfl

section

variable {s s' : Text} (alike : SeenAlike s s')

include alike

theorem Escape.ofDigits_alike (marker : Char) (width : Nat) :
    Escape.ofDigits marker width s' = Escape.ofDigits marker width s := by
  have digits := (alike.takeWhile (p := Escape.isHexDigit) (by decide)).1
  simp only [Escape.ofDigits, ← List.take_takeWhile, digits]

theorem Escape.read_alike (spaced : s'.head? = some ' ' → s.head? = some ' ') :
    Escape.read s' = Escape.read s := by
  cases alike with
  | ends | feed | pair => rfl
  | gap starts s' =>
    obtain ⟨rest, rfl⟩ := List.head?_eq_some_iff.mp (spaced rfl)
    rfl
  | cons c breaks alike => simp only [Escape.read, Escape.ofDigits_alike alike]

theorem sequenceOpen?_alike (c : Char) : sequenceOpen? (c :: s') = sequenceOpen? (c :: s) := by
  have brace : s'.head? = some '{' ↔ s.head? = some '{' := alike.head?_eq_some_iff (by decide)
  by_cases opens : s.head? = some '{'
  · obtain ⟨rest', rfl⟩ := List.head?_eq_some_iff.mp (brace.mpr opens)
    obtain ⟨rest, rfl⟩ := List.head?_eq_some_iff.mp opens
    cases alike with
    | cons _ _ alike =>
      have strips : stripMarker rest' = stripMarker rest := by
        simp only [stripMarker_eq, alike.head?_eq_some_iff (c := '~') (by decide)]
      by_cases dollar : c = '$'
      · subst dollar
        simp only [sequenceOpen?, strips]
      by_cases percent : c = '%'
      · subst percent
        simp only [sequenceOpen?, strips]
      simp [sequenceOpen?, dollar, percent]
  · rw [sequenceOpen?_eq_none_of_head? c opens,
      sequenceOpen?_eq_none_of_head? c (brace.not.mpr opens)]

theorem sharedUnit?_alike {c : Char} (breaks : lineBreak? (c :: s') = lineBreak? (c :: s)) :
    sharedUnit? c s' = sharedUnit? c s := by
  have seen := SeenAlike.cons c breaks alike
  have doubled : isDoubledOpen (c :: s') = isDoubledOpen (c :: s) := by
    have plain : ∀ sign ∈ sequenceSigns, ∀ d ∈ [sign, sign, '{'], d ∉ stopSigns := by
      simp [sequenceSigns, stopSigns, gapSigns]
    rw [isDoubledOpen, isDoubledOpen, seen.isPrefixOf_eq (plain '$' (by decide)),
      seen.isPrefixOf_eq (plain '%' (by decide))]
  rw [sharedUnit?, sharedUnit?, doubled, seen.atLineBreak_eq, opensSequence, opensSequence,
    sequenceOpen?_alike alike]

theorem unit?_alike {c : Char} (breaks : lineBreak? (c :: s') = lineBreak? (c :: s)) :
    QuotedString.unit? c s' = QuotedString.unit? c s := by
  rw [QuotedString.unit?, QuotedString.unit?, sharedUnit?_alike alike breaks]
  by_cases spaced : s'.head? = some ' ' → s.head? = some ' '
  · rw [Escape.read_alike alike spaced]
  · -- only a gap is left, and no escape starts with one
    have faulty : ∀ d ∈ gapSigns, ∀ rest, ∃ lexeme, Escape.read (d :: rest) = .invalid lexeme := by
      have other : ∀ d ∈ gapSigns, Escape.letters.contains d = false ∧ d ≠ 'u' ∧ d ≠ 'U' :=
        List.all_iff_forall_prop.mp (by decide)
      intro d sign rest
      simp only [Escape.read, other d sign]
      split <;> exact ⟨_, rfl⟩
    cases alike with
    | ends => exact absurd id spaced
    | feed | cons => exact absurd id spaced
    | pair => exact absurd (by simp) spaced
    | gap starts rest' =>
      obtain ⟨d, rest, rfl, sign, -⟩ := exists_of_startsGap starts
      obtain ⟨lexeme, invalid⟩ := faulty d sign rest
      obtain ⟨lexeme', invalid'⟩ := faulty ' ' (by decide) rest'
      rw [invalid, invalid']

end

/-- Units of literal text as the rules of templates have them: a line break is none, a space is
one. -/
structure ReadsUnits (unit? : Char → Text → Option Nat) : Prop where
  alike : ∀ {s s' : Text}, SeenAlike s s' → ∀ {c}, lineBreak? (c :: s') = lineBreak? (c :: s) →
    unit? c s' = unit? c s
  breaks : ∀ c s, atLineBreak (c :: s) → unit? c s = none
  space : ∀ s, unit? ' ' s ≠ none

theorem readsUnits_sharedUnit? : ReadsUnits sharedUnit? where
  alike := sharedUnit?_alike
  breaks c s atBreak := by rw [sharedUnit?, atBreak]; rfl
  space _ := nofun

theorem readsUnits_unit? : ReadsUnits QuotedString.unit? where
  alike := unit?_alike
  breaks c s atBreak := by
    rw [QuotedString.unit?, readsUnits_sharedUnit?.breaks c s atBreak]
    have other : c ≠ '\\' := by
      rintro rfl
      cases atBreak
    simp [other]
  space _ := nofun

theorem ReadsUnits.literalRun_eq_nil_alike {unit? : Char → Text → Option Nat}
    (units : ReadsUnits unit?) {tail tail' : Text} (alike : SeenAlike tail tail')
    (spaced : tail'.head? = some ' ' → tail.head? = some ' ') {pending : Nat}
    (run : literalRun unit? pending tail = []) : literalRun unit? pending tail' = [] := by
  cases alike with
  | ends => exact run
  | feed s s' =>
    obtain ⟨rfl, -⟩ := literalRun_cons_eq_nil_iff.mp run
    exact literalRun_cons_eq_nil_iff.mpr ⟨rfl, units.breaks _ _ rfl⟩
  | pair s s' =>
    obtain ⟨rfl, -⟩ := literalRun_cons_eq_nil_iff.mp run
    exact literalRun_cons_eq_nil_iff.mpr ⟨rfl, units.breaks _ _ rfl⟩
  | gap starts s' =>
    -- both texts start with a space, and a run does not stop in front of one
    obtain ⟨s, rfl⟩ := List.head?_eq_some_iff.mp (spaced rfl)
    exact absurd (literalRun_cons_eq_nil_iff.mp run).2 (units.space s)
  | cons c breaks alike =>
    rw [literalRun_cons_eq_nil_iff] at run ⊢
    rwa [units.alike alike breaks]

theorem literalRun_append_alike {unit? : Char → Text → Option Nat} (units : ReadsUnits unit?)
    {tail tail' piece : Text} (behind : SeenBehind piece tail tail')
    (spaced : tail'.head? = some ' ' → tail.head? = some ' ') {pending : Nat}
    (run : literalRun unit? pending (piece ++ tail) = piece) :
    literalRun unit? pending (piece ++ tail') = piece := by
  induction piece generalizing pending with
  | nil =>
    rw [List.nil_append] at run ⊢
    exact units.literalRun_eq_nil_alike behind.alike spaced run
  | cons c cs ih =>
    rw [List.cons_append] at run ⊢
    cases pending with
    | succ pending =>
      rw [literalRun] at run ⊢
      rw [ih behind.of_cons (List.tail_eq_of_cons_eq run)]
    | zero =>
      rw [literalRun] at run ⊢
      rw [units.alike behind.of_cons.append behind.lineBreak?_cons]
      cases unit : unit? c (cs ++ tail) with
      | none =>
        rw [unit] at run
        cases run
      | some pending =>
        rw [unit] at run
        dsimp only
        rw [ih behind.of_cons (List.tail_eq_of_cons_eq run)]

theorem sign_of_sequenceOpen? {c : Char} {cs : Text} {scan : Scan}
    (opened : sequenceOpen? (c :: cs) = some scan) : c ∈ sequenceSigns := by
  unfold sequenceOpen? at opened
  split at opened
  · rename_i same
    cases same
    decide
  · rename_i same
    cases same
    decide
  · cases opened

theorem exists_of_faultyEscape? {t : Text} {scan : Scan}
    (found : QuotedString.faultyEscape? t = some scan) :
    ∃ rest lexeme, t = '\\' :: rest ∧ Escape.read rest = .invalid lexeme ∧
      scan = { kind := .error .invalidEscape, lexeme } := by
  unfold QuotedString.faultyEscape? at found
  split at found
  · rename_i rest
    split at found <;> cases found
    rename_i lexeme read
    exact ⟨rest, lexeme, rfl, read, rfl⟩
  · cases found

theorem faultyEscape?_alike {s s' : Text} (seen : SeenAlike s s')
    (spaced : s'.head? = some ' ' → s.head? = some ' ') {c : Char} :
    QuotedString.faultyEscape? (c :: s') = QuotedString.faultyEscape? (c :: s) := by
  by_cases backslash : c = '\\'
  · subst backslash
    rw [QuotedString.faultyEscape?, QuotedString.faultyEscape?, Escape.read_alike seen spaced]
  · simp [QuotedString.faultyEscape?, backslash]

theorem faultyEscape?_stays {t : Text} {scan : Scan}
    (found : QuotedString.faultyEscape? t = some scan) : scan.move = .stay := by
  obtain ⟨rest, lexeme, -, -, rfl⟩ := exists_of_faultyEscape? found
  rfl

theorem string_scan_eq {c : Char} (quote : c ≠ '"') (cs : Text) :
    QuotedString.scan c cs = ((sequenceOpen? (c :: cs)).or ((QuotedString.lineBreak? (c :: cs)).or
      (QuotedString.faultyEscape? (c :: cs)))).getD (literal QuotedString.unit? (c :: cs)) := by
  have noQuote : QuotedString.closeQuote? (c :: cs) = none := by
    simp [QuotedString.closeQuote?, quote]
  rw [QuotedString.scan, Scan.first?, QuotedString.rules]
  simp only [List.findSome?_cons, List.findSome?_nil, noQuote]
  cases sequenceOpen? (c :: cs) <;> cases QuotedString.lineBreak? (c :: cs) <;>
    cases QuotedString.faultyEscape? (c :: cs) <;> rfl

theorem literalRun_stops {unit? : Char → Text → Option Nat} {tail : Text} {pending : Nat}
    {piece : Text} (run : literalRun unit? pending (piece ++ tail) = piece) :
    tail = [] ∨ ∃ c cs, tail = c :: cs ∧ unit? c cs = none := by
  induction piece generalizing pending with
  | nil =>
    cases tail with
    | nil => exact .inl rfl
    | cons c cs => exact .inr ⟨c, cs, rfl, (literalRun_cons_eq_nil_iff.mp run).2⟩
  | cons c cs ih =>
    rw [List.cons_append] at run
    cases pending with
    | succ pending => exact ih (List.tail_eq_of_cons_eq run)
    | zero =>
      rw [literalRun] at run
      split at run
      · cases run
      · exact ih (List.tail_eq_of_cons_eq run)

theorem linesAgree_of_line {lexeme tail tail' : Text} (behind : SeenBehind lexeme tail tail')
    (noReturn : tail ≠ ['\r']) (isLine : Text.line (lexeme ++ tail) = lexeme) :
    LinesAgree (Text.line (lexeme ++ tail)) (Text.line (lexeme ++ tail')) := by
  obtain ⟨text, rest, split, -, ends, trimmed⟩ := startsWithLine_iff.mpr isLine.symm
  have breaks : tail = [] ∨ atLineBreak tail := by
    rcases trimmed with rfl | ⟨rfl, -⟩
    · rw [List.append_assoc] at split
      obtain rfl := List.append_cancel_left split
      rcases ends with rfl | feed
      · exact absurd rfl noReturn
      · obtain ⟨rest, rfl⟩ := List.head?_eq_some_iff.mp feed
        exact .inr rfl
    · obtain rfl := List.append_cancel_left split
      rcases ends with rfl | feed
      · exact .inl rfl
      · obtain ⟨rest, rfl⟩ := List.head?_eq_some_iff.mp feed
        exact .inr rfl
  rcases breaks with rfl | breaks
  · rw [List.isEmpty_iff.mp (behind.alike.isEmpty_eq.trans rfl)]
    exact .same _
  · exact linesAgree_lineBreak behind breaks

theorem linesAgree_of_literal {lexeme tail tail' : Text} (behind : SeenBehind lexeme tail tail')
    (spaced : tail'.head? = some ' ' → tail.head? = some ' ')
    (run : literalRun sharedUnit? 0 (lexeme ++ tail) = lexeme) :
    LinesAgree (Text.line (lexeme ++ tail)) (Text.line (lexeme ++ tail')) := by
  rcases literalRun_stops run with rfl | ⟨c, cs, rfl, stops⟩
  · rw [List.isEmpty_iff.mp (behind.alike.isEmpty_eq.trans rfl)]
    exact .same _
  · by_cases breaks : atLineBreak (c :: cs)
    · exact linesAgree_lineBreak behind breaks
    · have noBreak : lineBreak? (c :: cs) = none := by simpa [atLineBreak] using breaks
      cases opened : sequenceOpen? (c :: cs) with
      | none =>
        have unit := isSome_sharedUnit? noBreak opened
        rw [stops] at unit
        cases unit
      | some found =>
        have isSign := sign_of_sequenceOpen? opened
        have other : c ∉ stopSigns := by
          have plain : ∀ sign ∈ sequenceSigns, sign ∉ stopSigns :=
            List.all_iff_forall_prop.mp (by decide)
          exact plain c isSign
        obtain ⟨cs', rfl⟩ := List.head?_eq_some_iff.mp
          ((behind.alike.head?_eq_some_iff other).mpr rfl)
        exact linesAgree_sign _ _ _ isSign

theorem closingLine?_alike {heredoc : Heredoc} (name : IsIdentifier heredoc.terminator)
    {t t' : Text} (agree : LinesAgree (Text.line t) (Text.line t')) :
    HeredocBody.closingLine? heredoc t' = HeredocBody.closingLine? heredoc t := by
  rw [HeredocBody.closingLine?, HeredocBody.closingLine?, agree.closesAt name]
  by_cases closes : heredoc.closesAt (Text.line t)
  · rw [agree.eq_of_closesAt name closes]
  · simp [closes]

section

variable {tail tail' piece : Text} {c : Char} {scan : Scan} (whole : scan.lexeme = c :: piece)
  (behind : SeenBehind (c :: piece) tail tail')

include whole behind

theorem literal_append {unit? : Char → Text → Option Nat} (units : ReadsUnits unit?)
    (spaced : tail'.head? = some ' ' → tail.head? = some ' ')
    (scanned : literal unit? (c :: (piece ++ tail)) = scan) :
    literal unit? (c :: (piece ++ tail')) = scan := by
  subst scanned
  have run := literalRun_append_alike units behind spaced whole
  rw [literal, ← List.cons_append, run, ← whole, literal]

variable (spaced : scan.move = .stay → tail'.head? = some ' ' → tail.head? = some ' ')

include spaced

theorem string_scan_append (scanned : QuotedString.scan c (piece ++ tail) = scan) :
    QuotedString.scan c (piece ++ tail') = scan := by
  have seen := behind.of_cons.append
  by_cases quote : c = '"'
  · subst quote
    exact scanned
  have breaks : QuotedString.lineBreak? (c :: (piece ++ tail')) =
      QuotedString.lineBreak? (c :: (piece ++ tail)) := by
    rw [QuotedString.lineBreak?, QuotedString.lineBreak?, behind.lineBreak?_cons]
  rw [string_scan_eq quote] at scanned ⊢
  rw [sequenceOpen?_alike seen, breaks]
  generalize sequenceOpen? (c :: (piece ++ tail)) = opened at scanned ⊢
  generalize QuotedString.lineBreak? (c :: (piece ++ tail)) = broken at scanned ⊢
  cases opened with
  | some found => exact scanned
  | none =>
  cases broken with
  | some found => exact scanned
  | none =>
  rw [Option.none_or, Option.none_or] at scanned ⊢
  have stays : scan.move = .stay := by
    rw [← scanned]
    cases faulty : QuotedString.faultyEscape? (c :: (piece ++ tail)) with
    | some found => exact faultyEscape?_stays faulty
    | none => rfl
  have spaced := spaced stays
  have spacedBehind : (piece ++ tail').head? = some ' ' → (piece ++ tail).head? = some ' ' := by
    cases piece with
    | nil => exact spaced
    | cons => exact id
  rw [faultyEscape?_alike seen spacedBehind]
  cases faulty : QuotedString.faultyEscape? (c :: (piece ++ tail)) with
  | some found =>
    rw [faulty] at scanned
    exact scanned
  | none =>
    rw [faulty] at scanned
    exact literal_append whole behind readsUnits_unit? spaced scanned

theorem heredoc_linesAgree {heredoc heredoc' : Heredoc} (noReturn : tail ≠ ['\r'])
    (scanned : HeredocBody.scan heredoc c (piece ++ tail) = (heredoc', scan)) :
    LinesAgree (Text.line (c :: (piece ++ tail))) (Text.line (c :: (piece ++ tail'))) := by
  rw [HeredocBody.scan, HeredocBody.closingLine?] at scanned
  by_cases closing : heredoc.atLineStart && heredoc.closesAt (Text.line (c :: (piece ++ tail)))
  · rw [if_pos closing] at scanned
    have isLine : Text.line (c :: piece ++ tail) = c :: piece := by
      cases scanned
      exact whole
    exact linesAgree_of_line behind noReturn isLine
  · rw [if_neg closing] at scanned
    dsimp only at scanned
    rw [HeredocBody.scanLine] at scanned
    cases broken : newline? (c :: (piece ++ tail)) with
    | some found =>
      obtain ⟨lexeme, breaks, -⟩ := Option.map_eq_some_iff.mp broken
      have none : SeenBehind [] (c :: piece ++ tail) (c :: piece ++ tail') :=
        ⟨behind.append, fun member => absurd member List.not_mem_nil⟩
      exact linesAgree_lineBreak none (Option.isSome_of_eq_some breaks)
    | none =>
      rw [broken] at scanned
      cases opened : sequenceOpen? (c :: (piece ++ tail)) with
      | some found => exact linesAgree_sign [] _ _ (sign_of_sequenceOpen? opened)
      | none =>
        rw [opened] at scanned
        have text : literal sharedUnit? (c :: (piece ++ tail)) = scan := congrArg Prod.snd scanned
        have run : literalRun sharedUnit? 0 (c :: piece ++ tail) = c :: piece := by
          rw [← text] at whole
          exact whole
        exact linesAgree_of_literal behind (spaced (by rw [← text]; rfl)) run

theorem scanLine_append {heredoc heredoc' : Heredoc}
    (scanned : HeredocBody.scanLine heredoc (c :: (piece ++ tail)) = (heredoc', scan)) :
    HeredocBody.scanLine heredoc (c :: (piece ++ tail')) = (heredoc', scan) := by
  have seen := behind.of_cons.append
  rw [HeredocBody.scanLine] at scanned ⊢
  rw [newline?_alike behind.lineBreak?_cons, sequenceOpen?_alike seen]
  cases broken : newline? (c :: (piece ++ tail)) with
  | some found =>
    rw [broken] at scanned
    exact scanned
  | none =>
    rw [broken] at scanned
    cases opened : sequenceOpen? (c :: (piece ++ tail)) with
    | some found =>
      rw [opened] at scanned
      exact scanned
    | none =>
      rw [opened] at scanned
      have text : literal sharedUnit? (c :: (piece ++ tail)) = scan := congrArg Prod.snd scanned
      have spaced := spaced (by rw [← text]; rfl)
      have text' := literal_append whole behind readsUnits_sharedUnit? spaced text
      rw [Option.getD_none] at scanned ⊢
      rw [text']
      rwa [text] at scanned

theorem heredoc_scan_append {heredoc heredoc' : Heredoc} (name : IsIdentifier heredoc.terminator)
    (noReturn : tail ≠ ['\r'])
    (scanned : HeredocBody.scan heredoc c (piece ++ tail) = (heredoc', scan)) :
    HeredocBody.scan heredoc c (piece ++ tail') = (heredoc', scan) := by
  have agree := heredoc_linesAgree whole behind spaced noReturn scanned
  have entered : HeredocBody.enterLine heredoc (c :: (piece ++ tail')) =
      HeredocBody.enterLine heredoc (c :: (piece ++ tail)) := by
    rw [HeredocBody.enterLine, HeredocBody.enterLine, agree.noteLine]
  rw [HeredocBody.scan] at scanned ⊢
  rw [closingLine?_alike name agree, entered]
  cases closing : HeredocBody.closingLine? heredoc (c :: (piece ++ tail)) with
  | some found =>
    rw [closing] at scanned
    exact scanned
  | none =>
    rw [closing] at scanned
    exact scanLine_append whole behind spaced scanned

end

end Lexeme

namespace Mode

open Text Lexeme

variable {mode mode' : Mode} {scan : Scan} {tail tail' : Text}

/-- A lexeme in front of a text is read in front of every text that is seen alike, unless a gap
comes to stand behind blanks or behind text of a template. -/
theorem Scans.of_seenBehind (scans : mode.Scans mode' scan tail) (named : mode.NamesIdentifier)
    (behind : SeenBehind scan.lexeme tail tail')
    (spaced : scan.kind = .whitespace ∨ ¬ mode.readsExpressions ∧ scan.move = .stay →
      tail'.head? = some ' ' → tail.head? = some ' ')
    (noReturn : tail ≠ ['\r']) : mode.Scans mode' scan tail' := by
  obtain ⟨c, cs, shape, scanned⟩ := scans
  have covers := Mode.scan_covers named.isNamed c cs
  rw [scanned] at covers
  obtain ⟨d, piece, whole⟩ := List.exists_cons_of_ne_nil covers.nonempty
  rw [whole, List.cons_append] at shape
  obtain ⟨rfl, rfl⟩ := List.cons_eq_cons.mp shape
  refine ⟨d, piece ++ tail', by rw [whole]; rfl, ?_⟩
  rw [whole] at behind
  have apart : scan.kind = .whitespace → tail'.head? = some ' ' → tail.head? = some ' ' :=
    fun blank => spaced (.inl blank)
  have inText (template : ¬ mode.readsExpressions) (stays : scan.move = .stay) :
      tail'.head? = some ' ' → tail.head? = some ' ' := spaced (.inr ⟨template, stays⟩)
  cases mode with
  | structural =>
    cases scanned
    rw [Mode.scan, body_scan_append whole behind apart rfl]
  | quotedTemplate =>
    cases scanned
    rw [Mode.scan, string_scan_append whole behind (inText Bool.false_ne_true) rfl]
  | heredocTemplate heredoc =>
    rcases found : HeredocBody.scan heredoc d (piece ++ tail) with ⟨heredoc', other⟩
    simp only [Mode.scan, found, Prod.mk.injEq] at scanned
    obtain ⟨rfl, rfl⟩ := scanned
    rw [Mode.scan,
      heredoc_scan_append whole behind (inText Bool.false_ne_true) named noReturn found]
  | interpolation depth =>
    rcases found : Sequence.scan depth d (piece ++ tail) with ⟨depth', other⟩
    simp only [Mode.scan, found, Prod.mk.injEq] at scanned
    obtain ⟨rfl, rfl⟩ := scanned
    rw [Mode.scan, sequence_scan_append whole behind apart found]

end Mode

end HclLexis
