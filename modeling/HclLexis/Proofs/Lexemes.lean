import HclLexis.Proofs.Document

/-! What the rules make of a text whose first lexeme is known: each lexeme that documents are
written in is read whole, and no further, in front of what documents put behind it. -/

namespace HclLexis

open Lexeme Rules Document

/-- The mode scans a lexeme in front of `tail`, and is left as `mode'`. -/
def Mode.Scans (mode mode' : Mode) (scan : Scan) (tail : Text) : Prop :=
  ∃ c cs, scan.lexeme ++ tail = c :: cs ∧ mode.scan c cs = (mode', scan)

theorem Text.ne_of_any_eq_false {signs : Text} {p : Char → Bool} (fail : signs.any p = false)
    {c : Char} (pass : p c) : ∀ d ∈ signs, c ≠ d := by
  rintro d sign rfl
  exact List.any_eq_false.mp fail c sign pass

theorem Text.takeWhile_append_stop {p : Char → Bool} {s rest : Text} (all : ∀ c ∈ s, p c)
    (stops : rest.takeWhile p = []) : (s ++ rest).takeWhile p = s := by
  rw [List.takeWhile_append_of_pos all, stops, List.append_nil]

theorem Text.dropWhile_append_stop {p : Char → Bool} {s rest : Text} (all : ∀ c ∈ s, p c)
    (stops : rest.takeWhile p = []) : (s ++ rest).dropWhile p = rest := by
  have parts : rest.takeWhile p ++ rest.dropWhile p = rest := List.takeWhile_append_dropWhile
  rw [stops, List.nil_append] at parts
  rw [List.dropWhile_append_of_pos all, parts]

theorem Text.takeWhile_append_cons_stop {p : Char → Bool} {c : Char} (stops : p c = false)
    (s rest : Text) : (s ++ c :: rest).takeWhile p = s.takeWhile p := by
  induction s with
  | nil => simp [stops]
  | cons d s ih => simp [List.takeWhile_cons, ih]

theorem Text.line_append_feed {t : Text} (inLine : ∀ c ∈ t, c ≠ '\n' ∧ c ≠ '\r') (tail : Text) :
    line (t ++ '\n' :: tail) = t := by
  have taken : (t ++ '\n' :: tail).takeWhile (fun c => c != '\n') = t :=
    takeWhile_append_stop (fun c member => bne_iff_ne.mpr (inLine c member).1) rfl
  have noReturn : t.getLast? ≠ some '\r' := fun last =>
    (inLine '\r' (List.mem_of_getLast? last)).2 rfl
  rw [line, taken]
  exact if_neg noReturn

theorem Text.line_append_cons {t : Text} (noFeed : ∀ c ∈ t, c ≠ '\n') {sign : Char}
    (feed : sign ≠ '\n') (carriage : sign ≠ '\r') (rest : Text) :
    ∃ more, line (t ++ sign :: rest) = t ++ sign :: more := by
  have taken : (t ++ sign :: rest).takeWhile (fun c => c != '\n') =
      t ++ sign :: rest.takeWhile (fun c => c != '\n') := by
    have kept : (sign != '\n') = true := bne_iff_ne.mpr feed
    rw [List.takeWhile_append_of_pos fun c member => bne_iff_ne.mpr (noFeed c member),
      List.takeWhile_cons, if_pos kept]
  rw [line, taken]
  generalize rest.takeWhile (fun c => c != '\n') = more
  split
  · rename_i last
    cases more with
    | nil => simp [carriage] at last
    | cons c cs =>
      refine ⟨(c :: cs).dropLast, ?_⟩
      rw [List.dropLast_append_of_ne_nil (List.cons_ne_nil sign _)]
      rfl
  · exact ⟨more, rfl⟩

namespace Lexeme

def startsWord (c : Char) : Bool := isIdentifierStart c || c.isDigit

/-- Characters that mean something to the rules that are tried before those for words, or to a
sequence. -/
def tokenSigns : Text := ['<', '\n', '\r', ' ', '\t', '#', '/', '"', '{', '}', '~']

theorem ne_of_startsWord {c : Char} (word : startsWord c) : ∀ d ∈ tokenSigns, c ≠ d := by
  have fail : tokenSigns.any startsWord = false := by decide
  exact Text.ne_of_any_eq_false fail word

theorem not_isIdentifierStart_of_isDigit {c : Char} (digit : c.isDigit) :
    isIdentifierStart c = false := by
  have checked : ∀ n ≤ '9'.toNat, '0'.toNat ≤ n → isIdentifierStart (Char.ofNat n) = false := by
    decide
  obtain ⟨low, high⟩ := Char.isDigit_iff_toNat.mp digit
  have found := checked c.toNat high low
  rwa [Char.ofNat_toNat] at found

theorem identifier_append {name rest : Text} (isIdentifier : IsIdentifier name)
    (stops : rest.takeWhile isIdentifierContinue = []) : identifier (name ++ rest) = name := by
  obtain ⟨c, cs, rfl, start, continued⟩ := isIdentifier
  rw [List.cons_append, identifier, if_pos start, Text.takeWhile_append_stop continued stops]

theorem takeWhile_digits (digits : Digits) {rest : Text}
    (stops : rest.takeWhile Char.isDigit = []) :
    (digits.text ++ rest).takeWhile Char.isDigit = digits.text :=
  Text.takeWhile_append_stop digits.all stops

theorem dropWhile_digits (digits : Digits) {rest : Text}
    (stops : rest.takeWhile Char.isDigit = []) :
    (digits.text ++ rest).dropWhile Char.isDigit = rest :=
  Text.dropWhile_append_stop digits.all stops

theorem exponentSign_append {sign : Text} (isSign : sign = [] ∨ sign = ['+'] ∨ sign = ['-'])
    (digits : Digits) (rest : Text) : exponentSign (sign ++ (digits.text ++ rest)) = sign := by
  rcases isSign with rfl | rfl | rfl
  · obtain ⟨d, ds, same, digit⟩ := digits.exists_text_eq_cons
    have plus : d ≠ '+' := by
      rintro rfl
      cases digit
    have minus : d ≠ '-' := by
      rintro rfl
      cases digit
    simp [same, exponentSign, plus, minus]
  · rfl
  · rfl

theorem numberTail_marker {marker : Char} (isMarker : marker = 'e' ∨ marker = 'E')
    {rest behind : Text} (split : exponentSign rest ++ behind = rest) (mantissa : Text) :
    numberTail mantissa (marker :: rest) = {
      kind := if (behind.takeWhile Char.isDigit).isEmpty then .error .malformedNumber else .number
      lexeme := mantissa ++ marker :: (exponentSign rest ++ behind.takeWhile Char.isDigit) } := by
  have digits : (exponentSign rest ++ behind).drop (exponentSign rest).length = behind :=
    List.drop_left
  rw [split] at digits
  rw [numberTail, if_pos (by simpa using isMarker)]
  simp only [digits]

theorem numberTail_exponent (mantissa : Text) (exponent : Exponent) {tail : Text}
    (stops : tail.takeWhile Char.isDigit = []) :
    numberTail mantissa (exponent.text ++ tail) =
      { kind := .number, lexeme := mantissa ++ exponent.text } := by
  obtain ⟨marker, sign, digits, isMarker, isSign⟩ := exponent
  have signed := exponentSign_append isSign digits tail
  have split : exponentSign (sign ++ (digits.text ++ tail)) ++ (digits.text ++ tail) =
      sign ++ (digits.text ++ tail) := by rw [signed]
  have shape : Exponent.text ⟨marker, sign, digits, isMarker, isSign⟩ ++ tail =
      marker :: (sign ++ (digits.text ++ tail)) := by simp [Exponent.text]
  rw [shape, numberTail_marker isMarker split, signed, takeWhile_digits digits stops,
    if_neg (by simpa using digits.nonempty)]
  rfl

def exponentText (exponent : Option Exponent) (tail : Text) : Text :=
  exponent.elim [] Exponent.text ++ ' ' :: tail

theorem numberTail_exponentText (mantissa : Text) (exponent : Option Exponent) (tail : Text) :
    numberTail mantissa (exponentText exponent tail) =
      { kind := .number, lexeme := mantissa ++ exponent.elim [] Exponent.text } := by
  cases exponent with
  | none => simp [exponentText, numberTail]
  | some exponent => exact numberTail_exponent mantissa exponent rfl

theorem exponentText_stops (exponent : Option Exponent) (tail : Text) :
    (exponentText exponent tail).takeWhile Char.isDigit = [] ∧
      ∀ rest, exponentText exponent tail ≠ '.' :: rest := by
  cases exponent with
  | none => exact ⟨rfl, nofun⟩
  | some exponent =>
    obtain ⟨marker, sign, digits, isMarker, isSign⟩ := exponent
    rcases isMarker with rfl | rfl
    · exact ⟨rfl, nofun⟩
    · exact ⟨rfl, nofun⟩

theorem number_decimal {whole : Digits} {fraction : Option Digits} {behind : Text}
    (stops : behind.takeWhile Char.isDigit = []) (noPoint : ∀ rest, behind ≠ '.' :: rest) :
    number ((whole.text ++ fraction.elim [] fun digits => '.' :: digits.text) ++ behind) =
      numberTail (whole.text ++ fraction.elim [] fun digits => '.' :: digits.text) behind := by
  cases fraction with
  | none =>
    rw [Option.elim_none, List.append_nil, number, takeWhile_digits whole stops,
      dropWhile_digits whole stops]
    split
    · rename_i point
      exact absurd rfl (noPoint _)
    · rfl
  | some digits =>
    have fraction := takeWhile_digits digits stops
    have rest := dropWhile_digits digits stops
    obtain ⟨d, ds, same, digit⟩ := digits.exists_text_eq_cons
    rw [Option.elim_some, List.append_assoc, List.cons_append, number, takeWhile_digits whole rfl,
      dropWhile_digits whole rfl]
    rw [same, List.cons_append] at fraction rest ⊢
    change (if d.isDigit then _ else _) = _
    rw [if_pos digit, fraction, rest]

theorem number_append (numeral : Numeral) (tail : Text) :
    number (numeral.text ++ ' ' :: tail) = { kind := .number, lexeme := numeral.text } := by
  obtain ⟨whole, fraction, exponent⟩ := numeral
  obtain ⟨stops, noPoint⟩ := exponentText_stops exponent tail
  rw [Numeral.text, List.append_assoc]
  exact (number_decimal stops noPoint).trans (numberTail_exponentText _ exponent tail)

def lineSigns : Text := ['$', '%', '\n', '\r', ' ', '\t']

theorem IsIdentifier.ne_of_mem {name : Text} (isIdentifier : IsIdentifier name) {c : Char}
    (member : c ∈ name) : ∀ d ∈ lineSigns, c ≠ d := by
  have fail : lineSigns.any (fun d => isIdentifierStart d || isIdentifierContinue d) = false := by
    decide
  have pass : isIdentifierStart c || isIdentifierContinue c := by
    obtain ⟨start, cs, rfl, starts, continued⟩ := isIdentifier
    rcases List.mem_cons.mp member with rfl | member
    · rw [starts, Bool.true_or]
    · rw [continued c member, Bool.or_true]
  exact Text.ne_of_any_eq_false fail pass

theorem IsIdentifier.dropWhile_isIndent {name : Text} (isIdentifier : IsIdentifier name) :
    name.dropWhile Text.isIndent = name := by
  obtain ⟨c, cs, rfl⟩ := List.exists_cons_of_ne_nil isIdentifier.ne_nil
  have other := isIdentifier.ne_of_mem List.mem_cons_self
  have blank := other ' ' (by decide)
  have tab := other '\t' (by decide)
  simp [Text.isIndent, blank, tab]

theorem body_scan_word {c : Char} (word : startsWord c) (cs : Text) :
    Body.scan c cs = (Scan.first? [identifier?, number?, operator?] (c :: cs)).getD
      (Body.unrecognized c) := by
  have other := ne_of_startsWord word
  simp only [tokenSigns, List.forall_mem_cons] at other
  obtain ⟨less, feed, carriage, blank, tab, hash, slash, quote, -⟩ := other
  simp [Body.scan, Scan.first?, Body.rules, heredocOpen?, newline?, Text.lineBreak?, blanks?,
    startsBlank, Text.isIndent, lineComment?, startsLineComment, blockComment?, Body.openQuote?,
    less, feed, carriage, blank, tab, hash, slash, quote]

theorem body_scan_of_isDigit {c : Char} (digit : c.isDigit) (cs : Text) :
    Body.scan c cs = number (c :: cs) := by
  have word : startsWord c := by simp [startsWord, digit]
  have noName : identifier (c :: cs) = [] := by
    rw [identifier, if_neg (by simp [not_isIdentifierStart_of_isDigit digit])]
  rw [body_scan_word word]
  simp [Scan.first?, identifier?, noName, number?, digit]

theorem heredocOpen?_append (stripIndent : Bool) {terminator tail : Text}
    (name : IsIdentifier terminator) (ends : tail = [] ∨ Text.atLineBreak tail) :
    heredocOpen? (heredocMarker stripIndent ++ terminator ++ tail) = some {
      kind := .heredocOpen stripIndent
      lexeme := heredocMarker stripIndent ++ terminator
      move := .enter (.heredocTemplate { terminator, stripIndent }) } := by
  have stops : tail.takeWhile isIdentifierContinue = [] := by
    rcases ends with rfl | breaks
    · rfl
    · obtain ⟨lexeme, found⟩ := Option.isSome_iff_exists.mp breaks
      obtain ⟨rest, split⟩ := (Text.lineBreak?_isPrefix found).2
      unfold Text.lineBreak? at found
      split at found <;> cases found <;> rfl
  have whole : identifier (terminator ++ tail) = terminator := identifier_append name stops
  have ended : (tail.isEmpty || Text.atLineBreak tail) = true := by simpa using ends
  have named : heredocNamed? (heredocMarker stripIndent) stripIndent (terminator ++ tail) = some {
      kind := .heredocOpen stripIndent
      lexeme := heredocMarker stripIndent ++ terminator
      move := .enter (.heredocTemplate { terminator, stripIndent }) } := by
    simp [heredocNamed?, whole, name.ne_nil, ended]
  rw [← named, List.append_assoc]
  cases stripIndent with
  | true => rfl
  | false =>
    obtain ⟨c, cs, rfl, start, -⟩ := name
    have hyphen : c ≠ '-' := by
      rintro rfl
      revert start
      decide
    simp [heredocMarker, heredocOpen?, hyphen]

theorem body_scan_of_heredocOpen? {c : Char} {cs : Text} {scan : Scan}
    (found : heredocOpen? (c :: cs) = some scan) : Body.scan c cs = scan := by
  rw [Body.scan, Scan.first?, Body.rules, List.findSome?_cons, found]
  rfl

theorem literalRun_append {unit? : Char → Text → Option Nat} {t rest : Text}
    (all : ∀ c ∈ t, ∀ cs, unit? c cs = some 0) (stops : literalRun unit? 0 rest = []) :
    literalRun unit? 0 (t ++ rest) = t := by
  induction t with
  | nil => exact stops
  | cons c cs ih =>
    have single := all c List.mem_cons_self (cs ++ rest)
    have others := ih fun d member => all d (List.mem_cons_of_mem c member)
    rw [List.cons_append, literalRun, single]
    simp only [others]

theorem ne_of_isHeredocText {c : Char} (text : isHeredocText c) :
    ∀ d ∈ ['$', '%', '\n', '\r'], c ≠ d := by
  have fail : ['$', '%', '\n', '\r'].any isHeredocText = false := by decide
  exact Text.ne_of_any_eq_false fail text

theorem ne_of_isStringText {c : Char} (text : isStringText c) : ∀ d ∈ ['"', '\\'], c ≠ d := by
  have fail : ['"', '\\'].any isStringText = false := by decide
  exact Text.ne_of_any_eq_false fail text

theorem starts_of_isHeredocText {c : Char} (text : isHeredocText c) (cs : Text) :
    Text.lineBreak? (c :: cs) = none ∧ sequenceOpen? (c :: cs) = none := by
  have other := ne_of_isHeredocText text
  simp only [List.forall_mem_cons] at other
  obtain ⟨dollar, percent, feed, carriage, -⟩ := other
  simp [Text.lineBreak?, sequenceOpen?, dollar, percent, feed, carriage]

theorem sharedUnit?_of_isHeredocText {c : Char} (text : isHeredocText c) (cs : Text) :
    sharedUnit? c cs = some 0 := by
  obtain ⟨noBreak, noOpen⟩ := starts_of_isHeredocText text cs
  have dollar := ne_of_isHeredocText text '$' (by decide)
  have percent := ne_of_isHeredocText text '%' (by decide)
  simp [sharedUnit?, Text.atLineBreak, opensSequence, noBreak, noOpen, isDoubledOpen, dollar.symm,
    percent.symm]

theorem unit?_of_isStringText {c : Char} (text : isStringText c) (cs : Text) :
    QuotedString.unit? c cs = some 0 := by
  have quote := ne_of_isStringText text '"' (by decide)
  have backslash := ne_of_isStringText text '\\' (by decide)
  rw [isStringText, Bool.and_eq_true] at text
  rw [QuotedString.unit?, if_neg quote, if_neg backslash, sharedUnit?_of_isHeredocText text.1]

end Lexeme

namespace Mode

variable {mode : Mode}

theorem scan_word (reads : mode.readsExpressions) {c : Char} (word : startsWord c) (cs : Text) :
    mode.scan c cs = (mode, Body.scan c cs) := by
  have other := ne_of_startsWord word
  cases mode with
  | structural => rfl
  | interpolation depth =>
    have opens := other '{' (by decide)
    have closes := other '}' (by decide)
    have strips := other '~' (by decide)
    simp [scan, Sequence.scan, opens, closes, strips]
  | quotedTemplate | heredocTemplate => cases reads

theorem scans_identifier (reads : mode.readsExpressions) (name : Name) (tail : Text) :
    mode.Scans mode { kind := .ident, lexeme := name.text } (' ' :: tail) := by
  have whole : identifier (name.text ++ ' ' :: tail) = name.text :=
    identifier_append name.isIdentifier rfl
  have nonempty := name.isIdentifier.ne_nil
  obtain ⟨c, cs, same, start, -⟩ := name.isIdentifier
  have word : startsWord c := by simp [startsWord, start]
  rw [same, List.cons_append] at whole
  rw [same] at nonempty ⊢
  refine ⟨c, cs ++ ' ' :: tail, rfl, ?_⟩
  rw [scan_word reads word, body_scan_word word]
  simp [Scan.first?, identifier?, whole]

theorem scans_number (reads : mode.readsExpressions) (numeral : Numeral) (tail : Text) :
    mode.Scans mode { kind := .number, lexeme := numeral.text } (' ' :: tail) := by
  have whole := number_append numeral tail
  obtain ⟨d, ds, same, digit⟩ := numeral.exists_text_eq_cons
  have word : startsWord d := by simp [startsWord, digit]
  rw [same] at whole ⊢
  refine ⟨d, ds ++ ' ' :: tail, rfl, ?_⟩
  rw [scan_word reads word, body_scan_of_isDigit digit, ← List.cons_append, whole]

theorem scans_space (reads : mode.readsExpressions) {tail : Text}
    (noBlank : startsBlank tail = false) :
    mode.Scans mode { kind := .whitespace, lexeme := [' '] } tail := by
  have alone : blanks? (' ' :: tail) = some { kind := .whitespace, lexeme := [' '] } := by
    have starts : startsBlank (' ' :: tail) = true := rfl
    have stops : Text.takeBefore (fun rest => !startsBlank rest) tail = [] := by
      cases tail with
      | nil => rfl
      | cons c cs => rw [Text.takeBefore, noBlank]; rfl
    rw [blanks?, if_pos starts, Text.takeBefore, starts, stops]
    rfl
  have scanned : Body.scan ' ' tail = { kind := .whitespace, lexeme := [' '] } := by
    simp [Body.scan, Scan.first?, Body.rules, heredocOpen?, newline?, Text.lineBreak?, alone]
  refine ⟨' ', tail, rfl, ?_⟩
  cases mode with
  | structural => rw [← scanned]; rfl
  | interpolation depth => rw [← scanned]; rfl
  | quotedTemplate | heredocTemplate => cases reads

theorem scans_newline (reads : mode.readsExpressions) (tail : Text) :
    mode.Scans mode { kind := .newline, lexeme := ['\n'] } tail := by
  refine ⟨'\n', tail, rfl, ?_⟩
  cases mode with
  | structural | interpolation => rfl
  | quotedTemplate | heredocTemplate => cases reads

theorem scans_openQuote (reads : mode.readsExpressions) (tail : Text) :
    mode.Scans mode { kind := .openQuote, lexeme := ['"'], move := .enter .quotedTemplate }
      tail := by
  refine ⟨'"', tail, rfl, ?_⟩
  cases mode with
  | structural | interpolation => rfl
  | quotedTemplate | heredocTemplate => cases reads

theorem scans_heredocOpen (reads : mode.readsExpressions) (stripIndent : Bool) (name : Name)
    (tail : Text) :
    mode.Scans mode
      { kind := .heredocOpen stripIndent
        lexeme := heredocMarker stripIndent ++ name.text
        move := .enter (.heredocTemplate { terminator := name.text, stripIndent }) }
      ('\n' :: tail) := by
  obtain ⟨cs, starts⟩ : ∃ cs, heredocMarker stripIndent ++ name.text ++ '\n' :: tail =
      '<' :: '<' :: cs := by
    cases stripIndent <;> exact ⟨_, rfl⟩
  have ends : ('\n' :: tail : Text) = [] ∨ Text.atLineBreak ('\n' :: tail) := .inr rfl
  have found := heredocOpen?_append stripIndent name.isIdentifier ends
  refine ⟨'<', '<' :: cs, starts, ?_⟩
  rw [starts] at found
  have scanned := body_scan_of_heredocOpen? found
  cases mode with
  | structural => rw [← scanned]; rfl
  | interpolation depth => rw [← scanned]; rfl
  | quotedTemplate | heredocTemplate => cases reads

theorem exists_scans_braces (reads : mode.readsExpressions) :
    ∃ inner : Mode, inner.readsExpressions ∧
      (∀ tail, mode.Scans inner { kind := .openBrace, lexeme := ['{'] } tail) ∧
      ∀ tail, inner.Scans mode { kind := .closeBrace, lexeme := ['}'] } tail := by
  cases mode with
  | structural =>
    exact ⟨.structural, rfl, fun tail => ⟨'{', tail, rfl, rfl⟩, fun tail => ⟨'}', tail, rfl, rfl⟩⟩
  | interpolation depth =>
    exact ⟨.interpolation (depth + 1), rfl, fun tail => ⟨'{', tail, rfl, rfl⟩,
      fun tail => ⟨'}', tail, rfl, rfl⟩⟩
  | quotedTemplate | heredocTemplate => cases reads

theorem scans_sequenceEnd (tail : Text) :
    Scans (.interpolation 0) (.interpolation 0)
      { kind := .templateSeqEnd, lexeme := ['}'], move := .leave } tail :=
  ⟨'}', tail, rfl, rfl⟩

theorem scans_closeQuote (tail : Text) :
    Scans .quotedTemplate .quotedTemplate
      { kind := .closeQuote, lexeme := ['"'], move := .leave } tail :=
  ⟨'"', tail, rfl, rfl⟩

theorem scan_heredocLine {heredoc : Heredoc} {c : Char} {cs : Text}
    (noTerminator : heredoc.atLineStart → ¬ heredoc.closesAt (Text.line (c :: cs))) :
    (heredocTemplate heredoc).scan c cs =
      let entered := HeredocBody.enterLine heredoc (c :: cs)
      let (heredoc, scan) := HeredocBody.scanLine entered (c :: cs)
      (.heredocTemplate heredoc, scan) := by
  have noClose : HeredocBody.closingLine? heredoc (c :: cs) = none := by
    rw [HeredocBody.closingLine?, if_neg (by simpa using noTerminator)]
  rw [scan, HeredocBody.scan, noClose]

theorem scan_insideLine {heredoc : Heredoc} (inside : heredoc.atLineStart = false) (c : Char)
    (cs : Text) :
    (heredocTemplate heredoc).scan c cs =
      let (heredoc, scan) := HeredocBody.scanLine heredoc (c :: cs)
      (.heredocTemplate heredoc, scan) := by
  have stays : HeredocBody.enterLine heredoc (c :: cs) = heredoc := by
    rw [HeredocBody.enterLine, if_neg (by simp [inside])]
  rw [scan_heredocLine (by simp [inside]), stays]

/-- A mode in which text stands between sequences, with the characters of its text and the one
that ends it. -/
inductive IsTemplate : Mode → (Char → Bool) → Char → Prop
  | string : IsTemplate .quotedTemplate isStringText '"'
  | heredocLine {heredoc : Heredoc} (inside : heredoc.atLineStart = false) :
      IsTemplate (.heredocTemplate heredoc) isHeredocText '\n'

variable {isText : Char → Bool} {closing : Char}

theorem IsTemplate.scans_sequenceOpen (template : mode.IsTemplate isText closing)
    (isControl : Bool) (tail : Text) :
    mode.Scans mode
      { kind := sequenceKind isControl
        lexeme := sequenceMarker isControl
        move := .enter (.interpolation 0) }
      (' ' :: tail) := by
  cases template with
  | string =>
    cases isControl with
    | false => exact ⟨_, _, rfl, rfl⟩
    | true => exact ⟨_, _, rfl, rfl⟩
  | heredocLine inside =>
    cases isControl with
    | false => exact ⟨_, _, rfl, scan_insideLine inside _ _⟩
    | true => exact ⟨_, _, rfl, scan_insideLine inside _ _⟩

def EndsText (closing : Char) (tail : Text) : Prop :=
  (∃ rest, tail = closing :: rest) ∨ ∃ isControl rest, tail = sequenceMarker isControl ++ rest

theorem IsTemplate.scans_text (template : mode.IsTemplate isText closing) {t tail : Text}
    (nonempty : t ≠ []) (all : ∀ c ∈ t, isText c) (ends : EndsText closing tail) :
    mode.Scans mode { kind := .templateLiteral, lexeme := t } tail := by
  obtain ⟨c, cs, rfl⟩ := List.exists_cons_of_ne_nil nonempty
  have first := all c List.mem_cons_self
  refine ⟨c, cs ++ tail, rfl, ?_⟩
  cases template with
  | string =>
    have units : ∀ d ∈ c :: cs, ∀ rest, QuotedString.unit? d rest = some 0 :=
      fun d member rest => unit?_of_isStringText (all d member) rest
    have stops : literalRun QuotedString.unit? 0 tail = [] := by
      obtain ⟨rest, rfl⟩ | ⟨isControl, rest, rfl⟩ := ends
      · rfl
      · cases isControl <;> rfl
    have whole := literalRun_append units stops
    have noRule : Scan.first? QuotedString.rules (c :: (cs ++ tail)) = none := by
      have quote := ne_of_isStringText first '"' (by decide)
      have backslash := ne_of_isStringText first '\\' (by decide)
      rw [isStringText, Bool.and_eq_true] at first
      obtain ⟨noBreak, noOpen⟩ := starts_of_isHeredocText first.1 (cs ++ tail)
      simp [Scan.first?, QuotedString.rules, noOpen, QuotedString.closeQuote?, quote,
        QuotedString.lineBreak?, noBreak, QuotedString.faultyEscape?, backslash]
    rw [scan, QuotedString.scan, noRule, Option.getD_none, literal, ← List.cons_append, whole]
  | heredocLine inside =>
    have units : ∀ d ∈ c :: cs, ∀ rest, sharedUnit? d rest = some 0 :=
      fun d member rest => sharedUnit?_of_isHeredocText (all d member) rest
    have stops : literalRun sharedUnit? 0 tail = [] := by
      obtain ⟨rest, rfl⟩ | ⟨isControl, rest, rfl⟩ := ends
      · rfl
      · cases isControl <;> rfl
    have whole := literalRun_append units stops
    obtain ⟨noBreak, noOpen⟩ := starts_of_isHeredocText first (cs ++ tail)
    rw [scan_insideLine inside, HeredocBody.scanLine, newline?, noBreak, Option.map_none]
    dsimp only
    rw [noOpen, Option.getD_none, literal, ← List.cons_append, whole]

theorem scans_lineBreak {heredoc : Heredoc} (inside : heredoc.atLineStart = false) (tail : Text) :
    Scans (.heredocTemplate heredoc) (.heredocTemplate { heredoc with atLineStart := true })
      { kind := .newline, lexeme := ['\n'] } tail :=
  ⟨'\n', tail, rfl, scan_insideLine inside '\n' tail⟩

theorem scans_heredocClose {heredoc : Heredoc} (lineStart : heredoc.atLineStart) {name : Name}
    (same : heredoc.terminator = name.text) (tail : Text) :
    Scans (.heredocTemplate heredoc) (.heredocTemplate heredoc)
      { kind := .heredocClose heredoc.closingIndent, lexeme := name.text, move := .leave }
      ('\n' :: tail) := by
  have line : Text.line (name.text ++ '\n' :: tail) = name.text := by
    refine Text.line_append_feed (fun c member => ?_) tail
    have other := name.isIdentifier.ne_of_mem member
    exact ⟨other '\n' (by decide), other '\r' (by decide)⟩
  obtain ⟨c, cs, shape⟩ := List.exists_cons_of_ne_nil name.isIdentifier.ne_nil
  have closes : heredoc.closesAt name.text := by
    rw [Heredoc.closesAt, name.isIdentifier.dropWhile_isIndent, ite_self, same, beq_self_eq_true]
  rw [shape] at line closes ⊢
  rw [List.cons_append] at line
  refine ⟨c, cs ++ '\n' :: tail, rfl, ?_⟩
  rw [scan, HeredocBody.scan, HeredocBody.closingLine?, line, lineStart, closes]
  rfl

end Mode

end HclLexis
