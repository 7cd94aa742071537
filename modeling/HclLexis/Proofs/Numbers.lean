import HclLexis.Proofs.StringUnits

/-! Numbers by the forms that they are written in, and that a body reads the longest of them. A
point without digits and an exponent without digits are errors, unless the point belongs to what
follows it. -/

namespace HclLexis

open Lexeme Rules Document

namespace Document

def decimalText (whole : Digits) (fraction : Option Digits) : Text :=
  whole.text ++ fraction.elim [] fun digits => '.' :: digits.text

def Digits.atHead (t : Text) (digit : t.takeWhile Char.isDigit ≠ []) : Digits :=
  ⟨t.takeWhile Char.isDigit, digit, List.all_eq_true.mp List.all_takeWhile⟩

theorem Digits.atHead_append (t : Text) (digit : t.takeWhile Char.isDigit ≠ []) :
    (atHead t digit).text ++ t.dropWhile Char.isDigit = t :=
  List.takeWhile_append_dropWhile

theorem Numeral.text_eq (whole : Digits) (fraction : Option Digits) (exponent : Option Exponent) :
    text ⟨whole, fraction, exponent⟩ =
      decimalText whole fraction ++ exponent.elim [] Exponent.text := rfl

end Document

namespace Text

structure LongestSplit (P : Text → Prop) (t piece behind : Text) : Prop where
  split : t = piece ++ behind
  holds : P piece
  longest : ∀ other, other <+: t → P other → other.length ≤ piece.length

theorem LongestSplit.unique {P : Text → Prop} {t piece behind piece' behind' : Text}
    (longest : LongestSplit P t piece behind) (longest' : LongestSplit P t piece' behind') :
    piece = piece' := by
  have isPrefix : piece <+: t := ⟨behind, longest.split.symm⟩
  have isPrefix' : piece' <+: t := ⟨behind', longest'.split.symm⟩
  have le := longest'.longest piece isPrefix longest.holds
  have ge := longest.longest piece' isPrefix' longest'.holds
  exact (List.prefix_of_prefix_length_le isPrefix isPrefix' le).eq_of_length_le ge

def IsDigits (t : Text) : Prop := ∃ digits : Digits, digits.text = t

def IsDecimal (t : Text) : Prop := ∃ whole fraction, decimalText whole fraction = t

def IsNumeral (t : Text) : Prop := ∃ numeral : Numeral, numeral.text = t

/-- A point in front of no digit, and of no identifier or point that it would go with. -/
def IsBarePoint (t : Text) : Prop :=
  ∃ rest, t = '.' :: rest ∧ ∀ c ∈ rest.head?, ¬ c.isDigit ∧ c ≠ '.' ∧ ¬ isIdentifierStart c

/-- An exponent marker, with the sign behind it if there is one, in front of no digit. -/
def IsBareExponent (lead tail : Text) : Prop :=
  ∃ marker sign, lead = marker :: sign ∧ (marker = 'e' ∨ marker = 'E') ∧
    (sign = ['+'] ∨ sign = ['-'] ∨ sign = [] ∧ ∀ c ∈ tail.head?, c ≠ '+' ∧ c ≠ '-') ∧
    ∀ c ∈ tail.head?, ¬ c.isDigit

variable {p : Char → Bool}

theorem takeWhile_eq_nil_iff_head? {t : Text} : t.takeWhile p = [] ↔ ∀ c ∈ t.head?, ¬ p c := by
  cases t with
  | nil => simp
  | cons c cs => simp [List.takeWhile_cons]

theorem takeWhile_dropWhile (t : Text) : (t.dropWhile p).takeWhile p = [] := by
  induction t with
  | nil => rfl
  | cons c cs ih =>
    rw [List.dropWhile_cons]
    split
    · exact ih
    · rename_i stops
      rw [List.takeWhile_cons, if_neg stops]

theorem isPrefix_takeWhile {s t : Text} (all : ∀ c ∈ s, p c) (isPrefix : s <+: t) :
    s <+: t.takeWhile p := by
  obtain ⟨rest, rfl⟩ := isPrefix
  rw [List.takeWhile_append_of_pos all]
  exact List.prefix_append s _

theorem takeWhile_unique {s whole rest behind : Text} (same : s ++ rest = whole ++ behind)
    (all : ∀ d ∈ s, p d) (stops : rest.takeWhile p = []) (wholeAll : ∀ d ∈ whole, p d)
    (wholeStops : behind.takeWhile p = []) : s = whole ∧ rest = behind := by
  have taken := congrArg (List.takeWhile p) same
  rw [takeWhile_append_stop all stops, takeWhile_append_stop wholeAll wholeStops] at taken
  subst taken
  exact ⟨rfl, List.append_cancel_left same⟩

theorem longestSplit_digits (digits : Digits) {behind : Text}
    (stops : behind.takeWhile Char.isDigit = []) :
    LongestSplit IsDigits (digits.text ++ behind) digits.text behind where
  split := rfl
  holds := ⟨digits, rfl⟩
  longest := by
    rintro other isPrefix ⟨digits', rfl⟩
    have taken := isPrefix_takeWhile digits'.all isPrefix
    rw [takeWhile_digits digits stops] at taken
    exact taken.length_le

theorem LongestSplit.noDigit {t piece behind : Text}
    (longest : LongestSplit IsNumeral t piece behind) : ∀ c ∈ behind.head?, ¬ c.isDigit := by
  intro d head digit
  obtain ⟨rest, rfl⟩ := List.head?_eq_some_iff.mp head
  have append (digits : Digits) : ∃ more : Digits, more.text = digits.text ++ [d] := by
    refine ⟨⟨digits.text ++ [d], by simp, fun c member => ?_⟩, rfl⟩
    rcases List.mem_append.mp member with member | last
    · exact digits.all c member
    · rwa [List.mem_singleton.mp last]
  -- the digit goes on with the last part that the numeral has
  have longer : IsNumeral (piece ++ [d]) := by
    obtain ⟨⟨whole, fraction, exponent⟩, rfl⟩ := longest.holds
    cases exponent with
    | some exponent =>
      obtain ⟨more, text⟩ := append exponent.digits
      refine ⟨⟨whole, fraction, some { exponent with digits := more }⟩, ?_⟩
      simp [Numeral.text, Exponent.text, text]
    | none =>
      cases fraction with
      | some digits =>
        obtain ⟨more, text⟩ := append digits
        exact ⟨⟨whole, some more, none⟩, by simp [Numeral.text, text]⟩
      | none =>
        obtain ⟨more, text⟩ := append whole
        exact ⟨⟨more, none, none⟩, by simp [Numeral.text, text]⟩
  have isPrefix : piece ++ [d] <+: t := ⟨rest, by rw [longest.split]; simp⟩
  have bound := longest.longest _ isPrefix longer
  rw [List.length_append, List.length_singleton] at bound
  omega

end Text

open Text

namespace Document

/-- The text behind a decimal does not continue it: it starts with no digit, and with no point and
digits where the decimal has none. -/
structure EndsDecimal (fraction : Option Digits) (behind : Text) : Prop where
  noDigit : behind.takeWhile Char.isDigit = []
  noFraction : fraction = none → ∀ digits : Digits, ¬ '.' :: digits.text <+: behind

namespace EndsDecimal

variable {whole whole' : Digits} {fraction fraction' : Option Digits} {behind more : Text}

theorem takeWhile_decimalText (ends : EndsDecimal fraction behind) :
    (decimalText whole fraction ++ behind).takeWhile Char.isDigit = whole.text := by
  rw [decimalText, List.append_assoc]
  apply takeWhile_digits
  cases fraction with
  | none => exact ends.noDigit
  | some digits => rfl

theorem eq_of_fraction (ends : EndsDecimal fraction behind) {digits : Digits}
    (same : whole'.text ++ '.' :: (digits.text ++ more) = decimalText whole fraction ++ behind) :
    whole'.text = whole.text ∧
      ∃ others, fraction = some others ∧ digits.text ++ more = others.text ++ behind := by
  rw [decimalText, List.append_assoc] at same
  cases fraction with
  | none =>
    obtain ⟨-, rfl⟩ := takeWhile_unique same whole'.all rfl whole.all ends.noDigit
    refine absurd ?_ (ends.noFraction rfl digits)
    exact ⟨more, rfl⟩
  | some others =>
    obtain ⟨sameWhole, behindPoint⟩ := takeWhile_unique same whole'.all rfl whole.all rfl
    exact ⟨sameWhole, others, rfl, List.tail_eq_of_cons_eq behindPoint⟩

theorem length_le (ends : EndsDecimal fraction behind)
    (isPrefix : decimalText whole' fraction' <+: decimalText whole fraction ++ behind) :
    (decimalText whole' fraction').length ≤ (decimalText whole fraction).length := by
  cases fraction' with
  | none =>
    have taken := isPrefix_takeWhile (p := Char.isDigit) (by simpa [decimalText] using whole'.all)
      isPrefix
    rw [ends.takeWhile_decimalText] at taken
    have bound := taken.length_le
    simp only [decimalText, List.length_append] at bound ⊢
    omega
  | some digits =>
    obtain ⟨more, same⟩ := isPrefix
    rw [decimalText, List.append_assoc] at same
    obtain ⟨sameWhole, others, rfl, fractions⟩ := ends.eq_of_fraction same
    have taken := isPrefix_takeWhile digits.all ⟨more, fractions⟩
    rw [takeWhile_digits others ends.noDigit] at taken
    have bound := taken.length_le
    simp only [decimalText, sameWhole, Option.elim_some, List.length_append, List.length_cons]
    omega

theorem eq_of_sign (ends : EndsDecimal fraction behind) {sign : Char} {rest : Text}
    (same : decimalText whole' fraction' ++ sign :: rest = decimalText whole fraction ++ behind)
    (noDigit : sign.isDigit = false) (noPoint : sign ≠ '.') : sign :: rest = behind := by
  have stops : (sign :: rest).takeWhile Char.isDigit = [] := by simp [noDigit]
  rw [decimalText, List.append_assoc] at same
  cases fraction' with
  | none =>
    rw [decimalText, List.append_assoc] at same
    cases fraction with
    | none => exact (takeWhile_unique same whole'.all stops whole.all ends.noDigit).2
    | some digits =>
      obtain ⟨-, atPoint⟩ := takeWhile_unique same whole'.all stops whole.all rfl
      exact absurd (List.head_eq_of_cons_eq atPoint) noPoint
  | some digits =>
    obtain ⟨-, others, rfl, fractions⟩ := ends.eq_of_fraction same
    exact (takeWhile_unique fractions digits.all stops others.all ends.noDigit).2

theorem longestSplit (ends : EndsDecimal fraction behind) : LongestSplit IsDecimal
    (decimalText whole fraction ++ behind) (decimalText whole fraction) behind where
  split := rfl
  holds := ⟨whole, fraction, rfl⟩
  longest := by
    rintro other isPrefix ⟨whole', fraction', rfl⟩
    exact ends.length_le isPrefix

end EndsDecimal

end Document

namespace Lexeme

variable {mantissa lead tail behind : Text} {whole : Digits} {fraction : Option Digits}

theorem numberTail_of_isBareExponent (bare : IsBareExponent lead tail) :
    numberTail mantissa (lead ++ tail) =
      { kind := .error .malformedNumber, lexeme := mantissa ++ lead } := by
  obtain ⟨marker, sign, rfl, isMarker, isSign, noDigit⟩ := bare
  have signed : exponentSign (sign ++ tail) = sign := by
    rcases isSign with rfl | rfl | ⟨rfl, unsigned⟩
    · rfl
    · rfl
    · cases tail with
      | nil => rfl
      | cons c cs =>
      obtain ⟨noPlus, noMinus⟩ := unsigned c rfl
      simp [exponentSign, noPlus, noMinus]
  have split : exponentSign (sign ++ tail) ++ tail = sign ++ tail := by rw [signed]
  rw [List.cons_append, numberTail_marker isMarker split, signed,
    takeWhile_eq_nil_iff_head?.mpr noDigit, List.append_nil]
  rfl

theorem isSign_exponentSign {rest : Text} (split : exponentSign rest ++ tail = rest) :
    exponentSign rest = ['+'] ∨ exponentSign rest = ['-'] ∨
      exponentSign rest = [] ∧ ∀ c ∈ tail.head?, c ≠ '+' ∧ c ≠ '-' := by
  unfold exponentSign at split ⊢
  split at split
  · exact .inl rfl
  · exact .inr (.inl rfl)
  · rename_i noPlus noMinus
    refine .inr (.inr ⟨rfl, fun c head => ?_⟩)
    obtain ⟨more, rfl⟩ := List.head?_eq_some_iff.mp head
    exact ⟨fun same => noPlus more (by rw [← split, same]; rfl),
      fun same => noMinus more (by rw [← split, same]; rfl)⟩

theorem exists_numberTail
    (notBare : ∀ lead tail, behind = lead ++ tail → ¬ IsBareExponent lead tail) (mantissa : Text) :
    ∃ (exponent : Option Exponent) (tail : Text),
      behind = exponent.elim [] Exponent.text ++ tail ∧
      numberTail mantissa behind =
        { kind := .number, lexeme := mantissa ++ exponent.elim [] Exponent.text } := by
  cases behind with
  | nil => exact ⟨none, [], rfl, by simp [numberTail]⟩
  | cons marker rest =>
    by_cases isMarker : marker = 'e' ∨ marker = 'E'
    · obtain ⟨after, split⟩ := exponentSign_isPrefix rest
      have isSign := isSign_exponentSign split
      have digit : after.takeWhile Char.isDigit ≠ [] := by
        intro none
        refine notBare (marker :: exponentSign rest) after (by rw [List.cons_append, split])
          ⟨marker, _, rfl, isMarker, isSign, takeWhile_eq_nil_iff_head?.mp none⟩
      have sign : exponentSign rest = [] ∨ exponentSign rest = ['+'] ∨
          exponentSign rest = ['-'] := by
        rcases isSign with plus | minus | ⟨unsigned, -⟩
        · exact .inr (.inl plus)
        · exact .inr (.inr minus)
        · exact .inl unsigned
      refine ⟨some ⟨marker, exponentSign rest, .atHead after digit, isMarker, sign⟩,
        after.dropWhile Char.isDigit, ?_, ?_⟩
      · simp [Exponent.text, Digits.atHead_append, split]
      · rw [numberTail_marker isMarker split, if_neg (by simpa using digit)]
        rfl
    · exact ⟨none, marker :: rest, rfl, by simp [numberTail, isMarker]⟩

theorem length_le_numberTail_exponent (mantissa : Text) (exponent : Exponent) (more : Text) :
    (mantissa ++ exponent.text).length ≤
      (numberTail mantissa (exponent.text ++ more)).lexeme.length := by
  obtain ⟨marker, sign, digits, isMarker, isSign⟩ := exponent
  have signed := exponentSign_append isSign digits more
  have split : exponentSign (sign ++ (digits.text ++ more)) ++ (digits.text ++ more) =
      sign ++ (digits.text ++ more) := by rw [signed]
  have shape : Exponent.text ⟨marker, sign, digits, isMarker, isSign⟩ ++ more =
      marker :: (sign ++ (digits.text ++ more)) := by simp [Exponent.text]
  rw [shape, numberTail_marker isMarker split, signed,
    List.takeWhile_append_of_pos digits.all]
  simp [Exponent.text]

theorem exists_longestSplit_numberTail (ends : EndsDecimal fraction behind)
    (notBare : ∀ lead tail, behind = lead ++ tail → ¬ IsBareExponent lead tail) :
    ∃ lexeme tail, LongestSplit IsNumeral (decimalText whole fraction ++ behind) lexeme tail ∧
      numberTail (decimalText whole fraction) behind = { kind := .number, lexeme } := by
  obtain ⟨exponent, tail, split, ended⟩ := exists_numberTail notBare (decimalText whole fraction)
  refine ⟨_, tail, ⟨?_, ⟨⟨whole, fraction, exponent⟩, Numeral.text_eq ..⟩, ?_⟩, ended⟩
  · rw [split, List.append_assoc]
  rintro other isPrefix ⟨⟨whole', fraction', exponent'⟩, rfl⟩
  rw [Numeral.text_eq] at isPrefix ⊢
  cases exponent' with
  | none =>
    rw [Option.elim_none, List.append_nil] at isPrefix ⊢
    have bound := ends.length_le isPrefix
    rw [List.length_append]
    omega
  | some exponent' =>
    obtain ⟨more, same⟩ := isPrefix
    rw [Option.elim_some, List.append_assoc] at same
    have noDigit : exponent'.marker.isDigit = false := by
      rcases exponent'.isMarker with marker | marker <;> rw [marker] <;> rfl
    have noPoint : exponent'.marker ≠ '.' := by
      rcases exponent'.isMarker with marker | marker <;> rw [marker] <;> decide
    have exponents : exponent'.text ++ more = behind := ends.eq_of_sign same noDigit noPoint
    rw [exponents, List.append_left_inj] at same
    have bound := length_le_numberTail_exponent (decimalText whole fraction) exponent' more
    rw [exponents, ended] at bound
    rw [same]
    exact bound

theorem number_of_isBarePoint (whole : Digits) {rest : Text} (bare : IsBarePoint rest) :
    number (whole.text ++ rest) =
      { kind := .error .malformedNumber, lexeme := whole.text ++ ['.'] } := by
  obtain ⟨after, rfl, noContinuation⟩ := bare
  rw [number, takeWhile_digits whole rfl, dropWhile_digits whole rfl]
  cases after with
  | nil => rfl
  | cons c cs =>
    obtain ⟨noDigit, noPoint, noName⟩ := noContinuation c rfl
    simp [noDigit, noPoint, noName]

theorem exists_number_eq_numberTail (whole : Digits) {rest : Text}
    (stops : rest.takeWhile Char.isDigit = []) (notBare : ¬ IsBarePoint rest) :
    ∃ fraction behind, whole.text ++ rest = decimalText whole fraction ++ behind ∧
      EndsDecimal fraction behind ∧
      number (whole.text ++ rest) = numberTail (decimalText whole fraction) behind := by
  rw [number, takeWhile_digits whole stops, dropWhile_digits whole stops]
  have whole_eq : decimalText whole none = whole.text := List.append_nil _
  by_cases continued : ∃ c cs, rest = '.' :: c :: cs ∧ c.isDigit
  · obtain ⟨c, cs, rfl, digit⟩ := continued
    have nonempty : (c :: cs).takeWhile Char.isDigit ≠ [] := by simp [digit]
    refine ⟨some (.atHead _ nonempty), (c :: cs).dropWhile Char.isDigit, ?_,
      ⟨takeWhile_dropWhile _, fun none => absurd none (Option.some_ne_none _)⟩, if_pos digit⟩
    simp [decimalText, Digits.atHead_append]
  · refine ⟨none, rest, by rw [whole_eq], ⟨stops, fun _ digits isPrefix => ?_⟩, ?_⟩
    · obtain ⟨d, ds, same, digit⟩ := digits.exists_text_eq_cons
      obtain ⟨more, rfl⟩ := isPrefix
      exact continued ⟨d, ds ++ more, by rw [same]; rfl, digit⟩
    · rw [whole_eq]
      split
      · split
        · exact absurd ⟨[], rfl, by simp⟩ notBare
        · rename_i c cs
          have noDigit : ¬ c.isDigit := fun digit => continued ⟨c, cs, rfl, digit⟩
          rw [if_neg noDigit]
          split
          · rfl
          · rename_i bare
            exact absurd ⟨c :: cs, rfl, by simpa [noDigit] using bare⟩ notBare
      · rfl

theorem isDigit_of_body_number {c : Char} {cs : Text} (isNumber : (Body.scan c cs).kind = .number) :
    c.isDigit := by
  rcases body_scan_kind c cs with ⟨digit, -⟩ | ⟨error, isError⟩ | ⟨lexeme, tail, isLexeme⟩
  · exact digit
  · cases isNumber.symm.trans isError
  · rw [isNumber] at isLexeme
    cases isLexeme with
    | sign spelled => cases spelled

theorem string_scan_kind_ne_number (c : Char) (cs : Text) :
    (QuotedString.scan c cs).kind ≠ .number := by
  cases found : QuotedString.unit? c cs with
  | some pending =>
    simp [string_scan_of_unit? found, literal]
  | none => exact (string_scan_stops found).kind_ne.2

end Lexeme

theorem Mode.Scans.of_number {mode mode' : Mode} {scan : Scan} {tail : Text}
    (scans : mode.Scans mode' scan tail) (isNumber : scan.kind = .number) :
    ∃ c cs, scan.lexeme ++ tail = c :: cs ∧ c.isDigit ∧ Body.scan c cs = scan := by
  obtain ⟨c, cs, shape, body | ⟨-, rfl⟩⟩ := scans.of_numberOrError (.inl isNumber)
  · exact ⟨c, cs, shape, isDigit_of_body_number (by rw [body, isNumber]), body⟩
  · exact absurd isNumber (string_scan_kind_ne_number c cs)

/-- The scan of a text that starts with a digit: an error at a bare point or a bare exponent, and
the longest numeral where there is neither. -/
def IsNumberScan (t : Text) (scan : Scan) : Prop :=
  ∃ whole rest, LongestSplit IsDigits t whole rest ∧
    (IsBarePoint rest →
      scan = { kind := .error .malformedNumber, lexeme := whole ++ ['.'] }) ∧
    (¬ IsBarePoint rest →
      ∃ decimal behind, LongestSplit IsDecimal t decimal behind ∧
        (∀ lead tail, behind = lead ++ tail → IsBareExponent lead tail →
          scan = { kind := .error .malformedNumber, lexeme := decimal ++ lead }) ∧
        ((∀ lead tail, behind = lead ++ tail → ¬ IsBareExponent lead tail) →
          ∃ lexeme tail, LongestSplit IsNumeral t lexeme tail ∧
            scan = { kind := .number, lexeme }))

theorem isNumberScan_body {c : Char} (digit : c.isDigit) (cs : Text) :
    IsNumberScan (c :: cs) (Body.scan c cs) := by
  have nonempty : (c :: cs).takeWhile Char.isDigit ≠ [] := by simp [digit]
  have parts := Digits.atHead_append (c :: cs) nonempty
  have stops := takeWhile_dropWhile (p := Char.isDigit) (c :: cs)
  generalize Digits.atHead (c :: cs) nonempty = whole at parts
  rw [body_scan_of_isDigit digit, ← parts]
  refine ⟨_, _, longestSplit_digits whole stops, number_of_isBarePoint whole, fun notBare => ?_⟩
  obtain ⟨fraction, behind, split, ends, ended⟩ := exists_number_eq_numberTail whole stops notBare
  rw [split] at ended ⊢
  rw [ended]
  refine ⟨_, _, ends.longestSplit, ?_, exists_longestSplit_numberTail ends⟩
  rintro lead tail rfl bare
  exact numberTail_of_isBareExponent bare

theorem IsNumberScan.longestSplit {t : Text} {scan : Scan} (isNumberScan : IsNumberScan t scan)
    (isNumber : scan.kind = .number) : ∃ tail, LongestSplit IsNumeral t scan.lexeme tail := by
  obtain ⟨whole, rest, -, barePoint, decimals⟩ := isNumberScan
  by_cases bare : IsBarePoint rest
  · rw [barePoint bare] at isNumber
    cases isNumber
  obtain ⟨decimal, behind, -, bareExponent, numerals⟩ := decimals bare
  by_cases noExponent : ∀ lead tail, behind = lead ++ tail → ¬ IsBareExponent lead tail
  · obtain ⟨lexeme, tail, longest, rfl⟩ := numerals noExponent
    exact ⟨tail, longest⟩
  · push Not at noExponent
    obtain ⟨lead, tail, split, bare⟩ := noExponent
    rw [bareExponent lead tail split bare] at isNumber
    cases isNumber

namespace Lexer

theorem Reads.longestSplit_number {t : Text} {lexer : Lexer} (reads : Reads t lexer)
    (isNumber : lexer.pull.1.kind = .number) :
    LongestSplit IsNumeral lexer.cursor.rest lexer.pull.1.text lexer.pull.2.cursor.rest := by
  have ahead := ahead_of_kind isNumber rfl
  obtain ⟨mode, scan, tail, scans, split, -⟩ := reads.exists_scans ahead
  rw [pull_of_scans scans split] at isNumber ⊢
  obtain ⟨c, cs, shape, digit, rfl⟩ := scans.of_number isNumber
  obtain ⟨tail', longest⟩ := (isNumberScan_body digit cs).longestSplit isNumber
  rw [← shape] at longest
  obtain rfl : tail = tail' := List.append_cancel_left longest.split
  rwa [split]

end Lexer

/-- Of a text that starts with a digit a body reads the longest numeral, unless a bare point or a
bare exponent makes it an error. The numbers of a text are numerals, and no digit follows them. -/
theorem numbers_are_longest :
    (∀ c cs, c.isDigit → IsNumberScan (c :: cs) (Body.scan c cs)) ∧
    ∀ t, ∀ token ∈ tokenize t, token.kind = .number → IsNumeral token.text ∧
      ∃ behind, token.behind? t = some behind ∧ ∀ c ∈ behind.head?, ¬ c.isDigit := by
  refine ⟨fun c cs digit => isNumberScan_body digit cs, fun t token member isNumber => ?_⟩
  obtain ⟨n, rfl⟩ := Lexer.exists_token_of_mem member
  have reads := (Lexer.reads_ofText t).skip n
  have longest := reads.longestSplit_number isNumber
  exact ⟨longest.holds, _, reads.behind?_eq, longest.noDigit⟩

def scientificIndex : Text := ['[', '6', '.', '0', '2', 'E', '+', '2', '3', ']']

theorem numbers_are_longest_scientificIndex :
    IsNumberScan ['1', '.', '5', 'e', '+', 'x']
      { kind := .error .malformedNumber, lexeme := ['1', '.', '5', 'e', '+'] } ∧
    IsNumeral ['6', '.', '0', '2', 'E', '+', '2', '3'] ∧
      ∃ behind, ((Lexer.ofText scientificIndex).token 1).behind? scientificIndex = some behind ∧
        ∀ c ∈ behind.head?, ¬ c.isDigit := by
  have scanned := numbers_are_longest.1 '1' ['.', '5', 'e', '+', 'x'] (by decide)
  have read : Body.scan '1' ['.', '5', 'e', '+', 'x'] =
      { kind := .error .malformedNumber, lexeme := ['1', '.', '5', 'e', '+'] } := by decide
  rw [read] at scanned
  have member : (Lexer.ofText scientificIndex).token 1 ∈ tokenize scientificIndex := by decide
  exact ⟨scanned, numbers_are_longest.2 scientificIndex _ member (by decide)⟩

end HclLexis
