import HclLexis.Proofs.StringUnits

/-! Strings and the lines of heredocs side by side. On a line without quotes and backslashes both
read the same pieces and enter the same sequences. Only the line break at its end is an error in a
string and the start of the next line in a heredoc. -/

namespace HclLexis

open Lexeme Rules

namespace Text

def IsPlainLine (t : Text) : Prop := ∀ c ∈ takeBefore atLineBreak t, c ≠ '"' ∧ c ≠ '\\'

variable {c : Char} {cs : Text}

theorem IsPlainLine.head (plain : IsPlainLine (c :: cs)) (inLine : ¬ atLineBreak (c :: cs)) :
    c ≠ '"' ∧ c ≠ '\\' := by
  rw [IsPlainLine, takeBefore, if_neg inLine] at plain
  exact plain c List.mem_cons_self

theorem IsPlainLine.tail (plain : IsPlainLine (c :: cs)) (inLine : ¬ atLineBreak (c :: cs)) :
    IsPlainLine cs := by
  rw [IsPlainLine, takeBefore, if_neg inLine] at plain
  exact fun d member => plain d (List.mem_cons_of_mem c member)

end Text

open Text

namespace Lexeme

variable {c : Char} {cs : Text}

theorem unit?_eq_sharedUnit? (plain : IsPlainLine (c :: cs)) :
    QuotedString.unit? c cs = sharedUnit? c cs := by
  by_cases atBreak : atLineBreak (c :: cs)
  · rw [readsUnits_unit?.breaks c cs atBreak, readsUnits_sharedUnit?.breaks c cs atBreak]
  · obtain ⟨quote, backslash⟩ := plain.head atBreak
    rw [QuotedString.unit?, if_neg quote, if_neg backslash]

theorem isPlainLine_drop {pending : Nat} (plain : IsPlainLine (c :: cs))
    (found : sharedUnit? c cs = some pending) : IsPlainLine (cs.drop pending) := by
  rw [sharedUnit?, Option.ite_none_left_eq_some, Bool.or_eq_true, not_or] at found
  obtain ⟨⟨inLine, -⟩, found⟩ := found
  have behind := plain.tail inLine
  split at found
  · rename_i doubled
    cases found
    obtain ⟨sign, tail, isSign, shape⟩ := (isDoubledOpen_iff_exists _).mp doubled
    cases shape
    have inSigns : ¬ atLineBreak (c :: '{' :: tail) := by
      rcases isSign with rfl | rfl
      · exact Bool.false_ne_true
      · exact Bool.false_ne_true
    exact (behind.tail inSigns).tail Bool.false_ne_true
  · cases found
    exact behind

theorem literalRun_unit?_eq {pending : Nat} {t : Text} (plain : IsPlainLine (t.drop pending)) :
    literalRun QuotedString.unit? pending t = literalRun sharedUnit? pending t := by
  induction t generalizing pending with
  | nil => rfl
  | cons c cs ih =>
    cases pending with
    | succ pending => rw [literalRun, literalRun, ih plain]
    | zero =>
      rw [literalRun, literalRun, unit?_eq_sharedUnit? plain]
      cases found : sharedUnit? c cs with
      | none => rfl
      | some pending => exact congrArg (c :: ·) (ih (isPlainLine_drop plain found))

theorem scanLine_eq_string_scan (heredoc : Heredoc) (plain : IsPlainLine (c :: cs))
    (inLine : ¬ atLineBreak (c :: cs)) :
    HeredocBody.scanLine heredoc (c :: cs) = (heredoc, QuotedString.scan c cs) := by
  obtain ⟨quote, backslash⟩ := plain.head inLine
  have noBreak : Text.lineBreak? (c :: cs) = none := by simpa [atLineBreak] using inLine
  have noFault : QuotedString.faultyEscape? (c :: cs) = none := by
    simp [QuotedString.faultyEscape?, backslash]
  have run : literalRun QuotedString.unit? 0 (c :: cs) = literalRun sharedUnit? 0 (c :: cs) :=
    literalRun_unit?_eq plain
  rw [HeredocBody.scanLine, newline?, noBreak, string_scan_eq quote, QuotedString.lineBreak?,
    noBreak, noFault, literal, literal, run]
  cases sequenceOpen? (c :: cs) <;> rfl

theorem string_scan_lineBreak {lexeme : Text} (breaks : Text.lineBreak? (c :: cs) = some lexeme) :
    QuotedString.scan c cs = { kind := .error .newlineInString, lexeme } := by
  obtain ⟨-, tail, split⟩ := lineBreak?_isPrefix breaks
  rcases lineBreak?_eq_some breaks with rfl | rfl
  · cases split
    rfl
  · cases split
    rfl

theorem string_scan_move (quote : c ≠ '"') (cs : Text) :
    (QuotedString.scan c cs).move = .stay ∨
      (QuotedString.scan c cs).move = .enter (.interpolation 0) := by
  cases found : QuotedString.unit? c cs with
  | some pending =>
    rw [string_scan_of_unit? found]
    exact .inl rfl
  | none =>
    have stop := string_scan_stops found
    generalize QuotedString.scan c cs = scan at stop
    generalize shape : c :: cs = t at stop
    cases stop with
    | quote => cases shape; exact absurd rfl quote
    | sequence => exact .inr rfl
    | lineBreak | faultyEscape => exact .inl rfl

end Lexeme

namespace Lexer

/-- A call in a string and a call within a line of a heredoc, on the same text: the same token and
the same cursor behind it, and the same frame entered if any is. At a line break the kinds differ,
and the next line of the heredoc starts. -/
structure CallsAgree (string line : Lexer) (heredoc : Heredoc) : Prop where
  text : line.pull.1.text = string.pull.1.text
  start : line.pull.1.start = string.pull.1.start
  stop : line.pull.1.stop = string.pull.1.stop
  cursor : line.pull.2.cursor = string.pull.2.cursor
  atBreak : atLineBreak string.cursor.rest →
    string.pull.1.kind = .error .newlineInString ∧ line.pull.1.kind = .newline ∧
      string.pull.2.modes = string.modes ∧
      line.pull.2.modes =
        line.modes.setCurrent (.heredocTemplate { heredoc with atLineStart := true })
  inLine : ¬ atLineBreak string.cursor.rest →
    line.pull.1.kind = string.pull.1.kind ∧
      ∃ move, (move = .stay ∨ move = .enter (.interpolation 0)) ∧
        string.pull.2.modes = string.modes.follow string.cursor.location move ∧
        line.pull.2.modes = line.modes.follow string.cursor.location move

variable {string line : Lexer} {heredoc : Heredoc}

/-- On a line without quotes and backslashes strings and heredocs read alike. -/
theorem callsAgree_of_isPlainLine (same : line.cursor = string.cursor)
    (ahead : string.cursor.rest ≠ []) (inString : string.modes.current = .quotedTemplate)
    (inHeredoc : line.modes.current = .heredocTemplate heredoc)
    (inside : heredoc.atLineStart = false) (plain : IsPlainLine string.cursor.rest) :
    CallsAgree string line heredoc := by
  obtain ⟨c, cs, shape⟩ := List.exists_cons_of_ne_nil ahead
  rw [shape] at plain
  obtain ⟨-, tail, split⟩ := QuotedString.scan_covers c cs
  have lineShape : line.cursor.rest = c :: cs := by rw [same, shape]
  have stringScan : string.modes.current.scan c cs = (.quotedTemplate, QuotedString.scan c cs) := by
    rw [inString, Mode.scan]
  have lineScan := Mode.scan_insideLine inside c cs
  rw [← inHeredoc] at lineScan
  have stringPull := pull_of_scan shape stringScan split.symm
  rw [ModeStack.setCurrent_current inString] at stringPull
  by_cases atBreak : atLineBreak (c :: cs)
  · obtain ⟨lexeme, breaks⟩ := Option.isSome_iff_exists.mp atBreak
    rw [HeredocBody.scanLine, newline?, breaks] at lineScan
    rw [string_scan_lineBreak breaks] at stringPull split
    have linePull := pull_of_scan lineShape lineScan split.symm
    rw [same] at linePull
    constructor
    case inLine => exact fun inLine => absurd (shape ▸ atBreak) inLine
    all_goals simp [stringPull, linePull, ModeStack.follow]
  · rw [scanLine_eq_string_scan heredoc plain atBreak] at lineScan
    have linePull := pull_of_scan lineShape lineScan split.symm
    rw [same, ModeStack.setCurrent_current inHeredoc] at linePull
    have move := string_scan_move (plain.head atBreak).1 cs
    constructor
    case atBreak => exact fun breaks => absurd (shape ▸ breaks) atBreak
    case inLine =>
      intro _
      rw [stringPull, linePull]
      exact ⟨rfl, _, move, rfl, rfl⟩
    all_goals simp [stringPull, linePull]

def doubledSigns : Text := ['a', '\r', '$', '$', '{', '$', '{', '\n', '"']

def entered (mode : Mode) (t : Text) : Lexer := ⟨.ofText t, ModeStack.push {} mode .start, false⟩

theorem callsAgree_doubledSigns :
    let heredoc : Heredoc := { terminator := ['E'], stripIndent := false }
    CallsAgree (entered .quotedTemplate doubledSigns)
      (entered (.heredocTemplate heredoc) doubledSigns) heredoc := by
  have line : takeBefore atLineBreak doubledSigns = ['a', '\r', '$', '$', '{', '$', '{'] := rfl
  have plain : IsPlainLine doubledSigns := by simp [IsPlainLine, line]
  exact callsAgree_of_isPlainLine rfl (by decide) rfl rfl rfl plain

end Lexer

end HclLexis
