import HclLexis.Proofs.GuardedLexemes
import HclLexis.Rules

/-! The rules of strings, heredocs and sequences as guarded actions. They leave modes, so that they
need one below the active mode, and they count widths in bytes that a move has to come out at. -/

namespace HclLexis.Guarded

open Lexeme Rules

variable {before read ahead : Text} {frames below : List Frame} {openedAt : Location}

def atSequence : Guarded Bool := do
  let c ← peek 0
  let next ← peek 1
  return (c = some '$' ∨ c = some '%') ∧ next = some '{'

theorem opensSequence_iff (t : Text) : opensSequence t ↔
    (t[0]? = some '$' ∨ t[0]? = some '%') ∧ t[1]? = some '{' := by
  cases t with
  | nil => simp [opensSequence, sequenceOpen?]
  | cons c cs => simp [opensSequence_cons_iff, List.head?_eq_getElem?]

theorem tells_atSequence : Tells atSequence opensSequence before frames := by
  intro read ahead
  simp only [atSequence, StateT.run_bind, run_peek, pure_bind, StateT.run_pure,
    ← opensSequence_iff, Bool.decide_eq_true]

def readSequenceOpen : Guarded (Option Token) := do
  let start ← here
  let c ← peek 0
  if ← atSequence then
    steps 2
    let marker ← peek 0
    if marker = some '~' then steps 1
    push (.interpolation 0) start
    found (if c = some '$' then .templateInterp else .templateControl) start
  else return none

theorem performs_readSequenceOpen : Performs readSequenceOpen sequenceOpen? frames := by
  intro before ahead
  match ahead with
  | [] | [_] => simp [readSequenceOpen, atSequence, sequenceOpen?]
  | c :: d :: rest =>
    by_cases brace : d = '{'
    · subst brace
      by_cases sign : c = '$' ∨ c = '%'
      · rcases rest with - | ⟨e, es⟩
        · rcases sign with rfl | rfl <;>
            simp [readSequenceOpen, atSequence, sequenceOpen?, stripMarker]
        · rcases sign with rfl | rfl <;> by_cases tilde : e = '~' <;>
            simp [readSequenceOpen, atSequence, sequenceOpen?, stripMarker, tilde]
      · have refused : sequenceOpen? (c :: '{' :: rest) = none := by
          rw [not_or] at sign
          simp [sequenceOpen?, sign]
        simp [readSequenceOpen, atSequence, refused, sign]
    · simp [readSequenceOpen, atSequence, sequenceOpen?, brace]

def doubledWidth : Guarded (Option Nat) := do
  let c ← peek 0
  let next ← peek 1
  let third ← peek 2
  return if (c = some '$' ∧ next = some '$' ∨ c = some '%' ∧ next = some '%') ∧ third = some '{'
    then some 3 else none

theorem isDoubledOpen_iff (t : Text) : isDoubledOpen t ↔
    (t[0]? = some '$' ∧ t[1]? = some '$' ∨ t[0]? = some '%' ∧ t[1]? = some '%') ∧
      t[2]? = some '{' := by
  match t with
  | [] | [_] | [_, _] => simp [isDoubledOpen]
  | a :: b :: c :: _ => grind [isDoubledOpen]

theorem tells_doubledWidth :
    Tells doubledWidth (fun t => if isDoubledOpen t then some 3 else none) before frames := by
  intro read ahead
  simp only [doubledWidth, StateT.run_bind, run_peek, pure_bind, StateT.run_pure,
    ← isDoubledOpen_iff]

def stepSharedUnit : Guarded Bool := do
  if ← isAtEnd then return false
  if ← atLineBreak then return false
  if ← atSequence then return false
  match ← doubledWidth with
  | some width =>
    skipBytes width
    return true
  | none => step

theorem walks_stepSharedUnit : Walks stepSharedUnit sharedUnit? before frames where
  ended read := by simp [stepSharedUnit]
  stops read c cs unit := by
    rw [sharedUnit?_eq_none_iff] at unit
    cases broken : Text.atLineBreak (c :: cs) with
    | true => simp [stepSharedUnit, broken]
    | false =>
      have opens : opensSequence (c :: cs) := by simpa [broken] using unit
      simp [stepSharedUnit, tells_atSequence _ _, broken, opens]
  moves read c cs pending unit := by
    rw [sharedUnit?, Option.ite_none_left_eq_some, Bool.or_eq_true, not_or] at unit
    obtain ⟨⟨inLine, noOpen⟩, unit⟩ := unit
    cases doubled : isDoubledOpen (c :: cs) with
    | false =>
      rw [doubled] at unit
      cases unit
      simp [stepSharedUnit, tells_atSequence _ _, tells_doubledWidth _ _, inLine, noOpen, doubled]
    | true =>
      rw [doubled] at unit
      cases unit
      obtain ⟨_, tail, isSign, shape⟩ := (isDoubledOpen_iff_exists _).mp doubled
      cases shape
      have size : Text.byteSize [c, c, '{'] = 3 := by
        rcases isSign with rfl | rfl <;> rfl
      have skipped : (skipBytes 3).run (.reading before read (c :: c :: '{' :: tail) frames) =
          pure ((), .reading before (read ++ [c, c, '{']) tail frames) := by
        rw [← size]
        exact run_skipBytes [c, c, '{'] tail
      simp [stepSharedUnit, tells_atSequence _ _, tells_doubledWidth _ _, inLine, noOpen, doubled,
        skipped]

/-- The width in bytes of an escape, as what it is or as what is wrong with it. -/
def escapeResult : Escape → Except Nat Nat
  | .valid lexeme => .ok lexeme.byteSize
  | .invalid lexeme => .error lexeme.byteSize

def numericEscapeWidth (t : Text) (wanted : Nat) : Guarded (Except Nat Nat) := do
  let digits ← sliceFrom t 2
  let count := ((digits.take wanted).takeWhile Escape.isHexDigit).length
  if count < wanted then return .error (2 + count)
  let number ← sliceTo digits wanted
  if (Escape.hexNumber number).isValidChar then return .ok (2 + wanted)
  else return .error (2 + wanted)

theorem utf8Size_of_isHexDigit {c : Char} (hex : Escape.isHexDigit c) : c.utf8Size = 1 := by
  have below {d : Char} (le : c ≤ d) (ascii : d.val ≤ 0x7F) : c.utf8Size = 1 :=
    Text.utf8Size_of_ascii (UInt32.le_trans le ascii)
  simp only [Escape.isHexDigit, Char.isDigit, Bool.or_eq_true, Bool.and_eq_true,
    decide_eq_true_eq] at hex
  rcases hex with (⟨-, digit⟩ | ⟨-, small⟩) | ⟨-, big⟩
  · exact Text.utf8Size_of_ascii (UInt32.le_trans digit (by decide))
  · exact below small (by decide)
  · exact below big (by decide)

theorem run_numericEscapeWidth {marker : Char} (narrow : marker.utf8Size = 1) (wanted : Nat)
    (rest : Text) (machine : Machine) :
    (numericEscapeWidth ('\\' :: marker :: rest) wanted).run machine =
      pure (escapeResult (Escape.ofDigits marker wanted rest), machine) := by
  have cut : (sliceFrom ('\\' :: marker :: rest) 2).run machine = pure (rest, machine) := by
    have cut := @run_sliceFrom machine ['\\', marker] rest
    rwa [Text.byteSize_cons, Text.byteSize_cons, narrow] at cut
  -- the digits are counted in characters and cut in bytes, which is the same for them
  have ascii : ∀ c ∈ (rest.take wanted).takeWhile Escape.isHexDigit, c.utf8Size = 1 :=
    fun c member => utf8Size_of_isHexDigit (List.mem_takeWhile_imp member)
  have bytes := Text.byteSize_eq_length ascii
  have isPrefix : (rest.take wanted).takeWhile Escape.isHexDigit <+: rest :=
    (List.takeWhile_prefix _).trans (List.take_prefix _ _)
  have most : ((rest.take wanted).takeWhile Escape.isHexDigit).length ≤ wanted :=
    (List.takeWhile_prefix _).length_le.trans (List.length_take_le _ _)
  rw [numericEscapeWidth, Escape.ofDigits, StateT.run_bind, cut, pure_bind]
  dsimp only
  generalize (rest.take wanted).takeWhile Escape.isHexDigit = digits at bytes isPrefix most ⊢
  have width : Text.byteSize ('\\' :: marker :: digits) = 2 + digits.length := by
    rw [Text.byteSize_cons, Text.byteSize_cons, narrow, bytes, ← Nat.add_assoc]
    rfl
  obtain ⟨tail, rfl⟩ := isPrefix
  by_cases all : digits.length = wanted
  · subst all
    have taken := @run_sliceTo machine digits tail
    rw [bytes] at taken
    by_cases valid : (Escape.hexNumber digits).isValidChar <;>
      simp [taken, valid, escapeResult, width]
  · have fewer : digits.length < wanted := Nat.lt_of_le_of_ne most all
    simp only [fewer, all, escapeResult, width, if_true, false_and, if_false, StateT.run_pure]

def escapeWidth (t : Text) : Guarded (Except Nat Nat) := do
  match t.drop 1 with
  | [] => return .error 1
  | c :: _ =>
    if c = '\n' ∨ c = '\r' then return .error 1
    else if Escape.letters.contains c then return .ok 2
    else if c = 'u' ∨ c = 'U' then numericEscapeWidth t (if c = 'u' then 4 else 8)
    else return .error (1 + c.utf8Size)

theorem run_escapeWidth (rest : Text) (machine : Machine) :
    (escapeWidth ('\\' :: rest)).run machine =
      pure (escapeResult (Escape.read rest), machine) := by
  cases rest with
  | nil => rfl
  | cons c cs =>
    by_cases breaks : c = '\n' ∨ c = '\r'
    · rcases breaks with rfl | rfl <;> rfl
    rw [not_or] at breaks
    by_cases letter : c ∈ Escape.letters
    · simp only [Escape.letters, List.mem_cons, List.not_mem_nil, or_false] at letter
      rcases letter with rfl | rfl | rfl | rfl | rfl <;> rfl
    by_cases short : c = 'u'
    · subst short
      exact run_numericEscapeWidth rfl 4 cs machine
    by_cases long : c = 'U'
    · subst long
      exact run_numericEscapeWidth rfl 8 cs machine
    have width : Text.byteSize ['\\', c] = 1 + c.utf8Size := rfl
    simp [escapeWidth, Escape.read, breaks, letter, short, long, escapeResult, width]

def stepStringUnit : Guarded Bool := do
  let c ← peek 0
  if c = some '"' then return false
  else if c = some '\\' then
    let ahead ← rest
    match ← escapeWidth ahead with
    | .ok width =>
      skipBytes width
      return true
    | .error _ => return false
  else stepSharedUnit

theorem walks_stepStringUnit : Walks stepStringUnit QuotedString.unit? before frames where
  ended read := by
    have ended := (@walks_stepSharedUnit before frames).ended read
    simp [stepStringUnit, ended]
  stops read c cs unit := by
    rw [QuotedString.unit?] at unit
    by_cases quote : c = '"'
    · simp [stepStringUnit, quote]
    rw [if_neg quote] at unit
    by_cases backslash : c = '\\'
    · subst backslash
      rw [if_pos rfl] at unit
      cases escape : Escape.read cs with
      | valid lexeme =>
        rw [escape] at unit
        cases unit
      | invalid lexeme => simp [stepStringUnit, run_escapeWidth, escape, escapeResult]
    · rw [if_neg backslash] at unit
      simp [stepStringUnit, quote, backslash, walks_stepSharedUnit.stops read unit]
  moves read c cs pending unit := by
    rw [QuotedString.unit?, Option.ite_none_left_eq_some] at unit
    obtain ⟨quote, unit⟩ := unit
    by_cases backslash : c = '\\'
    · subst backslash
      rw [if_pos rfl] at unit
      cases escape : Escape.read cs with
      | valid lexeme =>
        rw [escape] at unit
        cases unit
        obtain ⟨piece, tail, rfl, rfl⟩ := Escape.exists_of_read (congrArg Escape.lexeme escape)
        simp [stepStringUnit, run_escapeWidth, escape, escapeResult]
      | invalid lexeme =>
        rw [escape] at unit
        cases unit
    · rw [if_neg backslash] at unit
      simp [stepStringUnit, quote, backslash, walks_stepSharedUnit.moves read unit]

def readLiteral (stepUnit : Guarded Bool) (start : Location) : Guarded Token := do
  repeatWhile stepUnit
  finish .templateLiteral start

theorem Walks.run_readLiteral {stepUnit : Guarded Bool} {unit? : Char → Text → Option Nat}
    (walks : Walks stepUnit unit? before frames) :
    (readLiteral stepUnit (Location.start.advanceOver before)).run
      (.reading before [] ahead frames) =
      pure ((literal unit? ahead).token before,
        (literal unit? ahead).behind before ahead frames) := by
  simp [readLiteral, walks.run_repeatWhile, literal]

def readCloseQuote : Guarded (Option Token) := do
  let start ← here
  let c ← peek 0
  if c = some '"' then
    steps 1
    pop
    found .closeQuote start
  else return none

theorem performs_readCloseQuote {frame : Frame} (above : below ≠ []) :
    Performs readCloseQuote QuotedString.closeQuote? (frame :: below) := by
  intro before ahead
  cases ahead with
  | nil => simp [readCloseQuote, QuotedString.closeQuote?]
  | cons c cs =>
    by_cases quote : c = '"' <;>
      simp [readCloseQuote, QuotedString.closeQuote?, quote, run_pop above]

def readFaultyEscape : Guarded (Option Token) := do
  let start ← here
  let c ← peek 0
  if c = some '\\' then
    let ahead ← rest
    match ← escapeWidth ahead with
    | .ok _ => return none
    | .error width =>
      skipBytes width
      found (.error .invalidEscape) start
  else return none

theorem performs_readFaultyEscape :
    Performs readFaultyEscape QuotedString.faultyEscape? frames := by
  intro before ahead
  cases ahead with
  | nil => simp [readFaultyEscape, QuotedString.faultyEscape?]
  | cons c cs =>
    by_cases backslash : c = '\\'
    · subst backslash
      cases escape : Escape.read cs with
      | valid lexeme =>
        simp [readFaultyEscape, QuotedString.faultyEscape?, run_escapeWidth, escape, escapeResult]
      | invalid lexeme =>
        obtain ⟨piece, tail, rfl, rfl⟩ := Escape.exists_of_read (congrArg Escape.lexeme escape)
        simp [readFaultyEscape, QuotedString.faultyEscape?, run_escapeWidth, escape, escapeResult]
    · simp [readFaultyEscape, QuotedString.faultyEscape?, backslash]

def stringRules : List (Guarded (Option Token)) := [
  readSequenceOpen,
  readCloseQuote,
  readLineBreak (.error .newlineInString),
  readFaultyEscape]

theorem performs_stringRules {frame : Frame} (above : below ≠ []) :
    Performs (firstOf stringRules) (Scan.first? QuotedString.rules) (frame :: below) := by
  apply performs_firstOf
  exact .cons performs_readSequenceOpen <| .cons (performs_readCloseQuote above) <|
    .cons (performs_readLineBreak (.error .newlineInString)) <|
    .cons performs_readFaultyEscape .nil

def scanString : Guarded Token := do
  let start ← here
  match ← firstOf stringRules with
  | some token => return token
  | none => readLiteral stepStringUnit start

theorem run_scanString {frame : Frame} (above : below ≠ []) (c : Char) (cs : Text) :
    scanString.run (.reading before [] (c :: cs) (frame :: below)) =
      pure ((QuotedString.scan c cs).token before,
        (QuotedString.scan c cs).behind before (c :: cs) (frame :: below)) := by
  rw [scanString, QuotedString.scan, StateT.run_bind, run_here, pure_bind, StateT.run_bind,
    performs_stringRules above, pure_bind]
  cases Scan.first? QuotedString.rules (c :: cs) with
  | none => simpa using walks_stepStringUnit.run_readLiteral
  | some scan => simp

def heredoc : Guarded Heredoc := do
  match ← current with
  | .heredocTemplate heredoc => return heredoc
  | _ => throw .otherMode

@[simp] theorem run_heredoc {doc : Heredoc} :
    heredoc.run (.reading before read ahead (⟨.heredocTemplate doc, openedAt⟩ :: below)) =
      pure (doc, .reading before read ahead (⟨.heredocTemplate doc, openedAt⟩ :: below)) := by
  simp [heredoc]

def noteLine (line content : Text) : Guarded Unit := do
  if (content.rdropWhile fun c => Text.isIndent c || c == '\r').isEmpty then return
  let width ← sub line.byteSize content.byteSize
  let doc ← heredoc
  setCurrent (.heredocTemplate
    { doc with minIndent := some (doc.minIndent.elim width (min · width)) })

theorem isEmpty_rdropWhile_content (line : Text) :
    ((line.dropWhile Text.isIndent).rdropWhile fun c => Text.isIndent c || c == '\r').isEmpty ↔
      Heredoc.isBlankLine line := by
  have parts := List.takeWhile_append_dropWhile (p := Text.isIndent) (l := line)
  have indent : ∀ c ∈ line.takeWhile Text.isIndent, Text.isIndent c || c == '\r' := by
    intro c member
    rw [List.mem_takeWhile_imp member, Bool.true_or]
  rw [List.isEmpty_iff, List.rdropWhile_eq_nil_iff, Heredoc.isBlankLine, List.all_eq_true]
  constructor
  · intro blank c member
    rw [← parts, List.mem_append] at member
    exact member.elim (indent c) (blank c)
  · intro blank c member
    exact blank c ((List.dropWhile_sublist _).mem member)

theorem run_noteLine {doc : Heredoc} (line : Text) :
    (noteLine line (line.dropWhile Text.isIndent)).run
      (.reading before read ahead (⟨.heredocTemplate doc, openedAt⟩ :: below)) =
      pure ((), .reading before read ahead
        (⟨.heredocTemplate (doc.noteLine line), openedAt⟩ :: below)) := by
  rw [noteLine, Heredoc.noteLine]
  by_cases blank : Heredoc.isBlankLine line
  · rw [if_pos blank, if_pos ((isEmpty_rdropWhile_content line).mpr blank)]
    rfl
  · rw [if_neg blank, if_neg (mt (isEmpty_rdropWhile_content line).mp blank)]
    simp [run_sub (Text.byteSize_dropWhile_le Text.isIndent line), Text.byteSize_sub_indent]

def withoutReturn (t : Text) : Text := if t.getLast? = some '\r' then t.dropLast else t

/-- Compares the line ahead with the terminator. A line that is not the terminator is noted. -/
def readClosingLine : Guarded (Option Token) := do
  let start ← here
  let ahead ← rest
  let whole ← sliceTo ahead (Text.byteSize (ahead.takeWhile (· != '\n')))
  let line := withoutReturn whole
  let content := line.dropWhile Text.isIndent
  let doc ← heredoc
  setCurrent (.heredocTemplate { doc with atLineStart := false })
  if (if doc.stripIndent then content else line) = doc.terminator then
    skipBytes (Text.byteSize line)
    pop
    found (.heredocClose doc.closingIndent) start
  else
    noteLine line content
    return none

theorem run_readClosingLine {doc : Heredoc} (above : below ≠ []) :
    readClosingLine.run (.reading before [] ahead (⟨.heredocTemplate doc, openedAt⟩ :: below)) =
      pure (if doc.closesAt (Text.line ahead) then
        ruleResult before ahead (⟨.heredocTemplate doc, openedAt⟩ :: below) (some {
          kind := .heredocClose doc.closingIndent
          lexeme := Text.line ahead
          move := .leave })
      else (none, .reading before [] ahead (⟨.heredocTemplate
        { doc.noteLine (Text.line ahead) with atLineStart := false }, openedAt⟩ :: below))) := by
  have feed := List.takeWhile_append_dropWhile (p := (· != '\n')) (l := ahead)
  have whole (machine : Machine) :
      (sliceTo ahead (Text.byteSize (ahead.takeWhile (· != '\n')))).run machine =
        pure (ahead.takeWhile (· != '\n'), machine) := by
    have taken := @run_sliceTo machine (ahead.takeWhile (· != '\n')) (ahead.dropWhile (· != '\n'))
    rwa [feed] at taken
  -- the line is noted behind the change of the flag, in the rule before it
  have noted : ({ doc with atLineStart := false } : Heredoc).noteLine (Text.line ahead) =
      { doc.noteLine (Text.line ahead) with atLineStart := false } := by
    rw [Heredoc.noteLine, Heredoc.noteLine]
    split <;> rfl
  have closesAt : (if doc.stripIndent then (Text.line ahead).dropWhile Text.isIndent
      else Text.line ahead) = doc.terminator ↔ doc.closesAt (Text.line ahead) := by
    rw [Heredoc.closesAt, beq_iff_eq]
  have stripped : withoutReturn (ahead.takeWhile (· != '\n')) = Text.line ahead := rfl
  by_cases closes : doc.closesAt (Text.line ahead)
  · simp [readClosingLine, whole, stripped, closesAt, closes,
      run_skipBytes_of_isPrefix (Text.line_isPrefix ahead), run_pop above]
  · simp [readClosingLine, whole, stripped, closesAt, closes, run_noteLine, noted]

def scanHeredocLine (start : Location) : Guarded Token := do
  if ← skipLineBreak then
    let doc ← heredoc
    setCurrent (.heredocTemplate { doc with atLineStart := true })
    finish .newline start
  else
    match ← readSequenceOpen with
    | some token => return token
    | none => readLiteral stepSharedUnit start

theorem run_scanHeredocLine (doc : Heredoc) :
    (scanHeredocLine (Location.start.advanceOver before)).run
      (.reading before [] ahead (⟨.heredocTemplate doc, openedAt⟩ :: below)) =
      pure ((HeredocBody.scanLine doc ahead).2.token before,
        (HeredocBody.scanLine doc ahead).2.behind before ahead
          (⟨.heredocTemplate (HeredocBody.scanLine doc ahead).1, openedAt⟩ :: below)) := by
  rw [scanHeredocLine, HeredocBody.scanLine, newline?]
  cases broken : Text.lineBreak? ahead with
  | some lexeme => simp [broken]
  | none =>
    have reads :=
      @performs_readSequenceOpen (⟨.heredocTemplate doc, openedAt⟩ :: below) before ahead
    cases opened : sequenceOpen? ahead with
    | some scan => simp [broken, reads, opened]
    | none => simpa [broken, reads, opened] using walks_stepSharedUnit.run_readLiteral

def scanHeredoc : Guarded Token := do
  let start ← here
  let doc ← heredoc
  if doc.atLineStart then
    match ← readClosingLine with
    | some token => return token
    | none => scanHeredocLine start
  else scanHeredocLine start

theorem run_scanHeredoc (doc : Heredoc) (above : below ≠ []) (c : Char) (cs : Text) :
    scanHeredoc.run (.reading before [] (c :: cs) (⟨.heredocTemplate doc, openedAt⟩ :: below)) =
      pure ((HeredocBody.scan doc c cs).2.token before,
        (HeredocBody.scan doc c cs).2.behind before (c :: cs)
          (⟨.heredocTemplate (HeredocBody.scan doc c cs).1, openedAt⟩ :: below)) := by
  rw [HeredocBody.scan, HeredocBody.closingLine?]
  cases atStart : doc.atLineStart with
  | false =>
    have enters : HeredocBody.enterLine doc (c :: cs) = doc := by
      simp [HeredocBody.enterLine, atStart]
    simp [scanHeredoc, atStart, run_scanHeredocLine, enters]
  | true =>
    have enters : HeredocBody.enterLine doc (c :: cs) =
        { doc.noteLine (Text.line (c :: cs)) with atLineStart := false } := by
      simp [HeredocBody.enterLine, atStart]
    have closing := @run_readClosingLine before (c :: cs) below openedAt doc above
    cases closes : doc.closesAt (Text.line (c :: cs)) with
    | false => simp [scanHeredoc, atStart, closing, closes, run_scanHeredocLine, enters]
    | true => simp [scanHeredoc, atStart, closing, closes]

def braceDepth : Guarded Nat := do
  match ← current with
  | .interpolation depth => return depth
  | _ => throw .otherMode

@[simp] theorem run_braceDepth {depth : Nat} :
    braceDepth.run (.reading before read ahead (⟨.interpolation depth, openedAt⟩ :: below)) =
      pure (depth, .reading before read ahead (⟨.interpolation depth, openedAt⟩ :: below)) := by
  simp [braceDepth]

def closeSequence (width : Nat) (start : Location) : Guarded Token := do
  skipBytes width
  pop
  finish .templateSeqEnd start

def scanSequence (c : Char) : Guarded Token := do
  let start ← here
  let depth ← braceDepth
  let next ← peek 1
  if c = '{' then
    steps 1
    let depth ← braceDepth
    setCurrent (.interpolation (depth + 1))
    finish .openBrace start
  else if c = '}' ∧ 0 < depth then
    steps 1
    let depth ← braceDepth
    let less ← sub depth 1
    setCurrent (.interpolation less)
    finish .closeBrace start
  else if c = '}' then closeSequence 1 start
  else if c = '~' ∧ depth = 0 ∧ next = some '}' then closeSequence 2 start
  else scanBody c

theorem run_scanSequence (depth : Nat) (above : below ≠ []) (c : Char) (cs : Text) :
    (scanSequence c).run
      (.reading before [] (c :: cs) (⟨.interpolation depth, openedAt⟩ :: below)) =
      pure ((Sequence.scan depth c cs).2.token before,
        (Sequence.scan depth c cs).2.behind before (c :: cs)
          (⟨.interpolation (Sequence.scan depth c cs).1, openedAt⟩ :: below)) := by
  by_cases opens : c = '{'
  · simp [scanSequence, Sequence.scan, opens]
  by_cases closes : c = '}'
  · subst closes
    cases depth with
    | zero =>
      have skipped : (skipBytes 1).run
          (.reading before [] ('}' :: cs) (⟨.interpolation 0, openedAt⟩ :: below)) = _ :=
        run_skipBytes ['}'] cs
      simp [scanSequence, Sequence.scan, closeSequence, Sequence.close, skipped, run_pop above]
    | succ depth => simp [scanSequence, Sequence.scan, run_sub]
  by_cases strips : c = '~' ∧ depth = 0 ∧ cs.head? = some '}'
  · obtain ⟨rfl, rfl, head⟩ := strips
    obtain ⟨tail, rfl⟩ := List.head?_eq_some_iff.mp head
    have skipped : (skipBytes 2).run
        (.reading before [] ('~' :: '}' :: tail) (⟨.interpolation 0, openedAt⟩ :: below)) = _ :=
      run_skipBytes ['~', '}'] tail
    simp [scanSequence, Sequence.scan, closeSequence, Sequence.close, skipped, run_pop above]
  · have plain : Sequence.scan depth c cs = (depth, Body.scan c cs) := by
      unfold Sequence.scan
      rw [if_neg opens, if_neg closes, if_neg]
      simpa [and_assoc] using strips
    rw [List.head?_eq_getElem?] at strips
    simp [scanSequence, opens, closes, strips, plain, run_scanBody]

end HclLexis.Guarded
