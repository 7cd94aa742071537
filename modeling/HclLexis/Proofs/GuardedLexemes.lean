import HclLexis.Proofs.Guarded
import HclLexis.Proofs.Lookahead

/-! The rules of expressions as guarded actions. Each of them performs its rule: where the rule
scans a lexeme the action reads it without a fault, and where it does not the action moves
nothing. -/

namespace HclLexis

@[simp] def Scan.token (scan : Scan) (before : Text) : Token :=
  ⟨scan.kind, scan.lexeme, Location.start.advanceOver before,
    Location.start.advanceOver (before ++ scan.lexeme)⟩

def Move.follow (frames : List Frame) (openedAt : Location) : Move → List Frame
  | .stay => frames
  | .enter mode => ⟨mode, openedAt⟩ :: frames
  | .leave => frames.tail

@[simp] theorem Move.follow_stay (frames : List Frame) (openedAt : Location) :
    Move.stay.follow frames openedAt = frames := rfl

@[simp] theorem Move.follow_enter (frames : List Frame) (openedAt : Location) (mode : Mode) :
    (Move.enter mode).follow frames openedAt = ⟨mode, openedAt⟩ :: frames := rfl

@[simp] theorem Move.follow_leave (frame : Frame) (below : List Frame) (openedAt : Location) :
    Move.leave.follow (frame :: below) openedAt = below := rfl

@[simp] def Scan.behind (scan : Scan) (before ahead : Text) (frames : List Frame) : Machine :=
  .reading before scan.lexeme (ahead.drop scan.lexeme.length)
    (scan.move.follow frames (Location.start.advanceOver before))

namespace Guarded

open Lexeme

variable {before read ahead : Text} {frames : List Frame}

/-- The token and the machine that a rule leads to, whether it applies or not. -/
def ruleResult (before ahead : Text) (frames : List Frame) : Option Scan → Option Token × Machine
  | none => (none, .reading before [] ahead frames)
  | some scan => (some (scan.token before), scan.behind before ahead frames)

@[simp] theorem ruleResult_none :
    ruleResult before ahead frames none = (none, .reading before [] ahead frames) := rfl

@[simp] theorem ruleResult_some (scan : Scan) : ruleResult before ahead frames (some scan) =
    (some (scan.token before), scan.behind before ahead frames) := rfl

/-- An action that does what a rule says. -/
def Performs (action : Guarded (Option Token)) (rule : Text → Option Scan)
    (frames : List Frame) : Prop :=
  ∀ before ahead, action.run (.reading before [] ahead frames) =
    pure (ruleResult before ahead frames (rule ahead))

def firstOf : List (Guarded (Option Token)) → Guarded (Option Token)
  | [] => return none
  | action :: others => do
    match ← action with
    | some token => return some token
    | none => firstOf others

theorem performs_firstOf {actions : List (Guarded (Option Token))}
    {rules : List (Text → Option Scan)}
    (each : List.Forall₂ (Performs · · frames) actions rules) :
    Performs (firstOf actions) (Scan.first? rules) frames := by
  intro before ahead
  induction each with
  | nil => rfl
  | @cons action rule actions rules performs _ ih =>
    rw [firstOf, StateT.run_bind, performs, pure_bind, Scan.first?, List.findSome?_cons]
    cases rule ahead with
    | none => exact ih
    | some scan => rfl

def found (kind : TokenKind) (start : Location) : Guarded (Option Token) := do
  let token ← finish kind start
  return some token

@[simp] theorem run_found (kind : TokenKind) :
    (found kind (Location.start.advanceOver before)).run (.reading before read ahead frames) =
      pure (some ⟨kind, read, Location.start.advanceOver before,
        Location.start.advanceOver (before ++ read)⟩, .reading before read ahead frames) := by
  simp [found]

def readLineBreak (kind : TokenKind) : Guarded (Option Token) := do
  let start ← here
  if ← skipLineBreak then found kind start else return none

theorem performs_readLineBreak (kind : TokenKind) :
    Performs (readLineBreak kind)
      (fun t => (Text.lineBreak? t).map fun lexeme => { kind, lexeme }) frames := by
  intro before ahead
  cases broken : Text.lineBreak? ahead <;> simp [readLineBreak, broken]

def atBlank : Guarded Bool := do
  let c ← peek 0
  let next ← peek 1
  return c = some ' ' ∨ c = some '\t' ∨ c = some '\r' ∧ next ≠ some '\n'

theorem startsBlank_iff (t : Text) : startsBlank t ↔
    t[0]? = some ' ' ∨ t[0]? = some '\t' ∨ t[0]? = some '\r' ∧ t[1]? ≠ some '\n' := by
  cases t with
  | nil => simp [startsBlank]
  | cons c cs =>
    by_cases carriage : c = '\r'
    · subst carriage
      simp [startsBlank, Text.isIndent, Text.atLineBreak, Text.lineBreak?_cons,
        List.head?_eq_getElem?]
    · simp [startsBlank, carriage, Text.isIndent]

@[simp] theorem tells_atBlank : Tells atBlank startsBlank before frames := by
  intro read ahead
  simp only [atBlank, StateT.run_bind, run_peek, pure_bind, StateT.run_pure, ← startsBlank_iff,
    Bool.decide_eq_true]

def readBlanks : Guarded (Option Token) := do
  let start ← here
  if ← atBlank then
    skipWhen atBlank
    found .whitespace start
  else return none

theorem performs_readBlanks : Performs readBlanks blanks? frames := by
  intro before ahead
  cases blank : startsBlank ahead <;>
    simp [readBlanks, blanks?, tells_atBlank.run_skipWhen, blank]

def inLine : Guarded Bool := do
  if ← isAtEnd then return false
  let broken ← atLineBreak
  return !broken

theorem tells_inLine :
    Tells inLine (fun t => !t.isEmpty && !Text.atLineBreak t) before frames := by
  intro read ahead
  cases ended : ahead.isEmpty <;> simp [inLine, ended]

theorem takeBefore_inLine (t : Text) :
    Text.takeBefore (fun t => !(!t.isEmpty && !Text.atLineBreak t)) t =
      Text.takeBefore Text.atLineBreak t := by
  induction t with
  | nil => rfl
  | cons c cs ih =>
    rw [Text.takeBefore, Text.takeBefore, ih]
    simp

theorem startsLineComment_iff (t : Text) : startsLineComment t ↔
    t[0]? = some '#' ∨ t[0]? = some '/' ∧ t[1]? = some '/' := by
  cases t with
  | nil => simp [startsLineComment]
  | cons c cs => simp [startsLineComment_cons, List.head?_eq_getElem?]

def readLineComment : Guarded (Option Token) := do
  let start ← here
  let c ← peek 0
  let next ← peek 1
  if c = some '#' ∨ c = some '/' ∧ next = some '/' then
    skipWhen inLine
    found .comment start
  else return none

theorem performs_readLineComment : Performs readLineComment lineComment? frames := by
  intro before ahead
  have skipped : (skipWhen inLine).run (.reading before [] ahead frames) = _ :=
    tells_inLine.run_skipWhen
  rw [takeBefore_inLine] at skipped
  simp only [readLineComment, lineComment?, StateT.run_bind, run_here, run_peek, pure_bind,
    ← startsLineComment_iff]
  cases startsLineComment ahead <;> simp [skipped]

def insideComment : Guarded Bool := do
  let c ← peek 0
  let next ← peek 1
  return ¬ (c = some '*' ∧ next = some '/')

theorem commentEnd_isPrefixOf_iff (t : Text) :
    commentEnd.isPrefixOf t ↔ t[0]? = some '*' ∧ t[1]? = some '/' := by
  cases t with
  | nil => simp [commentEnd]
  | cons c cs =>
    rw [isPrefixOf_commentEnd, List.head?_eq_getElem?]
    simp

theorem tells_insideComment :
    Tells insideComment (fun t => !commentEnd.isPrefixOf t) before frames := by
  intro read ahead
  simp only [insideComment, StateT.run_bind, run_peek, pure_bind, StateT.run_pure,
    ← commentEnd_isPrefixOf_iff, Bool.decide_eq_true, decide_not]

def closeComment (start : Location) : Guarded (Option Token) := do
  if ← insideComment then found (.error .unterminatedComment) start
  else
    steps 2
    found .comment start

theorem run_closeComment (tail : Text) :
    (closeComment (Location.start.advanceOver before)).run
      (.reading before read (commentEnd ++ tail) frames) =
      pure (some (Scan.token { kind := .comment, lexeme := read ++ commentEnd } before),
        .reading before (read ++ commentEnd) tail frames) := by
  have ended : (steps 2).run (.reading before read (commentEnd ++ tail) frames) = _ :=
    run_steps commentEnd tail
  have atEnd : commentEnd.isPrefixOf (commentEnd ++ tail) := by simp
  simp [closeComment, tells_insideComment _ _, atEnd, ended]

theorem run_closeComment_nil :
    (closeComment (Location.start.advanceOver before)).run (.reading before read [] frames) =
      pure (some (Scan.token { kind := .error .unterminatedComment, lexeme := read } before),
        .reading before read [] frames) := by
  simp [closeComment, tells_insideComment _ _, commentEnd]

def readCommentBody (start : Location) : Guarded (Option Token) := do
  skipWhen insideComment
  closeComment start

theorem run_readCommentBody (rest : Text) :
    (readCommentBody (Location.start.advanceOver before)).run
      (.reading before ['/', '*'] rest frames) =
      pure (ruleResult before ('/' :: '*' :: rest) frames (blockComment? ('/' :: '*' :: rest))) := by
  have isPrefix := Text.takeBefore_isPrefix commentEnd.isPrefixOf rest
  have closes := @takeBefore_commentEnd_isPrefix rest
  have skipped : (skipWhen insideComment).run (.reading before ['/', '*'] rest frames) = _ :=
    tells_insideComment.run_skipWhen
  simp only [Bool.not_not] at skipped
  rw [readCommentBody, StateT.run_bind, skipped, pure_bind, blockComment?]
  generalize Text.takeBefore commentEnd.isPrefixOf rest = body at isPrefix closes
  by_cases closed : body.length < rest.length
  · obtain ⟨tail, rfl⟩ := closes closed
    rw [if_pos closed, List.append_assoc, List.drop_left]
    simp [run_closeComment]
  · have whole := isPrefix.eq_of_length_le (Nat.le_of_not_lt closed)
    subst whole
    simp [run_closeComment_nil]

def readBlockComment : Guarded (Option Token) := do
  let start ← here
  let c ← peek 0
  let next ← peek 1
  if c = some '/' ∧ next = some '*' then
    steps 2
    readCommentBody start
  else return none

theorem performs_readBlockComment : Performs readBlockComment blockComment? frames := by
  intro before ahead
  match ahead with
  | [] | [_] => simp [readBlockComment, blockComment?]
  | c :: d :: rest =>
    by_cases opens : c = '/' ∧ d = '*'
    · obtain ⟨rfl, rfl⟩ := opens
      simp [readBlockComment, run_readCommentBody]
    · have refused : blockComment? (c :: d :: rest) = none := by
        rw [blockComment?_eq_none_iff]
        simpa using opens
      simp [readBlockComment, opens, refused]

def readOpenQuote : Guarded (Option Token) := do
  let start ← here
  let c ← peek 0
  if c = some '"' then
    steps 1
    push .quotedTemplate start
    found .openQuote start
  else return none

theorem performs_readOpenQuote : Performs readOpenQuote Rules.Body.openQuote? frames := by
  intro before ahead
  cases ahead with
  | nil => simp [readOpenQuote, Rules.Body.openQuote?]
  | cons c cs =>
    by_cases quote : c = '"' <;> simp [readOpenQuote, Rules.Body.openQuote?, quote]

def readIdentifier : Guarded (Option Token) := do
  let start ← here
  if ← passes isIdentifierStart then
    steps 1
    skipWhile isIdentifierContinue
    found .ident start
  else return none

theorem performs_readIdentifier : Performs readIdentifier identifier? frames := by
  intro before ahead
  cases ahead with
  | nil => simp [readIdentifier, identifier?, identifier]
  | cons c cs =>
    cases starts : isIdentifierStart c <;>
      simp [readIdentifier, identifier?, identifier, starts, Text.drop_length_takeWhile]

def readOperator : Guarded (Option Token) := do
  let start ← here
  let ahead ← rest
  match operators.find? fun entry => entry.1.isPrefixOf ahead with
  | some (sign, kind) =>
    steps sign.length
    found kind start
  | none => return none

theorem performs_readOperator : Performs readOperator operator? frames := by
  intro before ahead
  simp only [readOperator, operator?, StateT.run_bind, run_here, run_rest, pure_bind]
  cases sought : operators.find? fun entry => entry.1.isPrefixOf ahead with
  | none => rfl
  | some entry =>
    obtain ⟨sign, kind⟩ := entry
    have isPrefix := List.find?_some sought
    obtain ⟨tail, rfl⟩ := List.isPrefixOf_iff_prefix.mp isPrefix
    simp [run_steps]

def readExponent (start : Location) : Guarded (Option Token) := do
  let marker ← peek 0
  if marker = some 'e' ∨ marker = some 'E' then
    let sign ← peek 1
    let width := if sign = some '+' ∨ sign = some '-' then 2 else 1
    let digit ← peek width
    steps width
    if digit.any Char.isDigit then
      skipWhile Char.isDigit
      found .number start
    else found (.error .malformedNumber) start
  else found .number start

theorem exponentSign_width (rest : Text) :
    (if rest[0]? = some '+' ∨ rest[0]? = some '-' then 2 else 1) =
      (exponentSign rest).length + 1 := by
  cases rest with
  | nil => rfl
  | cons c cs =>
    by_cases plus : c = '+'
    · simp [exponentSign, plus]
    · by_cases minus : c = '-' <;> simp [exponentSign, plus, minus]

theorem run_readExponent (mantissa ahead : Text) :
    (readExponent (Location.start.advanceOver before)).run
      (.reading before mantissa ahead frames) =
      pure (some ((numberTail mantissa ahead).token before),
        (numberTail mantissa ahead).behind before (mantissa ++ ahead) frames) := by
  cases ahead with
  | nil => simp [readExponent, numberTail]
  | cons marker rest =>
    by_cases isMarker : marker = 'e' ∨ marker = 'E'
    · have width := exponentSign_width rest
      obtain ⟨behind, split⟩ := exponentSign_isPrefix rest
      rw [numberTail_marker isMarker split]
      generalize exponentSign rest = sign at split width
      subst split
      have moved : (steps (sign.length + 1)).run
          (.reading before mantissa (marker :: (sign ++ behind)) frames) = _ :=
        run_steps (marker :: sign) behind
      simp only [readExponent, StateT.run_bind, run_peek, pure_bind, List.getElem?_cons_zero,
        Option.some.injEq, isMarker, if_true, List.getElem?_cons_succ, width, moved]
      cases behind with
      | nil => simp
      | cons d ds => cases digit : d.isDigit <;> simp [digit, Text.drop_length_takeWhile]
    · simp [readExponent, numberTail, isMarker]

def readFraction (start : Location) : Guarded (Option Token) := do
  let point ← peek 0
  if point = some '.' then
    match ← peek 1 with
    | some c =>
      if c.isDigit then
        steps 1
        skipWhile Char.isDigit
        readExponent start
      else if c = '.' ∨ isIdentifierStart c then found .number start
      else
        steps 1
        found (.error .malformedNumber) start
    | none =>
      steps 1
      found (.error .malformedNumber) start
  else readExponent start

theorem run_readFraction (t : Text) :
    (readFraction (Location.start.advanceOver before)).run
      (.reading before (t.takeWhile Char.isDigit) (t.dropWhile Char.isDigit) frames) =
      pure (some ((number t).token before), (number t).behind before t frames) := by
  have parts : t.takeWhile Char.isDigit ++ t.dropWhile Char.isDigit = t :=
    List.takeWhile_append_dropWhile
  rw [number]
  generalize t.takeWhile Char.isDigit = whole at parts
  generalize t.dropWhile Char.isDigit = rest at parts
  subst parts
  rw [readFraction, StateT.run_bind, run_peek, pure_bind]
  rcases rest with - | ⟨point, rest⟩
  · simp [run_readExponent]
  by_cases isPoint : point = '.'
  · subst isPoint
    rcases rest with - | ⟨c, cs⟩
    · simp
    cases digit : c.isDigit with
    | true => simp [digit, run_readExponent]
    | false => by_cases ends : c = '.' ∨ isIdentifierStart c <;> simp [digit, ends]
  · simp [isPoint, run_readExponent]

def readNumber : Guarded (Option Token) := do
  let start ← here
  if ← passes Char.isDigit then
    skipWhile Char.isDigit
    readFraction start
  else return none

theorem performs_readNumber : Performs readNumber number? frames := by
  intro before ahead
  cases ahead with
  | nil => simp [readNumber, number?]
  | cons c cs =>
    cases digit : c.isDigit with
    | true =>
      have read := @run_readFraction before frames (c :: cs)
      simp only [readNumber, number?, tells_passes _ _ _, StateT.run_bind, run_here, pure_bind,
        run_skipWhile, List.getElem?_cons_zero, Option.any_some, digit, if_true, List.append_nil,
        List.nil_append, read, ruleResult_some]
    | false => simp [readNumber, number?, digit]

def identifierEnd (offset : Nat) : Text → Nat
  | [] => offset
  | c :: cs =>
    if if offset = 0 then isIdentifierStart c else isIdentifierContinue c then
      identifierEnd (offset + c.utf8Size) cs
    else offset

theorem identifierEnd_of_pos {offset : Nat} (positive : 0 < offset) (t : Text) :
    identifierEnd offset t = offset + Text.byteSize (t.takeWhile isIdentifierContinue) := by
  induction t generalizing offset with
  | nil => rfl
  | cons c cs ih =>
    rw [identifierEnd, if_neg positive.ne']
    cases continues : isIdentifierContinue c with
    | true => simp [continues, ih (Nat.lt_add_right _ positive), Nat.add_assoc]
    | false => simp [continues]

theorem identifierEnd_zero (t : Text) : identifierEnd 0 t = Text.byteSize (identifier t) := by
  cases t with
  | nil => rfl
  | cons c cs =>
    rw [identifierEnd, if_pos rfl, identifier, Nat.zero_add, identifierEnd_of_pos c.utf8Size_pos]
    split <;> rfl

def readHeredocNamed (stripIndent : Bool) (named : Text) (start : Location) :
    Guarded (Option Token) := do
  let width := identifierEnd 0 named
  if width = 0 then return none
  let tail ← sliceFrom named width
  if tail.isEmpty ∨ Text.atLineBreak tail then
    let terminator ← sliceTo named width
    skipBytes (2 + stripIndent.toNat + width)
    push (.heredocTemplate { terminator, stripIndent }) start
    found (.heredocOpen stripIndent) start
  else return none

theorem run_readHeredocNamed {marker : Text} {stripIndent : Bool}
    (size : marker.byteSize = 2 + stripIndent.toNat) (named : Text) :
    (readHeredocNamed stripIndent named (Location.start.advanceOver before)).run
      (.reading before [] (marker ++ named) frames) =
      pure (ruleResult before (marker ++ named) frames
        (heredocNamed? marker stripIndent named)) := by
  obtain ⟨tail, split⟩ := identifier_isPrefix named
  rw [readHeredocNamed, heredocNamed?, identifierEnd_zero]
  generalize identifier named = terminator at split
  subst split
  have skipped : (skipBytes (2 + stripIndent.toNat + terminator.byteSize)).run
      (.reading before [] (marker ++ (terminator ++ tail)) frames) =
        pure ((), .reading before (marker ++ terminator) tail frames) := by
    rw [← size, ← Text.byteSize_append, ← List.append_assoc]
    exact run_skipBytes _ tail
  by_cases unnamed : terminator = []
  · simp [unnamed]
  by_cases ends : tail = [] ∨ Text.atLineBreak tail
  · simp [Text.byteSize_eq_zero_iff, unnamed, ends, skipped]
  · simp [Text.byteSize_eq_zero_iff, unnamed, ends]

def readHeredocOpen : Guarded (Option Token) := do
  let start ← here
  let c ← peek 0
  let next ← peek 1
  if c = some '<' ∧ next = some '<' then
    let ahead ← rest
    let behind ← sliceFrom ahead 2
    if behind.head? = some '-' then readHeredocNamed true behind.tail start
    else readHeredocNamed false behind start
  else return none

theorem performs_readHeredocOpen : Performs readHeredocOpen heredocOpen? frames := by
  intro before ahead
  match ahead with
  | [] | [_] => simp [readHeredocOpen, heredocOpen?]
  | c :: d :: behind =>
    by_cases opens : c = '<' ∧ d = '<'
    · obtain ⟨rfl, rfl⟩ := opens
      have cut (machine : Machine) :
          (sliceFrom ('<' :: '<' :: behind) 2).run machine = pure (behind, machine) :=
        run_sliceFrom ['<', '<'] behind
      have opened (named : Text) :=
        @run_readHeredocNamed before frames ['<', '<'] false rfl named
      have indented (named : Text) :=
        @run_readHeredocNamed before frames ['<', '<', '-'] true rfl named
      simp only [List.cons_append, List.nil_append] at opened indented
      cases behind with
      | nil => simp [readHeredocOpen, heredocOpen?, cut, opened]
      | cons e es =>
        by_cases hyphen : e = '-'
        · subst hyphen
          simp [readHeredocOpen, heredocOpen?, cut, indented]
        · simp [readHeredocOpen, heredocOpen?, cut, opened, hyphen]
    · rcases not_and_or.mp opens with other | other <;>
        simp [readHeredocOpen, heredocOpen?, other]

def bodyRules : List (Guarded (Option Token)) := [
  readHeredocOpen,
  readLineBreak .newline,
  readBlanks,
  readLineComment,
  readBlockComment,
  readOpenQuote,
  readIdentifier,
  readNumber,
  readOperator]

theorem performs_bodyRules :
    Performs (firstOf bodyRules) (Scan.first? Rules.Body.rules) frames := by
  apply performs_firstOf
  exact .cons performs_readHeredocOpen <| .cons (performs_readLineBreak .newline) <|
    .cons performs_readBlanks <| .cons performs_readLineComment <|
    .cons performs_readBlockComment <| .cons performs_readOpenQuote <|
    .cons performs_readIdentifier <| .cons performs_readNumber <|
    .cons performs_readOperator .nil

def scanBody (c : Char) : Guarded Token := do
  let start ← here
  match ← firstOf bodyRules with
  | some token => return token
  | none =>
    steps 1
    finish (.error (.unrecognizedCharacter c)) start

theorem run_scanBody (c : Char) (cs : Text) :
    (scanBody c).run (.reading before [] (c :: cs) frames) =
      pure ((Rules.Body.scan c cs).token before,
        (Rules.Body.scan c cs).behind before (c :: cs) frames) := by
  rw [scanBody, Rules.Body.scan, StateT.run_bind, run_here, pure_bind, StateT.run_bind,
    performs_bodyRules, pure_bind]
  cases Scan.first? Rules.Body.rules (c :: cs) with
  | none => simp [Rules.Body.unrecognized]
  | some scan => simp

end Guarded

end HclLexis
