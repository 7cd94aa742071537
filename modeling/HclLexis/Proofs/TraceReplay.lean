import HclLexis.Proofs.Brackets
import HclLexis.Proofs.Calls
import HclLexis.Trace

/-! The trace of a run is told by its tokens. A walk of them with the kinds of the open modes gives
the events of each call, in the order of the calls, and the depth that the walk ends at counts the
constructs that are open at the end. -/

namespace HclLexis

def Token.event? (token : Token) (depth : Nat) : Option TraceEvent :=
  match token.kind with
  | .error kind => some (.lexicalError kind token.start.line token.start.column)
  | kind => match kind.opens?, kind.closes? with
    | some mode, _ => some (.pushMode mode depth)
    | none, some mode => some (.popMode mode depth)
    | none, none => none

def walkEvents? : List Token → List ModeKind → Option (List TraceEvent × List ModeKind)
  | [], kinds => some ([], kinds)
  | token :: tokens, kinds => do
    let next ← token.walk? kinds
    let (events, last) ← walkEvents? tokens next
    return ((token.event? next.length).toList ++ events, last)

theorem walkEvents?_cons (token : Token) (tokens : List Token) (kinds : List ModeKind) :
    walkEvents? (token :: tokens) kinds = (token.walk? kinds).bind fun next =>
      (walkEvents? tokens next).map fun walked =>
        ((token.event? next.length).toList ++ walked.1, walked.2) := by
  rw [walkEvents?]
  refine congrArg _ (funext fun next => ?_)
  cases walkEvents? tokens next <;> rfl

namespace TraceEvent

def isLexicalError : TraceEvent → Bool
  | lexicalError .. => true
  | _ => false

def depth? : TraceEvent → Option Nat
  | pushMode _ depth | popMode _ depth => some depth
  | _ => none

def lastDepth (events : List TraceEvent) : Nat := ((events.filterMap depth?).getLast?).getD 1

end TraceEvent

namespace ModeStack

theorem length_kinds (modes : ModeStack) : modes.kinds.length = modes.depth := by
  simp [kinds, depth]

theorem one_le_length_kinds (modes : ModeStack) : 1 ≤ modes.kinds.reverse.length := by
  rw [List.length_reverse, length_kinds]
  exact Nat.le_add_left 1 _

theorem depth_enter (modes : ModeStack) (mode entered : Mode) (openedAt : Location) :
    ((modes.setCurrent mode).follow openedAt (.enter entered)).depth = modes.depth + 1 := by
  rw [← depth_setCurrent modes mode]
  rfl

theorem depth_leave {modes : ModeStack} {frame : Frame} {below : List Frame}
    (above : modes.frames = frame :: below) (mode : Mode) (openedAt : Location) :
    ((modes.setCurrent mode).follow openedAt .leave).depth = modes.depth - 1 := by
  rw [depth, frames_follow_leave (frames_setCurrent above mode), depth, above]
  rfl

end ModeStack

namespace Token

variable {token : Token} {mode : ModeKind} {depth : Nat}

theorem event?_of_opens (opens : token.kind.opens? = some mode) :
    token.event? depth = some (.pushMode mode depth) ∧ TraceEvent.ofToken token = [] := by
  obtain ⟨kind, text, start, stop⟩ := token
  cases kind <;> cases opens <;> exact ⟨rfl, rfl⟩

theorem event?_of_closes (closes : token.kind.closes? = some mode) :
    token.event? depth = some (.popMode mode depth) ∧ TraceEvent.ofToken token = [] := by
  obtain ⟨kind, text, start, stop⟩ := token
  cases kind <;> cases closes <;> exact ⟨rfl, rfl⟩

theorem event?_of_neither (noOpener : token.kind.opens? = none)
    (noCloser : token.kind.closes? = none) :
    (token.event? depth).toList = TraceEvent.ofToken token := by
  obtain ⟨kind, text, start, stop⟩ := token
  cases kind with
  | openQuote | templateInterp | templateControl | heredocOpen => cases noOpener
  | closeQuote | templateSeqEnd | heredocClose => cases noCloser
  | _ => rfl

/-- A step of a walk: the kinds that it comes to and the event that it means. -/
inductive Steps (token : Token) : List ModeKind → List ModeKind → Option TraceEvent → Prop
  | push {mode : ModeKind} (kinds : List ModeKind) (opens : token.kind.opens? = some mode) :
      Steps token kinds (mode :: kinds) (some (.pushMode mode (kinds.length + 1)))
  | pop {mode : ModeKind} (kinds : List ModeKind) (closes : token.kind.closes? = some mode) :
      Steps token (mode :: kinds) kinds (some (.popMode mode kinds.length))
  | fault {kind : LexErrorKind} (kinds : List ModeKind) (isError : token.kind = .error kind) :
      Steps token kinds kinds (some (.lexicalError kind token.start.line token.start.column))
  | quiet (kinds : List ModeKind) (noError : (token.kind.isError && !token.isEof) = false) :
      Steps token kinds kinds none

theorem steps_of_walk? {kinds next : List ModeKind} (walked : token.walk? kinds = some next) :
    token.Steps kinds next (token.event? next.length) := by
  cases opens : token.kind.opens? with
  | some mode =>
    cases (walk?_of_opens opens).symm.trans walked
    rw [(event?_of_opens opens).1]
    exact .push kinds opens
  | none =>
    cases closes : token.kind.closes? with
    | some mode =>
      cases eq_cons_of_walk? closes walked
      rw [(event?_of_closes closes).1]
      exact .pop next closes
    | none =>
      cases (walk?_of_neither opens closes).symm.trans walked
      obtain ⟨kind, text, start, stop⟩ := token
      cases kind with
      | error kind => exact .fault kinds rfl
      | openQuote | templateInterp | templateControl | heredocOpen => cases opens
      | closeQuote | templateSeqEnd | heredocClose => cases closes
      | eof => exact .quiet kinds (Bool.and_false _)
      | _ => exact .quiet kinds rfl

end Token

theorem Outcome.move_eq {t : Text} {mode mode' : Mode} {scan : Scan}
    (outcome : Outcome t mode mode' scan) :
    match scan.kind.opens?, scan.kind.closes? with
    | some kind, _ => ∃ entered, scan.move = .enter entered ∧ entered.kind = kind
    | none, some kind => scan.move = .leave ∧ mode.kind = kind ∧ mode ≠ .structural
    | none, none => scan.move = .stay := by
  cases outcome with
  | neutral _ _ neutral | stringText _ neutral =>
    simp only [TokenKind.isNeutral, Bool.and_eq_true, Option.isNone_iff_eq_none] at neutral
    simp only [neutral.1.2, neutral.2]
  | @bodyBrace kind _ brace => cases kind <;> first | rfl | cases brace
  | stringSequence _ opens | heredocSequence _ _ opens =>
    simp only [opens]
    exact ⟨_, rfl, rfl⟩
  | openQuote | heredocOpen => exact ⟨_, rfl, rfl⟩
  | closeSequence | closeQuote | heredocClose => exact ⟨rfl, rfl, nofun⟩
  | openBrace | closeBrace | heredocLineBreak | heredocText => rfl

namespace Lexer

variable {t : Text} {lexer : Lexer} {mode : Mode} {scan : Scan} {tail : Text}

theorem pullEvents_of_scans (scans : lexer.modes.current.Scans mode scan tail)
    (ahead : lexer.cursor.rest = scan.lexeme ++ tail) :
    lexer.pullEvents =
      TraceEvent.ofMove lexer.modes scan.move ++ TraceEvent.ofToken lexer.pull.1 := by
  obtain ⟨c, cs, shape, scanned⟩ := scans
  rw [pullEvents, scan?, ahead, shape]
  simp only [scanned]

theorem Reads.pullEvents_eq (reads : Reads t lexer) :
    lexer.pullEvents = (lexer.pull.1.event? lexer.pull.2.modes.depth).toList := by
  by_cases ended : lexer.cursor.rest = []
  · rw [pullEvents, scan?, ended, pull_of_ended ended]
    rfl
  obtain ⟨mode, scan, tail, scans, split, -⟩ := reads.exists_scans ended
  have pulled := pull_of_scans scans split
  have kind : lexer.pull.1.kind = scan.kind := by rw [pulled]
  have modes : lexer.pull.2.modes =
      (lexer.modes.setCurrent mode).follow lexer.cursor.location scan.move := by
    rw [pulled]
    rfl
  have moves := (outcome_of_scans scans).move_eq
  rw [← kind] at moves
  rw [pullEvents_of_scans scans split, modes]
  cases opens : lexer.pull.1.kind.opens? with
  | some kind =>
    simp only [opens] at moves
    obtain ⟨entered, enters, rfl⟩ := moves
    obtain ⟨event, noError⟩ := Token.event?_of_opens opens
    rw [event, noError, enters, ModeStack.depth_enter]
    rfl
  | none =>
    cases closes : lexer.pull.1.kind.closes? with
    | some kind =>
      simp only [opens, closes] at moves
      obtain ⟨leaves, rfl, above⟩ := moves
      obtain ⟨openedAt, below, onTop⟩ := ModeStack.eq_cons_of_current reads.base rfl above
      have frames : lexer.modes.frames = ⟨lexer.modes.current, openedAt⟩ :: below :=
        congrArg ModeStack.frames onTop
      obtain ⟨event, noError⟩ := Token.event?_of_closes closes
      rw [event, noError, leaves, ModeStack.depth_leave frames]
      rfl
    | none =>
      simp only [opens, closes] at moves
      rw [moves, Token.event?_of_neither opens closes]
      rfl

theorem Reads.walkEvents?_pulls (reads : Reads t lexer) (n : Nat) :
    walkEvents? (lexer.pulls n) lexer.modes.kinds.reverse =
      some (lexer.events n, (lexer.skip n).modes.kinds.reverse) := by
  induction n generalizing lexer with
  | zero => rfl
  | succ n ih =>
    rw [pulls, walkEvents?_cons, reads.walk?_pull, Option.bind_some, ih reads.pull, Option.map_some,
      List.length_reverse, ModeStack.length_kinds, ← reads.pullEvents_eq]
    rfl

theorem Reads.depth_of_mem_events (reads : Reads t lexer) {n : Nat} {event : TraceEvent}
    (member : event ∈ lexer.events n) :
    (∀ mode depth, event = .pushMode mode depth → 2 ≤ depth) ∧
      ∀ mode depth, event = .popMode mode depth → 1 ≤ depth := by
  induction n generalizing lexer with
  | zero => cases member
  | succ n ih =>
    rw [events, List.mem_append] at member
    rcases member with member | member
    · have steps := Token.steps_of_walk? reads.walk?_pull
      have front := lexer.modes.one_le_length_kinds
      have back := lexer.pull.2.modes.one_le_length_kinds
      rw [reads.pullEvents_eq, Option.mem_toList] at member
      rw [List.length_reverse, ModeStack.length_kinds, member] at steps
      generalize lexer.modes.kinds.reverse = kinds at steps front
      generalize lexer.pull.2.modes.kinds.reverse = next at steps back
      cases steps with
      | push =>
        refine ⟨fun mode depth same => ?_, nofun⟩
        cases same
        exact Nat.succ_le_succ front
      | pop =>
        refine ⟨nofun, fun mode depth same => ?_⟩
        cases same
        exact back
      | fault => exact ⟨nofun, nofun⟩
    · exact ih reads.pull member

end Lexer

section

variable {tokens : List Token} {kinds last : List ModeKind} {events : List TraceEvent}

theorem exists_steps_of_walkEvents? {token : Token}
    (walked : walkEvents? (token :: tokens) kinds = some (events, last)) :
    ∃ next event others, token.Steps kinds next event ∧
      walkEvents? tokens next = some (others, last) ∧ events = event.toList ++ others := by
  rw [walkEvents?_cons] at walked
  obtain ⟨next, step, rest⟩ := Option.bind_eq_some_iff.mp walked
  obtain ⟨⟨others, _⟩, behind, same⟩ := Option.map_eq_some_iff.mp rest
  cases same
  exact ⟨next, _, others, Token.steps_of_walk? step, behind, rfl⟩

theorem getLast?_depth_walkEvents? (walked : walkEvents? tokens kinds = some (events, last)) :
    ((events.filterMap TraceEvent.depth?).getLast?).getD kinds.length = last.length := by
  induction tokens generalizing kinds events with
  | nil =>
    cases walked
    rfl
  | cons token tokens ih =>
    obtain ⟨next, event, others, steps, rest, rfl⟩ := exists_steps_of_walkEvents? walked
    have behind := ih rest
    cases steps with
    | push | pop => simpa [TraceEvent.depth?, List.getLast?_cons] using behind
    | fault | quiet => simpa [TraceEvent.depth?] using behind

theorem countP_isLexicalError_walkEvents?
    (walked : walkEvents? tokens kinds = some (events, last)) :
    events.countP TraceEvent.isLexicalError =
      tokens.countP fun token => token.kind.isError && !token.isEof := by
  induction tokens generalizing kinds events with
  | nil =>
    cases walked
    rfl
  | cons token tokens ih =>
    obtain ⟨next, event, others, steps, rest, rfl⟩ := exists_steps_of_walkEvents? walked
    have behind := ih rest
    have counts : event.toList.countP TraceEvent.isLexicalError =
        if token.kind.isError && !token.isEof then 1 else 0 := by
      obtain ⟨kind, text, start, stop⟩ := token
      cases steps with
      | push _ opens => cases kind <;> cases opens <;> rfl
      | pop _ closes => cases kind <;> cases closes <;> rfl
      | fault _ isError =>
        cases isError
        rfl
      | quiet _ noError => rw [noError]; rfl
    rw [List.countP_append, List.countP_cons, counts, behind, Nat.add_comm]

end

open Lexer

/-- The trace of a text is that of a walk over its tokens from a body alone. The summary behind it
counts the tokens and the errors, the end of the text with constructs open as one. Openers come to
depths above the base, and the last depth counts the constructs that are open at the end. -/
theorem trace_eq_walkEvents (t : Text) :
    ∃ events kinds unterminated,
      walkEvents? (tokenize t) [.structural] = some (events, kinds) ∧
      (tokenize t).getLast?.map Token.kind = some (.eof unterminated) ∧
      trace t = events ++ [.summary (tokenize t).length
        (events.countP TraceEvent.isLexicalError + if unterminated = [] then 0 else 1)] ∧
      (∀ mode depth, .pushMode mode depth ∈ events → 2 ≤ depth) ∧
      (∀ mode depth, .popMode mode depth ∈ events → 1 ≤ depth) ∧
      TraceEvent.lastDepth events - 1 = unterminated.length := by
  obtain ⟨n, ends, -, before, whole, -⟩ := exists_tokensBeforeEnd t
  have reads := reads_ofText t
  have tokens : tokenize t = (ofText t).pulls (n + 1) := by
    rw [whole, ← before, pulls_succ, Lexer.token, pull_of_ended ends]
  have walked := reads.walkEvents?_pulls (n + 1)
  rw [← tokens, endsAt_succ ends] at walked
  have length : (tokenize t).length = n + 1 := by rw [tokens, length_pulls]
  refine ⟨_, _, ((ofText t).skip n).modes.unclosed, walked, by simp [whole, endToken],
    ?_, ?_, ?_, ?_⟩
  · have before : (tokensBeforeEnd t).countP (fun token => token.kind.isError && !token.isEof) =
        (tokensBeforeEnd t).countP fun token => token.kind.isError := by
      refine List.countP_congr fun token member => ?_
      simp [(List.mem_filter.mp member).2]
    have atEnd : (tokenize t).countP (fun token => token.kind.isError) =
        ((ofText t).events (n + 1)).countP TraceEvent.isLexicalError +
          if ((ofText t).skip n).modes.unclosed = [] then 0 else 1 := by
      rw [countP_isLexicalError_walkEvents? walked, whole, List.countP_append, List.countP_append,
        before]
      simp [endToken, TokenKind.isError, Token.isEof, TokenKind.isEof]
    rw [trace, length, atEnd]
  · exact fun mode depth member => (reads.depth_of_mem_events member).1 mode depth rfl
  · exact fun mode depth member => (reads.depth_of_mem_events member).2 mode depth rfl
  · have depth : TraceEvent.lastDepth ((ofText t).events (n + 1)) =
        ((ofText t).skip n).modes.kinds.reverse.length := getLast?_depth_walkEvents? walked
    rw [depth, List.length_reverse, ModeStack.length_kinds, ModeStack.unclosed, List.length_map,
      List.length_reverse]
    rfl

end HclLexis
