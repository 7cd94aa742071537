import HclLexis.Lexeme.TemplateText
import HclLexis.ModeStack
import HclLexis.Proofs.ByteSlices

/-! Guarded actions: what the lexer does, over the whole text and a byte offset. Wherever an action
relies on a condition it checks it, and a condition that does not hold is a fault. The `run` of an
action is told for a machine between two pieces of its text. -/

namespace HclLexis

inductive Fault where
  /-- The ends of a slice are not two places between characters, in order. -/
  | slice
  /-- A movement over bytes does not end at the offset that it asks for. -/
  | unevenMove
  | emptyStack
  | popOfBase
  /-- The rules of a mode are used in another one. -/
  | otherMode
  | underflow
  | noProgress
  /-- A loop is still not over when it must have read all of the text. -/
  | endless
deriving DecidableEq

/-- The whole text, a location in it, and the modes with the innermost first and the base last. -/
structure Machine where
  input : Text
  location : Location
  frames : List Frame
deriving DecidableEq

/-- A machine between `before ++ read` and `ahead`. The rule at work found it behind `before`. -/
def Machine.reading (before read ahead : Text) (frames : List Frame) : Machine :=
  ⟨before ++ read ++ ahead, Location.start.advanceOver (before ++ read), frames⟩

abbrev Guarded := StateT Machine (Except Fault)

namespace Guarded

open Lexeme

variable {before read ahead piece : Text} {frames below : List Frame} {machine : Machine}
  {mode : Mode} {openedAt : Location} {c : Char} {cs : Text}

def sliceFrom (t : Text) (start : Nat) : Guarded Text :=
  match Text.dropBytes? start t with
  | some rest => pure rest
  | none => throw .slice

@[simp] theorem run_sliceFrom (s t : Text) :
    (sliceFrom (s ++ t) (Text.byteSize s)).run machine = pure (t, machine) := by
  rw [sliceFrom, Text.dropBytes?_append]
  rfl

example : (sliceFrom ['é'] 1).run machine = .error .slice := rfl

def sliceTo (t : Text) (stop : Nat) : Guarded Text :=
  match Text.takeBytes? stop t with
  | some piece => pure piece
  | none => throw .slice

@[simp] theorem run_sliceTo (s t : Text) :
    (sliceTo (s ++ t) (Text.byteSize s)).run machine = pure (s, machine) := by
  rw [sliceTo, Text.takeBytes?_append]
  rfl

def sub (a b : Nat) : Guarded Nat :=
  if b ≤ a then pure (a - b) else throw .underflow

theorem run_sub {a b : Nat} (le : b ≤ a) : (sub a b).run machine = pure (a - b, machine) := by
  rw [sub, if_pos le]
  rfl

def slice (t : Text) (start stop : Nat) : Guarded Text :=
  if start ≤ stop then do
    let rest ← sliceFrom t start
    sliceTo rest (stop - start)
  else throw .slice

theorem run_slice (s piece t : Text) :
    (slice (s ++ (piece ++ t)) (Text.byteSize s) (Text.byteSize (s ++ piece))).run machine =
      pure (piece, machine) := by
  have size : Text.byteSize (s ++ piece) - Text.byteSize s = Text.byteSize piece := by simp
  rw [slice, if_pos (by simp), size]
  simp

def here : Guarded Location := do
  let machine ← get
  return machine.location

@[simp] theorem run_here : here.run (.reading before read ahead frames) =
    pure (Location.start.advanceOver (before ++ read), .reading before read ahead frames) := rfl

def rest : Guarded Text := do
  let machine ← get
  sliceFrom machine.input machine.location.offset

@[simp] theorem run_rest : rest.run (.reading before read ahead frames) =
    pure (ahead, .reading before read ahead frames) := by
  simp only [rest, StateT.run_bind, StateT.run_get, pure_bind, Machine.reading,
    Location.offset_advanceOver, Location.offset_start, Nat.zero_add, run_sliceFrom]

def peek (n : Nat) : Guarded (Option Char) := do
  let ahead ← rest
  return ahead[n]?

@[simp] theorem run_peek (n : Nat) : (peek n).run (.reading before read ahead frames) =
    pure (ahead[n]?, .reading before read ahead frames) := by
  simp [peek]

def isAtEnd : Guarded Bool := do
  let machine ← get
  return machine.input.byteSize ≤ machine.location.offset

@[simp] theorem run_isAtEnd : isAtEnd.run (.reading before read ahead frames) =
    pure (ahead.isEmpty, .reading before read ahead frames) := by
  have sizes : (before ++ read ++ ahead).byteSize =
      (Location.start.advanceOver (before ++ read)).offset + ahead.byteSize := by
    simp [Nat.add_assoc]
  have ended : (before ++ read ++ ahead).byteSize ≤
      (Location.start.advanceOver (before ++ read)).offset ↔ ahead.isEmpty := by
    rw [List.isEmpty_iff, ← Text.byteSize_eq_zero_iff, sizes]
    omega
  simp only [isAtEnd, StateT.run_bind, StateT.run_get, pure_bind, StateT.run_pure, Machine.reading,
    ended, Bool.decide_eq_true]

def atLineBreak : Guarded Bool := do
  let ahead ← rest
  return Text.atLineBreak ahead

@[simp] theorem run_atLineBreak : atLineBreak.run (.reading before read ahead frames) =
    pure (Text.atLineBreak ahead, .reading before read ahead frames) := by
  simp [atLineBreak]

def step : Guarded Bool := do
  match ← peek 0 with
  | none => return false
  | some c =>
    modify fun machine => { machine with location := machine.location.advance c }
    return true

@[simp] theorem run_step_nil : step.run (.reading before read [] frames) =
    pure (false, .reading before read [] frames) := by
  simp [step]

@[simp] theorem run_step_cons : step.run (.reading before read (c :: cs) frames) =
    pure (true, .reading before (read ++ [c]) cs frames) := by
  simp only [step, StateT.run_bind, run_peek, pure_bind, List.getElem?_cons_zero]
  simp [Machine.reading, Location.advanceOver]

def steps : Nat → Guarded Unit
  | 0 => return
  | n + 1 => do
    let _ ← step
    steps n

theorem run_steps (piece ahead : Text) :
    (steps piece.length).run (.reading before read (piece ++ ahead) frames) =
      pure ((), .reading before (read ++ piece) ahead frames) := by
  induction piece generalizing read with
  | nil => simp [steps]
  | cons c cs ih => simp [steps, ih]

@[simp] theorem run_steps_one : (steps 1).run (.reading before read (c :: cs) frames) =
    pure ((), .reading before (read ++ [c]) cs frames) :=
  run_steps [c] cs

@[simp] theorem run_steps_two (d : Char) :
    (steps 2).run (.reading before read (c :: d :: cs) frames) =
      pure ((), .reading before (read ++ [c, d]) cs frames) :=
  run_steps [c, d] cs

def rounds (action : Guarded Bool) : Nat → Guarded Unit
  | 0 => throw .endless
  | n + 1 => do
    if ← action then rounds action n

/-- Repeats an action as long as it asks for more, which it may do once a character. -/
def repeatWhile (action : Guarded Bool) : Guarded Unit := do
  let ahead ← rest
  rounds action (ahead.length + 1)

/-- An action that moves over the unit ahead and asks for more, and stops where no unit starts. -/
structure Walks (action : Guarded Bool) (unit? : Char → Text → Option Nat) (before : Text)
    (frames : List Frame) : Prop where
  ended : ∀ read, action.run (.reading before read [] frames) =
    pure (false, .reading before read [] frames)
  stops : ∀ read {c cs}, unit? c cs = none → action.run (.reading before read (c :: cs) frames) =
    pure (false, .reading before read (c :: cs) frames)
  moves : ∀ read {c cs pending}, unit? c cs = some pending →
    action.run (.reading before read (c :: cs) frames) =
      pure (true, .reading before (read ++ c :: cs.take pending) (cs.drop pending) frames)

theorem Walks.run_rounds {action : Guarded Bool} {unit? : Char → Text → Option Nat}
    (walks : Walks action unit? before frames) {n : Nat} (enough : ahead.length < n) :
    (rounds action n).run (.reading before read ahead frames) =
      pure ((), .reading before (read ++ literalRun unit? 0 ahead)
        (ahead.drop (literalRun unit? 0 ahead).length) frames) := by
  -- each round moves over a character at least, so that the text ahead gets shorter than the bound
  induction n generalizing read ahead with
  | zero => exact absurd enough (Nat.not_lt_zero _)
  | succ n ih =>
    rw [rounds, StateT.run_bind]
    cases ahead with
    | nil => simp [walks.ended, literalRun]
    | cons c cs =>
      cases unit : unit? c cs with
      | none => simp [walks.stops read unit, literalRun, unit]
      | some pending =>
        have shorter : (cs.drop pending).length < n := by
          rw [List.length_cons] at enough
          rw [List.length_drop]
          omega
        have run : literalRun unit? 0 (c :: cs) =
            c :: (cs.take pending ++ literalRun unit? 0 (cs.drop pending)) := by
          simp only [literalRun, unit, ← literalRun_pending]
        have taken : cs.drop (cs.take pending).length = cs.drop pending := by simp
        rw [walks.moves read unit, pure_bind, run, List.length_cons, List.drop_succ_cons,
          List.length_append, ← List.drop_drop, taken]
        simp only [if_true, ih shorter, List.append_assoc, List.cons_append]

theorem Walks.run_repeatWhile {action : Guarded Bool} {unit? : Char → Text → Option Nat}
    (walks : Walks action unit? before frames) :
    (repeatWhile action).run (.reading before read ahead frames) =
      pure ((), .reading before (read ++ literalRun unit? 0 ahead)
        (ahead.drop (literalRun unit? 0 ahead).length) frames) := by
  rw [repeatWhile, StateT.run_bind, run_rest, pure_bind]
  exact walks.run_rounds (Nat.lt_succ_self _)

def stepBelow (target : Nat) : Guarded Bool := do
  let now ← here
  if now.offset < target then step else return false

theorem run_stepBelow {target : Nat} (below : Text.byteSize (before ++ read) < target) :
    (stepBelow target).run (.reading before read (c :: cs) frames) =
      pure (true, .reading before (read ++ [c]) cs frames) := by
  have before : (Location.start.advanceOver (before ++ read)).offset < target := by
    rwa [Location.offset_advanceOver, Location.offset_start, Nat.zero_add]
  simp only [stepBelow, StateT.run_bind, run_here, pure_bind, if_pos before, run_step_cons]

theorem run_rounds_stepBelow {target n : Nat} (piece ahead : Text)
    (reaches : target = Text.byteSize (before ++ read ++ piece)) (enough : piece.length < n) :
    (rounds (stepBelow target) n).run (.reading before read (piece ++ ahead) frames) =
      pure ((), .reading before (read ++ piece) ahead frames) := by
  induction piece generalizing read n with
  | nil =>
    obtain ⟨n, rfl⟩ := Nat.exists_eq_succ_of_ne_zero (Nat.ne_zero_of_lt enough)
    simp [rounds, stepBelow, reaches]
  | cons c cs ih =>
    obtain ⟨n, rfl⟩ := Nat.exists_eq_succ_of_ne_zero (Nat.ne_zero_of_lt enough)
    have positive := c.utf8Size_pos
    have below : Text.byteSize (before ++ read) < target := by
      rw [reaches, Text.byteSize_append (before ++ read), Text.byteSize_cons]
      omega
    have others := @ih (read ++ [c]) n (by simp [reaches]) (Nat.lt_of_succ_lt_succ enough)
    rw [rounds, StateT.run_bind, List.cons_append, run_stepBelow below, pure_bind]
    simp only [if_true, others, List.append_assoc, List.singleton_append]

/-- Moves over whole characters until `n` bytes are read, which has to come out even. -/
def skipBytes (n : Nat) : Guarded Unit := do
  let start ← here
  repeatWhile (stepBelow (start.offset + n))
  let stop ← here
  if stop.offset = start.offset + n then return else throw .unevenMove

theorem run_skipBytes (piece ahead : Text) :
    (skipBytes piece.byteSize).run (.reading before read (piece ++ ahead) frames) =
      pure ((), .reading before (read ++ piece) ahead frames) := by
  have enough : piece.length < (piece ++ ahead).length + 1 := by
    rw [List.length_append]
    omega
  have reaches : (Location.start.advanceOver (before ++ read)).offset + piece.byteSize =
      Text.byteSize (before ++ read ++ piece) := by
    simp [Nat.add_assoc]
  have stops : (Location.start.advanceOver (before ++ (read ++ piece))).offset =
      (Location.start.advanceOver (before ++ read)).offset + piece.byteSize := by
    simp [Nat.add_assoc]
  simp only [skipBytes, repeatWhile, StateT.run_bind, run_here, run_rest, pure_bind,
    run_rounds_stepBelow piece ahead reaches enough, if_pos stops, StateT.run_pure]

example : (skipBytes 1).run ⟨['é'], .start, []⟩ = .error .unevenMove := rfl

theorem run_skipBytes_of_isPrefix (isPrefix : piece <+: ahead) :
    (skipBytes piece.byteSize).run (.reading before read ahead frames) =
      pure ((), .reading before (read ++ piece) (ahead.drop piece.length) frames) := by
  obtain ⟨tail, rfl⟩ := isPrefix
  rw [List.drop_left]
  exact run_skipBytes piece tail

@[simp] theorem run_skipBytes_cons (c : Char) (piece ahead : Text) :
    (skipBytes (c.utf8Size + piece.byteSize)).run
      (.reading before read (c :: (piece ++ ahead)) frames) =
      pure ((), .reading before (read ++ c :: piece) ahead frames) :=
  run_skipBytes (c :: piece) ahead

def finish (kind : TokenKind) (start : Location) : Guarded Token := do
  let machine ← get
  let text ← slice machine.input start.offset machine.location.offset
  return ⟨kind, text, start, machine.location⟩

@[simp] theorem run_finish (kind : TokenKind) :
    (finish kind (Location.start.advanceOver before)).run (.reading before read ahead frames) =
      pure (⟨kind, read, Location.start.advanceOver before,
        Location.start.advanceOver (before ++ read)⟩, .reading before read ahead frames) := by
  rw [finish, StateT.run_bind, StateT.run_get, pure_bind]
  simp only [Machine.reading, Location.offset_advanceOver, Location.offset_start, Nat.zero_add,
    List.append_assoc, StateT.run_bind, run_slice, pure_bind, StateT.run_pure]

theorem literalRun_when (goes : Text → Bool) (t : Text) :
    literalRun (fun c cs => if goes (c :: cs) then some 0 else none) 0 t =
      Text.takeBefore (fun ahead => !goes ahead) t := by
  induction t with
  | nil => rfl
  | cons c cs ih =>
    rw [literalRun, Text.takeBefore]
    cases goes (c :: cs) with
    | true => simp [ih]
    | false => rfl

/-- An action that moves nothing and tells something of the text ahead. -/
abbrev Tells {α : Type} (action : Guarded α) (value : Text → α) (before : Text)
    (frames : List Frame) : Prop :=
  ∀ read ahead, action.run (.reading before read ahead frames) =
    pure (value ahead, .reading before read ahead frames)

def stepWhen (goes : Guarded Bool) : Guarded Bool := do
  if ← goes then step else return false

def skipWhen (goes : Guarded Bool) : Guarded Unit := repeatWhile (stepWhen goes)

theorem Tells.run_skipWhen {ask : Guarded Bool} {goes : Text → Bool}
    (tells : Tells ask goes before frames) :
    (skipWhen ask).run (.reading before read ahead frames) =
      pure ((), .reading before (read ++ Text.takeBefore (fun t => !goes t) ahead)
        (ahead.drop (Text.takeBefore (fun t => !goes t) ahead).length) frames) := by
  rw [skipWhen, ← literalRun_when]
  apply Walks.run_repeatWhile
  constructor
  · intro read
    cases ended : goes [] <;> simp [stepWhen, tells read, ended]
  · intro read c cs unit
    have stopped : goes (c :: cs) = false := by simpa using unit
    simp [stepWhen, tells read, stopped]
  · intro read c cs pending unit
    obtain ⟨going, same⟩ := Option.ite_none_right_eq_some.mp unit
    cases same
    simp [stepWhen, tells read, going]

def passes (test : Char → Bool) : Guarded Bool := do
  let c ← peek 0
  return c.any test

@[simp] theorem tells_passes (test : Char → Bool) :
    Tells (passes test) (fun ahead => ahead[0]?.any test) before frames := by
  intro read ahead
  simp [passes]

def skipWhile (test : Char → Bool) : Guarded Unit := skipWhen (passes test)

theorem takeBefore_not_any (test : Char → Bool) (t : Text) :
    Text.takeBefore (fun ahead => !ahead[0]?.any test) t = t.takeWhile test := by
  induction t with
  | nil => rfl
  | cons c cs ih =>
    rw [Text.takeBefore, List.takeWhile_cons, ih]
    cases passes : test c <;> simp [passes]

@[simp] theorem run_skipWhile (test : Char → Bool) :
    (skipWhile test).run (.reading before read ahead frames) =
      pure ((), .reading before (read ++ ahead.takeWhile test) (ahead.dropWhile test) frames) := by
  rw [skipWhile, (tells_passes test).run_skipWhen, takeBefore_not_any, Text.drop_length_takeWhile]

def skipLineBreak : Guarded Bool := do
  let ahead ← rest
  if ['\r', '\n'].isPrefixOf ahead then
    skipBytes 2
    return true
  else if ['\n'].isPrefixOf ahead then
    step
  else return false

@[simp] theorem run_skipLineBreak : skipLineBreak.run (.reading before read ahead frames) =
    pure ((Text.lineBreak? ahead).isSome,
      .reading before (read ++ (Text.lineBreak? ahead).getD [])
        (ahead.drop ((Text.lineBreak? ahead).getD []).length) frames) := by
  rw [skipLineBreak, StateT.run_bind, run_rest, pure_bind]
  by_cases pair : ['\r', '\n'].isPrefixOf ahead
  · obtain ⟨tail, rfl⟩ := List.isPrefixOf_iff_prefix.mp pair
    have skipped : (skipBytes 2).run (.reading before read (['\r', '\n'] ++ tail) frames) =
        pure ((), .reading before (read ++ ['\r', '\n']) tail frames) :=
      run_skipBytes ['\r', '\n'] tail
    rw [if_pos pair, StateT.run_bind, skipped]
    rfl
  · rw [if_neg pair]
    by_cases feed : ['\n'].isPrefixOf ahead
    · obtain ⟨tail, rfl⟩ := List.isPrefixOf_iff_prefix.mp feed
      rw [if_pos feed]
      exact run_step_cons
    · have none : Text.lineBreak? ahead = none := by
        unfold Text.lineBreak?
        split <;> simp_all
      rw [if_neg feed, none]
      simp

def current : Guarded Mode := do
  let machine ← get
  match machine.frames with
  | [] => throw .emptyStack
  | frame :: _ => return frame.mode

@[simp] theorem run_current {frame : Frame} :
    current.run (.reading before read ahead (frame :: below)) =
      pure (frame.mode, .reading before read ahead (frame :: below)) := rfl

def setCurrent (mode : Mode) : Guarded Unit := do
  let machine ← get
  match machine.frames with
  | [] => throw .emptyStack
  | frame :: below => set { machine with frames := { frame with mode } :: below }

@[simp] theorem run_setCurrent {frame : Frame} :
    (setCurrent mode).run (.reading before read ahead (frame :: below)) =
      pure ((), .reading before read ahead (⟨mode, frame.openedAt⟩ :: below)) := rfl

def push (mode : Mode) (openedAt : Location) : Guarded Unit :=
  modify fun machine => { machine with frames := ⟨mode, openedAt⟩ :: machine.frames }

@[simp] theorem run_push : (push mode openedAt).run (.reading before read ahead frames) =
    pure ((), .reading before read ahead (⟨mode, openedAt⟩ :: frames)) := rfl

def pop : Guarded Unit := do
  let machine ← get
  match machine.frames with
  | [] | [_] => throw .popOfBase
  | _ :: below => set { machine with frames := below }

theorem run_pop {frame : Frame} (above : below ≠ []) :
    pop.run (.reading before read ahead (frame :: below)) =
      pure ((), .reading before read ahead below) := by
  obtain ⟨next, others, rfl⟩ := List.exists_cons_of_ne_nil above
  rfl

example : pop.run ⟨[], .start, [⟨.structural, .start⟩]⟩ = .error .popOfBase := rfl

end Guarded

end HclLexis
