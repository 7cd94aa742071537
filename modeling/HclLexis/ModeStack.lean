import HclLexis.Location
import HclLexis.Mode

/-! The stack of lexical modes. Below the modes of the open constructs lies a base mode that can
be replaced but not removed, so there always is an active mode. -/

namespace HclLexis

structure OpenConstruct where
  kind : ModeKind
  openedAt : Location
deriving DecidableEq

structure Frame where
  mode : Mode
  openedAt : Location
deriving DecidableEq

def Frame.construct (frame : Frame) : OpenConstruct := ⟨frame.mode.kind, frame.openedAt⟩

structure ModeStack where
  base : Mode := .structural
  /-- The frames above the base, the innermost first. -/
  frames : List Frame := []
deriving DecidableEq

inductive ModeStackError where
  | popOfBase
  | braceDepthOverflow
deriving DecidableEq

namespace ModeStackError

def message : ModeStackError → String
  | popOfBase => "attempted to pop the base structural mode"
  | braceDepthOverflow => "the brace depth exceeds 64 bits"

end ModeStackError

namespace ModeStack

def current (modes : ModeStack) : Mode :=
  match modes.frames with
  | [] => modes.base
  | frame :: _ => frame.mode

def setCurrent (modes : ModeStack) (mode : Mode) : ModeStack :=
  match modes.frames with
  | [] => { modes with base := mode }
  | frame :: below => { modes with frames := { frame with mode } :: below }

def push (modes : ModeStack) (mode : Mode) (openedAt : Location) : ModeStack :=
  { modes with frames := ⟨mode, openedAt⟩ :: modes.frames }

def pop (modes : ModeStack) : Except ModeStackError (Mode × ModeStack) :=
  match modes.frames with
  | [] => .error .popOfBase
  | frame :: below => .ok (frame.mode, { modes with frames := below })

/-- Counts more open braces in the active mode. The flag says whether that mode counts braces. -/
def addBraces (modes : ModeStack) (n : Nat) : Except ModeStackError (Bool × ModeStack) :=
  match modes.current with
  | .interpolation depth =>
    if depth + n < UInt64.size then .ok (true, modes.setCurrent (.interpolation (depth + n)))
    else .error .braceDepthOverflow
  | _ => .ok (false, modes)

/-- The number of modes, the base included. -/
def depth (modes : ModeStack) : Nat := modes.frames.length + 1

def isBalanced (modes : ModeStack) : Bool := modes.frames.isEmpty

/-- The modes from the base up. -/
def kinds (modes : ModeStack) : List ModeKind :=
  modes.base.kind :: modes.frames.reverse.map (·.mode.kind)

/-- The open constructs, the outermost first. -/
def unclosed (modes : ModeStack) : List OpenConstruct :=
  modes.frames.reverse.map Frame.construct

/-- The stack after a move that a lexeme at `openedAt` makes. The base is never left. -/
def follow (modes : ModeStack) (openedAt : Location) : Move → ModeStack
  | .stay => modes
  | .enter mode => modes.push mode openedAt
  | .leave => match modes.pop with
    | .ok (_, below) => below
    | .error _ => modes

@[simp] theorem current_push (modes : ModeStack) (mode : Mode) (openedAt : Location) :
    (modes.push mode openedAt).current = mode := rfl

@[simp] theorem current_setCurrent (modes : ModeStack) (mode : Mode) :
    (modes.setCurrent mode).current = mode := by
  obtain ⟨base, frames⟩ := modes
  cases frames <;> rfl

@[simp] theorem depth_setCurrent (modes : ModeStack) (mode : Mode) :
    (modes.setCurrent mode).depth = modes.depth := by
  obtain ⟨base, frames⟩ := modes
  cases frames <;> rfl

theorem pop_push (modes : ModeStack) (mode : Mode) (openedAt : Location) :
    (modes.push mode openedAt).pop = .ok (mode, modes) := rfl

end ModeStack

end HclLexis
