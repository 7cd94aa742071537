import HclLexis.Text

/-! Locations in a text: a byte offset, a line and a column. Lines and columns count from one, a
column counts characters, and only a line feed starts a new line. -/

namespace HclLexis

structure Location where
  offset : Nat
  line : Nat
  column : Nat
deriving DecidableEq

namespace Location

def start : Location := ⟨0, 1, 1⟩

@[simp] theorem offset_start : start.offset = 0 := rfl

instance : Inhabited Location := ⟨start⟩

def advance (here : Location) (c : Char) : Location :=
  if c = '\n' then ⟨here.offset + c.utf8Size, here.line + 1, 1⟩
  else ⟨here.offset + c.utf8Size, here.line, here.column + 1⟩

def advanceOver (here : Location) (t : Text) : Location := t.foldl advance here

@[simp] theorem offset_advance (here : Location) (c : Char) :
    (here.advance c).offset = here.offset + c.utf8Size := by
  rw [advance]; split <;> rfl

@[simp] theorem offset_advanceOver (here : Location) (t : Text) :
    (here.advanceOver t).offset = here.offset + Text.byteSize t := by
  induction t generalizing here with
  | nil => rfl
  | cons c cs ih =>
    rw [advanceOver, List.foldl_cons, ← advanceOver, ih]
    simp [Nat.add_assoc]

/-- Offsets decide first, then lines, then columns. -/
instance : Ord Location where
  compare a b := (compare a.offset b.offset).then
    ((compare a.line b.line).then (compare a.column b.column))

def sort (locations : List Location) : List Location :=
  locations.mergeSort fun a b => (compare a b).isLE

end Location

end HclLexis
