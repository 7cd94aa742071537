/-! Texts as lists of characters. A text is measured in characters or in bytes of its UTF-8
encoding, and it breaks into lines at a line feed or at a carriage return with a line feed; a
carriage return alone does not end a line. -/

namespace HclLexis

abbrev Text := List Char

namespace Text

def byteSize : Text → Nat
  | [] => 0
  | c :: cs => c.utf8Size + byteSize cs

@[simp] theorem byteSize_nil : byteSize [] = 0 := rfl

@[simp] theorem byteSize_cons (c : Char) (cs : Text) :
    byteSize (c :: cs) = c.utf8Size + byteSize cs := rfl

@[simp] theorem byteSize_append (s t : Text) : byteSize (s ++ t) = byteSize s + byteSize t := by
  induction s with
  | nil => simp
  | cons c cs ih => simp [ih, Nat.add_assoc]

theorem byteSize_pos {t : Text} (nonempty : t ≠ []) : 0 < byteSize t := by
  obtain ⟨c, cs, rfl⟩ := List.exists_cons_of_ne_nil nonempty
  exact Nat.lt_of_lt_of_le c.utf8Size_pos (Nat.le_add_right _ _)

/-- The least number of characters from the head that hold at least `n` bytes, or all of them. -/
def charsCovering : Nat → Text → Nat
  | _, [] => 0
  | 0, _ => 0
  | n + 1, c :: cs => charsCovering (n + 1 - c.utf8Size) cs + 1

/-- What follows the first `n` bytes, if these end where a character ends. -/
def dropBytes? : Nat → Text → Option Text
  | 0, t => some t
  | _ + 1, [] => none
  | n + 1, c :: cs => if c.utf8Size ≤ n + 1 then dropBytes? (n + 1 - c.utf8Size) cs else none

/-- The characters before the first position whose remaining text passes the test. -/
def takeBefore (stop : Text → Bool) : Text → Text
  | [] => []
  | c :: cs => if stop (c :: cs) then [] else c :: takeBefore stop cs

theorem takeBefore_isPrefix (stop : Text → Bool) (t : Text) : takeBefore stop t <+: t := by
  induction t with
  | nil => exact List.nil_prefix
  | cons c cs ih =>
    rw [takeBefore]
    split
    · exact List.nil_prefix
    · exact List.cons_prefix_cons.mpr ⟨rfl, ih⟩

theorem drop_length_takeWhile (p : Char → Bool) (t : Text) :
    t.drop (t.takeWhile p).length = t.dropWhile p := by
  have parts : (t.takeWhile p ++ t.dropWhile p).drop (t.takeWhile p).length = t.dropWhile p :=
    List.drop_left
  rwa [List.takeWhile_append_dropWhile] at parts

theorem append_isPrefix {s u t : Text} (hs : s <+: t) (hu : u <+: t.drop s.length) :
    s ++ u <+: t := by
  obtain ⟨rest, rfl⟩ := hs
  rw [List.drop_left] at hu
  exact (List.prefix_append_right_inj s).mpr hu

def lineBreak? : Text → Option Text
  | '\n' :: _ => some ['\n']
  | '\r' :: '\n' :: _ => some ['\r', '\n']
  | _ => none

theorem lineBreak?_isPrefix {t lexeme : Text} (h : lineBreak? t = some lexeme) :
    lexeme ≠ [] ∧ lexeme <+: t := by
  unfold lineBreak? at h
  split at h <;> simp at h <;> subst h <;> simp

theorem lineBreak?_cons (c : Char) (s : Text) : lineBreak? (c :: s) =
    if c = '\n' then some ['\n']
    else if c = '\r' ∧ s.head? = some '\n' then some ['\r', '\n'] else none := by
  unfold lineBreak?
  split
  · simp_all
  · simp_all
  · rename_i feed carriage
    have noFeed : c ≠ '\n' := fun same => feed s (by rw [same])
    have noPair : ¬ (c = '\r' ∧ s.head? = some '\n') := by
      rintro ⟨rfl, head⟩
      obtain ⟨cs, rfl⟩ := List.head?_eq_some_iff.mp head
      exact carriage cs rfl
    rw [if_neg noFeed, if_neg noPair]

def atLineBreak (t : Text) : Bool := (lineBreak? t).isSome

def isIndent (c : Char) : Bool := c == ' ' || c == '\t'

/-- The text up to the next line feed, or all of it, less one carriage return at its end. -/
def line (t : Text) : Text :=
  let whole := t.takeWhile (· != '\n')
  if whole.getLast? = some '\r' then whole.dropLast else whole

theorem line_isPrefix (t : Text) : line t <+: t := by
  unfold line
  have whole := List.takeWhile_prefix (l := t) fun c => c != '\n'
  dsimp only
  split
  · exact (List.dropLast_prefix _).trans whole
  · exact whole

def byteOrderMark : Char := Char.ofNat 0xFEFF

def withoutMark : Text → Text
  | [] => []
  | c :: cs => if c = byteOrderMark then cs else c :: cs

end Text

end HclLexis
