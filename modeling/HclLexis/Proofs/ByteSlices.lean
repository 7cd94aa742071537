import HclLexis.Text
import Mathlib.Data.List.DropRight

/-! Slices of a text by bytes. The bytes up to a place in a text, and those from there on, are a
piece of the text if the place is between two characters, and nothing otherwise. -/

namespace HclLexis.Text

/-- The first `n` bytes, if these end where a character ends. -/
def takeBytes? : Nat → Text → Option Text
  | 0, _ => some []
  | _ + 1, [] => none
  | n + 1, c :: cs =>
    if c.utf8Size ≤ n + 1 then (takeBytes? (n + 1 - c.utf8Size) cs).map (c :: ·) else none

theorem exists_byteSize_cons (c : Char) (cs : Text) :
    ∃ n, byteSize (c :: cs) = n + 1 ∧ c.utf8Size ≤ n + 1 ∧ n + 1 - c.utf8Size = byteSize cs := by
  obtain ⟨n, size⟩ := Nat.exists_eq_succ_of_ne_zero (byteSize_pos (List.cons_ne_nil c cs)).ne'
  refine ⟨n, size, ?_⟩
  rw [byteSize_cons] at size
  omega

@[simp] theorem dropBytes?_append (s t : Text) : dropBytes? (byteSize s) (s ++ t) = some t := by
  induction s with
  | nil => cases t <;> rfl
  | cons c cs ih =>
    obtain ⟨n, size, fits, rest⟩ := exists_byteSize_cons c cs
    rw [size, List.cons_append, dropBytes?, if_pos fits, rest, ih]

@[simp] theorem takeBytes?_append (s t : Text) : takeBytes? (byteSize s) (s ++ t) = some s := by
  induction s with
  | nil => cases t <;> rfl
  | cons c cs ih =>
    obtain ⟨n, size, fits, rest⟩ := exists_byteSize_cons c cs
    rw [size, List.cons_append, takeBytes?, if_pos fits, rest, ih, Option.map_some]

theorem takeBytes?_eq_some_iff {n : Nat} {s t : Text} :
    takeBytes? n t = some s ↔ s <+: t ∧ byteSize s = n := by
  constructor
  · intro taken
    induction t generalizing n s with
    | nil =>
      cases n with
      | zero => exact Option.some.inj taken ▸ ⟨List.nil_prefix, rfl⟩
      | succ n => cases taken
    | cons c cs ih =>
      cases n with
      | zero => exact Option.some.inj taken ▸ ⟨List.nil_prefix, rfl⟩
      | succ n =>
        rw [takeBytes?, Option.ite_none_right_eq_some] at taken
        obtain ⟨fits, taken⟩ := taken
        obtain ⟨piece, others, rfl⟩ := Option.map_eq_some_iff.mp taken
        obtain ⟨isPrefix, size⟩ := ih others
        refine ⟨List.cons_prefix_cons.mpr ⟨rfl, isPrefix⟩, ?_⟩
        rw [byteSize_cons, size]
        omega
  · rintro ⟨⟨tail, rfl⟩, rfl⟩
    exact takeBytes?_append s tail

theorem append_inj_of_byteSize {s t s' t' : Text} (same : s ++ t = s' ++ t')
    (size : byteSize s = byteSize s') : s = s' ∧ t = t' := by
  have front := takeBytes?_append s t
  have behind := dropBytes?_append s t
  rw [same, size, takeBytes?_append] at front
  rw [same, size, dropBytes?_append] at behind
  exact ⟨(Option.some.inj front).symm, (Option.some.inj behind).symm⟩

theorem byteSize_eq_zero_iff {t : Text} : byteSize t = 0 ↔ t = [] := by
  constructor
  · intro empty
    by_contra nonempty
    exact absurd empty (byteSize_pos nonempty).ne'
  · rintro rfl
    rfl

theorem byteSize_eq_length {t : Text} (narrow : ∀ c ∈ t, c.utf8Size = 1) :
    byteSize t = t.length := by
  induction t with
  | nil => rfl
  | cons c cs ih =>
    rw [byteSize_cons, narrow c List.mem_cons_self, ih fun d member => narrow d (.tail _ member),
      List.length_cons, Nat.add_comm]

theorem utf8Size_of_ascii {c : Char} (ascii : c.val ≤ 0x7F) : c.utf8Size = 1 := by
  rw [Char.utf8Size]
  exact if_pos ascii

theorem utf8Size_of_isIndent {c : Char} (indent : isIndent c) : c.utf8Size = 1 := by
  rw [isIndent, Bool.or_eq_true, beq_iff_eq, beq_iff_eq] at indent
  rcases indent with rfl | rfl <;> rfl

theorem byteSize_sub_indent (line : Text) :
    byteSize line - byteSize (line.dropWhile isIndent) = (line.takeWhile isIndent).length := by
  have parts : byteSize (line.takeWhile isIndent) + byteSize (line.dropWhile isIndent) =
      byteSize line := by
    rw [← byteSize_append, List.takeWhile_append_dropWhile]
  have narrow : byteSize (line.takeWhile isIndent) = (line.takeWhile isIndent).length :=
    byteSize_eq_length fun c member => utf8Size_of_isIndent (List.mem_takeWhile_imp member)
  omega

theorem byteSize_dropWhile_le (test : Char → Bool) (line : Text) :
    byteSize (line.dropWhile test) ≤ byteSize line := by
  have parts := congrArg byteSize (List.takeWhile_append_dropWhile (p := test) (l := line))
  rw [byteSize_append] at parts
  omega

end HclLexis.Text
