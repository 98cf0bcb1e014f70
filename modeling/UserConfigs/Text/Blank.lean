/-!
# White space and trimming

`isBlank` is the property `White_Space` of the character database. `trimStart` and
`trimEnd` drop the longest run of blanks at one end of a text, `trim` at both : what is
left of `trimStart` starts with no blank (`head?_trimStart`), and the dropped run holds
blanks only (`takeWhile_append_trimStart`).
-/

namespace UserConfigs.Text

/-- A character with the property `White_Space`. -/
def isBlank (c : Char) : Bool :=
  let n := c.toNat
  (0x09 ≤ n && n ≤ 0x0D) || n == 0x20 || n == 0x85 || n == 0xA0 || n == 0x1680 ||
    (0x2000 ≤ n && n ≤ 0x200A) || n == 0x2028 || n == 0x2029 || n == 0x202F || n == 0x205F ||
    n == 0x3000

/-- Without the blanks at the start. -/
def trimStart (s : List Char) : List Char := s.dropWhile isBlank

/-- Without the blanks at the end. -/
def trimEnd : List Char → List Char
  | [] => []
  | c :: s =>
    match trimEnd s with
    | [] => if isBlank c then [] else [c]
    | kept => c :: kept

/-- Without the blanks at either end. -/
def trim (s : List Char) : List Char := trimEnd (trimStart s)

theorem takeWhile_append_trimStart (s : List Char) :
    s.takeWhile isBlank ++ trimStart s = s :=
  List.takeWhile_append_dropWhile

theorem head?_trimStart (s : List Char) : ((trimStart s).head?.map isBlank).getD false = false := by
  induction s with
  | nil => rfl
  | cons c s ih =>
    by_cases h : isBlank c
    · simpa [trimStart, List.dropWhile_cons, h] using ih
    · simp [trimStart, h]

@[simp] theorem trimEnd_nil : trimEnd [] = [] := rfl

/-- A character that is not blank stays, and so does all that is before it. -/
theorem trimEnd_append_cons (s : List Char) {c : Char} (h : isBlank c = false) (t : List Char) :
    trimEnd (s ++ c :: t) = s ++ c :: trimEnd t := by
  induction s with
  | nil =>
    simp only [List.nil_append, trimEnd]
    cases trimEnd t <;> simp [h]
  | cons d s ih =>
    simp only [List.cons_append, trimEnd, ih]
    cases s <;> simp

end UserConfigs.Text
