/-!
# Reading a text by rules

A `Reader` takes characters off the front of a text or fails. Choice is ordered : `p <|> q`
is what `p` reads if it reads something, and `q` from the same place otherwise; nothing is
tried again afterwards. `many` and `separated` repeat a reader as long as it reads.
-/

namespace UserConfigs.Template

/-- Reads a value off the front of a text and leaves the rest, or fails. -/
abbrev Reader (α : Type) := StateT (List Char) Option α

namespace Reader

/-- Remove `w` from the front of a text that starts with it. -/
def dropFront? : List Char → List Char → Option (List Char)
  | [], s => some s
  | _ :: _, [] => none
  | c :: w, d :: s => if c = d then dropFront? w s else none

theorem dropFront?_append (w s : List Char) : dropFront? w (w ++ s) = some s := by
  induction w with
  | nil => rfl
  | cons c w ih => simp [dropFront?, ih]

theorem eq_append_of_dropFront? {w s r : List Char} (h : dropFront? w s = some r) :
    s = w ++ r := by
  induction w generalizing s with
  | nil => simp_all [dropFront?]
  | cons c w ih =>
    cases s with
    | nil => simp [dropFront?] at h
    | cons d s =>
      by_cases hc : c = d
      · subst hc; simp [dropFront?] at h; simp [ih h]
      · simp [dropFront?, hc] at h

/-- Exactly the given text. -/
def exact (w : String) : Reader Unit := fun s => (dropFront? w.toList s).map fun r => ((), r)

/-- The given text, read as a value. -/
def spelled {α : Type} (w : String) (a : α) : Reader α := do exact w; pure a

/-- One character of a class. -/
def char (p : Char → Bool) : Reader Char
  | c :: s => if p c then some (c, s) else none
  | [] => none

/-- The longest run of a class, possibly empty. -/
def run (p : Char → Bool) : Reader (List Char) := fun s => some (s.takeWhile p, s.dropWhile p)

/-- The longest run of a class that is not empty. -/
def run1 (p : Char → Bool) : Reader (List Char) := do
  let c ← char p
  let cs ← run p
  pure (c :: cs)

/-- Succeed only at the end of the text. -/
def atEnd : Reader Unit
  | [] => some ((), [])
  | _ :: _ => none

/-- Repeat a reader as long as it reads, at most `fuel` times. -/
def repeated {α : Type} (p : Reader α) : Nat → Reader (List α)
  | 0 => pure []
  | fuel + 1 => (do
      let a ← p
      let as ← repeated p fuel
      pure (a :: as)) <|> pure []

/-- Repeat a reader as long as it reads. Each round takes a character or more, so the rest
of the text bounds the rounds. -/
def many {α : Type} (p : Reader α) : Reader (List α) := fun s => repeated p s.length s

/-- What a reader reads, or nothing. -/
def maybe {α : Type} (p : Reader α) : Reader (Option α) := (some <$> p) <|> pure none

/-- Whether a reader reads. -/
def given {α : Type} (p : Reader α) : Reader Bool := (do let _ ← p; pure true) <|> pure false

/-- The characters before the first place where `stop` reads; fails if there is none. -/
def upTo {α : Type} (stop : Reader α) : Reader (List Char)
  | [] => none
  | c :: s =>
    match stop (c :: s) with
    | some _ => some ([], c :: s)
    | none => (upTo stop s).map fun r => (c :: r.1, r.2)

end Reader

/-! ## Blanks, names and numbers of the template language -/

/-- The blanks of the template language. -/
def isSpace (c : Char) : Bool := c = ' ' || c = '\t' || c = '\r' || c = '\n'

/-- A character that can start a name. -/
def isNameStart (c : Char) : Bool := c.isAlpha || c = '_'

/-- A character of a name. -/
def isNameChar (c : Char) : Bool := c.isAlphanum || c = '_'

namespace Reader

/-- Blanks, possibly none. -/
def gap : Reader Unit := do let _ ← run isSpace; pure ()

/-- Blanks, at least one. -/
def space : Reader Unit := do let _ ← run1 isSpace; pure ()

/-- A name. -/
def name : Reader (List Char) := do
  let c ← char isNameStart
  let cs ← run isNameChar
  pure (c :: cs)

/-- Digits of a whole number without leading zeros. -/
def natural : Reader (List Char) :=
  (do let c ← char (· = '0'); pure [c]) <|>
  (do let c ← char (fun c => c.isDigit && c ≠ '0'); let cs ← run Char.isDigit; pure (c :: cs))

/-- A minus sign, or nothing. -/
def minus : Reader Bool := given (exact "-")

/-- The value of decimal digits. -/
def valueOf (digits : List Char) : Nat := digits.foldl (fun n c => 10 * n + (c.toNat - 48)) 0

end Reader

end UserConfigs.Template
