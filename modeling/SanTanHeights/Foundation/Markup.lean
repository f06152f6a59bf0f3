import Mathlib.Data.List.Basic

/-!
# Tags of a marked up text

A scan of HTML keeps the characters of the tags and of the names of their
attributes, and drops text and quoted values.  What cannot leave the mode that
it is read in adds nothing to the tags.
-/

namespace Foundation.Markup

inductive Mode where
  | text
  | tag
  | value (quote : Char)
  deriving DecidableEq, Repr

/-- The mode after one more character. -/
def next : Mode → Char → Mode
  | .text, char => if char = '<' then .tag else .text
  | .tag, char =>
      if char = '>' then .text
      else if char = '"' ∨ char = '\'' then .value char
      else .tag
  | .value quote, char => if char = quote then .tag else .value quote

/-- The mode after some characters. -/
def ends (mode : Mode) (chars : List Char) : Mode :=
  chars.foldl next mode

/-- The characters that are read in a tag, its brackets and quotes with
them. -/
def tags : Mode → List Char → List Char
  | _, [] => []
  | mode, char :: chars =>
      if mode = .tag ∨ next mode char = .tag then
        char :: tags (next mode char) chars
      else tags (next mode char) chars

theorem ends_append (mode : Mode) (left right : List Char) :
    ends mode (left ++ right) = ends (ends mode left) right :=
  List.foldl_append

theorem tags_append (mode : Mode) (left right : List Char) :
    tags mode (left ++ right) = tags mode left ++ tags (ends mode left) right := by
  induction left generalizing mode with
  | nil => rfl
  | cons char left ih =>
      change (if _ then char :: tags _ (left ++ right) else
        tags _ (left ++ right)) = (if _ then _ else _) ++ _
      rw [ih]
      split_ifs
      · rfl
      · rfl

/-- Characters that stay in the mode that they are read in. -/
def Silent : Mode → List Char → Prop
  | .text, chars => '<' ∉ chars
  | .tag, chars => chars = []
  | .value quote, chars => quote ∉ chars

theorem next_eq_of_silent {mode : Mode} {char : Char} {chars : List Char}
    (silent : Silent mode (char :: chars)) :
    mode ≠ .tag ∧ next mode char = mode ∧ Silent mode chars := by
  cases mode with
  | text =>
      rw [Silent, List.mem_cons, not_or] at silent
      exact ⟨nofun, if_neg (Ne.symm silent.1), silent.2⟩
  | tag => cases silent
  | value quote =>
      rw [Silent, List.mem_cons, not_or] at silent
      exact ⟨nofun, if_neg (Ne.symm silent.1), silent.2⟩

theorem ends_of_silent {mode : Mode} {chars : List Char} (silent : Silent mode chars) :
    ends mode chars = mode := by
  induction chars with
  | nil => rfl
  | cons char chars ih =>
      obtain ⟨_, stays, rest⟩ := next_eq_of_silent silent
      change ends (next mode char) chars = mode
      rw [stays]
      exact ih rest

theorem tags_of_silent {mode : Mode} {chars : List Char} (silent : Silent mode chars) :
    tags mode chars = [] := by
  induction chars with
  | nil => rfl
  | cons char chars ih =>
      obtain ⟨outside, stays, rest⟩ := next_eq_of_silent silent
      rw [tags, stays, if_neg (by simpa using outside)]
      exact ih rest

/-- Two texts are read alike: from one mode to another, with the same
tags. -/
structure ReadAlike (mode : Mode) (left right : List Char) (last : Mode) : Prop where
  tags : tags mode left = tags mode right
  left_ends : ends mode left = last
  right_ends : ends mode right = last

namespace ReadAlike

variable {mode middle last : Mode} {left right : List Char}

theorem refl (mode : Mode) (chars : List Char) : ReadAlike mode chars chars (ends mode chars) :=
  ⟨rfl, rfl, rfl⟩

theorem of_silent (leftSilent : Silent mode left) (rightSilent : Silent mode right) :
    ReadAlike mode left right mode where
  tags := (tags_of_silent leftSilent).trans (tags_of_silent rightSilent).symm
  left_ends := ends_of_silent leftSilent
  right_ends := ends_of_silent rightSilent

/-- Texts that are read alike may be followed by such texts. -/
theorem append {leftRest rightRest : List Char} (first : ReadAlike mode left right middle)
    (second : ReadAlike middle leftRest rightRest last) :
    ReadAlike mode (left ++ leftRest) (right ++ rightRest) last where
  tags := by
    rw [tags_append, tags_append, first.tags, first.left_ends, first.right_ends, second.tags]
  left_ends := by rw [ends_append, first.left_ends, second.left_ends]
  right_ends := by rw [ends_append, first.right_ends, second.right_ends]

end ReadAlike

end Foundation.Markup
