import SanTanHeights.Foundation.JsonReads

/-!
# Literals inside larger texts

A text or `null` literal can be taken off either end of a text without knowing
the rest: from the left because the scanner finds its end, from the right
because inside a string every quotation mark follows a backslash.
-/

namespace Foundation.Json

/-- The JSON literal of a text or of `None`. -/
def literal : Option String → List Char
  | none => ['n', 'u', 'l', 'l']
  | some text => quote text.toList

/-- The value of a literal. -/
def ofOptional : Option String → Json
  | none => .null
  | some text => .str text

theorem ofOptional_injective : Function.Injective ofOptional := by
  intro left right equal
  cases left <;> cases right <;> simp_all [ofOptional]

theorem reads_literal (value : Option String) :
    Reads (literal value) (some (ofOptional value)) := by
  cases value with
  | none => exact reads_null
  | some text => exact reads_quote text

/-- Taking a literal off the left. -/
theorem literal_append_inj {left right : Option String} {leftRest rightRest : List Char}
    (leftDelimited : Delimited leftRest) (rightDelimited : Delimited rightRest)
    (equal : literal left ++ leftRest = literal right ++ rightRest) :
    left = right ∧ leftRest = rightRest := by
  let fuel := (literal left).length + (literal right).length + 1
  have leftScan := (reads_literal left).scans fuel leftRest (by omega) leftDelimited
  have rightScan := (reads_literal right).scans fuel rightRest (by omega) rightDelimited
  rw [equal, rightScan] at leftScan
  simp only [Option.map_some, Option.some.injEq, Prod.mk.injEq] at leftScan
  exact ⟨(ofOptional_injective leftScan.1).symm, leftScan.2.symm⟩

theorem literal_injective : Function.Injective literal := by
  intro left right equal
  exact (literal_append_inj delimited_nil delimited_nil (by rw [equal])).1

/-- Every quotation mark of the text follows a backslash, `previous` being the
character before the text. -/
def guarded (previous : Char) : List Char → Prop
  | [] => True
  | char :: text => (char = '"' → previous = '\\') ∧ guarded char text

theorem guarded_escapeChar_append (previous char : Char) {rest : List Char}
    (guard : ∀ previous, guarded previous rest) :
    guarded previous (escapeChar char ++ rest) := by
  have control : ∀ number < 32,
      (number / 16).digitChar ≠ '"' ∧ (number % 16).digitChar ≠ '"' := by
    decide
  unfold escapeChar
  split_ifs with quoteMark backslash newline carriage tab backspace feed low
  case pos => simp [guarded, guard]
  case pos => simp [guarded, guard]
  case pos => simp [guarded, guard]
  case pos => simp [guarded, guard]
  case pos => simp [guarded, guard]
  case pos => simp [guarded, guard]
  case pos => simp [guarded, guard]
  case pos =>
    have digits := control _ low
    simp [guarded, guard, digits]
  case neg => simp [guarded, guard, quoteMark]

theorem guarded_flatMap_escapeChar (previous : Char) (text : List Char) :
    guarded previous (text.flatMap escapeChar) := by
  induction text generalizing previous with
  | nil => trivial
  | cons char text ih =>
      rw [List.flatMap_cons]
      exact guarded_escapeChar_append previous char ih

theorem eq_backslash_of_guarded {previous before : Char} {front back : List Char}
    (guard : guarded previous (front ++ before :: '"' :: back)) :
    before = '\\' := by
  induction front generalizing previous with
  | nil => exact guard.2.1 rfl
  | cons char front ih => exact ih guard.2

/-- The end of one string literal fixes where it starts. -/
theorem length_le_of_append_quote {leftFront rightFront left right : List Char}
    (equal : leftFront ++ ':' :: '"' :: left.flatMap escapeChar =
      rightFront ++ ':' :: '"' :: right.flatMap escapeChar) :
    rightFront.length ≤ leftFront.length := by
  by_contra longer
  rw [not_le] at longer
  obtain ⟨middle, frontEqual, restEqual⟩ :
      ∃ middle, rightFront = leftFront ++ middle ∧
        ':' :: '"' :: left.flatMap escapeChar =
          middle ++ ':' :: '"' :: right.flatMap escapeChar := by
    rcases List.append_eq_append_iff.mp equal with
      ⟨middle, frontEqual, rest⟩ | ⟨middle, frontEqual, rest⟩
    · exact ⟨middle, frontEqual, rest⟩
    · rw [frontEqual, List.length_append] at longer
      omega
  have nonempty : middle ≠ [] := by
    rintro rfl
    rw [frontEqual, List.append_nil] at longer
    omega
  match middle, nonempty, restEqual with
  | [_], _, restEqual =>
      rw [List.singleton_append, List.cons.injEq, List.cons.injEq] at restEqual
      exact absurd restEqual.2.1 (by decide)
  | _ :: _ :: tail, _, restEqual =>
      rw [List.cons_append, List.cons_append, List.cons.injEq, List.cons.injEq] at restEqual
      have guard := guarded_flatMap_escapeChar '"' left
      rw [restEqual.2.2] at guard
      exact absurd (eq_backslash_of_guarded guard) (by decide)

theorem append_quote_eq (front text : List Char) :
    front ++ ':' :: quote text = (front ++ ':' :: '"' :: text.flatMap escapeChar) ++ ['"'] := by
  simp [quote]

/-- Taking a literal off the right. -/
theorem append_literal_inj {left right : Option String} {leftFront rightFront : List Char}
    (equal : leftFront ++ ':' :: literal left = rightFront ++ ':' :: literal right) :
    left = right ∧ leftFront = rightFront := by
  have nullEnds : ∀ front : List Char,
      (front ++ ':' :: literal none).getLast? = some 'l' := by
    intro front
    simp [literal]
  have textEnds : ∀ (front : List Char) (text : String),
      (front ++ ':' :: literal (some text)).getLast? = some '"' := by
    intro front text
    rw [literal, append_quote_eq, List.getLast?_concat]
  cases left with
  | none =>
      cases right with
      | none => exact ⟨rfl, List.append_cancel_right equal⟩
      | some text =>
          have ends := congrArg List.getLast? equal
          rw [nullEnds, textEnds] at ends
          exact absurd ends (by decide)
  | some leftText =>
      cases right with
      | none =>
          have ends := congrArg List.getLast? equal
          rw [nullEnds, textEnds] at ends
          exact absurd ends (by decide)
      | some rightText =>
          rw [literal, literal, append_quote_eq, append_quote_eq] at equal
          have opened := List.append_cancel_right equal
          have lengths := Nat.le_antisymm
            (length_le_of_append_quote opened.symm)
            (length_le_of_append_quote opened)
          obtain ⟨fronts, texts⟩ := List.append_inj opened lengths
          refine ⟨?_, fronts⟩
          apply literal_injective
          rw [literal, literal, quote, quote]
          rw [List.cons.injEq, List.cons.injEq] at texts
          rw [texts.2.2]

/-! ## Several literals -/

/-- Literals, each after a fixed separator and a colon. -/
def fieldsText (fields : List (List Char × Option String)) : List Char :=
  fields.flatMap fun field => field.1 ++ ':' :: literal field.2

/-- Taking a list of separated literals off the right. -/
theorem append_fieldsText_inj {left right : List (List Char × Option String)}
    {leftFront rightFront : List Char} (separators : left.map Prod.fst = right.map Prod.fst)
    (equal : leftFront ++ fieldsText left = rightFront ++ fieldsText right) :
    left = right ∧ leftFront = rightFront := by
  induction left using List.reverseRecOn generalizing right with
  | nil =>
      obtain rfl : right = [] := by simpa using separators.symm
      exact ⟨rfl, by simpa [fieldsText] using equal⟩
  | append_singleton left field ih =>
      obtain rfl | ⟨right, other, rfl⟩ := List.eq_nil_or_concat right
      · simp at separators
      · simp only [List.concat_eq_append, List.map_append, List.map_singleton]
          at separators
        obtain ⟨earlier, last⟩ := List.append_inj' separators (by simp)
        have split : ∀ (front : List Char)
            (fields : List (List Char × Option String))
            (field : List Char × Option String),
            front ++ fieldsText (fields ++ [field]) =
              (front ++ fieldsText fields ++ field.1) ++ ':' :: literal field.2 := by
          intro front fields field
          simp [fieldsText]
        rw [List.concat_eq_append, split, split] at equal
        obtain ⟨values, fronts⟩ := append_literal_inj equal
        rw [List.singleton_inj] at last
        rw [last] at fronts
        obtain ⟨rfl, sameFront⟩ := ih earlier (List.append_cancel_right fronts)
        refine ⟨?_, sameFront⟩
        rw [List.concat_eq_append, Prod.ext last values]

end Foundation.Json
