/-!
# Cutting texts

A text is cut at a mark: once, at the first mark (`cut?`), or everywhere
(`fields`).  One pair of enclosing square brackets can be taken off
(`unbracket`).
-/

namespace OvsdbClient.Text

/-- What stands before and after the first `mark`, which belongs to neither
part. -/
def cut? (mark : Char) : List Char → Option (List Char × List Char)
  | [] => none
  | char :: rest =>
      if char = mark then
        some ([], rest)
      else
        (cut? mark rest).map fun (before, after) => (char :: before, after)

/-- The parts between marks; a text without marks is its only part. -/
def fields (mark : Char) : List Char → List (List Char)
  | [] => [[]]
  | char :: rest =>
      if char = mark then
        [] :: fields mark rest
      else
        match fields mark rest with
        | part :: parts => (char :: part) :: parts
        | [] => [[char]]

/-- The text without the opening bracket it starts with and the closing bracket
it ends with; a text that lacks either is unchanged. -/
def unbracket (text : List Char) : List Char :=
  match text with
  | '[' :: inner => if inner.getLast? = some ']' then inner.dropLast else text
  | _ => text

/-- A cut is found exactly where the parts, with the mark between them, make up
the text and the first part holds no mark. -/
theorem cut?_eq_some_iff {mark : Char} {text before after : List Char} :
    cut? mark text = some (before, after) ↔
      text = before ++ mark :: after ∧ mark ∉ before := by
  induction text generalizing before with
  | nil => simp [cut?]
  | cons char rest induction =>
      rw [cut?]
      split
      · next same =>
          subst same
          cases before with
          | nil => simp
          | cons first _ =>
              simp only [List.mem_cons, not_or, List.cons_append,
                List.cons.injEq, Option.some.injEq, Prod.mk.injEq,
                reduceCtorEq, false_and]
              grind
      · next differ =>
          cases before with
          | nil => simp [differ]
          | cons first others =>
              simp only [Option.map_eq_some_iff, Prod.exists, Prod.mk.injEq,
                List.cons.injEq, List.cons_append, List.mem_cons, not_or]
              constructor
              · rintro ⟨found, remaining, cut, ⟨rfl, rfl⟩, rfl⟩
                have := induction.1 cut
                grind
              · rintro ⟨⟨rfl, split⟩, _, absent⟩
                exact ⟨others, after, induction.2 ⟨split, absent⟩,
                  ⟨rfl, rfl⟩, rfl⟩

/-- Only a text without the mark cannot be cut. -/
theorem cut?_eq_none_iff {mark : Char} {text : List Char} :
    cut? mark text = none ↔ mark ∉ text := by
  induction text with
  | nil => simp [cut?]
  | cons char rest induction =>
      rw [cut?]
      split
      case isTrue same => simp [same]
      case isFalse differ => simp [induction, Ne.symm differ]

end OvsdbClient.Text
