/-!
# Cutting texts

* `Text.split` — the parts of a text between the occurrences of a mark.
* `Text.cut?` — what stands before and after the first occurrence of a mark.
* `split_ne_nil` — there is at least one part.
* `cut?_append`, `append_mark_inj` — the first mark tells where the text before it ends.
-/

namespace FlowDump.Text

/-- The parts of a text between the marks; without a mark it is one part. -/
def split (mark : Char) : List Char → List (List Char)
  | [] => [[]]
  | c :: rest =>
    if c = mark then [] :: split mark rest
    else match split mark rest with
      | [] => [[c]]
      | part :: parts => (c :: part) :: parts

/-- What stands before and after the first mark. -/
def cut? (mark : Char) (s : List Char) : Option (List Char × List Char) :=
  match s.dropWhile (· ≠ mark) with
  | [] => none
  | _ :: rest => some (s.takeWhile (· ≠ mark), rest)

/-- What stands before the first mark, and what stands after it if there is one. -/
def cut (mark : Char) (s : List Char) : List Char × Option (List Char) :=
  match cut? mark s with
  | some (before, after) => (before, some after)
  | none => (s, none)

/-- `split` gives one part at least. -/
theorem split_ne_nil (mark : Char) (s : List Char) : split mark s ≠ [] := by
  cases s with
  | nil => simp [split]
  | cons c rest =>
    unfold split
    split
    · simp
    · split <;> simp

/-- `cut?` cuts a text at the first mark. -/
theorem cut?_append {mark : Char} {before : List Char} (h : mark ∉ before) (after : List Char) :
    cut? mark (before ++ mark :: after) = some (before, after) := by
  have others : ∀ c ∈ before, decide (c ≠ mark) = true := by
    intro c hc
    rw [decide_eq_true_eq]
    rintro rfl
    exact h hc
  rw [cut?, List.dropWhile_append_of_pos others, List.takeWhile_append_of_pos others]
  simp

/-- Texts with a mark between them are put together in one way only, if the first has no mark. -/
theorem append_mark_inj {mark : Char} {before before' after after' : List Char}
    (h : mark ∉ before) (h' : mark ∉ before') :
    before ++ mark :: after = before' ++ mark :: after' ↔ before = before' ∧ after = after' := by
  constructor
  · intro he
    have cuts := cut?_append h after
    rw [he, cut?_append h', Option.some.injEq, Prod.mk.injEq] at cuts
    exact ⟨cuts.1.symm, cuts.2.symm⟩
  · rintro ⟨rfl, rfl⟩
    rfl

end FlowDump.Text
