namespace Delimited

/-!
# Items that a stop mark ends

A list that is read as a sequence of items, each ended by a stop mark that no
item contains.  An item that the list does not end is not one of them.
-/

variable {α : Type} {stop : α}

/-- An item starts at the front or after a stop mark, and one ends it. -/
def IsItem (stop : α) (list item : List α) : Prop :=
  ∃ before after,
    list = before ++ item ++ stop :: after ∧
      stop ∉ item ∧
      (before = [] ∨ ∃ earlier, before = earlier ++ [stop])

/-- What precedes the first of two stop marks is the same on both sides. -/
theorem before_stop
    {first rest other after : List α}
    (noStop : stop ∉ first)
    (same : first ++ stop :: rest = other ++ stop :: after) :
    (first = other ∧ rest = after) ∨
      ∃ between, rest = between ++ stop :: after := by
  rcases List.append_eq_append_iff.mp same with
    ⟨more, otherShape, restShape⟩ | ⟨more, firstShape, afterShape⟩
  · cases more with
    | nil =>
        rw [List.append_nil] at otherShape
        rw [List.nil_append] at restShape
        exact .inl ⟨otherShape.symm, List.tail_eq_of_cons_eq restShape⟩
    | cons head more =>
        exact .inr ⟨more, List.tail_eq_of_cons_eq restShape⟩
  · cases more with
    | nil =>
        rw [List.append_nil] at firstShape
        rw [List.nil_append] at afterShape
        exact .inl
          ⟨firstShape, (List.tail_eq_of_cons_eq afterShape).symm⟩
    | cons head more =>
        have isStop : stop = head := List.head_eq_of_cons_eq afterShape
        have member : stop ∈ first := by
          rw [firstShape, isStop]
          exact List.mem_append_right other List.mem_cons_self
        exact absurd member noStop

/-- The items of a list are the first one and those of the rest. -/
theorem isItem_cons
    {first rest item : List α}
    (noStop : stop ∉ first) :
    IsItem stop (first ++ stop :: rest) item ↔
      item = first ∨ IsItem stop rest item := by
  constructor
  · rintro ⟨before, after, shape, noStopItem, rfl | ⟨earlier, rfl⟩⟩
    · rw [List.nil_append] at shape
      rcases before_stop noStop shape with ⟨same, -⟩ | ⟨between, restShape⟩
      · exact .inl same.symm
      · rw [restShape] at shape
        rcases before_stop noStopItem shape.symm with
          ⟨same, -⟩ | ⟨other, afterShape⟩
        · exact .inl same
        · have lengths := congrArg List.length shape
          have longer := congrArg List.length afterShape
          simp only [List.length_append, List.length_cons] at lengths longer
          omega
    · have shifted :
          first ++ stop :: rest =
            earlier ++ stop :: (item ++ stop :: after) := by
        rw [shape]
        simp
      rcases before_stop noStop shifted with
        ⟨-, restShape⟩ | ⟨between, restShape⟩
      · exact .inr ⟨[], after, restShape, noStopItem, .inl rfl⟩
      · refine .inr ⟨between ++ [stop], after, ?_, noStopItem,
          .inr ⟨between, rfl⟩⟩
        rw [restShape]
        simp
  · rintro (rfl | ⟨before, after, rfl, noStopItem, start⟩)
    · exact ⟨[], rest, rfl, noStop, .inl rfl⟩
    · refine ⟨first ++ stop :: before, after, by simp, noStopItem, .inr ?_⟩
      rcases start with rfl | ⟨earlier, rfl⟩
      · exact ⟨first, rfl⟩
      · exact ⟨first ++ stop :: earlier, by simp⟩

/-- Without a stop mark there is no item. -/
theorem not_isItem
    {list item : List α}
    (noStop : stop ∉ list) :
    ¬ IsItem stop list item := by
  rintro ⟨before, after, rfl, -⟩
  exact noStop (List.mem_append_right _ List.mem_cons_self)

/-- The items of ended items are these. -/
theorem isItem_flatMap
    {items : List (List α)}
    {item : List α}
    (noStop : ∀ each ∈ items, stop ∉ each) :
    IsItem stop (items.flatMap fun each => each ++ [stop]) item ↔
      item ∈ items := by
  induction items with
  | nil =>
      exact iff_of_false (not_isItem List.not_mem_nil) List.not_mem_nil
  | cons first rest inductionHypothesis =>
      have noStopFirst := noStop first List.mem_cons_self
      have noStopRest : ∀ each ∈ rest, stop ∉ each := fun each member =>
        noStop each (List.mem_cons_of_mem first member)
      rw [List.flatMap_cons, List.append_assoc, List.singleton_append,
        isItem_cons noStopFirst, inductionHypothesis noStopRest,
        List.mem_cons]

section TakeWhile

variable [DecidableEq α]

/-- Without a stop mark everything is taken. -/
theorem takeWhile_unended
    {list : List α}
    (noStop : stop ∉ list) :
    list.takeWhile (· ≠ stop) = list := by
  induction list with
  | nil =>
      rfl
  | cons head rest inductionHypothesis =>
      obtain ⟨notHere, notLater⟩ := not_or.mp (mt List.mem_cons.mpr noStop)
      rw [List.takeWhile_cons_of_pos (by simpa using Ne.symm notHere),
        inductionHypothesis notLater]

/-- Up to the stop mark that ends it an item is taken. -/
theorem takeWhile_ended
    {item rest : List α}
    (noStop : stop ∉ item) :
    (item ++ stop :: rest).takeWhile (· ≠ stop) = item := by
  induction item with
  | nil =>
      exact List.takeWhile_cons_of_neg (by simp)
  | cons head item inductionHypothesis =>
      obtain ⟨notHere, notLater⟩ := not_or.mp (mt List.mem_cons.mpr noStop)
      rw [List.cons_append,
        List.takeWhile_cons_of_pos (by simpa using Ne.symm notHere),
        inductionHypothesis notLater]

end TakeWhile

end Delimited
