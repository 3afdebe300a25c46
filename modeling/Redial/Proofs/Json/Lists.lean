import Redial.Proofs.Json.Values

/-!
Reading lists. Items are read in their order, whatever blanks stand around
them, and the list is left in front of its closing bracket.
-/

namespace Redial.Json

variable {α : Type}

section Texts

variable {isFirst : Bool} {items : List Json} {text : List Char}

theorem ends_separator {separator : List Char}
    (hseparator : Separator false separator) (rest : List Char) :
    Ends (separator ++ rest) := by
  cases hseparator with
  | comma hblanks =>
    rw [List.append_assoc]
    exact hblanks.ends (ends_cons (by decide))

theorem ItemsWritten.ends (hitems : ItemsWritten false items text)
    (rest : List Char) :
    Ends (text ++ rest) := by
  cases hitems with
  | close hblanks =>
    rw [List.append_assoc]
    exact hblanks.ends (ends_cons (by decide))
  | item hseparator =>
    rw [List.append_assoc]
    exact ends_separator hseparator _

end Texts

namespace Reader

variable {isFirst : Bool} {items : List Json} {text rest : List Char}
  {read : Reader α}

theorem anotherElement_item {separator blanks : List Char} {value : Json}
    (hseparator : Separator isFirst separator) (hblanks : Blanks blanks)
    (hvalue : Written value text) (rest : List Char) :
    anotherElement isFirst (separator ++ (blanks ++ (text ++ rest))) =
      .ok (true, text ++ rest) := by
  obtain ⟨first, tail, rfl, hblank, hbracket, -⟩ := hvalue.exists_cons
  cases hseparator with
  | first => simp [anotherElement, hblanks.skip_cons hblank]
  | comma hbefore =>
    have hcomma :=
      hbefore.skip_cons (rfl : isBlank ',' = false)
        (blanks ++ (first :: tail ++ rest))
    simp only [List.append_assoc, List.singleton_append, anotherElement,
      hcomma]
    simp [hblanks.skip_cons hblank, hbracket]

theorem anotherElement_close {blanks : List Char} (hblanks : Blanks blanks)
    (rest : List Char) :
    anotherElement isFirst (blanks ++ ']' :: rest) =
      .ok (false, ']' :: rest) := by
  rw [anotherElement, hblanks.skip_cons rfl]
  rfl

/-- The items of a list are read in their order, if the reader reads each of
them. -/
theorem elementsUpTo_reads {results : List α} {steps : Nat}
    (hreads : List.Forall₂ (Reads read) items results)
    (hitems : ItemsWritten isFirst items text) (hsteps : text.length ≤ steps)
    (rest : List Char) :
    elementsUpTo read steps isFirst (text ++ rest) =
      .ok (results, ']' :: rest) := by
  induction hreads generalizing isFirst text steps with
  | nil =>
    cases hitems with
    | close hblanks =>
      obtain ⟨steps, rfl⟩ :=
        Nat.exists_eq_add_one.mpr (Nat.lt_of_lt_of_le (by simp) hsteps)
      rw [List.append_assoc, List.singleton_append, elementsUpTo,
        anotherElement_close hblanks]
      rfl
  | @cons item result items results hread _ ih =>
    cases hitems with
    | @item _ _ _ separator blanks value others hseparator hblanks hvalue
        hothers =>
      have hpos : 0 < value.length := by
        obtain ⟨first, tail, rfl, -⟩ := hvalue.exists_cons
        simp
      simp only [List.length_append] at hsteps
      obtain ⟨steps, rfl⟩ := Nat.exists_eq_add_one.mpr (by omega : 0 < steps)
      have hfirst := hread value (others ++ rest) hvalue (hothers.ends rest)
      have hothersRead := @ih false others steps hothers (by omega)
      simp only [List.append_assoc, elementsUpTo,
        anotherElement_item hseparator hblanks hvalue]
      simp [bind, Except.bind, hfirst, hothersRead]

theorem elementsUpTo_leaves {steps : Nat} (hread : Orderly read)
    (hitems : ItemsWritten isFirst items text) (rest : List Char) :
    Leaves (']' :: rest)
      (elementsUpTo read steps isFirst (text ++ rest)) := by
  induction steps generalizing isFirst items text with
  | zero => exact leaves_error _
  | succ steps ih =>
    cases hitems with
    | close hblanks =>
      rw [List.append_assoc, List.singleton_append, elementsUpTo,
        anotherElement_close hblanks]
      exact leaves_ok []
    | item hseparator hblanks hvalue hothers =>
      simp only [List.append_assoc, elementsUpTo,
        anotherElement_item hseparator hblanks hvalue]
      refine (hread.whole _ _ _ hvalue (hothers.ends rest)).bind
        fun element => ?_
      exact (ih hothers).bind fun elements => leaves_ok _

theorem closeList_leaves_of_ne
    (hopen : ∀ more, skipBlanks text ≠ ']' :: more) :
    Leaves rest (closeList text) := by
  unfold closeList
  split
  · exact leaves_error _
  · rename_i hclosed
    exact absurd hclosed (hopen _)
  · split <;> exact leaves_error _
  · exact leaves_error _

/-- A list is closed where it has no more items, and nowhere else. -/
theorem closeList_leaves (hitems : ItemsWritten isFirst items text)
    (rest : List Char) :
    Leaves rest (closeList (text ++ rest)) := by
  cases hitems with
  | close hblanks =>
    rw [List.append_assoc, closeList, List.singleton_append,
      hblanks.skip_cons rfl]
    exact leaves_ok ()
  | item hseparator hblanks hvalue =>
    obtain ⟨first, tail, rfl, hblank, hbracket, -⟩ := hvalue.exists_cons
    refine closeList_leaves_of_ne fun more hskip => ?_
    cases hseparator with
    | first =>
      simp only [List.nil_append, List.append_assoc, List.cons_append,
        hblanks.skip_cons hblank] at hskip
      exact hbracket (List.cons.inj hskip).1
    | comma hbefore =>
      rw [List.append_assoc, List.append_assoc, List.singleton_append,
        hbefore.skip_cons rfl] at hskip
      cases hskip

theorem elements_reads {results : List α}
    (hreads : List.Forall₂ (Reads read) items results)
    (hitems : ItemsWritten true items text) (rest : List Char) :
    elements read (text ++ rest) = .ok (results, rest) := by
  rw [elements, elementsUpTo_reads hreads hitems (by simp; omega) rest]
  rfl

theorem elements_leaves (hread : Orderly read)
    (hitems : ItemsWritten true items text) (rest : List Char) :
    Leaves rest (elements read (text ++ rest)) :=
  (elementsUpTo_leaves hread hitems rest).bind fun elements =>
    leaves_ok elements

end Reader

end Redial.Json
