import Mathlib.Data.List.Basic

/-!
# Quotes in a quoted text

A text between quotes writes a quote of its own twice. What was written so is read back up to the
closing quote (`readQuoted_doubled`).
-/

namespace IsePortal.Library.Quoting

/-- The text with its quotes doubled. -/
def doubled (text : List Char) : List Char :=
  text.flatMap fun char => if char = '"' then ['"', '"'] else [char]

theorem doubled_cons_of_ne {char : Char} (h : ¬ char = '"') (rest : List Char) :
    doubled (char :: rest) = char :: doubled rest := by
  rw [doubled, List.flatMap_cons, if_neg h]
  rfl

theorem doubled_cons_quote (rest : List Char) :
    doubled ('"' :: rest) = '"' :: '"' :: doubled rest := by
  rw [doubled, List.flatMap_cons, if_pos rfl]
  rfl

theorem doubled_eq_self {text : List Char} (h : '"' ∉ text) : doubled text = text := by
  induction text with
  | nil => rfl
  | cons char rest ih =>
      rw [doubled_cons_of_ne (fun heq => h (heq ▸ List.mem_cons_self)),
        ih fun hmem => h (List.mem_cons_of_mem _ hmem)]

theorem mem_of_mem_doubled {text : List Char} {char : Char} (h : char ∈ doubled text) :
    char ∈ text := by
  obtain ⟨other, hother, hchar⟩ := List.mem_flatMap.mp h
  split at hchar
  · next hquote =>
      have heq : char = '"' := by simpa using hchar
      rw [heq, ← hquote]
      exact hother
  · rwa [List.mem_singleton.mp hchar]

/-- The value of a quoted field after its opening quote, and what follows its closing quote. -/
def readQuoted : List Char → List Char × List Char
  | [] => ([], [])
  | '"' :: '"' :: rest => ('"' :: (readQuoted rest).1, (readQuoted rest).2)
  | '"' :: rest => ([], rest)
  | char :: rest => (char :: (readQuoted rest).1, (readQuoted rest).2)

theorem length_readQuoted (text : List Char) : (readQuoted text).2.length ≤ text.length := by
  fun_induction readQuoted text with
  | case1 => exact Nat.le_refl _
  | case2 rest ih => simp only [List.length_cons]; omega
  | case3 rest => simp
  | case4 char rest _ _ ih => simp only [List.length_cons]; omega

/-- What follows the closing quote is no quote. -/
theorem readQuoted_doubled (text rest : List Char) (hrest : rest.head? ≠ some '"') :
    readQuoted (doubled text ++ '"' :: rest) = (text, rest) := by
  induction text with
  | nil =>
      cases rest with
      | nil => rfl
      | cons char rest =>
          have hne : char ≠ '"' := fun h => hrest (h ▸ rfl)
          show readQuoted ('"' :: char :: rest) = _
          rw [readQuoted]
          intro others heq
          exact hne (List.cons.inj heq).1
  | cons char text ih =>
      by_cases hquote : char = '"'
      · rw [hquote, doubled_cons_quote, List.cons_append, List.cons_append, readQuoted, ih]
      · rw [doubled_cons_of_ne hquote, List.cons_append, readQuoted, ih]
        · intro others hchar _
          exact hquote hchar
        · intro hchar
          exact hquote hchar

end IsePortal.Library.Quoting
