import IsePortal.Platform.Bytes

/-!
# Words and parts of a text

`str.split()`, which leaves no white space in a word (`split_words_not_space`), `str.split(sep, 1)`,
whose two parts are the text again (`splitOnce_eq_some_iff`), and `str.splitlines()`.
-/

namespace IsePortal

/-- `str.split()` -/
def splitWords (text : String) : List String :=
  ((text.toList.splitOnP isSpace).filter fun word => !word.isEmpty).map String.ofList

/-- What lies before and after the first separator, as `str.split(sep, 1)` gives them. -/
def splitOnce (separator : Char) (text : String) : Option (String × String) :=
  match text.toList.dropWhile (· ≠ separator) with
  | [] => none
  | _ :: after =>
      some (String.ofList (text.toList.takeWhile (· ≠ separator)), String.ofList after)

/-- The characters `str.splitlines()` ends a line at. -/
def isLineBreak (c : Char) : Bool :=
  let code := c.toNat
  (10 ≤ code && code ≤ 13) || (28 ≤ code && code ≤ 30) || code == 0x85 || code == 0x2028 ||
    code == 0x2029

/-- The lines of a text, of which this much of the first one was read. -/
def splitLinesFrom : List Char → List Char → List String
  | [], [] => []
  | line, [] => [String.ofList line]
  | line, '\r' :: '\n' :: rest => String.ofList line :: splitLinesFrom [] rest
  | line, c :: rest =>
      if isLineBreak c then String.ofList line :: splitLinesFrom [] rest
      else splitLinesFrom (line ++ [c]) rest

/-- `str.splitlines()` -/
def splitLines (text : String) : List String := splitLinesFrom [] text.toList

/-- The parts between separators satisfy no separator test. -/
theorem splitOnP_not {α : Type} (p : α → Bool) (items : List α) :
    ∀ part ∈ items.splitOnP p, ∀ item ∈ part, p item = false := by
  induction items with
  | nil =>
      intro part hpart
      rw [List.splitOnP_nil, List.mem_singleton] at hpart
      simp [hpart]
  | cons first rest ih =>
      intro part hpart item hitem
      rw [List.splitOnP_cons_eq_if_modifyHead] at hpart
      split at hpart
      · rcases List.mem_cons.mp hpart with rfl | hmem
        · simp at hitem
        · exact ih part hmem item hitem
      · rename_i hfirst
        obtain ⟨head, others, hsplit⟩ := List.exists_cons_of_ne_nil (List.splitOnP_ne_nil p rest)
        rw [hsplit, List.modifyHead_cons] at hpart
        rw [hsplit] at ih
        rcases List.mem_cons.mp hpart with rfl | hmem
        · rcases List.mem_cons.mp hitem with rfl | hold
          · simpa using hfirst
          · exact ih head (List.mem_cons_self ..) item hold
        · exact ih part (List.mem_cons_of_mem _ hmem) item hitem

theorem split_words_not_space {text word : String} (h : word ∈ splitWords text) {c : Char}
    (hc : c ∈ word.toList) : isSpace c = false := by
  obtain ⟨part, hpart, rfl⟩ := List.mem_map.mp h
  rw [String.toList_ofList] at hc
  exact splitOnP_not isSpace _ part (List.mem_filter.mp hpart).1 c hc

theorem split_words_ne_empty {text word : String} (h : word ∈ splitWords text) : word ≠ "" := by
  obtain ⟨part, hpart, rfl⟩ := List.mem_map.mp h
  have hkept := (List.mem_filter.mp hpart).2
  rw [Ne, String.ofList_eq_empty_iff]
  simpa using hkept

/-- The first separator splits a text into what can be put together again. -/
theorem splitOnce_eq_some_iff {separator : Char} {text before after : String} :
    splitOnce separator text = some (before, after) ↔
      text.toList = before.toList ++ separator :: after.toList ∧
        separator ∉ before.toList := by
  have hkept : ∀ c ∈ text.toList.takeWhile (· ≠ separator), c ≠ separator := by
    intro c hc
    have hkeep := List.mem_takeWhile_imp hc
    exact of_decide_eq_true hkeep
  constructor
  · intro h
    unfold splitOnce at h
    split at h
    · cases h
    · rename_i first rest hdrop
      obtain ⟨rfl, rfl⟩ := Prod.mk.inj (Option.some.inj h)
      have hfirst : first = separator := by
        have hhead := List.head?_dropWhile_not (fun c => decide (c ≠ separator)) text.toList
        rw [hdrop] at hhead
        simpa using hhead
      subst hfirst
      rw [String.toList_ofList, String.toList_ofList, ← hdrop]
      exact ⟨List.takeWhile_append_dropWhile.symm, fun hmem => hkept _ hmem rfl⟩
  · rintro ⟨htext, hnot⟩
    have hall : ∀ c ∈ before.toList, decide (c ≠ separator) = true :=
      fun c hc => decide_eq_true fun hsame => hnot (hsame ▸ hc)
    unfold splitOnce
    rw [htext, List.dropWhile_append_of_pos hall, List.takeWhile_append_of_pos hall]
    simp

theorem splitOnce_eq_none_iff {separator : Char} {text : String} :
    splitOnce separator text = none ↔ separator ∉ text.toList := by
  unfold splitOnce
  split
  · rename_i hdrop
    have hall := List.dropWhile_eq_nil_iff.mp hdrop
    exact iff_of_true rfl fun hmem => of_decide_eq_true (hall separator hmem) rfl
  · rename_i first rest hdrop
    have hmem : separator ∈ text.toList := by
      by_contra hnot
      have hnil : text.toList.dropWhile (· ≠ separator) = [] := by
        rw [List.dropWhile_eq_nil_iff]
        exact fun c hc => decide_eq_true fun hsame => hnot (hsame ▸ hc)
      rw [hnil] at hdrop
      cases hdrop
    simpa using hmem

end IsePortal
