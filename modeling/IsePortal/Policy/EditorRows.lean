import IsePortal.Library.ReadOnce
import IsePortal.Policy.RuleEditor

/-!
# Rows of the rule editor

A row that is read back unedited shows its test through three closed lists and a value widget.
`RowKeeps` says which tests come back as they were; any other test comes back altered, and reading
the page of what came back again and again ends in a test that is kept.
-/

namespace IsePortal

open Library

/-! ## Texts that survive the page -/

/-- No character that the parser replaces. -/
def Parsable (text : String) : Prop := '\r' ∉ text.toList ∧ '\x00' ∉ text.toList

/-- A text on one line, as an input holds it. -/
def SingleLine (text : String) : Prop := Parsable text ∧ '\n' ∉ text.toList

instance (text : String) : Decidable (Parsable text) := inferInstanceAs (Decidable (_ ∧ _))

instance (text : String) : Decidable (SingleLine text) := inferInstanceAs (Decidable (_ ∧ _))

theorem not_mem_parsedChars (chars : List Char) :
    '\r' ∉ parsedChars chars ∧ '\x00' ∉ parsedChars chars := by
  fun_induction parsedChars chars with
  | case1 => exact ⟨List.not_mem_nil, List.not_mem_nil⟩
  | case2 rest ih => simp [ih]
  | case3 rest _ ih => simp [ih]
  | case4 c rest _ hcr ih =>
      rw [List.mem_cons, List.mem_cons, not_or, not_or]
      split
      · exact ⟨⟨by decide, ih.1⟩, by decide, ih.2⟩
      · exact ⟨⟨fun hc => hcr hc.symm, ih.1⟩, Ne.symm ‹_›, ih.2⟩

theorem parsedChars_eq {chars : List Char} (hcr : '\r' ∉ chars) (hnul : '\x00' ∉ chars) :
    parsedChars chars = chars := by
  fun_induction parsedChars chars with
  | case1 => rfl
  | case2 rest ih => exact absurd List.mem_cons_self hcr
  | case3 rest _ ih => exact absurd List.mem_cons_self hcr
  | case4 c rest _ _ ih =>
      have hne : c ≠ '\x00' := fun hzero => hnul (hzero ▸ List.mem_cons_self)
      rw [if_neg hne, ih (fun hmem => hcr (List.mem_cons_of_mem c hmem))
        fun hmem => hnul (List.mem_cons_of_mem c hmem)]

theorem parsable_attributeText (text : String) : Parsable (attributeText text) := by
  rw [Parsable, attributeText, String.toList_ofList]
  exact not_mem_parsedChars text.toList

theorem attributeText_eq {text : String} (h : Parsable text) : attributeText text = text := by
  rw [attributeText, parsedChars_eq h.1 h.2, String.ofList_toList]

theorem singleLine_inputText (text : String) : SingleLine (inputText text) := by
  have hparsed := parsable_attributeText text
  refine ⟨⟨?_, ?_⟩, ?_⟩ <;> rw [inputText, String.toList_ofList, List.mem_filter]
  · exact fun h => hparsed.1 h.1
  · exact fun h => hparsed.2 h.1
  · exact fun h => absurd h.2 (by decide)

theorem inputText_eq {text : String} (h : SingleLine text) : inputText text = text := by
  have hkeep : ∀ c ∈ text.toList, (c ≠ '\r' && c ≠ '\n') = true := by
    intro c hc
    have hcr : c ≠ '\r' := fun heq => h.1.1 (heq ▸ hc)
    have hlf : c ≠ '\n' := fun heq => h.2 (heq ▸ hc)
    simp [hcr, hlf]
  rw [inputText, attributeText_eq h.1, List.filter_eq_self.mpr hkeep, String.ofList_toList]

theorem mem_of_mem_jsTrim {text : String} {c : Char} (h : c ∈ (jsTrim text).toList) :
    c ∈ text.toList := by
  rw [jsTrim, String.toList_ofList] at h
  exact (List.dropWhile_suffix isTrimmed).mem ((List.rdropWhile_prefix isTrimmed _).mem h)

theorem SingleLine.jsTrim {text : String} (h : SingleLine text) : SingleLine (jsTrim text) :=
  ⟨⟨fun hcr => h.1.1 (mem_of_mem_jsTrim hcr), fun hnul => h.1.2 (mem_of_mem_jsTrim hnul)⟩,
    fun hlf => h.2 (mem_of_mem_jsTrim hlf)⟩

theorem jsTrim_jsTrim (text : String) : jsTrim (jsTrim text) = jsTrim text := by
  have hhead : ((text.toList.dropWhile isTrimmed).rdropWhile isTrimmed).dropWhile isTrimmed =
      (text.toList.dropWhile isTrimmed).rdropWhile isTrimmed := by
    rw [List.dropWhile_eq_self_iff]
    intro hlength
    have hsame := (List.rdropWhile_prefix isTrimmed (text.toList.dropWhile isTrimmed)).getElem
      hlength
    rw [hsame]
    exact List.dropWhile_get_zero_not _ _ _
  rw [jsTrim, jsTrim, String.toList_ofList, hhead, List.rdropWhile_idempotent]

/-! ## What a select reads -/

/-- The name of the list that a select over the list shows for `sel`. -/
def shownName (names : List String) (sel : String) : String :=
  if sel ∈ names then sel else names.headD ""

theorem find?_selected (render : String → String) (names : List String) (sel : String) :
    (names.map fun name => ({ value := render name, selected := name = sel } :
        SelectOption)).reverse.find? SelectOption.selected =
      if sel ∈ names then some { value := render sel, selected := true } else none := by
  split
  · rename_i hmem
    cases hfind : (names.map fun name => ({ value := render name, selected := name = sel } :
        SelectOption)).reverse.find? SelectOption.selected with
    | none =>
        have hmarked := List.find?_eq_none.mp hfind { value := render sel, selected := sel = sel }
          (List.mem_reverse.mpr (List.mem_map.mpr ⟨sel, hmem, rfl⟩))
        simp at hmarked
    | some option =>
        have hselected := List.find?_some hfind
        obtain ⟨name, -, rfl⟩ :=
          List.mem_map.mp (List.mem_reverse.mp (List.mem_of_find?_eq_some hfind))
        obtain rfl : name = sel := of_decide_eq_true hselected
        simp
  · rename_i hmem
    rw [List.find?_eq_none]
    intro option hoption
    rw [List.mem_reverse, List.mem_map] at hoption
    obtain ⟨name, hname, rfl⟩ := hoption
    have hdiffers : name ≠ sel := fun hsame => hmem (hsame ▸ hname)
    simp [hdiffers]

theorem selectValue_optionsFor (names : List String) (sel : String) :
    selectValue (optionsFor names sel) = shownName names sel := by
  rw [selectValue, optionsFor, find?_selected (fun name => name), shownName]
  split
  · rfl
  · cases names <;> rfl

theorem shownName_mem {names : List String} (hne : names ≠ []) (sel : String) :
    shownName names sel ∈ names := by
  rw [shownName]
  split
  · assumption
  · cases names with
    | nil => exact absurd rfl hne
    | cons name names => exact List.mem_cons_self

theorem shownName_eq_iff {names : List String} (hne : names ≠ []) {sel : String} :
    shownName names sel = sel ↔ sel ∈ names := by
  constructor
  · intro heq
    have hmem := shownName_mem hne sel
    rwa [heq] at hmem
  · exact fun hmem => if_pos hmem

theorem selectValue_cons {first : SelectOption} (hfirst : first.selected = false)
    (rest : List SelectOption) :
    selectValue (first :: rest) =
      ((rest.reverse.find? SelectOption.selected).map SelectOption.value).getD first.value := by
  rw [selectValue, List.reverse_cons, List.find?_append, List.find?_singleton, hfirst]
  cases rest.reverse.find? SelectOption.selected <;> rfl

theorem escapedOptionsFor_append (names others : List String) (sel : String) :
    escapedOptionsFor names sel ++ escapedOptionsFor others sel =
      escapedOptionsFor (names ++ others) sel := List.map_append.symm

/-- The headings of the identity groups make no difference to what is read. -/
theorem selectValue_identityGroupOptions (known : List String) (val : String) :
    selectValue (identityGroupOptions known val) =
      if val ∈ known then attributeText val else "" := by
  rw [identityGroupOptions, selectValue_cons rfl, escapedOptionsFor_append,
    escapedOptionsFor_append, escapedOptionsFor, find?_selected attributeText]
  have hmem : ∀ deep : String → Bool,
      val ∈ (known.filter isGroupPath).filter (fun value => !deep value) ++
        (known.filter isGroupPath).filter deep ++
        known.filter (fun value => !isGroupPath value) ↔ val ∈ known := by
    intro deep
    simp only [List.mem_append, List.mem_filter]
    cases isGroupPath val <;> cases deep val <;> simp
  split
  · rename_i hval
    rw [if_pos ((hmem _).mp hval)]
    rfl
  · rename_i hval
    rw [if_neg fun hknown => hval ((hmem _).mpr hknown)]
    rfl

/-! ## What a value widget reads -/

/-- The value that an option shows, where the free text input is left empty. -/
def optionText (val : String) : String :=
  if attributeText val = customOption then "" else attributeText val

/-- The value that is read from the widget for `val`. -/
def shownText (known : List String) (dict attr val : String) : String :=
  if known = [] then inputText val
  else if val ∈ known then optionText val
  else if val = "" ∨ dict = "IdentityGroup" ∧ attr = "Name" then ""
  else jsTrim (inputText val)

theorem inputText_empty : inputText "" = "" := inputText_eq (by decide)

theorem jsTrim_empty : jsTrim "" = "" := by decide

theorem optionText_empty : optionText "" = "" := by decide

theorem readValue_valueWidgetHtml (caValues : KnownValues) (dict attr val : String) :
    readValue (valueWidgetHtml caValues dict attr val) =
      shownText (knownValues caValues dict attr) dict attr val := by
  rw [valueWidgetHtml, shownText]
  generalize knownValues caValues dict attr = known
  by_cases hempty : known = []
  · rw [if_pos hempty, if_pos hempty, readValue]
  rw [if_neg hempty, if_neg hempty]
  by_cases hgroup : dict = "IdentityGroup" ∧ attr = "Name"
  · rw [if_pos hgroup, readValue, selectValue_identityGroupOptions]
    by_cases hknown : val ∈ known
    · rw [if_pos hknown, if_pos hknown]
      rfl
    · have hblank : val = "" ∨ dict = "IdentityGroup" ∧ attr = "Name" := .inr hgroup
      rw [if_neg hknown, if_neg hknown, if_pos hblank]
      rfl
  rw [if_neg hgroup, readValue, selectValue_cons rfl, List.reverse_append, List.find?_append]
  by_cases hknown : val ∈ known
  · -- an option of its own
    have hcustom : (val ≠ "" && !known.contains val) = false := by simp [hknown]
    simp only [hcustom, Bool.false_eq_true, if_false]
    rw [escapedOptionsFor, find?_selected attributeText, if_pos hknown]
    show (if attributeText val = customOption then jsTrim (inputText "") else attributeText val) = _
    rw [inputText_empty, jsTrim_empty, if_pos hknown, optionText]
  · by_cases hval : val = ""
    · -- nothing is marked
      have hcustom : (val ≠ "" && !known.contains val) = false := by simp [hval]
      simp only [hcustom, Bool.false_eq_true, if_false]
      have hblank : val = "" ∨ dict = "IdentityGroup" ∧ attr = "Name" := .inl hval
      rw [escapedOptionsFor, find?_selected attributeText, if_neg hknown, if_neg hknown,
        if_pos hblank]
      rfl
    · -- the free text input
      have hcustom : (val ≠ "" && !known.contains val) = true := by simp [hval, hknown]
      simp only [hcustom, if_true]
      rw [if_neg hknown, if_neg (not_or.mpr ⟨hval, hgroup⟩)]
      rfl

/-- The value that is read from the row for `val`, under one dictionary and attribute. -/
def shownValue (known : List String) (dict attr val : String) : String :=
  normalizeIdentityGroupValue dict attr (shownText known dict attr val)

/-- The attribute whose values are paths of identity groups. -/
def IsGroupName (dict attr : String) : Prop := dict = "IdentityGroup" ∧ attr = "Name"

instance (dict attr : String) : Decidable (IsGroupName dict attr) :=
  inferInstanceAs (Decidable (_ ∧ _))

/-- The widget gives the value back: it is empty, or it is fit for the page and the widget has an
option or an input for it. -/
def ValueKeeps (known : List String) (dict attr val : String) : Prop :=
  val = "" ∨
    Parsable val ∧ (IsGroupName dict attr → isGroupPath val = true) ∧
      if known = [] then SingleLine val
      else if val ∈ known then val ≠ customOption
      else ¬ IsGroupName dict attr ∧ SingleLine val ∧ jsTrim val = val

instance (known : List String) (dict attr val : String) :
    Decidable (ValueKeeps known dict attr val) := by
  unfold ValueKeeps
  infer_instance

section Value

variable {known : List String} {dict attr val : String}

theorem normalizeIdentityGroupValue_empty :
    normalizeIdentityGroupValue dict attr "" = "" := by
  have hblank : "" = "" ∨ isGroupPath "" = true := .inl rfl
  rw [normalizeIdentityGroupValue, if_pos hblank, ite_self]

theorem normalizeIdentityGroupValue_eq (h : IsGroupName dict attr → isGroupPath val = true) :
    normalizeIdentityGroupValue dict attr val = val := by
  rw [normalizeIdentityGroupValue]
  split
  · rfl
  · rename_i hgroup
    rw [not_or, not_not, not_not] at hgroup
    rw [if_pos (.inr (h hgroup))]

theorem normalizeIdentityGroupValue_of_not (h : ¬ IsGroupName dict attr) :
    normalizeIdentityGroupValue dict attr val = val :=
  normalizeIdentityGroupValue_eq fun hgroup => absurd hgroup h

theorem isGroupPath_normalize (h : IsGroupName dict attr)
    (hne : normalizeIdentityGroupValue dict attr val ≠ "") :
    isGroupPath (normalizeIdentityGroupValue dict attr val) = true := by
  have hnormal : ¬ (dict ≠ "IdentityGroup" ∨ attr ≠ "Name") := by
    rw [not_or, not_not, not_not]
    exact h
  rw [normalizeIdentityGroupValue, if_neg hnormal] at hne ⊢
  split at hne
  · rename_i hval
    rw [if_pos hval]
    exact hval.resolve_left hne
  · rename_i hval
    rw [if_neg hval, isGroupPath, String.toList_append, List.isPrefixOf_iff_prefix]
    exact List.prefix_append _ _

theorem mem_normalize {c : Char}
    (h : c ∈ (normalizeIdentityGroupValue dict attr val).toList) :
    c ∈ identityGroupPrefix.toList ∨ c ∈ val.toList := by
  rw [normalizeIdentityGroupValue] at h
  split at h
  · exact .inr h
  · split at h
    · exact .inr h
    · rwa [String.toList_append, List.mem_append] at h

theorem Parsable.normalize (h : Parsable val) :
    Parsable (normalizeIdentityGroupValue dict attr val) := by
  constructor
  · exact fun hmem => (mem_normalize hmem).elim (by decide) h.1
  · exact fun hmem => (mem_normalize hmem).elim (by decide) h.2

theorem SingleLine.normalize (h : SingleLine val) :
    SingleLine (normalizeIdentityGroupValue dict attr val) :=
  ⟨h.1.normalize, fun hmem => (mem_normalize hmem).elim (by decide) h.2⟩

theorem parsable_optionText (val : String) : Parsable (optionText val) := by
  rw [optionText]
  split
  · decide
  · exact parsable_attributeText val

theorem parsable_shownText (known : List String) (dict attr val : String) :
    Parsable (shownText known dict attr val) := by
  rw [shownText]
  split
  · exact (singleLine_inputText val).1
  · split
    · exact parsable_optionText val
    · split
      · decide
      · exact (singleLine_inputText val).jsTrim.1

theorem optionText_eq (h : Parsable val) (hne : val ≠ customOption) : optionText val = val := by
  rw [optionText, attributeText_eq h, if_neg hne]

theorem optionText_customOption : optionText customOption = "" := by decide

theorem shownText_empty : shownText known dict attr "" = "" := by
  rw [shownText, inputText_empty, optionText_empty, jsTrim_empty, ite_self, ite_self, ite_self]

theorem shownValue_empty : shownValue known dict attr "" = "" := by
  rw [shownValue, shownText_empty, normalizeIdentityGroupValue_empty]

/-- A value that comes back is one that the widget keeps. -/
theorem valueKeeps_of_eq (heq : shownValue known dict attr val = val) :
    ValueKeeps known dict attr val := by
  by_cases hval : val = ""
  · exact .inl hval
  have hparsable : Parsable val := heq ▸ (parsable_shownText known dict attr val).normalize
  have hpath : IsGroupName dict attr → isGroupPath val = true := by
    intro hgroup
    rw [← heq] at hval ⊢
    exact isGroupPath_normalize hgroup hval
  have hnotBlank : shownText known dict attr val ≠ "" := by
    intro hblank
    rw [shownValue, hblank, normalizeIdentityGroupValue_empty] at heq
    exact hval heq.symm
  refine .inr ⟨hparsable, hpath, ?_⟩
  rw [shownValue] at heq
  rw [shownText] at heq hnotBlank
  split
  · rename_i hempty
    rw [if_pos hempty] at heq
    exact heq ▸ (singleLine_inputText val).normalize
  rename_i hempty
  rw [if_neg hempty] at heq hnotBlank
  split
  · rename_i hknown
    rintro rfl
    rw [if_pos hknown] at hnotBlank
    exact hnotBlank optionText_customOption
  · rename_i hknown
    rw [if_neg hknown] at heq hnotBlank
    split at hnotBlank
    · exact absurd rfl hnotBlank
    · rename_i hfree
      have hgroup : ¬ IsGroupName dict attr := (not_or.mp hfree).2
      rw [if_neg hfree, normalizeIdentityGroupValue_of_not hgroup] at heq
      refine ⟨hgroup, heq ▸ (singleLine_inputText val).jsTrim, ?_⟩
      calc jsTrim val = jsTrim (jsTrim (inputText val)) := by rw [heq]
        _ = val := by rw [jsTrim_jsTrim, heq]

theorem shownText_eq (h : ValueKeeps known dict attr val) :
    shownText known dict attr val = val := by
  rcases h with rfl | ⟨hparsable, -, hwidget⟩
  · exact shownText_empty
  by_cases hval : val = ""
  · rw [hval, shownText_empty]
  rw [shownText]
  split at hwidget
  · rename_i hempty
    rw [if_pos hempty, inputText_eq hwidget]
  rename_i hempty
  rw [if_neg hempty]
  split at hwidget
  · rename_i hknown
    rw [if_pos hknown, optionText_eq hparsable hwidget]
  · rename_i hknown
    have hfree : ¬ (val = "" ∨ dict = "IdentityGroup" ∧ attr = "Name") :=
      not_or.mpr ⟨hval, hwidget.1⟩
    rw [if_neg hknown, if_neg hfree, inputText_eq hwidget.2.1, hwidget.2.2]

/-- `ValueKeeps` is exact. -/
theorem shownValue_eq_iff :
    shownValue known dict attr val = val ↔ ValueKeeps known dict attr val := by
  constructor
  · exact valueKeeps_of_eq
  · intro hkeeps
    rw [shownValue, shownText_eq hkeeps]
    rcases hkeeps with rfl | ⟨-, hpath, -⟩
    · exact normalizeIdentityGroupValue_empty
    · exact normalizeIdentityGroupValue_eq hpath

/-! ## Values settle -/

theorem settles_empty : Settles (shownValue known dict attr) "" := settles_of_eq shownValue_empty

theorem settles_of_blank (h : shownText known dict attr val = "") :
    Settles (shownValue known dict attr) val := by
  refine .of_next ?_
  rw [shownValue, h, normalizeIdentityGroupValue_empty]
  exact settles_empty

theorem settles_customOption (hknown : customOption ∈ known) :
    Settles (shownValue known dict attr) customOption := by
  refine settles_of_blank ?_
  rw [shownText, if_neg (List.ne_nil_of_mem hknown), if_pos hknown, optionText_customOption]

/-- What a free text input holds settles at once, unless it is the mark of the input itself. -/
theorem settles_of_trimmed (hgroup : ¬ IsGroupName dict attr) (hline : SingleLine val)
    (htrimmed : jsTrim val = val) : Settles (shownValue known dict attr) val := by
  by_cases hcustom : val ∈ known ∧ val = customOption
  · obtain ⟨hknown, rfl⟩ := hcustom
    exact settles_customOption hknown
  refine settles_of_eq (shownValue_eq_iff.mpr (.inr ⟨hline.1, fun h => absurd h hgroup, ?_⟩))
  split
  · exact hline
  · split
    · rename_i hknown
      exact fun h => hcustom ⟨hknown, h⟩
    · exact ⟨hgroup, hline, htrimmed⟩

/-- Reading the page of what was read, again and again, ends in a value that is kept. -/
theorem settles_shownValue (known : List String) (dict attr val : String) :
    Settles (shownValue known dict attr) val := by
  refine .of_next ?_
  -- what has been read once is fit for the page, and a path where it must be one
  have hparsable : Parsable (shownValue known dict attr val) :=
    (parsable_shownText known dict attr val).normalize
  have hpath : IsGroupName dict attr → shownValue known dict attr val ≠ "" →
      isGroupPath (shownValue known dict attr val) = true := isGroupPath_normalize
  have hsingle : known = [] → SingleLine (shownValue known dict attr val) := by
    intro hempty
    rw [shownValue, shownText, if_pos hempty]
    exact (singleLine_inputText val).normalize
  generalize shownValue known dict attr val = read at hparsable hpath hsingle
  by_cases hread : read = ""
  · rw [hread]
    exact settles_empty
  by_cases hempty : known = []
  · refine settles_of_eq (shownValue_eq_iff.mpr (.inr ⟨hparsable, fun h => hpath h hread, ?_⟩))
    rw [if_pos hempty]
    exact hsingle hempty
  by_cases hknown : read ∈ known
  · by_cases hcustom : read = customOption
    · rw [hcustom] at hknown ⊢
      exact settles_customOption hknown
    · refine settles_of_eq (shownValue_eq_iff.mpr (.inr ⟨hparsable, fun h => hpath h hread, ?_⟩))
      rw [if_neg hempty, if_pos hknown]
      exact hcustom
  by_cases hgroup : IsGroupName dict attr
  · refine settles_of_blank ?_
    rw [shownText, if_neg hempty, if_neg hknown]
    exact if_pos (.inr hgroup)
  · refine .of_next ?_
    have hfree : ¬ (read = "" ∨ dict = "IdentityGroup" ∧ attr = "Name") :=
      not_or.mpr ⟨hread, hgroup⟩
    rw [shownValue, normalizeIdentityGroupValue_of_not hgroup, shownText, if_neg hempty,
      if_neg hknown, if_neg hfree]
    exact settles_of_trimmed hgroup (singleLine_inputText read).jsTrim (jsTrim_jsTrim _)

end Value

/-! ## Rows -/

/-- The test that is read from the row of a test. -/
def shown (caValues : KnownValues) (leaf : ConditionLeaf) : ConditionLeaf :=
  readLeaf (rowHtml caValues leaf)

/-- The row shows the test as it is: the three lists have its names, and the widget keeps its
value. -/
def RowKeeps (caValues : KnownValues) : ConditionLeaf → Prop
  | .attributes dn an op av =>
      an ∈ dictionaryAttrs dn ∧ op ∈ editorOperators ∧
        ValueKeeps (knownValues caValues dn an) dn an av
  | .reference _ => False
  | .unknownType _ => False

instance (caValues : KnownValues) : DecidablePred (RowKeeps caValues)
  | .attributes _ _ _ _ => inferInstanceAs (Decidable (_ ∧ _ ∧ _))
  | .reference _ => .isFalse id
  | .unknownType _ => .isFalse id

section Rows

variable {caValues : KnownValues} {dn an op av : String}

theorem orDefault_of_ne {text default : String} (h : text ≠ "") : orDefault text default = text :=
  if_neg h

theorem dictionaryAttrs_ne_nil (h : dn ∈ dictionaryNames) : dictionaryAttrs dn ≠ [] := by
  revert dn
  decide

theorem mem_dictionaryNames (h : an ∈ dictionaryAttrs dn) : dn ∈ dictionaryNames := by
  by_contra hmissing
  have hnone : dictionaries.lookup dn = none := by
    rw [List.lookup_eq_none_iff]
    intro entry hentry
    have hdiffers : dn ≠ entry.1 := fun heq => hmissing (List.mem_map.mpr ⟨entry, hentry, heq.symm⟩)
    simp [hdiffers]
  rw [dictionaryAttrs, hnone] at h
  exact List.not_mem_nil h

theorem name_ne_empty {name : String} (h : name ∈ dictionaryNames ∨ name ∈ editorOperators) :
    name ≠ "" := by
  rintro rfl
  revert h
  decide

/-- What the row of a test reads, field by field. -/
theorem shown_attributes (caValues : KnownValues) (dn an op av : String) :
    shown caValues (.attributes dn an op av) =
      let dict := orDefault dn "EndPoints"
      let shownDict := shownName dictionaryNames dict
      let shownAttr := shownName (dictionaryAttrs dict) an
      .attributes shownDict shownAttr (shownName editorOperators (orDefault op "equals"))
        (normalizeIdentityGroupValue shownDict shownAttr
          (shownText (knownValues caValues dict an) dict an av)) := by
  have hdict : ∀ sel, shownName dictionaryNames sel ≠ "" :=
    fun sel => name_ne_empty (.inl (shownName_mem (by decide) sel))
  have hop : ∀ sel, shownName editorOperators sel ≠ "" :=
    fun sel => name_ne_empty (.inr (shownName_mem (by decide) sel))
  rw [shown, rowHtml, condRowOf, readLeaf, dictionaryOptions, attrOptions, operatorOptions]
  simp only [selectValue_optionsFor, readValue_valueWidgetHtml, orDefault_of_ne (hdict _),
    orDefault_of_ne (hop _)]

/-- Where every list has its name, only the value can change. -/
theorem shown_of_spelled (hattr : an ∈ dictionaryAttrs dn) (hop : op ∈ editorOperators) :
    shown caValues (.attributes dn an op av) =
      .attributes dn an op (shownValue (knownValues caValues dn an) dn an av) := by
  have hdn := mem_dictionaryNames hattr
  have hdict : orDefault dn "EndPoints" = dn := orDefault_of_ne (name_ne_empty (.inl hdn))
  have hopText : orDefault op "equals" = op := orDefault_of_ne (name_ne_empty (.inr hop))
  simp only [shown_attributes, hdict, hopText]
  rw [shownName, if_pos hdn, shownName, if_pos hattr, shownName, if_pos hop, shownValue]

/-- A test comes back as it was exactly when its row keeps it. -/
theorem shown_eq_iff {leaf : ConditionLeaf} :
    shown caValues leaf = leaf ↔ RowKeeps caValues leaf := by
  cases leaf with
  | reference name => exact ⟨fun heq => ConditionLeaf.noConfusion heq, False.elim⟩
  | unknownType conditionType => exact ⟨fun heq => ConditionLeaf.noConfusion heq, False.elim⟩
  | attributes dn an op av =>
      constructor
      · intro heq
        have hfields := heq
        simp only [shown_attributes, ConditionLeaf.attributes.injEq] at hfields
        have hdn : dn ∈ dictionaryNames := hfields.1 ▸ shownName_mem (by decide) _
        have hop : op ∈ editorOperators := hfields.2.2.1 ▸ shownName_mem (by decide) _
        have hattr : an ∈ dictionaryAttrs dn := by
          have hshown := hfields.2.1
          rw [orDefault_of_ne (name_ne_empty (.inl hdn))] at hshown
          exact (shownName_eq_iff (dictionaryAttrs_ne_nil hdn)).mp hshown
        rw [shown_of_spelled hattr hop, ConditionLeaf.attributes.injEq] at heq
        exact ⟨hattr, hop, shownValue_eq_iff.mp heq.2.2.2⟩
      · rintro ⟨hattr, hop, hvalue⟩
        rw [shown_of_spelled hattr hop, shownValue_eq_iff.mpr hvalue]

theorem settles_of_spelled (hattr : an ∈ dictionaryAttrs dn) (hop : op ∈ editorOperators) :
    Settles (shown caValues) (.attributes dn an op av) :=
  (settles_shownValue (knownValues caValues dn an) dn an av).map fun _ =>
    (shown_of_spelled hattr hop).symm

theorem exists_shown_eq (caValues : KnownValues) (leaf : ConditionLeaf) :
    ∃ dn an op av, shown caValues leaf = shown caValues (.attributes dn an op av) := by
  cases leaf with
  | attributes dn an op av => exact ⟨dn, an, op, av, rfl⟩
  | reference name => exact ⟨"", "", "", "", rfl⟩
  | unknownType conditionType => exact ⟨"", "", "", "", rfl⟩

theorem settles_of_names (hdn : dn ∈ dictionaryNames) (hop : op ∈ editorOperators) :
    Settles (shown caValues) (.attributes dn an op av) := by
  have hdict : orDefault dn "EndPoints" = dn := orDefault_of_ne (name_ne_empty (.inl hdn))
  have hdictKept : shownName dictionaryNames dn = dn := if_pos hdn
  have hopText : orDefault op "equals" = op := orDefault_of_ne (name_ne_empty (.inr hop))
  have hopKept : shownName editorOperators op = op := if_pos hop
  refine .of_next ?_
  simp only [shown_attributes, hdict, hdictKept, hopText, hopKept]
  exact settles_of_spelled (shownName_mem (dictionaryAttrs_ne_nil hdn) an) hop

/-- Whatever a row shows, showing it again and again ends in a test that its row keeps: the first
page has a dictionary and an operator of the lists, the second an attribute as well. -/
theorem settles_shown (caValues : KnownValues) (leaf : ConditionLeaf) :
    Settles (shown caValues) leaf := by
  obtain ⟨dn, an, op, av, hshown⟩ := exists_shown_eq caValues leaf
  refine .of_next ?_
  rw [hshown, shown_attributes]
  exact settles_of_names (shownName_mem (by decide) _) (shownName_mem (by decide) _)

theorem shown_defaultCond : shown caValues defaultCond = defaultCond :=
  shown_eq_iff.mpr ⟨by decide, by decide, .inl rfl⟩

/-- A leaf that is no test has an empty row, which shows the default test. -/
theorem shown_empty : shown caValues (.attributes "" "" "" "") = defaultCond := by
  have hdict : orDefault "" "EndPoints" = "EndPoints" := rfl
  rw [shown_attributes, hdict]
  simp only [shownText_empty, normalizeIdentityGroupValue_empty]
  decide

end Rows

end IsePortal
