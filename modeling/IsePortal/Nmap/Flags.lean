import IsePortal.Library.Dict
import IsePortal.Platform.Words

/-!
# Flags of an nmap scan

`_validate_flags` of `app/services/nmap_service.py`: a loop over the words of what was typed that
tries an exact flag, `flag=value`, a flag with the next word and an attached value, in that order.
`Flags` is the grammar it is meant to accept; `validateFrom_eq_ok_iff` shows the loop to be that
grammar, whichever branch it took.
-/

namespace IsePortal.Nmap

open Library

/-- `MAX_FLAG_TOKENS` -/
def maxFlagTokens : Nat := 12

/-- `_FLAGS_NO_VALUE` -/
def flagsNoValue : List String :=
  ["-sn", "-sT", "-sV", "-Pn", "-n", "-R", "-6", "-F", "-r", "--open", "--reason", "-v", "-vv",
    "-d", "-T0", "-T1", "-T2", "-T3", "-T4", "-T5"]

/-- `_FLAGS_WITH_VALUE` -/
def flagsWithValue : List String :=
  ["-p", "--top-ports", "--port-ratio", "--max-retries", "--host-timeout", "--min-rate",
    "--max-rate", "--max-rtt-timeout", "--version-intensity"]

/-- `_ATTACHED_VALUE_FLAGS` -/
def attachedValueFlags : List String := ["-p"]

/-- A character after the first one of `_VALUE_RE`. -/
def valueChar (c : Char) : Bool := c.isAlphanum || [',', '.', ':', '*', '_', '-'].contains c

/-- `_VALUE_RE.match`, whose `$` also stands before a line break at the end. -/
def valueMatches (value : String) : Bool :=
  match value.toList with
  | [] => false
  | first :: rest =>
      first.isAlphanum &&
        (rest.all valueChar || (rest.getLast? == some '\n' && rest.dropLast.all valueChar))

/-- `_check_value` -/
def checkValue (repr : String → String) (flag value : String) : Except String Unit :=
  if valueMatches value then .ok () else .error s!"Ugyldig værdi til {flag}: {repr value}"

/-- The flag that a value is attached to. -/
def attachedFlag (tok : String) : Option String :=
  attachedValueFlags.find? fun f =>
    f.toList.isPrefixOf tok.toList && decide (f.toList.length < tok.toList.length)

/-- The loop of `_validate_flags`, from the words that are left. -/
def validateFrom (repr : String → String) :
    List String → List String → Except String (List String)
  | out, [] => .ok out
  | out, tok :: rest =>
      if tok ∈ flagsNoValue then validateFrom repr (out ++ [tok]) rest
      else
        match splitOnce '=' tok with
        | some (name, value) =>
            if name ∈ flagsWithValue then do
              checkValue repr name value
              validateFrom repr (out ++ [tok]) rest
            else .error s!"Flag ikke tilladt: {name}"
        | none =>
            if tok ∈ flagsWithValue then
              match rest with
              | [] => .error s!"{tok} mangler en værdi"
              | value :: rest => do
                  checkValue repr tok value
                  validateFrom repr (out ++ [tok, value]) rest
            else
              match attachedFlag tok with
              | some attached => do
                  checkValue repr attached (String.ofList (tok.toList.drop attached.toList.length))
                  validateFrom repr (out ++ [tok]) rest
              | none => .error s!"Flag ikke tilladt: {tok}"

/-- `_validate_flags`, with the text of the `ValueError` it raises. -/
def validateFlags (repr : String → String) (flags : String) : Except String (List String) :=
  let parts := splitWords flags
  if maxFlagTokens < parts.length then .error s!"For mange flag (max {maxFlagTokens})"
  else validateFrom repr [] parts

/-- `PRESETS` -/
def presets : Dict String (List String) :=
  ⟨[("ping", ["-sn", "-T4"]), ("top1000", ["-T4", "--top-ports", "1000"]),
    ("service", ["-sV", "-T4"])], by decide⟩

/-- `cmd` of `run_scan`, for an address that `_validate_ip` returned. -/
def scanCommand (repr : String → String) (target : String) (preset customFlags : Option String) :
    Except String (List String) := do
  let extra ←
    match preset.filter (· ≠ ""), customFlags.filter (· ≠ "") with
    | some preset, _ =>
        match presets.get? preset with
        | some extra => .ok extra
        | none => .error s!"Ukendt preset: {repr preset}. Gyldige: ping, service, top1000"
    | none, some customFlags => validateFlags repr customFlags
    | none, none => .ok ["-sV", "-T4"]
  .ok ("nmap" :: extra ++ [target])

/-! ## The grammar -/

/-- A letter or digit, then letters, digits and separators. -/
def IsValue (value : String) : Prop :=
  ∃ first rest, value.toList = first :: rest ∧ first.isAlphanum = true ∧
    ∀ c ∈ rest, valueChar c = true

/-- A sequence of allowed flags with their values. -/
inductive Flags : List String → Prop where
  | nil : Flags []
  | noValue (flag rest) : flag ∈ flagsNoValue → Flags rest → Flags (flag :: rest)
  | equals (name value rest) :
      name ∈ flagsWithValue → IsValue value → Flags rest → Flags ((name ++ "=" ++ value) :: rest)
  | separate (flag value rest) :
      flag ∈ flagsWithValue → IsValue value → Flags rest → Flags (flag :: value :: rest)
  | attached (value rest) : IsValue value → Flags rest → Flags (("-p" ++ value) :: rest)

variable {repr : String → String} {tok value name flag : String}
  {rest parts out result : List String}

theorem IsValue.valueChar (h : IsValue value) {c : Char} (hc : c ∈ value.toList) :
    valueChar c = true := by
  obtain ⟨first, rest, hvalue, hfirst, hrest⟩ := h
  rw [hvalue] at hc
  rcases List.mem_cons.mp hc with rfl | hmem
  · simp [Nmap.valueChar, hfirst]
  · exact hrest c hmem

theorem IsValue.not_mem (h : IsValue value) {c : Char} (hc : Nmap.valueChar c = false) :
    c ∉ value.toList := by
  intro hmem
  rw [h.valueChar hmem] at hc
  cases hc

/-- No word has a line break, so the pattern is the grammar's. -/
theorem valueMatches_iff (h : '\n' ∉ value.toList) : valueMatches value = true ↔ IsValue value := by
  unfold valueMatches IsValue
  cases hvalue : value.toList with
  | nil => simp
  | cons first rest =>
      have hlast : rest.getLast? ≠ some '\n' := by
        intro hend
        have hmem := List.mem_of_getLast? hend
        exact h (hvalue ▸ List.mem_cons_of_mem _ hmem)
      have hmatches : (first.isAlphanum && (rest.all Nmap.valueChar ||
          (rest.getLast? == some '\n' && rest.dropLast.all Nmap.valueChar))) = true ↔
          first.isAlphanum = true ∧ ∀ c ∈ rest, Nmap.valueChar c = true := by
        simp [hlast]
      rw [hmatches]
      constructor
      · exact fun hboth => ⟨first, rest, rfl, hboth⟩
      · rintro ⟨_, _, hsame, hboth⟩
        obtain ⟨rfl, rfl⟩ := List.cons.inj hsame
        exact hboth

/-! ### The flags of the lists -/

theorem no_equals : ∀ flag ∈ flagsNoValue ++ flagsWithValue, '=' ∉ flag.toList := by decide

theorem no_slash :
    ∀ flag ∈ flagsNoValue ++ flagsWithValue, '/' ∉ flag.toList ∧ '\\' ∉ flag.toList := by decide

theorem begins_with_dash :
    ∀ flag ∈ flagsNoValue ++ flagsWithValue, flag.toList.head? = some '-' := by decide

theorem no_value_takes_none : ∀ flag ∈ flagsWithValue, flag ∉ flagsNoValue := by decide

/-- No flag of the lists reads as `-p` with something attached. -/
theorem attached_not_listed :
    ∀ flag ∈ flagsNoValue ++ flagsWithValue, "-p".toList.isPrefixOf flag.toList = true →
      flag = "-p" := by decide

/-- A word with a value attached to `-p` is no flag of the lists and holds no `=`. -/
theorem IsValue.attached (h : IsValue value) :
    "-p" ++ value ∉ flagsNoValue ∧ "-p" ++ value ∉ flagsWithValue ∧
      '=' ∉ ("-p" ++ value).toList := by
  have hnot : "-p" ++ value ∉ flagsNoValue ++ flagsWithValue := by
    intro hmem
    have hlisted := attached_not_listed _ hmem (by simp [List.isPrefixOf])
    obtain ⟨first, rest, hvalue, -⟩ := h
    have hlist := congrArg String.toList hlisted
    rw [String.toList_append, hvalue] at hlist
    simp at hlist
  rw [List.mem_append, not_or] at hnot
  refine ⟨hnot.1, hnot.2, ?_⟩
  have hequals := h.not_mem (c := '=') (by decide)
  simpa using hequals

/-- What the grammar allows at the front, in the order the loop asks. -/
theorem flags_cons_iff : Flags (tok :: rest) ↔
    if tok ∈ flagsNoValue then Flags rest
    else
      match splitOnce '=' tok with
      | some (name, value) => name ∈ flagsWithValue ∧ IsValue value ∧ Flags rest
      | none =>
          if tok ∈ flagsWithValue then
            ∃ value others, rest = value :: others ∧ IsValue value ∧ Flags others
          else ∃ value, tok = "-p" ++ value ∧ IsValue value ∧ Flags rest := by
  constructor
  · intro h
    cases h with
    | noValue _ _ hflag hrest =>
        rw [if_pos hflag]
        exact hrest
    | equals name value _ hname hvalue hrest =>
        have hsplit : splitOnce '=' (name ++ "=" ++ value) = some (name, value) := by
          rw [splitOnce_eq_some_iff]
          exact ⟨by simp, no_equals name (List.mem_append_right _ hname)⟩
        have hnot : name ++ "=" ++ value ∉ flagsNoValue := fun hmem =>
          no_equals _ (List.mem_append_left _ hmem) (by simp)
        rw [if_neg hnot, hsplit]
        exact ⟨hname, hvalue, hrest⟩
    | separate _ value others hflag hvalue hrest =>
        have hsplit : splitOnce '=' tok = none :=
          splitOnce_eq_none_iff.mpr (no_equals tok (List.mem_append_right _ hflag))
        rw [if_neg (no_value_takes_none tok hflag), hsplit]
        dsimp only
        rw [if_pos hflag]
        exact ⟨value, others, rfl, hvalue, hrest⟩
    | attached value _ hvalue hrest =>
        obtain ⟨hno, hwith, hequals⟩ := hvalue.attached
        rw [if_neg hno, splitOnce_eq_none_iff.mpr hequals]
        dsimp only
        rw [if_neg hwith]
        exact ⟨value, rfl, hvalue, hrest⟩
  · intro h
    split at h
    · rename_i hflag
      exact .noValue tok rest hflag h
    · split at h
      · rename_i name value hsplit
        obtain ⟨htext, -⟩ := splitOnce_eq_some_iff.mp hsplit
        have htok : tok = name ++ "=" ++ value := by
          apply String.toList_inj.mp
          simpa using htext
        rw [htok]
        exact .equals name value rest h.1 h.2.1 h.2.2
      · split at h
        · rename_i hflag
          obtain ⟨value, others, rfl, hvalue, hothers⟩ := h
          exact .separate tok value others hflag hvalue hothers
        · obtain ⟨value, rfl, hvalue, hrest⟩ := h
          exact .attached value rest hvalue hrest

/-! ## The loop -/

theorem checkValue_bind_eq_ok_iff {next : Except String (List String)} :
    (checkValue repr flag value >>= fun _ => next) = .ok result ↔
      valueMatches value = true ∧ next = .ok result := by
  unfold checkValue
  cases hvalue : valueMatches value with
  | true => simp [bind, Except.bind]
  | false => simp [bind, Except.bind]

/-- A value is attached to `-p`, the only such flag. -/
theorem attachedFlag_append (h : value.toList ≠ []) : attachedFlag ("-p" ++ value) = some "-p" := by
  have hlength : 0 < value.toList.length := List.length_pos_iff.mpr h
  rw [attachedFlag, attachedValueFlags, List.find?_cons_of_pos]
  simpa [List.isPrefixOf] using hlength

theorem attachedFlag_eq_some {attached : String} (h : attachedFlag tok = some attached) :
    attached = "-p" ∧ tok = "-p" ++ String.ofList (tok.toList.drop attached.toList.length) := by
  have hflag : attached = "-p" := List.mem_singleton.mp (List.mem_of_find?_eq_some h)
  subst hflag
  refine ⟨rfl, ?_⟩
  have hfound := List.find?_some h
  rw [Bool.and_eq_true, List.isPrefixOf_iff_prefix] at hfound
  obtain ⟨rest, hrest⟩ := hfound.1
  apply String.toList_inj.mp
  rw [← hrest, List.drop_left, String.toList_append, String.toList_ofList (l := rest)]

/-- The loop returns exactly the words of the grammar, in their order. -/
theorem validateFrom_eq_ok_iff (hspace : ∀ tok ∈ parts, '\n' ∉ tok.toList) :
    validateFrom repr out parts = .ok result ↔ Flags parts ∧ result = out ++ parts := by
  fun_induction validateFrom repr out parts with
  | case1 out =>
      rw [List.append_nil, Except.ok.injEq]
      exact ⟨fun h => ⟨.nil, h.symm⟩, fun h => h.2.symm⟩
  | case2 out tok rest hflag ih =>
      rw [ih fun other hother => hspace other (List.mem_cons_of_mem _ hother), flags_cons_iff,
        if_pos hflag, List.append_assoc, List.singleton_append]
  | case3 out tok rest hflag name value hsplit hname ih =>
      have htok : '\n' ∉ value.toList := by
        obtain ⟨htext, -⟩ := splitOnce_eq_some_iff.mp hsplit
        intro hmem
        refine hspace tok (List.mem_cons_self ..) ?_
        simp [htext, hmem]
      rw [checkValue_bind_eq_ok_iff, valueMatches_iff htok,
        ih fun other hother => hspace other (List.mem_cons_of_mem _ hother), flags_cons_iff,
        if_neg hflag, hsplit, List.append_assoc, List.singleton_append]
      simp only [hname, true_and, and_assoc]
  | case4 out tok rest hflag name value hsplit hname =>
      rw [flags_cons_iff, if_neg hflag, hsplit]
      simp [hname]
  | case5 out tok hflag hsplit hwith =>
      rw [flags_cons_iff, if_neg hflag, hsplit]
      simp [hwith]
  | case6 out tok hflag hsplit hwith value rest ih =>
      have hvalue : '\n' ∉ value.toList :=
        hspace value (List.mem_cons_of_mem _ (List.mem_cons_self ..))
      rw [checkValue_bind_eq_ok_iff, valueMatches_iff hvalue,
        ih fun other hother => hspace other
          (List.mem_cons_of_mem _ (List.mem_cons_of_mem _ hother)),
        flags_cons_iff, if_neg hflag, hsplit]
      simp [hwith, and_assoc]
  | case7 out tok rest hflag hsplit hwith attached hattached ih =>
      obtain ⟨rfl, htok⟩ := attachedFlag_eq_some hattached
      have hvalue : '\n' ∉ (String.ofList (tok.toList.drop "-p".toList.length)).toList := by
        rw [String.toList_ofList]
        exact fun hmem => hspace tok (List.mem_cons_self ..) (List.mem_of_mem_drop hmem)
      rw [checkValue_bind_eq_ok_iff, valueMatches_iff hvalue,
        ih fun other hother => hspace other (List.mem_cons_of_mem _ hother), flags_cons_iff,
        if_neg hflag, hsplit]
      simp only [hwith, ↓reduceIte]
      constructor
      · rintro ⟨hvalue, hrest, rfl⟩
        exact ⟨⟨_, htok, hvalue, hrest⟩, by simp⟩
      · rintro ⟨⟨value, rfl, hvalue, hrest⟩, rfl⟩
        have hdrop : String.ofList (("-p" ++ value).toList.drop "-p".toList.length) = value := by
          apply String.toList_inj.mp
          rw [String.toList_append, List.drop_left, String.toList_ofList]
        rw [hdrop]
        exact ⟨hvalue, hrest, by simp⟩
  | case8 out tok rest hflag hsplit hwith hattached =>
      rw [flags_cons_iff, if_neg hflag, hsplit]
      simp only [hwith, ↓reduceIte, reduceCtorEq, false_iff]
      rintro ⟨⟨value, rfl, ⟨first, others, hvalue, -⟩, -⟩, -⟩
      rw [attachedFlag_append (by simp [hvalue])] at hattached
      cases hattached

/-! ## What is accepted -/

/-- A word of the grammar names no path. -/
theorem Flags.no_path (h : Flags parts) :
    ∀ tok ∈ parts, '/' ∉ tok.toList ∧ '\\' ∉ tok.toList := by
  have hvalue : ∀ {value}, IsValue value → '/' ∉ value.toList ∧ '\\' ∉ value.toList :=
    fun h => ⟨h.not_mem (by decide), h.not_mem (by decide)⟩
  induction h with
  | nil => simp
  | noValue flag rest hflag _ ih =>
      exact List.forall_mem_cons.mpr ⟨no_slash flag (List.mem_append_left _ hflag), ih⟩
  | equals name value rest hname hval _ ih =>
      have hflag := no_slash name (List.mem_append_right _ hname)
      refine List.forall_mem_cons.mpr ⟨?_, ih⟩
      simp [hflag, hvalue hval]
  | separate flag value rest hflag hval _ ih =>
      have hname := no_slash flag (List.mem_append_right _ hflag)
      exact List.forall_mem_cons.mpr ⟨hname, List.forall_mem_cons.mpr ⟨hvalue hval, ih⟩⟩
  | attached value rest hval _ ih =>
      refine List.forall_mem_cons.mpr ⟨?_, ih⟩
      simp [hvalue hval]

/-- A word of the grammar without a dash is the value of the flag before it. -/
theorem Flags.value_of_flag (h : Flags parts) {index : Nat} (htok : parts[index]? = some tok)
    (hdash : tok.toList.head? ≠ some '-') :
    ∃ flag before, index = before + 1 ∧ parts[before]? = some flag ∧ flag ∈ flagsWithValue ∧
      IsValue tok := by
  have hdashes : ∀ {flag} (rest : String), flag ∈ flagsNoValue ++ flagsWithValue →
      (flag ++ rest).toList.head? = some '-' := by
    intro flag rest hflag
    rw [String.toList_append, List.head?_append, begins_with_dash flag hflag]
    rfl
  induction h generalizing index with
  | nil => simp at htok
  | noValue flag rest hflag _ ih =>
      cases index with
      | zero =>
          obtain rfl : flag = tok := Option.some.inj htok
          exact absurd (begins_with_dash flag (List.mem_append_left _ hflag)) hdash
      | succ index =>
          obtain ⟨name, before, rfl, hbefore, hname⟩ := ih htok
          exact ⟨name, before + 1, rfl, hbefore, hname⟩
  | equals name value rest hname hval _ ih =>
      cases index with
      | zero =>
          obtain rfl : name ++ "=" ++ value = tok := Option.some.inj htok
          rw [String.append_assoc] at hdash
          exact absurd (hdashes _ (List.mem_append_right _ hname)) hdash
      | succ index =>
          obtain ⟨name, before, rfl, hbefore, hname⟩ := ih htok
          exact ⟨name, before + 1, rfl, hbefore, hname⟩
  | separate flag value rest hflag hval _ ih =>
      match index with
      | 0 =>
          obtain rfl : flag = tok := Option.some.inj htok
          exact absurd (begins_with_dash flag (List.mem_append_right _ hflag)) hdash
      | 1 =>
          obtain rfl : value = tok := Option.some.inj htok
          exact ⟨flag, 0, rfl, rfl, hflag, hval⟩
      | index + 2 =>
          obtain ⟨name, before, rfl, hbefore, hname⟩ := ih htok
          exact ⟨name, before + 2, rfl, hbefore, hname⟩
  | attached value rest hval _ ih =>
      cases index with
      | zero =>
          obtain rfl : "-p" ++ value = tok := Option.some.inj htok
          exact absurd (hdashes _ (by decide)) hdash
      | succ index =>
          obtain ⟨name, before, rfl, hbefore, hname⟩ := ih htok
          exact ⟨name, before + 1, rfl, hbefore, hname⟩

theorem validateFlags_eq_ok_iff (repr : String → String) (flags : String) :
    validateFlags repr flags = .ok result ↔
      result = splitWords flags ∧ (splitWords flags).length ≤ maxFlagTokens ∧
        Flags (splitWords flags) := by
  have hspace : ∀ tok ∈ splitWords flags, '\n' ∉ tok.toList := by
    intro tok htok hmem
    have hnot := split_words_not_space htok hmem
    exact absurd hnot (by decide)
  unfold validateFlags
  dsimp only
  split
  · rename_i hmany
    simp only [reduceCtorEq, false_iff]
    exact fun h => absurd h.2.1 (Nat.not_le.mpr hmany)
  · rename_i hfew
    rw [validateFrom_eq_ok_iff hspace, List.nil_append]
    have hlength : (splitWords flags).length ≤ maxFlagTokens := Nat.not_lt.mp hfew
    simp only [hlength, true_and]
    exact and_comm

/-- The presets obey the grammar too. -/
theorem presets_flags : ∀ entry ∈ presets.entries, Flags entry.2 := by
  have hthousand : IsValue "1000" := ⟨'1', ['0', '0', '0'], rfl, rfl, List.all_eq_true.mp rfl⟩
  have hfast : Flags ["-T4"] := .noValue _ _ (by decide) .nil
  rw [presets]
  refine List.forall_mem_cons.mpr ⟨?_, List.forall_mem_cons.mpr ⟨?_,
    List.forall_mem_cons.mpr ⟨?_, List.forall_mem_nil _⟩⟩⟩
  · exact .noValue _ _ (by decide) hfast
  · exact .noValue _ _ (by decide) (.separate _ _ _ (by decide) hthousand .nil)
  · exact .noValue _ _ (by decide) hfast

/-- A scan is started with flags and their values, and the one target. -/
theorem scanCommand_eq_ok {target : String} {preset customFlags : Option String}
    (h : scanCommand repr target preset customFlags = .ok result) :
    ∃ flags, result = "nmap" :: flags ++ [target] ∧ Flags flags := by
  unfold scanCommand at h
  split at h
  · split at h
    · rename_i extra hpreset
      cases h
      exact ⟨extra, rfl, presets_flags _ (Dict.get?_eq_some_iff.mp hpreset)⟩
    · cases h
  · rename_i typed _ _
    cases hflags : validateFlags repr typed with
    | error message =>
        rw [hflags] at h
        cases h
    | ok extra =>
        rw [hflags] at h
        cases h
        obtain ⟨rfl, -, hgrammar⟩ := (validateFlags_eq_ok_iff repr typed).mp hflags
        exact ⟨_, rfl, hgrammar⟩
  · cases h
    exact ⟨_, rfl, .noValue _ _ (by decide) (.noValue _ _ (by decide) .nil)⟩

/-- What was typed is refused, or its words are returned as they are: exactly when they are few
enough and of the grammar. No word names a path, and one without a dash is the value of the flag
before it. -/
theorem validate_flags_grammar (repr : String → String) (flags : String) :
    ((∃ message, validateFlags repr flags = .error message) ∨
      validateFlags repr flags = .ok (splitWords flags)) ∧
    ((∃ out, validateFlags repr flags = .ok out) ↔
      (splitWords flags).length ≤ maxFlagTokens ∧ Flags (splitWords flags)) ∧
    ∀ out, validateFlags repr flags = .ok out →
      (∀ tok ∈ out, '/' ∉ tok.toList ∧ '\\' ∉ tok.toList) ∧
      ∀ index tok, out[index]? = some tok → tok.toList.head? ≠ some '-' →
        ∃ flag before, index = before + 1 ∧ out[before]? = some flag ∧ flag ∈ flagsWithValue ∧
          IsValue tok := by
  refine ⟨?_, ?_, fun out hout => ?_⟩
  · cases hresult : validateFlags repr flags with
    | error message => exact Or.inl ⟨message, rfl⟩
    | ok out =>
        obtain ⟨rfl, -⟩ := (validateFlags_eq_ok_iff repr flags).mp hresult
        exact Or.inr rfl
  · constructor
    · rintro ⟨out, hout⟩
      exact ((validateFlags_eq_ok_iff repr flags).mp hout).2
    · exact fun h => ⟨_, (validateFlags_eq_ok_iff repr flags).mpr ⟨rfl, h⟩⟩
  · obtain ⟨rfl, -, hgrammar⟩ := (validateFlags_eq_ok_iff repr flags).mp hout
    exact ⟨hgrammar.no_path, fun index tok htok hdash => hgrammar.value_of_flag htok hdash⟩

end IsePortal.Nmap
