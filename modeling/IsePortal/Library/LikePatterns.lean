import Mathlib.Data.List.Infix

/-!
# Patterns of SQL's `LIKE`

A pattern in which `%` stands for any text and `_` for any character, up to the case of the ASCII
letters. A literal text between two `%` matches exactly the texts that contain it
(`matches_literal_iff`).
-/

namespace IsePortal.Library.Like

/-- The first character is as the pattern has it, and the rest passes the test. -/
def matchFirst (char : Char) (test : List Char → Bool) : List Char → Bool
  | [] => false
  | first :: rest => (char = '_' || char.toLower = first.toLower) && test rest

/-- The text matches the pattern. -/
def Matches : List Char → List Char → Bool
  | [], text => text.isEmpty
  | char :: pattern, text =>
      if char = '%' then text.tails.any (Matches pattern)
      else matchFirst char (Matches pattern) text

/-- No wildcard is in the text. -/
def Literal (text : List Char) : Prop := '%' ∉ text ∧ '_' ∉ text

/-- The text up to the case of the ASCII letters. -/
def lowered (text : List Char) : List Char := text.map Char.toLower

variable {piece text : List Char}

/-- Lowering leaves a character as it is, or makes it one of the small letters. -/
theorem toLower_cases (char : Char) :
    char.toLower = char ∨ 97 ≤ char.toLower.val.toNat ∧ char.toLower.val.toNat ≤ 122 := by
  unfold Char.toLower
  by_cases hcapital : char.val ≥ 'A'.val ∧ char.val ≤ 'Z'.val
  · rw [dif_pos hcapital]
    right
    have hlower : 65 ≤ char.val.toNat := UInt32.le_iff_toNat_le.mp hcapital.1
    have hupper : char.val.toNat ≤ 90 := UInt32.le_iff_toNat_le.mp hcapital.2
    show 97 ≤ (char.val + 32).toNat ∧ (char.val + 32).toNat ≤ 122
    rw [UInt32.toNat_add]
    have hstep : (32 : UInt32).toNat = 32 := rfl
    omega
  · rw [dif_neg hcapital]
    exact .inl rfl

@[simp] theorem toLower_toLower (char : Char) : char.toLower.toLower = char.toLower := by
  rcases toLower_cases char with hsame | hsmall
  · rw [hsame, hsame]
  · generalize char.toLower = small at hsmall
    unfold Char.toLower
    have hno : ¬ (small.val ≥ 'A'.val ∧ small.val ≤ 'Z'.val) := by
      intro hcapital
      have hupper : small.val.toNat ≤ 90 := UInt32.le_iff_toNat_le.mp hcapital.2
      omega
    rw [dif_neg hno]

@[simp] theorem lowered_lowered (text : List Char) : lowered (lowered text) = lowered text := by
  simp [lowered]

/-- Lowering makes no character but the small letters. -/
theorem mem_of_mem_lowered {wild : Char} (hwild : ¬ (97 ≤ wild.val.toNat ∧ wild.val.toNat ≤ 122))
    (h : wild ∈ lowered text) : wild ∈ text := by
  obtain ⟨char, hchar, heq⟩ := List.mem_map.mp h
  rcases toLower_cases char with hsame | hsmall
  · exact (hsame.symm.trans heq) ▸ hchar
  · exact absurd (heq ▸ hsmall) hwild

/-- Lowering makes no wildcard. -/
theorem literal_lowered (h : Literal piece) : Literal (lowered piece) :=
  ⟨fun hmem => h.1 (mem_of_mem_lowered (by decide) hmem),
    fun hmem => h.2 (mem_of_mem_lowered (by decide) hmem)⟩

theorem matches_percent (pattern text : List Char) :
    Matches ('%' :: pattern) text = text.tails.any (Matches pattern) := by
  rw [Matches, if_pos rfl]

theorem matches_literal_prefix_iff (h : Literal piece) :
    Matches (piece ++ ['%']) text = true ↔ lowered piece <+: lowered text := by
  induction piece generalizing text with
  | nil =>
      refine iff_of_true ?_ (List.nil_prefix)
      rw [List.nil_append, matches_percent, List.any_eq_true]
      exact ⟨[], (List.mem_tails _ _).mpr (List.nil_suffix), rfl⟩
  | cons char rest ih =>
      have hrest : Literal rest :=
        ⟨fun hmem => h.1 (List.mem_cons_of_mem _ hmem),
          fun hmem => h.2 (List.mem_cons_of_mem _ hmem)⟩
      have hpercent : char ≠ '%' := fun heq => h.1 (heq ▸ List.mem_cons_self)
      have hunder : char ≠ '_' := fun heq => h.2 (heq ▸ List.mem_cons_self)
      cases text with
      | nil =>
          rw [List.cons_append, Matches, if_neg hpercent, matchFirst]
          simp [lowered]
      | cons first others =>
          rw [List.cons_append, Matches, if_neg hpercent, matchFirst]
          simp only [hunder, decide_false, Bool.false_or, Bool.and_eq_true, decide_eq_true_eq,
            ih hrest, lowered, List.map_cons, List.cons_prefix_cons]

/-- A literal text between two `%`. -/
theorem matches_literal_iff (h : Literal piece) :
    Matches ('%' :: (piece ++ ['%'])) text = true ↔ lowered piece <:+: lowered text := by
  rw [matches_percent, List.any_eq_true, List.infix_iff_prefix_suffix]
  constructor
  · rintro ⟨rest, hrest, hmatch⟩
    exact ⟨lowered rest, (matches_literal_prefix_iff h).mp hmatch,
      ((List.mem_tails _ _).mp hrest).map _⟩
  · rintro ⟨rest, hprefix, hsuffix⟩
    obtain ⟨front, hfront⟩ := hsuffix
    obtain ⟨before, after, rfl, -, hafter⟩ := List.map_eq_append_iff.mp hfront.symm
    refine ⟨after, (List.mem_tails _ _).mpr ⟨before, rfl⟩, (matches_literal_prefix_iff h).mpr ?_⟩
    have hlowered : lowered after = rest := hafter
    rw [hlowered]
    exact hprefix

end IsePortal.Library.Like
