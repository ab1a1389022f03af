import Mathlib.Data.List.TakeWhile
import Mathlib.Data.Rat.Defs

/-!
# The runtime

`str.lower`, `str.upper` and `str.strip` follow the Unicode tables of the Python runtime, and
`datetime.strptime` its calendar. The portal only ever compares their results, so they are
the fields of two classes and every result holds for whatever the runtime computes.
`asciiText` and `paddedDates` are the instances used on concrete input.
-/

namespace IsePortal

/-- Seconds since the epoch, as `time.time()` returns them. -/
abbrev Time := Rat

/-- The text functions of the Python runtime the portal relies on. -/
class PyText where
  /-- `str.lower()` -/
  lower : String → String
  /-- `str.upper()` -/
  upper : String → String
  /-- `str.strip()` -/
  strip : String → String
  /-- `str.isupper()` on one character -/
  isUpper : Char → Bool
  /-- `str.islower()` on one character -/
  isLower : Char → Bool
  /-- `str.isdigit()` on one character -/
  isDigit : Char → Bool
  lower_empty : lower "" = ""
  strip_empty : strip "" = ""

/-- `datetime.strptime(text, "%Y-%m-%d:%H:%M")` as a moment of the local clock; `none` where it
raises `ValueError`. -/
class PyCalendar where
  strptime : String → Option Time

/-- `HTTPException`: the status code and the text of a request that is refused. -/
structure HttpError where
  statusCode : Nat
  detail : String
  deriving DecidableEq

/-- The text functions on ASCII input. -/
@[reducible] def asciiText : PyText where
  lower text := String.ofList (text.toList.map Char.toLower)
  upper text := String.ofList (text.toList.map Char.toUpper)
  strip text :=
    String.ofList (((text.toList.dropWhile Char.isWhitespace).reverse.dropWhile
      Char.isWhitespace).reverse)
  isUpper := Char.isUpper
  isLower := Char.isLower
  isDigit := Char.isDigit
  lower_empty := by decide
  strip_empty := by decide

/-- What `str.strip` and `str.lower` do on every text: stripping cuts at the ends, and as every
character has a lower case of at least one, only the whole of a text has its lower case. -/
class LawfulText [PyText] : Prop where
  strip_infix (text : String) : (PyText.strip text).toList <:+: text.toList
  lower_infix {part text : String} : part.toList <:+: text.toList →
    PyText.lower part = PyText.lower text → part = text

theorem lawful_ascii : @LawfulText asciiText := by
  refine @LawfulText.mk asciiText ?_ ?_
  · intro text
    show (String.ofList _).toList <:+: text.toList
    rw [String.toList_ofList]
    have hleft : text.toList.dropWhile Char.isWhitespace <:+ text.toList :=
      List.dropWhile_suffix _
    have hright : ((text.toList.dropWhile Char.isWhitespace).reverse.dropWhile
        Char.isWhitespace).reverse <+: text.toList.dropWhile Char.isWhitespace := by
      rw [← List.reverse_suffix, List.reverse_reverse]
      exact List.dropWhile_suffix _
    exact hright.isInfix.trans hleft.isInfix
  · intro part text hpiece hlower
    change String.ofList (part.toList.map Char.toLower) =
      String.ofList (text.toList.map Char.toLower) at hlower
    have hlists := String.ofList_inj.mp hlower
    have hlength : part.toList.length = text.toList.length := by
      simpa using congrArg List.length hlists
    exact String.toList_inj.mp (hpiece.eq_of_length hlength)

/-- A stripped text has nothing to strip, and every part of a blank text is blank. -/
class LawfulStrip [PyText] : Prop where
  strip_strip (text : String) : PyText.strip (PyText.strip text) = PyText.strip text
  strip_part {part text : String} : part.toList <:+: text.toList → PyText.strip text = "" →
    PyText.strip part = ""

theorem lawfulStrip_ascii : @LawfulStrip asciiText := by
  have hagain : ∀ chars : List Char, (chars.dropWhile Char.isWhitespace).dropWhile
      Char.isWhitespace = chars.dropWhile Char.isWhitespace :=
    fun chars => List.dropWhile_eq_self_iff.mpr (List.dropWhile_get_zero_not _ chars)
  have hblank : ∀ text : String, @PyText.strip asciiText text = "" ↔
      ∀ c ∈ text.toList, c.isWhitespace = true := by
    intro text
    show String.ofList _ = "" ↔ _
    rw [String.ofList_eq_empty_iff, List.reverse_eq_nil_iff, List.dropWhile_eq_nil_iff]
    constructor
    · intro hall
      rw [← List.dropWhile_eq_nil_iff]
      rw [← hagain, List.dropWhile_eq_nil_iff]
      exact fun c hc => hall c (List.mem_reverse.mpr hc)
    · intro hall c hc
      exact hall c ((List.dropWhile_suffix _).subset (List.mem_reverse.mp hc))
  refine @LawfulStrip.mk asciiText ?_ ?_
  · intro text
    have hfront : (((text.toList.dropWhile Char.isWhitespace).reverse.dropWhile
        Char.isWhitespace).reverse).dropWhile Char.isWhitespace =
          ((text.toList.dropWhile Char.isWhitespace).reverse.dropWhile
            Char.isWhitespace).reverse := by
      rw [List.dropWhile_eq_self_iff]
      intro hlength
      have hstart : ((text.toList.dropWhile Char.isWhitespace).reverse.dropWhile
          Char.isWhitespace).reverse <+: text.toList.dropWhile Char.isWhitespace := by
        rw [← List.reverse_suffix, List.reverse_reverse]
        exact List.dropWhile_suffix _
      rw [hstart.getElem hlength]
      exact List.dropWhile_eq_self_iff.mp (hagain _) _
    show String.ofList (((((String.ofList _).toList).dropWhile
      Char.isWhitespace).reverse.dropWhile Char.isWhitespace).reverse) = String.ofList _
    rw [String.toList_ofList, hfront, List.reverse_reverse, hagain]
  · intro part text hpart htext
    rw [hblank] at htext ⊢
    exact fun c hc => htext c (hpart.subset hc)

/-- What `str.upper` does on capital letters. -/
class LawfulUpper [PyText] : Prop where
  upper_capitals (text : String) :
    text.toList.all Char.isUpper = true → PyText.upper text = text

theorem toUpper_of_isUpper {c : Char} (h : c.isUpper = true) : c.toUpper = c := by
  unfold Char.toUpper
  have hno : ¬ (c.val ≥ 'a'.val ∧ c.val ≤ 'z'.val) := by
    intro hlower
    have hrange : 65 ≤ c.val ∧ c.val ≤ 90 := of_decide_eq_true h
    have hsmall : c.val ≤ 90 := hrange.2
    have hlarge : 97 ≤ c.val := hlower.1
    exact absurd (UInt32.le_trans hlarge hsmall) (by decide)
  rw [dif_neg hno]

theorem lawfulUpper_ascii : @LawfulUpper asciiText := by
  refine @LawfulUpper.mk asciiText ?_
  intro text hcapitals
  show String.ofList (text.toList.map Char.toUpper) = text
  have hsame : text.toList.map Char.toUpper = text.toList.map id :=
    List.map_congr_left fun c hc => toUpper_of_isUpper (List.all_eq_true.mp hcapitals c hc)
  rw [hsame, List.map_id, String.ofList_toList]

/-- What `str.lower` does on ASCII, and `str.strip` on a text of visible ASCII characters. -/
class LawfulAscii [PyText] : Prop where
  lower_ascii (text : String) : (text.toList.all fun c => c.toNat < 128) = true →
    PyText.lower text = String.ofList (text.toList.map Char.toLower)
  strip_visible (text : String) : (text.toList.all fun c => 32 < c.toNat && c.toNat < 127) = true →
    PyText.strip text = text

theorem lawfulAscii_ascii : @LawfulAscii asciiText := by
  refine @LawfulAscii.mk asciiText (fun text _ => rfl) fun text hvisible => ?_
  have hnone : ∀ c ∈ text.toList, ¬ c.isWhitespace = true := by
    intro c hc hspace
    have hrange := List.all_eq_true.mp hvisible c hc
    simp only [Bool.and_eq_true, decide_eq_true_eq] at hrange
    simp only [Char.isWhitespace, Bool.or_eq_true, decide_eq_true_eq] at hspace
    rcases hspace with ((rfl | rfl) | rfl) | rfl
    all_goals exact absurd hrange.1 (by decide)
  have hkeep : text.toList.dropWhile Char.isWhitespace = text.toList :=
    List.dropWhile_eq_self_iff.mpr fun hlength => hnone _ (List.getElem_mem hlength)
  have hkeepBack : text.toList.reverse.dropWhile Char.isWhitespace = text.toList.reverse :=
    List.dropWhile_eq_self_iff.mpr fun hlength =>
      hnone _ (List.mem_reverse.mp (List.getElem_mem hlength))
  show String.ofList (((text.toList.dropWhile Char.isWhitespace).reverse.dropWhile
    Char.isWhitespace).reverse) = text
  rw [hkeep, hkeepBack, List.reverse_reverse, String.ofList_toList]

/-- The value of a decimal digit. -/
def digitValue (digit : Char) : Option Nat :=
  if digit.isDigit then some (digit.toNat - 48) else none

/-- The value of a row of decimal digits. -/
def digitsValue (digits : List Char) : Option Nat :=
  digits.foldl (fun value digit => do pure ((← value) * 10 + (← digitValue digit))) (some 0)

/-- Dates in the padded form `YYYY-MM-DD:HH:MM`, in the order of the calendar: months count as
31 days. -/
@[reducible] def paddedDates : PyCalendar where
  strptime text :=
    match text.toList with
    | [y1, y2, y3, y4, '-', m1, m2, '-', d1, d2, ':', h1, h2, ':', n1, n2] => do
        let year ← digitsValue [y1, y2, y3, y4]
        let month ← digitsValue [m1, m2]
        let day ← digitsValue [d1, d2]
        let hour ← digitsValue [h1, h2]
        let minute ← digitsValue [n1, n2]
        if 1 ≤ year ∧ 1 ≤ month ∧ month ≤ 12 ∧ 1 ≤ day ∧ day ≤ 31 ∧ hour < 24 ∧ minute < 60 then
          some (((((year * 12 + month) * 31 + day) * 24 + hour) * 60 + minute : Nat) : Rat)
        else none
    | _ => none

end IsePortal
