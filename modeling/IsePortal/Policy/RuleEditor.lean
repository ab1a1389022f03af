import IsePortal.Policy.Conditions
import Mathlib.Data.List.DropRight

/-!
# The rule editor

`groupEditorHtml` and `readGroupCondition` of `views/policy-condition-builder.js`: the page that is
rendered for the condition of a rule, and the condition that is read from the page when the
rule is saved. Of the page only what is read back is kept: the options of each `<select>` with
their marks, the texts of the inputs, and how rows and groups are nested. The parser of the
browser stands in between: it undoes `esc`, except that a carriage return becomes a line
feed and NUL becomes U+FFFD; a text input then drops line ends.
-/

namespace IsePortal

open Library

/-! ## Texts on the page -/

/-- What the parser makes of the characters of an attribute. -/
def parsedChars : List Char → List Char
  | [] => []
  | '\r' :: '\n' :: rest => '\n' :: parsedChars rest
  | '\r' :: rest => '\n' :: parsedChars rest
  | c :: rest => (if c = '\x00' then '\uFFFD' else c) :: parsedChars rest

/-- A text put into an attribute with `esc`, as the page has it. -/
def attributeText (text : String) : String := String.ofList (parsedChars text.toList)

/-- The value of a text input, which is sanitised to one line. -/
def inputText (text : String) : String :=
  String.ofList ((attributeText text).toList.filter fun c => c ≠ '\r' && c ≠ '\n')

/-- What `String.prototype.trim` removes. -/
def isTrimmed (c : Char) : Bool :=
  let code := c.toNat
  (9 ≤ code && code ≤ 13) || code == 0x20 || code == 0xA0 || code == 0x1680 ||
    (0x2000 ≤ code && code ≤ 0x200A) || code == 0x2028 || code == 0x2029 || code == 0x202F ||
    code == 0x205F || code == 0x3000 || code == 0xFEFF

/-- `String.prototype.trim` -/
def jsTrim (text : String) : String :=
  String.ofList ((text.toList.dropWhile isTrimmed).rdropWhile isTrimmed)

/-- `a || b` on texts. -/
def orDefault (text default : String) : String := if text = "" then default else text

/-! ## Selects -/

structure SelectOption where
  value : String
  selected : Bool
  deriving DecidableEq

/-- The `value` of a `<select>`: the last option that is marked, the first one where none is. -/
def selectValue (options : List SelectOption) : String :=
  (((options.reverse.find? SelectOption.selected).or options.head?).map
    SelectOption.value).getD ""

/-- One option for each name, the one that is `sel` marked. -/
def optionsFor (names : List String) (sel : String) : List SelectOption :=
  names.map fun name => { value := name, selected := name = sel }

/-- As `optionsFor`, for values that go through `esc`. -/
def escapedOptionsFor (names : List String) (sel : String) : List SelectOption :=
  names.map fun name => { value := attributeText name, selected := name = sel }

/-- `DICTIONARIES` -/
def dictionaries : List (String × List String) :=
  [("EndPoints", ["Owner", "Type", "Lokation", "AuthzVlan", "AuthzACL", "PlatformType", "PSK_Mode",
      "Description", "HypervisionActive", "HypervisionStatus", "GuestRegistration", "RegistretBy",
      "GuestExperyDate", "GuestAccessExpire"]),
    ("IdentityGroup", ["Name"]),
    ("Radius", ["Called-Station-ID", "NAS-Port-Type", "NAS-Identifier", "User-Name",
      "Framed-IP-Address"])]

/-- The values of `OPERATORS()`. -/
def editorOperators : List String :=
  ["equals", "notEquals", "contains", "notContains", "startsWith", "endsWith", "matches"]

def dictionaryNames : List String := dictionaries.map Prod.fst

def dictionaryAttrs (dictName : String) : List String := (dictionaries.lookup dictName).getD []

def dictionaryOptions (sel : String) : List SelectOption := optionsFor dictionaryNames sel

def attrOptions (dictName sel : String) : List SelectOption :=
  optionsFor (dictionaryAttrs dictName) sel

def operatorOptions (sel : String) : List SelectOption := optionsFor editorOperators sel

/-! ## The value widget -/

/-- `IDENTITY_GROUP_PREFIX` -/
def identityGroupPrefix : String := "Endpoint Identity Groups:"

/-- `v.startsWith(IDENTITY_GROUP_PREFIX)` -/
def isGroupPath (value : String) : Bool := identityGroupPrefix.toList.isPrefixOf value.toList

def normalizeIdentityGroupValue (dict attr val : String) : String :=
  if dict ≠ "IdentityGroup" ∨ attr ≠ "Name" then val
  else if val = "" ∨ isGroupPath val then val
  else identityGroupPrefix ++ val

/-- The known values of the attributes: by name for `EndPoints`, by `__dictionary_attribute__` for
the others. -/
abbrev KnownValues := Dict String (List String)

/-- `known`; a missing list counts as an empty one. -/
def knownValues (caValues : KnownValues) (dict attr : String) : List String :=
  (caValues.get? (if dict = "EndPoints" then attr
    else "__" ++ dict ++ "_" ++ attr ++ "__")).getD []

/-- The value of the option that opens the free text input. -/
def customOption : String := "__custom__"

/-- A `<select>`, with or without the input for other values, or an input alone. -/
inductive ValueWidget where
  | select (options : List SelectOption) (custom : Option String)
  | plain (value : String)
  deriving DecidableEq

/-- The options of an identity group: first the empty one, then those directly below the root, those
deeper down, and values without the usual start. -/
def identityGroupOptions (known : List String) (val : String) : List SelectOption :=
  let items := known.filter isGroupPath
  let deep (value : String) : Bool := (value.toList.drop identityGroupPrefix.length).contains ':'
  { value := "", selected := false } ::
    (escapedOptionsFor (items.filter fun value => !deep value) val ++
      escapedOptionsFor (items.filter deep) val ++
      escapedOptionsFor (known.filter fun value => !isGroupPath value) val)

def valueWidgetHtml (caValues : KnownValues) (dict attr val : String) : ValueWidget :=
  let known := knownValues caValues dict attr
  if known = [] then .plain (inputText val)
  else if dict = "IdentityGroup" ∧ attr = "Name" then
    .select (identityGroupOptions known val) none
  else
    let showCustom := val ≠ "" && !known.contains val
    let selVal := if showCustom then customOption else val
    .select
      ({ value := "", selected := false } ::
        (escapedOptionsFor known selVal ++ [{ value := customOption, selected := showCustom }]))
      (some (inputText (if showCustom then val else "")))

/-- The `val` of `_readRow`, before it is normalised. -/
def readValue : ValueWidget → String
  | .select options custom =>
      if selectValue options = customOption then (custom.map jsTrim).getD ""
      else selectValue options
  | .plain value => value

/-! ## Rows and groups -/

/-- A `.cond-row`. -/
structure CondRow where
  dict : List SelectOption
  attr : List SelectOption
  op : List SelectOption
  value : ValueWidget
  deriving DecidableEq

/-- A `.cond-row` or a `.cond-group`. -/
inductive EditorNode where
  | row (row : CondRow)
  | group (type : List SelectOption) (children : List EditorNode)

/-- `_rowHtml` on the four texts of a condition, each empty where the condition has none. -/
def condRowOf (caValues : KnownValues)
    (dictionaryName attributeName operator attributeValue : String) : CondRow :=
  let dn := orDefault dictionaryName "EndPoints"
  { dict := dictionaryOptions dn
    attr := attrOptions dn attributeName
    op := operatorOptions (orDefault operator "equals")
    value := valueWidgetHtml caValues dn attributeName attributeValue }

/-- `_rowHtml`; a reference has none of the four texts. -/
def rowHtml (caValues : KnownValues) : ConditionLeaf → CondRow
  | .attributes dn an op av => condRowOf caValues dn an op av
  | .reference _ => condRowOf caValues "" "" "" ""
  | .unknownType _ => condRowOf caValues "" "" "" ""

/-- `_defaultCond` -/
def defaultCond : ConditionLeaf := .attributes "EndPoints" "Owner" "equals" ""

def groupTypeOptions (isAnd : Bool) : List SelectOption :=
  optionsFor ["AND", "OR"] (if isAnd then "AND" else "OR")

/-- The children of a group that would have none. -/
def orDefaultRow (caValues : KnownValues) (nodes : List EditorNode) : List EditorNode :=
  if nodes.isEmpty then [.row (rowHtml caValues defaultCond)] else nodes

mutual

/-- The children of `_groupHtml`: a block becomes a group and anything else a row. -/
def nodeHtml (caValues : KnownValues) : Condition → EditorNode
  | .leaf leaf _ => .row (rowHtml caValues leaf)
  | .block isAnd children _ =>
      .group (groupTypeOptions isAnd) (orDefaultRow caValues (nodesHtml caValues children))

def nodesHtml (caValues : KnownValues) : List Condition → List EditorNode
  | [] => []
  | child :: children => nodeHtml caValues child :: nodesHtml caValues children

end

/-- `groupEditorHtml`: at the root a leaf is put into a group of its own, and anything but a test of
an attribute becomes the default row. -/
def groupEditorHtml (caValues : KnownValues) : Option Condition → EditorNode
  | none => .group (groupTypeOptions true) [.row (rowHtml caValues defaultCond)]
  | some (.leaf (.attributes dn an op av) _) =>
      .group (groupTypeOptions true) [.row (rowHtml caValues (.attributes dn an op av))]
  | some (.leaf _ _) => .group (groupTypeOptions true) [.row (rowHtml caValues defaultCond)]
  | some (.block isAnd children isNegate) => nodeHtml caValues (.block isAnd children isNegate)

/-! ## Reading the page -/

/-- The test of `_readRow`. -/
def readLeaf (row : CondRow) : ConditionLeaf :=
  let dict := orDefault (selectValue row.dict) "EndPoints"
  let attr := selectValue row.attr
  .attributes dict attr (orDefault (selectValue row.op) "equals")
    (normalizeIdentityGroupValue dict attr (readValue row.value))

def readRow (row : CondRow) : Condition := .leaf (readLeaf row) false

/-- The end of `_readGroup`: a lone leaf stands for its group. -/
def assembleGroup (type : String) : List Condition → Option Condition
  | [] => none
  | [.leaf leaf isNegate] => some (.leaf leaf isNegate)
  | children => some (.block (type ≠ "OR") children false)

mutual

/-- `_readRow` and `_readGroup` -/
def readNode : EditorNode → Option Condition
  | .row row => some (readRow row)
  | .group type children => assembleGroup (orDefault (selectValue type) "AND") (readNodes children)

def readNodes : List EditorNode → List Condition
  | [] => []
  | node :: nodes => (readNode node).toList ++ readNodes nodes

end

/-- `readGroupCondition`, on the page of `groupEditorHtml`. -/
def readGroupCondition (root : EditorNode) : Option Condition := readNode root

end IsePortal
