import IsePortal.Library.AndOrTree
import IsePortal.Library.Dict
import IsePortal.Platform.Text

/-!
# Rule conditions against an endpoint

`_get_ep_value`, `_eval_operator`, `_eval_identity_group` and `_eval_condition` of
`services/policy_service.py`. A condition is an and/or tree of attribute tests and references; a
leaf that cannot be evaluated counts as true and is reported as skipped. The mark `isNegate`
is part of every node, and no function here looks at it.
-/

namespace IsePortal

open Library

/-- `re.search` on lower-case texts, `false` where the pattern raises `re.error`. -/
class PyRegex where
  search : String → String → Bool

/-- The leaves of a condition: a reference, an attribute test, and any type that the evaluator does
not know. -/
inductive ConditionLeaf where
  | reference (name : String)
  | attributes (dictionaryName attributeName operator attributeValue : String)
  | unknownType (conditionType : String)
  deriving DecidableEq

/-- `ConditionAndBlock` and `ConditionOrBlock` over leaves, each node with its `isNegate`. -/
abbrev Condition := AndOrTree ConditionLeaf

/-- The `ep` dictionary: its texts, the flat custom attributes and the RADIUS values supplied. -/
structure PolicyEndpoint where
  fields : Dict String String := Dict.empty
  customAttributes : Dict String String := Dict.empty
  radiusAttrs : Dict String String := Dict.empty

/-- `_ENDPOINT_ATTR_MAP` -/
def endpointAttrMap : List (String × String) :=
  [("Owner", "owner"), ("Type", "endpoint_type"), ("Lokation", "lokation"),
    ("AuthzVlan", "authz_vlan"), ("AuthzACL", "authz_acl"), ("PlatformType", "platform_type"),
    ("PSK_Mode", "psk_mode"), ("Description", "description"),
    ("GuestRegistration", "guest_registration"), ("RegistretBy", "registret_by"),
    ("GuestExperyDate", "guest_expery_date"), ("GuestAccessExpire", "guest_access_expire"),
    ("HypervisionActive", "active_status"), ("HypervisionStatus", "status"),
    ("HypervisionISEPortal", "hypervision"), ("HypervisionRoles", "hypervision_roles")]

/-- `_UNEVALUABLE_DICTS` -/
def unevaluableDicts : List String := ["Network", "Device", "NetworkAccess"]

/-- `_OP_LABEL` -/
def opLabels : List (String × String) :=
  [("equals", "="), ("notEquals", "≠"), ("contains", "∋"), ("notContains", "∌"),
    ("startsWith", "^"), ("endsWith", "$"), ("matches", "~"), ("greaterThan", ">"),
    ("lessThan", "<")]

def opLabel (op : String) : String := (opLabels.lookup op).getD op

structure MatchedCondition where
  attr : String
  operator : String
  value : String
  matched : Bool
  skipped : Bool := false
  deriving DecidableEq

section Evaluator

variable [PyText] [PyRegex]

omit [PyRegex] in
/-- `_get_ep_value`; `none` for an attribute that is unknown or not supplied. -/
def getEpValue (ep : PolicyEndpoint) (dictionary attributeName : String) : Option String :=
  if dictionary = "EndPoints" then
    match endpointAttrMap.lookup attributeName with
    | some field => some (((ep.fields.get? field).map PyText.lower).getD "")
    | none => (ep.customAttributes.get? attributeName).map PyText.lower
  else if dictionary = "IdentityGroup" ∧ attributeName = "Name" then
    some (PyText.lower ((ep.fields.get? "group_name").getD ""))
  else if dictionary = "Radius" then ep.radiusAttrs.get? attributeName
  else none

/-- `_eval_operator` -/
def evalOperator (op epVal ruleVal : String) : Bool :=
  let epV := PyText.lower epVal
  let rV := PyText.lower ruleVal
  if op = "equals" then epV = rV
  else if op = "notEquals" then epV ≠ rV
  else if op = "contains" then decide (rV.toList <:+: epV.toList)
  else if op = "notContains" then decide (¬ rV.toList <:+: epV.toList)
  else if op = "startsWith" then decide (rV.toList <+: epV.toList)
  else if op = "endsWith" then decide (rV.toList <:+ epV.toList)
  else if op = "matches" then PyRegex.search rV epV
  else false

omit [PyRegex] in
/-- The `equals` of `_eval_identity_group`: the group itself, a group below it, or the short name of
the group. -/
def inIdentityGroup (epVal ruleVal : String) : Bool :=
  let epV := PyText.lower epVal
  let rV := PyText.lower ruleVal
  epV = rV || decide ((rV ++ ":").toList <+: epV.toList) ||
    (epV ≠ "" && !epV.toList.contains ':' && decide ((":" ++ epV).toList <:+ rV.toList))

/-- `_eval_identity_group` -/
def evalIdentityGroup (epVal op ruleVal : String) : Bool :=
  if op = "equals" then inIdentityGroup epVal ruleVal
  else if op = "notEquals" then !inIdentityGroup epVal ruleVal
  else evalOperator op epVal ruleVal

/-- The truth of a leaf where the evaluator can tell. -/
def leafValue (ep : PolicyEndpoint) : ConditionLeaf → Option Bool
  | .reference _ => none
  | .attributes dn an op av =>
      if dn ∈ unevaluableDicts then none
      else (getEpValue ep dn an).map fun epVal =>
        if dn = "IdentityGroup" ∧ an = "Name" then evalIdentityGroup epVal op av
        else evalOperator op epVal av
  | .unknownType _ => none

/-- The leaf cases of `_eval_condition`. -/
def evalLeaf (ep : PolicyEndpoint) (leaf : ConditionLeaf) : Bool × List MatchedCondition :=
  match leaf with
  | .reference name =>
      (true, [{ attr := "[" ++ name ++ "]", operator := "ref", value := "", matched := true,
                skipped := true }])
  | .attributes dn an op av =>
      match leafValue ep leaf with
      | none =>
          (true, [{ attr := dn ++ "." ++ an, operator := op, value := av, matched := true,
                    skipped := true }])
      | some result =>
          (result, [{ attr := dn ++ "." ++ an, operator := opLabel op, value := av,
                      matched := result }])
  | .unknownType _ => (true, [])

mutual

/-- `_eval_condition` -/
def evalCondition (ep : PolicyEndpoint) : Condition → Bool × List MatchedCondition
  | .leaf leaf _ => evalLeaf ep leaf
  | .block isAnd children _ =>
      let evaluated := evalChildren ep children
      (if isAnd then evaluated.1.all id else evaluated.1.any id, evaluated.2)

/-- `results` and `all_details` of a block. -/
def evalChildren (ep : PolicyEndpoint) : List Condition → List Bool × List MatchedCondition
  | [] => ([], [])
  | child :: children =>
      let evaluated := evalCondition ep child
      let rest := evalChildren ep children
      (evaluated.1 :: rest.1, evaluated.2 ++ rest.2)

end

/-! ## What the evaluator computes -/

theorem evalLeaf_fst (ep : PolicyEndpoint) (leaf : ConditionLeaf) :
    (evalLeaf ep leaf).1 = AndOrTree.assume (leafValue ep) true leaf := by
  cases leaf with
  | reference name => rfl
  | unknownType conditionType => rfl
  | attributes dn an op av =>
      unfold evalLeaf AndOrTree.assume
      cases leafValue ep (.attributes dn an op av) <;> rfl

theorem evalChildren_fst (ep : PolicyEndpoint) (children : List Condition) :
    (evalChildren ep children).1 = children.map fun child => (evalCondition ep child).1 := by
  induction children with
  | nil => rfl
  | cons child children ih =>
      show _ :: (evalChildren ep children).1 = _
      rw [ih, List.map_cons]

theorem evalChildren_snd (ep : PolicyEndpoint) (children : List Condition) :
    (evalChildren ep children).2 = children.flatMap fun child => (evalCondition ep child).2 := by
  induction children with
  | nil => rfl
  | cons child children ih =>
      show _ ++ (evalChildren ep children).2 = _
      rw [ih, List.flatMap_cons]

/-- The evaluator takes unknown leaves for true and overlooks negation. -/
theorem evalCondition_fst (ep : PolicyEndpoint) (cond : Condition) :
    (evalCondition ep cond).1 = cond.plain (AndOrTree.assume (leafValue ep) true) := by
  induction cond using AndOrTree.induction with
  | leaf leaf isNegate => exact evalLeaf_fst ep leaf
  | block isAnd children isNegate ih =>
      have hresults : (evalChildren ep children).1 =
          children.map (AndOrTree.plain (AndOrTree.assume (leafValue ep) true)) := by
        rw [evalChildren_fst]
        exact List.map_congr_left ih
      show (if isAnd then (evalChildren ep children).1.all id
        else (evalChildren ep children).1.any id) = _
      rw [hresults, List.all_map, List.any_map, AndOrTree.plain, AndOrTree.plainAll_eq,
        AndOrTree.plainAny_eq]
      rfl

/-- The report lists the leaves from left to right. -/
theorem evalCondition_snd (ep : PolicyEndpoint) (cond : Condition) :
    (evalCondition ep cond).2 = cond.leaves.flatMap fun leaf => (evalLeaf ep leaf).2 := by
  induction cond using AndOrTree.induction with
  | leaf leaf isNegate =>
      show (evalLeaf ep leaf).2 = [leaf].flatMap _
      rw [List.flatMap_singleton]
  | block isAnd children isNegate ih =>
      show (evalChildren ep children).2 = _
      rw [evalChildren_snd, AndOrTree.leaves, AndOrTree.leavesOf_eq, List.flatMap_assoc]
      exact List.flatMap_congr ih

end Evaluator

end IsePortal
