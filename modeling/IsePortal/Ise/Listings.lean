import IsePortal.Library.Paging
import IsePortal.Platform.Json
import IsePortal.Prewarm.FullScan

/-!
# Listings of ISE

`list_page` and `list_all` of the endpoint and group repositories of both interfaces
(`app/ise/endpoints.py`, `app/ise/openapi_endpoints.py`), over the JSON ISE answers with, and
`_fetch_all_ids` over them. A collection does not change while its pages are read; `listAll_eq`
says that `list_all` returns it where every page comes with the number of all objects, and
`listAll_first` what it returns where the length of a page is taken for that number.
-/

namespace IsePortal

open Library

/-! ## Reading an answer -/

/-- What a comprehension reads off a value. -/
def Json.items : Json → Except PyError (List Json)
  | .arr items => .ok items
  | .obj fields => .ok (fields.map fun field => .str field.1)
  | .str text => .ok (text.toList.map fun char => .str (String.ofList [char]))
  | _ => .error .typeError

/-- The count a total is: what is compared with whole numbers and divided may be rounded up. A
total that is no number is refused here, where Python refuses the comparison. -/
def Json.asTotal (total : Json) : Except PyError Int :=
  match total.number with
  | some value => .ok value.ceil
  | none => .error .typeError

/-- The wrapping of `_normalize_endpoint`: a block of custom attributes of one level gets the
second level ERS has. -/
def wrapAttributes (fields : JsonObject) : JsonObject :=
  match fields.lookup "customAttributes" with
  | some (.obj ca) =>
      if (ca.lookup "customAttributes").isSome then fields
      else fields.set "customAttributes" (.obj [("customAttributes", .obj ca)])
  | _ => fields

/-- `_normalize_endpoint` -/
def normalizeEndpoint (raw : Json) : Except PyError Json :=
  if raw.truthy then
    match raw with
    | .obj fields => .ok (.obj (wrapAttributes fields))
    | _ => .error .attributeError
  else .ok (.obj [])

/-- `_normalize_list` -/
def normalizeList : Json → Except PyError (List Json × Int)
  | .arr items => do
      let resources ← items.mapM normalizeEndpoint
      return (resources, resources.length)
  | .obj data =>
      match data.lookup "SearchResult" with
      | some (.obj sr) => do
          let items ← (JsonObject.getD sr "resources" (.arr [])).items
          let resources ← items.mapM normalizeEndpoint
          let total ← (JsonObject.getD sr "total" (.num resources.length)).asTotal
          return (resources, total)
      | some _ => .error .attributeError
      | none =>
          match JsonObject.getD data "response" (JsonObject.getD data "resources" (.arr [])) with
          | .arr items => do
              let resources ← items.mapM normalizeEndpoint
              let total := ((JsonObject.getD data "total" .null).or
                (JsonObject.getD data "totalCount" .null)).or (.num resources.length)
              return (resources, ← total.toInt)
          | _ => .ok ([], 0)
  | _ => .ok ([], 0)

/-- The `SearchResult` of an ERS answer, its resources and its total; `unknown` is the total
where the answer has none. -/
def searchResult (unknown : Nat → Nat) (data : Json) : Except PyError (List Json × Int) := do
  let sr ← if data.truthy then
      match data with
      | .obj data => .ok (JsonObject.getD data "SearchResult" (.obj []))
      | _ => .error .attributeError
    else .ok (.obj [])
  match sr with
  | .obj sr => do
      let resources ← (JsonObject.getD sr "resources" (.arr [])).items
      let total ← (JsonObject.getD sr "total" (.num (unknown resources.length))).asTotal
      return (resources, total)
  | _ => .error .attributeError

/-! ## The repositories

`answer page` is what ISE answers to the request of that page of 100. -/

section Repositories

variable (answer : Nat → Json)

/-- `IseEndpointRepository.list_page` -/
def ersListPage (page : Nat) : Except PyError (List Json × Int) :=
  searchResult (fun length => length) (answer page)

/-- `OpenApiEndpointRepository.list_page` -/
def openListPage (page : Nat) : Except PyError (List Json × Int) := normalizeList (answer page)

/-- `IseEndpointGroupRepository._list_groups_page` -/
def listGroupsPage (page : Nat) : Except PyError (List Json × Int) :=
  searchResult (fun _ => 0) (answer page)

variable (listPage : Nat → Except PyError (List Json × Int))

/-- `math.ceil(total / 100)`. The quotient is exact for every count a list can have. -/
def totalPages (total : Int) : Nat := ((total + 99) / 100).toNat

/-- The pages from the second one on, which are fetched at the same time and put together in their
order. -/
def fetchRemaining (total : Int) : Except PyError (List Json) := do
  let remaining ← (List.range' 2 (totalPages total - 1)).mapM fun page =>
    return (← listPage page).1
  return remaining.flatten

/-- `list_all` of both endpoint repositories, over their `list_page`. -/
def listAll : Except PyError (List Json) := do
  let (resources, total) ← listPage 1
  if resources.isEmpty || total ≤ resources.length then return resources
  if totalPages total ≤ 1 then return resources
  return resources ++ (← fetchRemaining listPage total)

/-- A text among the fields of an object ISE describes with texts. -/
def JsonObject.text (d : JsonObject) (key : String) : String :=
  match d.lookup key with
  | some (.str text) => text
  | _ => ""

/-- `_detail`: a group of the list with what `GET` says of it; `{}` stands for a request that
failed. -/
def describeGroup (detail : String → JsonObject) : Json → Except PyError JsonObject
  | .obj r =>
      if (r.lookup "id").isSome then
        let detail := detail (JsonObject.text r "id")
        .ok (if detail.isEmpty then r else JsonObject.merge r detail)
      else .error .keyError
  | _ => .error .typeError

/-- `by_id.get(group_id)`: of two groups with one id the later one. -/
def groupById (detailed : List JsonObject) (groupId : String) : Option JsonObject :=
  if groupId = "" then none else detailed.reverse.find? fun g => g.text "id" = groupId

/-- `_full_path`. The walk enters no group twice, so it needs no more steps than there are
groups. -/
def fullPath (detailed : List JsonObject) : Nat → JsonObject → List String → String
  | 0, g, _ => g.text "name"
  | steps + 1, g, visited =>
      if g.text "id" ∈ visited then g.text "name"
      else
        match groupById detailed (g.text "parentId") with
        | none => g.text "name"
        | some parent =>
            let parentName := fullPath detailed steps parent (g.text "id" :: visited)
            if parentName = "" then g.text "name" else parentName ++ ":" ++ g.text "name"

/-- The first step of `IseEndpointGroupRepository.list_all`: the groups as ISE lists them. -/
def groupSummaries : Except PyError (List Json) := do
  let (resources, total) ← listGroupsPage answer 1
  if resources.isEmpty || total ≤ resources.length then return resources
  return resources ++ (← fetchRemaining (listGroupsPage answer) total)

/-- `IseEndpointGroupRepository.list_all` -/
def ersGroupsListAll (detail : String → JsonObject) : Except PyError (List JsonObject) := do
  let detailed ← (← groupSummaries answer).mapM (describeGroup detail)
  return detailed.map fun g =>
    g.set "_full_path" (.str (fullPath detailed (detailed.length + 1) g []))

/-- `OpenApiEndpointGroupRepository.list_all`: one request, which names no page and is answered
with the first one. -/
def openGroupsListAll : Except PyError (List Json) := return (← normalizeList (answer 1)).1

/-- `r.get("id", "")` -/
def Json.idText : Json → String
  | .obj fields => JsonObject.text fields "id"
  | _ => ""

/-- A call of `list_page` as `_fetch_all_ids` makes it, on a collection of these ids. -/
def pageCall (ids : List EndpointId) (page : Nat) : PageCall where
  listing := ids
  result :=
    match listPage page with
    | .ok (resources, total) => some (resources.map Json.idText, total)
    | .error _ => none

end Repositories

/-! ## What a collection is answered with -/

/-- Where an answer without a `SearchResult` has its list. -/
inductive ListKey where
  | response
  | resources
  deriving DecidableEq

/-- The shapes `_normalize_list` supports: a `SearchResult` with a total; a `response` or
`resources` list with or without `total` and `totalCount`; a flat list. -/
inductive ResponseShape where
  | searchResult
  | listed (key : ListKey) (total totalCount : Bool)
  | flat
  deriving DecidableEq

/-- The answer says how many objects there are. -/
def ResponseShape.countsAll : ResponseShape → Bool
  | .searchResult => true
  | .listed _ total totalCount => total || totalCount
  | .flat => false

/-- The data answers in this shape with these objects of a collection of so many; what else it
carries does not matter. -/
inductive ShapedAnswer : ResponseShape → List JsonObject → Nat → Json → Prop where
  | searchResult (objects count data sr) :
      List.lookup "SearchResult" data = some (.obj sr) →
      List.lookup "resources" sr = some (.arr (objects.map .obj)) →
      List.lookup "total" sr = some (.num (count : Nat)) →
      ShapedAnswer .searchResult objects count (.obj data)
  | response (total totalCount objects count data) :
      List.lookup "SearchResult" data = none →
      List.lookup "response" data = some (.arr (objects.map .obj)) →
      List.lookup "total" data = (if total then some (.num (count : Nat)) else none) →
      List.lookup "totalCount" data = (if totalCount then some (.num (count : Nat)) else none) →
      ShapedAnswer (.listed .response total totalCount) objects count (.obj data)
  | resources (total totalCount objects count data) :
      List.lookup "SearchResult" data = none →
      List.lookup "response" data = none →
      List.lookup "resources" data = some (.arr (objects.map .obj)) →
      List.lookup "total" data = (if total then some (.num (count : Nat)) else none) →
      List.lookup "totalCount" data = (if totalCount then some (.num (count : Nat)) else none) →
      ShapedAnswer (.listed .resources total totalCount) objects count (.obj data)
  | flat (objects count) : ShapedAnswer .flat objects count (.arr (objects.map .obj))

/-- A collection of ISE: objects with an id each. -/
structure Collection where
  objects : List JsonObject
  hasId : ∀ object ∈ objects, ∃ id, id ≠ "" ∧ object.lookup "id" = some (.str id)

/-- ISE answers each page of 100 with the objects on it. -/
def AnswersPages (shape : ResponseShape) (collection : Collection) (answer : Nat → Json) : Prop :=
  ∀ page, 1 ≤ page →
    ShapedAnswer shape (pageOf 100 collection.objects page) collection.objects.length (answer page)

/-- The total read off a page of so many objects. -/
def ResponseShape.totalOf (shape : ResponseShape) (onPage count : Nat) : Nat :=
  if shape.countsAll then count else onPage

/-- A comprehension whose items all succeed. -/
theorem mapM_eq_ok {ε : Type*} {α β : Type} {f : α → Except ε β} {g : α → β} {items : List α}
    (hitems : ∀ item ∈ items, f item = .ok (g item)) : items.mapM f = .ok (items.map g) := by
  induction items with
  | nil => rfl
  | cons item rest ih =>
      rw [List.mapM_cons, hitems item List.mem_cons_self,
        ih fun other hother => hitems other (List.mem_cons_of_mem item hother)]
      rfl

/-- The objects as the repository for the Open API returns them. -/
def normalized (objects : List JsonObject) : List Json :=
  objects.map fun object => .obj (wrapAttributes object)

section Pages

variable {objects : List JsonObject}

/-- Every object of a collection is kept, in the shape of ERS. -/
theorem mapM_normalizeEndpoint (hobjects : ∀ object ∈ objects, object ≠ []) :
    (objects.map Json.obj).mapM normalizeEndpoint = .ok (normalized objects) := by
  rw [List.mapM_map]
  refine mapM_eq_ok fun object hobject => ?_
  have htruthy : (Json.obj object).truthy = true := by
    simpa [Json.truthy] using hobjects object hobject
  simp only [Function.comp_apply, normalizeEndpoint, htruthy, if_true]

theorem toInt_count (count : Nat) : (Json.num (count : Rat)).toInt = .ok (count : Int) := by
  have hnonneg : (0 : Rat) ≤ count := Rat.natCast_nonneg
  rw [Json.toInt, if_pos hnonneg]
  rfl

/-- The total of a list with or without the two counts. -/
theorem toInt_listed (total totalCount : Bool) (onPage : Nat) {count : Nat} (data : JsonObject)
    (hzero : count = 0 → onPage = 0)
    (htotal : data.lookup "total" = if total then some (.num (count : Rat)) else none)
    (hcount : data.lookup "totalCount" = if totalCount then some (.num (count : Rat)) else none) :
    (((data.getD "total" .null).or (data.getD "totalCount" .null)).or
      (.num (onPage : Rat))).toInt =
        .ok ((if total || totalCount then count else onPage : Nat) : Int) := by
  have hnull : Json.null.truthy = false := rfl
  by_cases hcases : count = 0
  · -- a count of zero is falsy, and so is the list
    have hfalsy : (Json.num 0).truthy = false := by decide
    have hint : (Json.num 0).toInt = .ok 0 := toInt_count 0
    subst hcases
    rw [hzero rfl]
    cases total <;> cases totalCount <;>
      simp [JsonObject.getD, htotal, hcount, Json.or, hnull, hfalsy, hint]
  · have htruthy : (Json.num (count : Rat)).truthy = true := by simp [Json.truthy, hcases]
    cases total <;> cases totalCount <;>
      simp [JsonObject.getD, htotal, hcount, Json.or, hnull, htruthy, toInt_count]

/-- What `_normalize_list` makes of an answer. -/
theorem normalizeList_answers {shape : ResponseShape} {count : Nat} {data : Json}
    (hobjects : ∀ object ∈ objects, object ≠ []) (hzero : count = 0 → objects = [])
    (hanswers : ShapedAnswer shape objects count data) :
    normalizeList data =
      .ok (normalized objects, (shape.totalOf objects.length count : Int)) := by
  have hlength : (normalized objects).length = objects.length := List.length_map _
  cases hanswers with
  | searchResult _ _ data sr hresult hresources htotal =>
      simp only [normalizeList, hresult, JsonObject.getD, hresources, htotal, Option.getD_some,
        Json.items, bind, Except.bind, mapM_normalizeEndpoint hobjects, pure, Except.pure]
      rfl
  | response total totalCount _ _ data hresult hresponse htotal hcount =>
      have hint := toInt_listed total totalCount objects.length data
        (fun hcount => by rw [hzero hcount]; rfl) htotal hcount
      simp only [normalizeList, hresult, JsonObject.getD, hresponse, Option.getD_some, bind,
        Except.bind, mapM_normalizeEndpoint hobjects, pure, Except.pure, hlength]
      simp only [JsonObject.getD] at hint
      rw [hint]
      rfl
  | resources total totalCount _ _ data hresult hresponse hresources htotal hcount =>
      have hint := toInt_listed total totalCount objects.length data
        (fun hcount => by rw [hzero hcount]; rfl) htotal hcount
      simp only [normalizeList, hresult, JsonObject.getD, hresponse, hresources, Option.getD_some,
        Option.getD_none, bind, Except.bind, mapM_normalizeEndpoint hobjects, pure, Except.pure,
        hlength]
      simp only [JsonObject.getD] at hint
      rw [hint]
      rfl
  | flat =>
      simp only [normalizeList, bind, Except.bind, mapM_normalizeEndpoint hobjects, pure,
        Except.pure, hlength]
      rfl

/-- What an ERS repository makes of the one shape ERS has. -/
theorem searchResult_answers {unknown : Nat → Nat} {count : Nat} {data : Json}
    (hanswers : ShapedAnswer .searchResult objects count data) :
    searchResult unknown data = .ok (objects.map .obj, (count : Int)) := by
  cases hanswers with
  | searchResult _ _ data sr hresult hresources htotal =>
      have htruthy : (Json.obj data).truthy = true := by
        cases data with
        | nil => cases hresult
        | cons => rfl
      simp only [searchResult, htruthy, if_true, JsonObject.getD, hresult, hresources, htotal,
        Option.getD_some, Json.items, bind, Except.bind, pure, Except.pure]
      rfl

/-- An answer of another shape has nothing for an ERS repository, which fails on a list. -/
theorem searchResult_other (unknown : Nat → Nat) {shape : ResponseShape} {count : Nat} {data : Json}
    (hshape : shape ≠ .searchResult) (hanswers : ShapedAnswer shape objects count data) :
    searchResult unknown data = .ok ([], (unknown 0 : Int)) ∨
      objects ≠ [] ∧ searchResult unknown data = .error .attributeError := by
  cases hanswers with
  | searchResult => exact absurd rfl hshape
  | response _ _ _ _ data hresult hresponse =>
      left
      have htruthy : (Json.obj data).truthy = true := by
        cases data with
        | nil => cases hresponse
        | cons => rfl
      simp only [searchResult, htruthy, if_true, JsonObject.getD, hresult]
      rfl
  | resources _ _ _ _ data hresult _ hresources =>
      left
      have htruthy : (Json.obj data).truthy = true := by
        cases data with
        | nil => cases hresources
        | cons => rfl
      simp only [searchResult, htruthy, if_true, JsonObject.getD, hresult]
      rfl
  | flat =>
      cases objects with
      | nil => exact Or.inl rfl
      | cons => exact Or.inr ⟨List.cons_ne_nil _ _, rfl⟩

end Pages

/-! ## Putting the pages together -/

section AllPages

variable {items : List Json} {listPage : Nat → Except PyError (List Json × Int)}

/-- Each page is read with its part of the items, and every page with the number of all of
them. -/
def ReadsPages (listPage : Nat → Except PyError (List Json × Int)) (items : List Json) : Prop :=
  ∀ page, 1 ≤ page → listPage page = .ok (pageOf 100 items page, (items.length : Int))

theorem length_pageOf_one : (pageOf 100 items 1).length = min 100 items.length := by
  simp [pageOf]

theorem totalPages_count (count : Nat) : totalPages (count : Int) = (count + 99) / 100 := by
  rw [totalPages]
  omega

/-- The first page and the remaining ones are all the items. -/
theorem fetchRemaining_eq (hreads : ReadsPages listPage items) :
    ∃ remaining, fetchRemaining listPage (items.length : Int) = .ok remaining ∧
      pageOf 100 items 1 ++ remaining = items := by
  have hpages : (List.range' 2 (totalPages (items.length : Int) - 1)).mapM
      (fun page => do return (← listPage page).1) =
        .ok ((List.range' 2 (totalPages (items.length : Int) - 1)).map (pageOf 100 items)) := by
    refine mapM_eq_ok fun page hpage => ?_
    have hpos : 1 ≤ page := by
      have hrange := (List.mem_range'_1.mp hpage).1
      omega
    rw [hreads page hpos]
    rfl
  refine ⟨(List.range' 2 (totalPages (items.length : Int) - 1)).flatMap (pageOf 100 items),
    ?_, ?_⟩
  · rw [fetchRemaining, hpages]
    rfl
  · rw [append_flatMap_pageOf, totalPages_count]
    exact List.take_of_length_le (by omega)

/-- A page that has as many items as the total, or none at all, is the only one. -/
theorem first_page_iff :
    ((pageOf 100 items 1).isEmpty || decide ((items.length : Int) ≤ (pageOf 100 items 1).length)) =
      true ↔ items.length ≤ 100 := by
  have hlength : (pageOf 100 items 1).length = min 100 items.length := length_pageOf_one
  rw [Bool.or_eq_true, List.isEmpty_iff, decide_eq_true_iff, ← List.length_eq_zero_iff]
  omega

theorem pageOf_one_of_le (hfew : items.length ≤ 100) : pageOf 100 items 1 = items := by
  have hdrop : pageOf 100 items 1 = items.take 100 := by simp [pageOf]
  rw [hdrop, List.take_of_length_le hfew]

/-- `list_all` returns everything where every page comes with the number of all items. -/
theorem listAll_eq (hreads : ReadsPages listPage items) : listAll listPage = .ok items := by
  have hfirst := hreads 1 (Nat.le_refl 1)
  simp only [listAll, hfirst, bind, Except.bind, pure, Except.pure]
  by_cases hfew : items.length ≤ 100
  · rw [if_pos (first_page_iff.mpr hfew), pageOf_one_of_le hfew]
  · obtain ⟨remaining, hfetch, happend⟩ := fetchRemaining_eq hreads
    have hpages : ¬ totalPages (items.length : Int) ≤ 1 := by
      rw [totalPages_count]
      omega
    rw [if_neg fun hone => hfew (first_page_iff.mp hone), if_neg hpages, hfetch]
    exact congrArg Except.ok happend

/-- `list_all` returns the first page alone where its length is taken for the total. -/
theorem listAll_first {resources : List Json}
    (hfirst : listPage 1 = .ok (resources, (resources.length : Int))) :
    listAll listPage = .ok resources := by
  have hone :
      (resources.isEmpty || decide ((resources.length : Int) ≤ resources.length)) = true := by
    simp
  simp only [listAll, hfirst, bind, Except.bind, pure, Except.pure]
  rw [if_pos hone]

/-- The groups of all pages are listed where every page comes with their number. -/
theorem groupSummaries_eq {answer : Nat → Json}
    (hreads : ReadsPages (listGroupsPage answer) items) : groupSummaries answer = .ok items := by
  have hfirst := hreads 1 (Nat.le_refl 1)
  simp only [groupSummaries, hfirst, bind, Except.bind, pure, Except.pure]
  by_cases hfew : items.length ≤ 100
  · rw [if_pos (first_page_iff.mpr hfew), pageOf_one_of_le hfew]
  · obtain ⟨remaining, hfetch, happend⟩ := fetchRemaining_eq hreads
    rw [if_neg fun hone => hfew (first_page_iff.mp hone), hfetch]
    exact congrArg Except.ok happend

end AllPages

end IsePortal
