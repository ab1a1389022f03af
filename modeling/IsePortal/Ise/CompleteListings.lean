import IsePortal.Ise.Listings

/-!
# Complete listings

A listing is complete when it has every object of the collection once. `listing_complete_iff` says
for which answers of ISE `list_all` of the four repositories and `_fetch_all_ids` are: a listing
that reads one page only, or takes the length of the first page for the number of all objects, ends
after the first hundred.
-/

namespace IsePortal

open Library

/-! ## Ids -/

/-- The ids of the collection. -/
def Collection.ids (collection : Collection) : List EndpointId :=
  collection.objects.map fun object => object.text "id"

theorem Collection.id_ne_empty (collection : Collection) :
    ∀ object ∈ collection.objects, object.text "id" ≠ "" := by
  intro object hobject
  obtain ⟨id, hid, hlookup⟩ := collection.hasId object hobject
  simpa [JsonObject.text, hlookup] using hid

/-- The id a group has been asked for is the one in the answer. -/
def NamesGroup (detail : String → JsonObject) : Prop :=
  ∀ groupId value, ("id", value) ∈ detail groupId → value = .str groupId

/-- A listed group with what `GET` says of it keeps its id. -/
theorem describeGroup_id {detail : String → JsonObject} (hdetail : NamesGroup detail)
    {object : JsonObject} {groupId : String} (hid : object.lookup "id" = some (.str groupId)) :
    ∃ g, describeGroup detail (.obj object) = .ok g ∧ g.text "id" = groupId := by
  have htext : object.text "id" = groupId := by simp [JsonObject.text, hid]
  simp only [describeGroup, hid, Option.isSome_some, if_true, htext]
  refine ⟨_, rfl, ?_⟩
  split
  · exact htext
  · have hmerged : (object.merge (detail groupId)).lookup "id" = some (.str groupId) := by
      obtain ⟨hkept, _⟩ | ⟨value, hmem, hvalue⟩ :=
        JsonObject.lookup_merge (detail groupId) object "id"
      · rw [hkept, hid]
      · rw [hvalue, hdetail groupId value hmem]
    simp [JsonObject.text, hmerged]

/-- The described groups have the ids of the listed ones. -/
theorem mapM_describeGroup {detail : String → JsonObject} (hdetail : NamesGroup detail)
    {objects : List JsonObject}
    (hids : ∀ object ∈ objects, ∃ groupId, object.lookup "id" = some (.str groupId)) :
    ∃ detailed, (objects.map Json.obj).mapM (describeGroup detail) = .ok detailed ∧
      detailed.map (fun g => g.text "id") = objects.map fun object => object.text "id" := by
  induction objects with
  | nil => exact ⟨[], rfl, rfl⟩
  | cons object rest ih =>
      obtain ⟨groupId, hid⟩ := hids object List.mem_cons_self
      obtain ⟨g, hdescribed, hg⟩ := describeGroup_id hdetail hid
      obtain ⟨detailed, hrest, hsame⟩ := ih fun other hother => hids other (.tail object hother)
      refine ⟨g :: detailed, ?_, ?_⟩
      · rw [List.map_cons, List.mapM_cons, hdescribed, hrest]
        rfl
      · have htext : object.text "id" = groupId := by simp [JsonObject.text, hid]
        rw [List.map_cons, List.map_cons, hsame, hg, htext]

/-- `list_all` of the groups has the ids of the groups that were listed. -/
theorem ersGroupsListAll_ids {answer : Nat → Json} {detail : String → JsonObject}
    (hdetail : NamesGroup detail) {objects : List JsonObject}
    (hids : ∀ object ∈ objects, ∃ groupId, object.lookup "id" = some (.str groupId))
    (hlisted : groupSummaries answer = .ok (objects.map .obj)) :
    ∃ groups, ersGroupsListAll answer detail = .ok groups ∧
      groups.map (fun g => g.text "id") = objects.map fun object => object.text "id" := by
  obtain ⟨detailed, hdetailed, hsame⟩ := mapM_describeGroup hdetail hids
  refine ⟨detailed.map fun g =>
    g.set "_full_path" (.str (fullPath detailed (detailed.length + 1) g [])), ?_, ?_⟩
  · rw [ersGroupsListAll, hlisted]
    simp only [bind, Except.bind, hdetailed]
    rfl
  · rw [← hsame, List.map_map]
    refine List.map_congr_left fun g _ => ?_
    simp [JsonObject.text, JsonObject.lookup_set]

/-! ## The ids of the pre-warm scan -/

section Prewarm

variable {items : List Json} {listPage : Nat → Except PyError (List Json × Int)}
  {listing : List EndpointId}

theorem pageOf_map {α β : Type} (f : α → β) (items : List α) (page : Nat) :
    pageOf 100 (items.map f) page = (pageOf 100 items page).map f := by
  rw [pageOf, pageOf, List.map_take, List.map_drop]

/-- The ids on a page that was read. -/
theorem idsOn_pageCall (listing : List String) (hids : ∀ item ∈ items, item.idText ≠ "")
    {page : Nat} {total : Int} (hread : listPage page = .ok (pageOf 100 items page, total)) :
    idsOn (pageCall listPage listing page) = pageOf 100 (items.map Json.idText) page := by
  simp only [idsOn, pageCall, hread]
  rw [pageOf_map, List.filter_eq_self]
  intro id hid
  obtain ⟨item, hitem, rfl⟩ := List.mem_map.mp hid
  have hmem : item ∈ items := List.mem_of_mem_drop (List.mem_of_mem_take hitem)
  simpa using hids item hmem

/-- The ids on the first pages. -/
theorem idsRead_pageCall (hids : ∀ item ∈ items, item.idText ≠ "")
    (hreads : ReadsPages listPage items) (pages : Nat) :
    idsRead (pageCall listPage listing) pages = (items.map Json.idText).take (pages * 100) := by
  induction pages with
  | zero => simp [idsRead]
  | succ pages ih =>
      have hpage : 1 ≤ pages + 1 := Nat.le_add_left 1 pages
      rw [idsRead_succ, ih, idsOn_pageCall listing hids (hreads (pages + 1) hpage)]
      exact take_append_pageOf hpage

/-- A page is the last one exactly when the pages up to it have all the items. -/
theorem stopsAt_pageCall (hids : ∀ item ∈ items, item.idText ≠ "")
    (hreads : ReadsPages listPage items) {page : Nat} (hpage : 1 ≤ page) :
    StopsAt (pageCall listPage listing) page ↔
      items.length ≤ page * 100 := by
  have hread := hreads page hpage
  have hempty : (pageOf 100 items page).map Json.idText = [] ↔
      items.length ≤ (page - 1) * 100 := by
    rw [List.map_eq_nil_iff, pageOf, List.take_eq_nil_iff, List.drop_eq_nil_iff]
    omega
  have hresult : (pageCall listPage listing page).result =
      some ((pageOf 100 items page).map Json.idText, (items.length : Int)) := by
    simp only [pageCall, hread]
  simp only [StopsAt, hresult]
  rw [hempty, idsRead_pageCall hids hreads, List.length_take, List.length_map]
  omega

/-- The scan reads every id where every page comes with the number of all items. -/
theorem fetchAllIds_pageCall (listing : List String) (hids : ∀ item ∈ items, item.idText ≠ "")
    (hreads : ReadsPages listPage items) :
    ∃ fuel, fetchAllIds (pageCall listPage listing) fuel 1 [] = some (items.map Json.idText) := by
  have hlast : LastPage (pageCall listPage listing) (max 1 ((items.length + 99) / 100)) := by
    refine ⟨by omega, ?_, ?_⟩
    · rw [stopsAt_pageCall hids hreads (by omega)]
      omega
    · intro other hpos hother
      rw [stopsAt_pageCall hids hreads hpos]
      omega
  refine ⟨_, (fetchAllIds_eq hlast (Nat.le_refl _)).trans (congrArg some ?_)⟩
  rw [idsRead_pageCall hids hreads]
  refine List.take_of_length_le ?_
  rw [List.length_map]
  omega

/-- A scan whose first page stops it has the ids of that page. -/
theorem fetchAllIds_first {calls : Nat → PageCall} (hstops : StopsAt calls 1) {fuel : Nat}
    {ids : List EndpointId} (hids : fetchAllIds calls fuel 1 [] = some ids) :
    ids = idsOn (calls 1) := by
  cases fuel with
  | zero => cases hids
  | succ fuel =>
      have hfirst := (fetchAllIds_step calls fuel 0).1 hstops
      have hread : idsRead calls 1 = idsOn (calls 1) := by simp [idsRead]
      rw [hread] at hfirst
      exact Option.some.inj (hids.symm.trans hfirst)

end Prewarm

/-! ## Completeness -/

/-- The listings of the portal: `list_all` of the repositories of endpoints and groups, and
`_fetch_all_ids` over the endpoints of either interface. -/
inductive Listing where
  | ersEndpoints
  | openEndpoints
  | ersGroups
  | openGroups
  | ersScan
  | openScan
  deriving DecidableEq

/-- The listing returns every object of the collection once: the endpoints of ERS as they are, what
the Open API has in the shape of ERS, the groups of ERS with their details, and the scan by id. -/
def Listing.Complete (answer : Nat → Json) (detail : String → JsonObject)
    (collection : Collection) : Listing → Prop
  | .ersEndpoints => ∃ resources, listAll (ersListPage answer) = .ok resources ∧
      resources.Perm (collection.objects.map .obj)
  | .openEndpoints => ∃ resources, listAll (openListPage answer) = .ok resources ∧
      resources.Perm (normalized collection.objects)
  | .ersGroups => ∃ groups, ersGroupsListAll answer detail = .ok groups ∧
      (groups.map fun g => g.text "id").Perm collection.ids
  | .openGroups => ∃ resources, openGroupsListAll answer = .ok resources ∧
      resources.Perm (normalized collection.objects)
  | .ersScan => ∃ fuel ids,
      fetchAllIds (pageCall (ersListPage answer) collection.ids) fuel 1 [] = some ids ∧
        ids.Perm collection.ids
  | .openScan => ∃ fuel ids,
      fetchAllIds (pageCall (openListPage answer) collection.ids) fuel 1 [] = some ids ∧
        ids.Perm collection.ids

/-- When a listing is complete: the calls of ERS need the one shape ERS has; those of the Open API
need a total, or no more than one page; its groups no more than one page. -/
def Listing.Covered (shape : ResponseShape) (collection : Collection) : Listing → Prop
  | .ersEndpoints | .ersGroups | .ersScan => shape = .searchResult ∨ collection.objects = []
  | .openEndpoints | .openScan => shape.countsAll = true ∨ collection.objects.length ≤ 100
  | .openGroups => collection.objects.length ≤ 100

section Completeness

variable {collection : Collection} {shape : ResponseShape} {answer : Nat → Json}

theorem Collection.ne_nil_of_mem_pageOf (collection : Collection) (page : Nat) :
    ∀ object ∈ pageOf 100 collection.objects page, object ≠ [] := by
  intro object hobject hnil
  have hmem := List.mem_of_mem_drop (List.mem_of_mem_take hobject)
  obtain ⟨id, -, hlookup⟩ := collection.hasId object hmem
  rw [hnil] at hlookup
  cases hlookup

theorem Collection.idText_normalized (collection : Collection) :
    (normalized collection.objects).map Json.idText = collection.ids := by
  rw [normalized, List.map_map, Collection.ids]
  refine List.map_congr_left fun object _ => ?_
  show (wrapAttributes object).text "id" = object.text "id"
  unfold wrapAttributes
  split
  · split
    · rfl
    · simp [JsonObject.text, JsonObject.lookup_set]
  · rfl

theorem Collection.idText_ne_empty {collection : Collection} {items : List Json}
    (hids : items.map Json.idText = collection.ids) : ∀ item ∈ items, item.idText ≠ "" := by
  intro item hitem
  have hmem : item.idText ∈ collection.ids := hids ▸ List.mem_map_of_mem hitem
  obtain ⟨object, hobject, hid⟩ := List.mem_map.mp hmem
  exact hid ▸ collection.id_ne_empty object hobject

/-- The pages of ERS. -/
theorem AnswersPages.ers {unknown : Nat → Nat}
    (hanswers : AnswersPages .searchResult collection answer) :
    ReadsPages (fun page => searchResult unknown (answer page)) (collection.objects.map .obj) := by
  intro page hpage
  dsimp only
  rw [searchResult_answers (hanswers page hpage), pageOf_map, List.length_map]

/-- A page of the Open API, with the total that is read off it. -/
theorem AnswersPages.openPage (hanswers : AnswersPages shape collection answer) {page : Nat}
    (hpage : 1 ≤ page) :
    openListPage answer page = .ok (pageOf 100 (normalized collection.objects) page,
      (shape.totalOf (pageOf 100 collection.objects page).length
        collection.objects.length : Int)) := by
  rw [openListPage, normalizeList_answers (collection.ne_nil_of_mem_pageOf page)
    (fun hzero => by simp [pageOf, List.length_eq_zero_iff.mp hzero]) (hanswers page hpage)]
  simp only [normalized, pageOf_map]

/-- The pages of the Open API, where its answers have a total. -/
theorem AnswersPages.openPages (hanswers : AnswersPages shape collection answer)
    (hcounts : shape.countsAll = true) :
    ReadsPages (openListPage answer) (normalized collection.objects) := by
  intro page hpage
  rw [hanswers.openPage hpage, ResponseShape.totalOf, if_pos hcounts, normalized, List.length_map]

/-- Where the answers have no total, the first page counts as the whole collection. -/
theorem AnswersPages.openFirst (hanswers : AnswersPages shape collection answer)
    (hcounts : ¬ shape.countsAll = true) :
    openListPage answer 1 = .ok (pageOf 100 (normalized collection.objects) 1,
      ((pageOf 100 (normalized collection.objects) 1).length : Int)) := by
  rw [hanswers.openPage (Nat.le_refl 1), ResponseShape.totalOf, if_neg hcounts, normalized,
    pageOf_map, List.length_map]

/-- The first page is the whole collection exactly when there are no more than a hundred objects. -/
theorem pageOf_one_perm_iff {α : Type} (items : List α) :
    (pageOf 100 items 1).Perm items ↔ items.length ≤ 100 := by
  have hfirst : pageOf 100 items 1 = items.take 100 := by simp [pageOf]
  rw [hfirst]
  constructor
  · intro hperm
    have hlength := hperm.length_eq
    rw [List.length_take] at hlength
    omega
  · intro hfew
    rw [List.take_of_length_le hfew]

/-- An answer ERS does not have gives an ERS repository nothing, or makes it fail. -/
theorem AnswersPages.ersOther (hanswers : AnswersPages shape collection answer)
    (hshape : shape ≠ .searchResult) (unknown : Nat → Nat) :
    searchResult unknown (answer 1) = .ok ([], (unknown 0 : Int)) ∨
      collection.objects ≠ [] ∧ searchResult unknown (answer 1) = .error .attributeError := by
  obtain hnothing | ⟨hpage, hfails⟩ :=
    searchResult_other unknown hshape (hanswers 1 (Nat.le_refl 1))
  · exact Or.inl hnothing
  · refine Or.inr ⟨fun hnil => hpage ?_, hfails⟩
    simp [pageOf, hnil]

/-- No result at all is complete for the empty collection only. -/
theorem nil_perm_iff {α : Type} {f : JsonObject → α} :
    ([] : List α).Perm (collection.objects.map f) ↔ collection.objects = [] := by
  rw [List.nil_perm, List.map_eq_nil_iff]

variable {detail : String → JsonObject}

theorem ersEndpoints_complete_iff (hanswers : AnswersPages shape collection answer) :
    Listing.ersEndpoints.Complete answer detail collection ↔
      Listing.ersEndpoints.Covered shape collection := by
  unfold Listing.Complete Listing.Covered
  by_cases hshape : shape = .searchResult
  · subst hshape
    exact iff_of_true ⟨_, listAll_eq hanswers.ers, List.Perm.refl _⟩ (Or.inl rfl)
  · rw [or_iff_right hshape]
    obtain hnothing | ⟨hobjects, hfails⟩ := hanswers.ersOther hshape fun length => length
    · have hlist : listAll (ersListPage answer) = .ok [] := listAll_first hnothing
      simp only [hlist, Except.ok.injEq, exists_eq_left', nil_perm_iff]
    · have hlist : listAll (ersListPage answer) = .error .attributeError := by
        simp only [listAll, ersListPage, hfails]
        rfl
      refine iff_of_false ?_ hobjects
      rintro ⟨resources, hresources, -⟩
      cases hlist.symm.trans hresources

theorem ersGroups_complete_iff (hdetail : NamesGroup detail)
    (hanswers : AnswersPages shape collection answer) :
    Listing.ersGroups.Complete answer detail collection ↔
      Listing.ersGroups.Covered shape collection := by
  unfold Listing.Complete Listing.Covered
  by_cases hshape : shape = .searchResult
  · subst hshape
    have hlisted : groupSummaries answer = .ok (collection.objects.map .obj) :=
      groupSummaries_eq hanswers.ers
    obtain ⟨groups, hgroups, hids⟩ := ersGroupsListAll_ids hdetail
      (fun object hobject => by
        obtain ⟨id, -, hid⟩ := collection.hasId object hobject
        exact ⟨id, hid⟩) hlisted
    exact iff_of_true ⟨groups, hgroups, List.Perm.of_eq hids⟩ (Or.inl rfl)
  · rw [or_iff_right hshape]
    obtain hnothing | ⟨hobjects, hfails⟩ := hanswers.ersOther hshape fun _ => 0
    · have hlist : ersGroupsListAll answer detail = .ok [] := by
        simp only [ersGroupsListAll, groupSummaries, listGroupsPage, hnothing]
        rfl
      simp only [hlist, Except.ok.injEq, exists_eq_left', List.map_nil, Collection.ids,
        nil_perm_iff]
    · have hlist : ersGroupsListAll answer detail = .error .attributeError := by
        simp only [ersGroupsListAll, groupSummaries, listGroupsPage, hfails]
        rfl
      refine iff_of_false ?_ hobjects
      rintro ⟨groups, hgroups, -⟩
      cases hlist.symm.trans hgroups

theorem ersScan_complete_iff (hanswers : AnswersPages shape collection answer) :
    Listing.ersScan.Complete answer detail collection ↔
      Listing.ersScan.Covered shape collection := by
  unfold Listing.Complete Listing.Covered
  by_cases hshape : shape = .searchResult
  · subst hshape
    have hids : (collection.objects.map Json.obj).map Json.idText = collection.ids := by
      rw [List.map_map]
      rfl
    obtain ⟨fuel, hscan⟩ := fetchAllIds_pageCall collection.ids
      (Collection.idText_ne_empty hids) hanswers.ers
    exact iff_of_true ⟨fuel, _, hscan, List.Perm.of_eq hids⟩ (Or.inl rfl)
  · rw [or_iff_right hshape]
    -- the first page has no ids, and no other page is asked for
    have hfirst : StopsAt (pageCall (ersListPage answer) collection.ids) 1 ∧
        idsOn (pageCall (ersListPage answer) collection.ids 1) = [] := by
      obtain hnothing | ⟨-, hfails⟩ := hanswers.ersOther hshape fun length => length
      · simp [StopsAt, idsOn, pageCall, ersListPage, hnothing]
      · simp [StopsAt, idsOn, pageCall, ersListPage, hfails]
    constructor
    · rintro ⟨fuel, ids, hscan, hperm⟩
      rw [fetchAllIds_first hfirst.1 hscan, hfirst.2] at hperm
      exact nil_perm_iff.mp hperm
    · intro hnil
      have hscan := (fetchAllIds_step (pageCall (ersListPage answer) collection.ids) 0 0).1 hfirst.1
      have hread : idsRead (pageCall (ersListPage answer) collection.ids) 1 = [] := by
        rw [idsRead_succ, hfirst.2]
        rfl
      exact ⟨1, [], hscan.trans (congrArg some hread), nil_perm_iff.mpr hnil⟩

theorem length_normalized (objects : List JsonObject) :
    (normalized objects).length = objects.length := List.length_map _

theorem openEndpoints_complete_iff (hanswers : AnswersPages shape collection answer) :
    Listing.openEndpoints.Complete answer detail collection ↔
      Listing.openEndpoints.Covered shape collection := by
  unfold Listing.Complete Listing.Covered
  by_cases hcounts : shape.countsAll = true
  · exact iff_of_true ⟨_, listAll_eq (hanswers.openPages hcounts), List.Perm.refl _⟩
      (Or.inl hcounts)
  · rw [or_iff_right hcounts]
    simp only [listAll_first (hanswers.openFirst hcounts), Except.ok.injEq, exists_eq_left',
      pageOf_one_perm_iff, length_normalized]

theorem openGroups_complete_iff (hanswers : AnswersPages shape collection answer) :
    Listing.openGroups.Complete answer detail collection ↔
      Listing.openGroups.Covered shape collection := by
  unfold Listing.Complete Listing.Covered
  have hlist : openGroupsListAll answer = .ok (pageOf 100 (normalized collection.objects) 1) := by
    have hpage := hanswers.openPage (Nat.le_refl 1)
    rw [openListPage] at hpage
    simp only [openGroupsListAll, hpage]
    rfl
  simp only [hlist, Except.ok.injEq, exists_eq_left', pageOf_one_perm_iff, length_normalized]

theorem openScan_complete_iff (hanswers : AnswersPages shape collection answer) :
    Listing.openScan.Complete answer detail collection ↔
      Listing.openScan.Covered shape collection := by
  unfold Listing.Complete Listing.Covered
  have hids := collection.idText_normalized
  by_cases hcounts : shape.countsAll = true
  · obtain ⟨fuel, hscan⟩ := fetchAllIds_pageCall collection.ids
      (Collection.idText_ne_empty hids) (hanswers.openPages hcounts)
    exact iff_of_true ⟨fuel, _, hscan, List.Perm.of_eq hids⟩ (Or.inl hcounts)
  · rw [or_iff_right hcounts]
    have hfirst := hanswers.openFirst hcounts
    have hon := idsOn_pageCall collection.ids (Collection.idText_ne_empty hids) hfirst
    rw [hids] at hon
    have hlength : (pageOf 100 (normalized collection.objects) 1).length =
        (pageOf 100 collection.ids 1).length := by
      rw [← hids, pageOf_map, List.length_map]
    have hread : idsRead (pageCall (openListPage answer) collection.ids) 1 =
        pageOf 100 collection.ids 1 := by
      rw [idsRead_succ, hon]
      rfl
    have hstops : StopsAt (pageCall (openListPage answer) collection.ids) 1 := by
      have hresult : (pageCall (openListPage answer) collection.ids 1).result =
          some ((pageOf 100 (normalized collection.objects) 1).map Json.idText,
            ((pageOf 100 (normalized collection.objects) 1).length : Int)) := by
        simp only [pageCall, hfirst]
      simp only [StopsAt, hresult, hread, hlength]
      exact Or.inl (le_refl _)
    have hcount : collection.ids.length = collection.objects.length := List.length_map _
    rw [← hcount, ← pageOf_one_perm_iff]
    constructor
    · rintro ⟨fuel, ids, hscan, hperm⟩
      rwa [fetchAllIds_first hstops hscan, hon] at hperm
    · intro hperm
      have hscan := (fetchAllIds_step (pageCall (openListPage answer) collection.ids) 0 0).1 hstops
      exact ⟨1, _, hscan.trans (congrArg some hread), hperm⟩

/-- A listing is complete exactly when it is covered: ERS answers with its one shape, and the Open
API says how many objects there are or has no more than a hundred, the only case in which the list
of its groups is complete. -/
theorem listing_complete_iff (collection : Collection) (shape : ResponseShape) (answer : Nat → Json)
    (hanswers : AnswersPages shape collection answer) (detail : String → JsonObject)
    (hdetail : NamesGroup detail) (listing : Listing) :
    listing.Complete answer detail collection ↔ listing.Covered shape collection := by
  cases listing with
  | ersEndpoints => exact ersEndpoints_complete_iff hanswers
  | openEndpoints => exact openEndpoints_complete_iff hanswers
  | ersGroups => exact ersGroups_complete_iff hdetail hanswers
  | openGroups => exact openGroups_complete_iff hanswers
  | ersScan => exact ersScan_complete_iff hanswers
  | openScan => exact openScan_complete_iff hanswers

end Completeness

/-! ## Flat lists -/

/-- So many endpoints, numbered. -/
def numberedEndpoints (count : Nat) : Collection where
  objects := (List.range count).map fun number => [("id", .str ("ep-" ++ toString number))]
  hasId := by
    intro object hobject
    obtain ⟨number, -, rfl⟩ := List.mem_map.mp hobject
    refine ⟨"ep-" ++ toString number, fun hempty => ?_, rfl⟩
    have hlength := congrArg String.length hempty
    simp at hlength

/-- Pages that are flat lists. -/
def flatPages (collection : Collection) (page : Nat) : Json :=
  .arr ((pageOf 100 collection.objects page).map .obj)

theorem answersPages_flatPages (collection : Collection) :
    AnswersPages .flat collection (flatPages collection) :=
  fun _ _ => .flat _ _

/-- Three endpoints fit on the first page. -/
theorem listing_complete_three :
    Listing.openEndpoints.Complete (flatPages (numberedEndpoints 3)) (fun _ => [])
      (numberedEndpoints 3) :=
  (listing_complete_iff (numberedEndpoints 3) .flat _ (answersPages_flatPages _)
    (fun _ => []) (fun _ _ hmem => nomatch hmem) .openEndpoints).mpr (Or.inr (by decide))

/-- Of a hundred and one endpoints in flat lists the last one is not listed. -/
theorem flat_listing_incomplete :
    ¬ ∀ (collection : Collection) (shape : ResponseShape) (answer : Nat → Json),
      AnswersPages shape collection answer →
        ∀ detail, NamesGroup detail → ∀ listing : Listing,
          listing.Complete answer detail collection := by
  intro hall
  have hcomplete := hall (numberedEndpoints 101) .flat _ (answersPages_flatPages _) (fun _ => [])
    (fun _ _ hmem => nomatch hmem) .openEndpoints
  obtain hcounts | hfew := (openEndpoints_complete_iff (answersPages_flatPages _)).mp hcomplete
  · cases hcounts
  · simp [numberedEndpoints] at hfew

end IsePortal
