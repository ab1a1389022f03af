import IsePortal.Ise.Server
import IsePortal.Library.Paging

/-!
# The quarantine status

`get_endpoint_status` of `app/ise/anc.py` and `anc_status` of `app/services/endpoint_service.py`.
ISE does not filter its ANC assignments by MAC, so the assignments are read page by page until one
is found for the MAC. Every way out of the loop answers `None`, which means "not in quarantine": a
request that fails, an answer without a body, and a total that is missing or too small end it before
the list is read.
-/

namespace IsePortal.Anc

open Library

/-- An ANC assignment of ISE: its id, the MAC as the listing spells it, and the policy its detail
names. -/
structure Assignment where
  id : String
  name : String
  policyName : Option String

/-- What becomes of the request for a page of the listing. -/
inductive PageAnswer where
  /-- `IseApiError` -/
  | failed
  /-- An answer without a body. -/
  | empty
  /-- The assignments of the page, with the total where ISE has one. -/
  | listed (total : Option Int)

/-- What becomes of the request for the detail of an assignment. -/
inductive DetailAnswer where
  | failed
  | empty
  | answered

/-- ISE: its assignments, in the order of the listing, and what becomes of the requests. -/
structure AncServer where
  assignments : List Assignment
  pages : Nat → PageAnswer
  details : String → DetailAnswer

variable [PyText]

/-- `_normalize_mac(r.get("name", "")) == mac_n` -/
def Assignment.isFor (macN : String) (assignment : Assignment) : Bool :=
  IseServer.normalizeMac assignment.name = macN

omit [PyText] in
/-- The policy of an assignment that was found. -/
def AncServer.policyOf (server : AncServer) (assignment : Assignment) : Option String :=
  if assignment.id = "" then none
  else
    match server.details assignment.id with
    | .failed => none
    | .empty => none
    | .answered =>
        (server.assignments.find? (·.id = assignment.id)).bind Assignment.policyName

/-- The loop, with so many pages read: the policy, and how many pages were read at the end. -/
def statusFrom (server : AncServer) (macN : String) (read : Nat) : Option String × Nat :=
  match server.pages (read + 1) with
  | .failed => (none, read)
  | .empty => (none, read)
  | .listed total =>
      match (pageOf 100 server.assignments (read + 1)).find? (Assignment.isFor macN) with
      | some assignment => (server.policyOf assignment, read + 1)
      | none =>
          if pageOf 100 server.assignments (read + 1) = [] ∨
              total.getD 0 ≤ ((read + 1 : Nat) : Int) * 100 then (none, read + 1)
          else statusFrom server macN (read + 1)
  termination_by server.assignments.length - read * 100
  decreasing_by
    rename_i hmore
    have hpage : pageOf 100 server.assignments (read + 1) ≠ [] := fun h => hmore (.inl h)
    rw [pageOf, ← List.length_pos_iff, List.length_take, List.length_drop] at hpage
    omega

/-- `get_endpoint_status`, with the number of pages it has read. -/
def getEndpointStatus (server : AncServer) (mac : String) : Option String × Nat :=
  statusFrom server (IseServer.normalizeMac mac) 0

/-- `anc_status` of an endpoint that ISE has, with the number of pages that were read. -/
def ancStatus (server : AncServer) (raw : RawEndpoint) : (String × Option String) × Nat :=
  let mac := orElse raw.mac raw.name
  if mac = "" then (("", none), 0)
  else ((mac, (getEndpointStatus server mac).1), (getEndpointStatus server mac).2)

/-- As many pages were read as the list has. -/
def Complete (server : AncServer) (read : Nat) : Prop :=
  0 < read ∧ server.assignments.length ≤ read * 100

/-- No assignment of the MAC has a policy. -/
def Free (server : AncServer) (macN : String) : Prop :=
  ∀ assignment ∈ server.assignments, assignment.isFor macN = true → assignment.policyName = none

/-- The endpoint is reported to be free only where it is known to be. -/
def NeverDenied (server : AncServer) (raw : RawEndpoint) : Prop :=
  (ancStatus server raw).1.2 = none →
    Complete server (ancStatus server raw).2 ∧
      Free server (IseServer.normalizeMac (orElse raw.mac raw.name))

/-- The page has to be read: it is the first one, or the pages before it end neither the list nor
the search. -/
def Needed (server : AncServer) (macN : String) (page : Nat) : Prop :=
  page = 1 ∨ 1 < page ∧ (page - 1) * 100 < server.assignments.length ∧
    ∀ assignment ∈ server.assignments.take ((page - 1) * 100), assignment.isFor macN = false

/-- The page is answered, and where more are needed its total says so. -/
def PageGood (server : AncServer) (macN : String) (page : Nat) : Prop :=
  ∃ total, server.pages page = .listed total ∧
    (Needed server macN (page + 1) → (page : Int) * 100 < total.getD 0)

/-- The first assignment for the MAC leads to its policy, or there is none to be found and the page
that has the assignment is the last one of the list. -/
def FoundGood (server : AncServer) (macN : String) : Prop :=
  ∀ assignment, server.assignments.find? (Assignment.isFor macN) = some assignment →
    server.policyOf assignment ≠ none ∨
      Free server macN ∧ ∀ page, Needed server macN page → ¬ Needed server macN (page + 1) →
        server.assignments.length ≤ page * 100

/-! ## The loop -/

variable {server : AncServer} {macN : String} {read page : Nat}

/-- No assignment of the pages read so far is for the MAC. -/
def NoneBefore (server : AncServer) (macN : String) (read : Nat) : Prop :=
  ∀ assignment ∈ server.assignments.take (read * 100), assignment.isFor macN = false

theorem NoneBefore.mono (h : NoneBefore server macN page) (hle : read ≤ page) :
    NoneBefore server macN read := fun assignment hmem =>
  h assignment ((List.take_sublist_take_left (Nat.mul_le_mul_right 100 hle)).subset hmem)

theorem needed_succ_iff (hread : 0 < read) : Needed server macN (read + 1) ↔
    read * 100 < server.assignments.length ∧ NoneBefore server macN read := by
  have hfirst : read + 1 ≠ 1 := by omega
  have hmore : 1 < read + 1 := by omega
  simp only [Needed, hfirst, false_or, hmore, true_and, Nat.add_sub_cancel, NoneBefore]

omit [PyText] in
/-- The pages read and the next one. -/
theorem take_next (server : AncServer) (read : Nat) :
    server.assignments.take (read * 100) ++ pageOf 100 server.assignments (read + 1) =
      server.assignments.take ((read + 1) * 100) :=
  take_append_pageOf (Nat.le_add_left 1 read)

theorem noneBefore_succ (h : NoneBefore server macN read)
    (hpage : (pageOf 100 server.assignments (read + 1)).find? (Assignment.isFor macN) = none) :
    NoneBefore server macN (read + 1) := by
  intro assignment hmem
  rw [← take_next, List.mem_append] at hmem
  rcases hmem with hbefore | hhere
  · exact h assignment hbefore
  · simpa using List.find?_eq_none.mp hpage assignment hhere

/-- What is found on a page is the first of the list. -/
theorem find?_of_page (h : NoneBefore server macN read) {assignment : Assignment}
    (hpage : (pageOf 100 server.assignments (read + 1)).find? (Assignment.isFor macN) =
      some assignment) :
    server.assignments.find? (Assignment.isFor macN) = some assignment := by
  have hnone : (server.assignments.take (read * 100)).find? (Assignment.isFor macN) = none :=
    List.find?_eq_none.mpr fun other hother => by simp [h other hother]
  rw [← List.take_append_drop ((read + 1) * 100) server.assignments, ← take_next,
    List.find?_append, List.find?_append, hnone, hpage]
  rfl

theorem free_of_noneBefore (h : NoneBefore server macN read)
    (hall : server.assignments.length ≤ read * 100) : Free server macN := by
  intro assignment hmem hfor
  rw [← List.take_of_length_le hall] at hmem
  rw [h assignment hmem] at hfor
  cases hfor

/-- Past the end of the list nothing more is found. -/
theorem statusFrom_past (hall : server.assignments.length ≤ read * 100) :
    (statusFrom server macN read).1 = none ∧ read ≤ (statusFrom server macN read).2 := by
  have hpage : pageOf 100 server.assignments (read + 1) = [] := by
    rw [pageOf, List.drop_of_length_le (by omega), List.take_nil]
  rw [statusFrom]
  cases server.pages (read + 1) with
  | failed => exact ⟨rfl, le_rfl⟩
  | empty => exact ⟨rfl, le_rfl⟩
  | listed total => simp [hpage]

/-- A page that has to be read comes after none that ends the list or has the MAC. -/
theorem Needed.before (h : Needed server macN page) (hread : 0 < read) (hlt : read < page) :
    read * 100 < server.assignments.length ∧ NoneBefore server macN read := by
  rcases h with rfl | ⟨-, hlength, hnone⟩
  · omega
  · have hle : read ≤ page - 1 := by omega
    exact ⟨(Nat.mul_le_mul_right 100 hle).trans_lt hlength, NoneBefore.mono hnone hle⟩

theorem Needed.pos (h : Needed server macN page) : 0 < page := by
  rcases h with rfl | ⟨hlt, -⟩ <;> omega

/-- The pages before a page that has to be read have to be read. -/
theorem Needed.down (h : Needed server macN page) (hread : read < page) :
    Needed server macN (read + 1) := by
  by_cases hfirst : read = 0
  · exact .inl (by omega)
  · exact (needed_succ_iff (by omega)).mpr (h.before (by omega) hread)

theorem not_complete (h : Needed server macN (read + 1)) : ¬ Complete server read := by
  rintro ⟨hread, hlength⟩
  exact absurd ((needed_succ_iff hread).mp h).1 (not_lt.mpr hlength)

/-- A page that is the last one to be read is good once it is answered. -/
theorem pagesGood_of_last {total : Option Int} (hanswer : server.pages (read + 1) = .listed total)
    (hlast : ¬ Needed server macN (read + 1 + 1)) :
    ∀ page, read < page → Needed server macN page → PageGood server macN page := by
  intro page hpage hneeded
  obtain rfl | hlt : page = read + 1 ∨ read + 1 < page := by omega
  · exact ⟨total, hanswer, fun h => absurd h hlast⟩
  · exact absurd (hneeded.down hlt) hlast

/-- The page with the MAC ends the reading. -/
theorem found_iff {assignment : Assignment} (hneeded : Needed server macN (read + 1))
    (hfind : server.assignments.find? (Assignment.isFor macN) = some assignment)
    (hlast : ¬ Needed server macN (read + 1 + 1)) :
    (server.policyOf assignment = none → Complete server (read + 1) ∧ Free server macN) ↔
      FoundGood server macN := by
  have hpages : (∀ page, Needed server macN page → ¬ Needed server macN (page + 1) →
      server.assignments.length ≤ page * 100) ↔ Complete server (read + 1) := by
    constructor
    · exact fun h => ⟨Nat.succ_pos read, h (read + 1) hneeded hlast⟩
    · rintro ⟨-, hlength⟩ page hpage hend
      have hle : ¬ page < read + 1 := fun hlt => hend (hneeded.down hlt)
      exact hlength.trans (Nat.mul_le_mul_right 100 (not_lt.mp hle))
  simp only [FoundGood, hfind, Option.some.injEq, forall_eq', hpages]
  tauto

theorem find?_eq_none_of_free (h : NoneBefore server macN read)
    (hall : server.assignments.length ≤ read * 100) :
    server.assignments.find? (Assignment.isFor macN) = none := by
  refine List.find?_eq_none.mpr fun assignment hmem => ?_
  rw [← List.take_of_length_le hall] at hmem
  simp [h assignment hmem]

/-- A reading that has come to the end of the list reports rightly. -/
theorem past_iff (h : NoneBefore server macN (read + 1))
    (hall : server.assignments.length ≤ (read + 1) * 100) {total : Option Int}
    (hanswer : server.pages (read + 1) = .listed total) {result : Option String × Nat}
    (hresult : read + 1 ≤ result.2) :
    (result.1 = none → Complete server result.2 ∧ Free server macN) ↔
      (∀ page, read < page → Needed server macN page → PageGood server macN page) ∧
        FoundGood server macN := by
  have hlast : ¬ Needed server macN (read + 1 + 1) := fun hneeded =>
    absurd ((needed_succ_iff (Nat.succ_pos read)).mp hneeded).1 (not_lt.mpr hall)
  refine iff_of_true (fun _ => ⟨⟨by omega, ?_⟩, free_of_noneBefore h hall⟩)
    ⟨pagesGood_of_last hanswer hlast, fun assignment hfind => ?_⟩
  · exact hall.trans (Nat.mul_le_mul_right 100 hresult)
  · rw [find?_eq_none_of_free h hall] at hfind
    cases hfind

/-- What the loop reports from a page that has to be read. -/
theorem statusFrom_iff (server : AncServer) (macN : String) (read : Nat)
    (hneeded : Needed server macN (read + 1)) (hnone : NoneBefore server macN read) :
    ((statusFrom server macN read).1 = none →
        Complete server (statusFrom server macN read).2 ∧ Free server macN) ↔
      (∀ page, read < page → Needed server macN page → PageGood server macN page) ∧
        FoundGood server macN := by
  have hbad : (∀ total, server.pages (read + 1) ≠ .listed total) → ¬ ∀ page, read < page →
      Needed server macN page → PageGood server macN page := by
    intro hno hgood
    obtain ⟨total, hanswer, -⟩ := hgood (read + 1) (Nat.lt_succ_self read) hneeded
    exact hno total hanswer
  rw [statusFrom]
  cases hanswer : server.pages (read + 1) with
  | failed =>
      refine iff_of_false (fun h => not_complete hneeded (h rfl).1) fun h => ?_
      exact hbad (by simp [hanswer]) h.1
  | empty =>
      refine iff_of_false (fun h => not_complete hneeded (h rfl).1) fun h => ?_
      exact hbad (by simp [hanswer]) h.1
  | listed total =>
      cases hpage : (pageOf 100 server.assignments (read + 1)).find? (Assignment.isFor macN) with
      | some assignment =>
          -- the MAC is on this page, so no later page has to be read
          have hlast : ¬ Needed server macN (read + 1 + 1) := by
            intro h
            have hbefore := ((needed_succ_iff (Nat.succ_pos read)).mp h).2
            have hmem := List.mem_of_find?_eq_some hpage
            have hfor := List.find?_some hpage
            rw [hbefore assignment (take_next server read ▸ List.mem_append_right _ hmem)] at hfor
            cases hfor
          have hfind := find?_of_page hnone hpage
          rw [and_iff_right (pagesGood_of_last hanswer hlast)]
          exact found_iff hneeded hfind hlast
      | none =>
          have hbefore := noneBefore_succ hnone hpage
          by_cases hall : server.assignments.length ≤ (read + 1) * 100
          · refine past_iff hbefore hall hanswer ?_
            dsimp only
            split
            · exact le_rfl
            · exact (statusFrom_past hall).2
          · have hmore : Needed server macN (read + 1 + 1) :=
              (needed_succ_iff (Nat.succ_pos read)).mpr ⟨not_le.mp hall, hbefore⟩
            have hitems : pageOf 100 server.assignments (read + 1) ≠ [] := by
              rw [pageOf, ← List.length_pos_iff, List.length_take, List.length_drop]
              omega
            have hgood : (∀ page, read < page → Needed server macN page →
                PageGood server macN page) ↔
                  ((read + 1 : Nat) : Int) * 100 < total.getD 0 ∧
                    ∀ page, read + 1 < page → Needed server macN page →
                      PageGood server macN page := by
              constructor
              · intro h
                obtain ⟨other, hother, htotal⟩ := h (read + 1) (Nat.lt_succ_self read) hneeded
                rw [hanswer] at hother
                cases hother
                exact ⟨htotal hmore, fun page hpage => h page (by omega)⟩
              · rintro ⟨htotal, hrest⟩ page hpage hpageNeeded
                obtain rfl | hlt : page = read + 1 ∨ read + 1 < page := by omega
                · exact ⟨total, hanswer, fun _ => htotal⟩
                · exact hrest page hlt hpageNeeded
            rw [hgood]
            dsimp only
            split
            · rename_i hend
              have htotal := hend.resolve_left hitems
              exact iff_of_false (fun h => hall (h rfl).1.2) fun h => by omega
            · rename_i hon
              have htotal : ((read + 1 : Nat) : Int) * 100 < total.getD 0 := by
                by_contra hno
                exact hon (.inr (not_lt.mp hno))
              rw [and_iff_right htotal]
              exact statusFrom_iff server macN (read + 1) hmore hbefore
  termination_by server.assignments.length - read * 100

/-- An endpoint is never reported free by mistake exactly where it has a MAC, every page up to the
one with the MAC or the end of the list is answered, with a total above what was read where more is
to come, and the assignment that is found leads to its policy. -/
theorem never_denied_iff (server : AncServer) (raw : RawEndpoint) :
    NeverDenied server raw ↔
      orElse raw.mac raw.name ≠ "" ∧
      (∀ page, Needed server (IseServer.normalizeMac (orElse raw.mac raw.name)) page →
        PageGood server (IseServer.normalizeMac (orElse raw.mac raw.name)) page) ∧
      FoundGood server (IseServer.normalizeMac (orElse raw.mac raw.name)) := by
  rw [NeverDenied, ancStatus]
  by_cases hmac : orElse raw.mac raw.name = ""
  · simp only [hmac, if_true]
    refine iff_of_false (fun h => ?_) (fun h => h.1 rfl)
    exact absurd (h trivial).1.1 (lt_irrefl 0)
  · have hstart : NoneBefore server (IseServer.normalizeMac (orElse raw.mac raw.name)) 0 := by
      intro assignment hmem
      simp at hmem
    have hloop := statusFrom_iff server _ 0 (.inl rfl) hstart
    simp only [hmac, if_false, ne_eq, not_false_eq_true, true_and, getEndpointStatus]
    rw [hloop]
    refine and_congr_left fun _ => ⟨fun h page hneeded => h page hneeded.pos hneeded, ?_⟩
    exact fun h page _ hneeded => h page hneeded

omit [PyText] in
/-- An ISE that has the MAC in quarantine and answers no request for its list. -/
def silentServer : AncServer where
  assignments := [⟨"a1", "AA:BB:CC:DD:EE:FF", some "Quarantine"⟩]
  pages _ := .failed
  details _ := .answered

omit [PyText] in
/-- Its endpoint is reported to be free. -/
theorem quarantine_denied :
    ¬ ∀ (server : AncServer) (raw : RawEndpoint), @NeverDenied asciiText server raw := by
  intro h
  let _ := asciiText
  have hreport := h silentServer { mac := "AA:BB:CC:DD:EE:FF" }
  have hmac : orElse "AA:BB:CC:DD:EE:FF" "" ≠ "" := by decide
  have hloop : ∀ macN, statusFrom silentServer macN 0 = (none, 0) := by
    intro macN
    rw [statusFrom]
    rfl
  simp only [NeverDenied, ancStatus, hmac, if_false, getEndpointStatus, hloop] at hreport
  exact absurd (hreport trivial).1.1 (lt_irrefl 0)

end IsePortal.Anc
