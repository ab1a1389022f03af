import IsePortal.Library.Runs
import IsePortal.Service.EndpointReads
import IsePortal.Service.UpdateFrame

/-!
# PSK keys across writes

`create_endpoint` and `update_endpoint` check and encode the PSK attributes of one request, and
`bulk_apply_template` sends those of a template as they are. ISE merges what is sent, so the mode
and the key of an endpoint may come from different writes. `psk_kept_iff` says which writes keep
the merged key within the policy and readable as it was typed.
-/

namespace IsePortal

open Library

/-- The attributes of an endpoint in ISE. The policy in force at the last write of its key or mode,
and the key as it was last typed, only serve the statements. -/
structure PskRecord where
  attrs : Attrs := Dict.empty
  policy : Option PskPolicy := none
  typed : Option String := none

/-- The endpoints of ISE. -/
abbrev PskPortal := Dict EndpointId PskRecord

/-- The writes; the settings are those in force at the write. `ok` says whether ISE takes it. -/
inductive PskOp where
  /-- `create_endpoint` -/
  | create (psk : PskSettings) (attrs : Option CustomAttrs) (autoTag : Option String)
      (stamp : String) (newId : EndpointId) (ok : Bool)
  /-- `update_endpoint` with the snapshot it takes before. -/
  | update (psk : PskSettings) (endpointId : EndpointId) (attrs : Option CustomAttrs)
      (autoTag : Option String) (before : Option EndpointDetail) (stamp : String) (ok : Bool)
  /-- The write of `bulk_apply_template` for one of its endpoints. -/
  | applyTemplate (psk : PskSettings) (endpointId : EndpointId) (templateAttrs : Attrs) (ok : Bool)

section Writes

variable [PyText]

omit [PyText] in
/-- The write brings a key or a mode. -/
def writesPsk (sent : Attrs) : Bool :=
  (sent.get? pskKeyAttr).isSome || (sent.get? pskModeAttr).isSome

omit [PyText] in
/-- The record after a write, with the PSK attributes as they were typed. -/
def PskRecord.wrote (record : PskRecord) (psk : PskSettings) (sent attrs : Attrs) : PskRecord where
  attrs := attrs
  policy := if writesPsk sent then some psk.policy else record.policy
  typed := (sent.get? pskKeyAttr).or record.typed

namespace PskPortal

/-- One write; `none` is one that ISE cannot take. -/
def step (portal : PskPortal) : PskOp → Option PskPortal
  | .create psk attrs autoTag stamp newId ok =>
      match createAttrs psk attrs autoTag stamp with
      | .error _ => some portal
      | .ok ca =>
          if ok then
            match portal.get? newId with
            | some _ => none
            -- the repository leaves empty values out of the new endpoint
            | none => some (portal.set newId
                (({} : PskRecord).wrote psk (requestAttrs attrs) (ca.filterValues (· ≠ ""))))
          else some portal
  | .update psk endpointId attrs autoTag before stamp ok =>
      match updateAttrs psk attrs autoTag before stamp with
      | .error _ => some portal
      | .ok ca =>
          if ok then
            (portal.get? endpointId).map fun record =>
              portal.set endpointId
                (record.wrote psk (requestAttrs attrs) (record.attrs.merge ca))
          else some portal
  | .applyTemplate psk endpointId templateAttrs ok =>
      if ok then
        (portal.get? endpointId).map fun record =>
          portal.set endpointId
            (record.wrote psk templateAttrs
              (record.attrs.merge (templateAttrs.set hiddenAttr "true")))
      else some portal

end PskPortal

/-! ## The property -/

/-- `psk_key` of `get_endpoint` for a PSK editor. -/
def readPskKey (lookups : Lookups) (endpointId : EndpointId) (stored : Attrs) : String :=
  (maskFor true (fetchEndpointDetail lookups endpointId { customAttributes := stored })).pskKey

/-- The mode and the stored key go together under the policy. -/
def PskMeets (policy : PskPolicy) (mode raw : String) : Prop :=
  PyText.lower mode = "true" → raw ≠ "" → validatePskKey (pskDecode raw) policy = []

/-- The key meets the policy of its last write while the mode is on, and is shown as it was
typed. -/
structure PskHolds (endpointId : EndpointId) (record : PskRecord) : Prop where
  valid : ∀ policy, record.policy = some policy →
    PskMeets policy (record.attrs.attr pskModeAttr) (record.attrs.attr pskKeyAttr)
  readable : ∀ key, record.typed = some key →
    ∀ lookups, readPskKey lookups endpointId record.attrs = key

/-- It holds of every endpoint. -/
def PskKept (portal : PskPortal) : Prop :=
  ∀ endpointId record, portal.get? endpointId = some record → PskHolds endpointId record

/-! ## Its condition -/

/-- What a write has to keep to: a key does not begin with `psk=`, a key that comes without a mode
meets the policy in force where the stored mode is on, and so does the stored key where a mode
comes without one. What comes together is checked by the request itself, and nowhere for a
template. `encode` is what becomes of a key on its way to ISE. -/
structure WritesWell (psk : PskSettings) (stored sent : Attrs) (encode : String → String)
    (checked : Bool) : Prop where
  unprefixed : ∀ key, sent.get? pskKeyAttr = some key → hasPskPrefix key = false
  keyAlone : ∀ key, sent.get? pskKeyAttr = some key → sent.get? pskModeAttr = none →
    PskMeets psk.policy (stored.attr pskModeAttr) (encode key)
  modeAlone : ∀ mode, sent.get? pskModeAttr = some mode → sent.get? pskKeyAttr = none →
    PskMeets psk.policy mode (stored.attr pskKeyAttr)
  both : checked = false → ∀ key mode, sent.get? pskKeyAttr = some key →
    sent.get? pskModeAttr = some mode → PskMeets psk.policy mode (encode key)

/-- The writes that keep the property, by the request and the attributes ISE has before. -/
def GoodWrite (portal : PskPortal) : PskOp → Prop
  | .create psk attrs autoTag stamp _ ok =>
      ok = true → ∀ ca, createAttrs psk attrs autoTag stamp = .ok ca →
        WritesWell psk Dict.empty (requestAttrs attrs) (pskEncode psk) true
  | .update psk endpointId attrs autoTag before stamp ok =>
      ok = true → ∀ ca, updateAttrs psk attrs autoTag before stamp = .ok ca →
        ∀ record, portal.get? endpointId = some record →
          WritesWell psk record.attrs (requestAttrs attrs) (pskEncode psk) true
  | .applyTemplate psk endpointId templateAttrs ok =>
      ok = true → ∀ record, portal.get? endpointId = some record →
        WritesWell psk record.attrs templateAttrs id false

/-! ## The prefix -/

section Prefix

variable {psk : PskSettings} {key : String}

theorem read_psk_key (lookups : Lookups) (endpointId : EndpointId) (stored : Attrs) :
    readPskKey lookups endpointId stored = pskDecode (stored.attr pskKeyAttr) := rfl

omit [PyText] in
/-- Only a key without the prefix is read as it is stored. -/
theorem decode_eq_self_iff : pskDecode key = key ↔ hasPskPrefix key = false := by
  cases hbare : hasPskPrefix key with
  | false => simp [pskDecode, hbare]
  | true =>
      have hlength : pskIpskPrefix.toList.length ≤ key.toList.length :=
        (List.isPrefixOf_iff_prefix.mp hbare).length_le
      simp only [pskDecode, hbare, ↓reduceIte, Bool.true_eq_false, iff_false]
      intro hsame
      have hshort := congrArg (List.length ∘ String.toList) hsame
      simp only [Function.comp_apply, String.toList_ofList, List.length_drop] at hshort
      have hfour : pskIpskPrefix.length = 4 := rfl
      have hfive : pskIpskPrefix.toList.length = 4 := rfl
      omega

omit [PyText] in
theorem decode_prefixed (key : String) : pskDecode (pskIpskPrefix ++ key) = key := by
  have hbare : hasPskPrefix (pskIpskPrefix ++ key) = true := by
    rw [hasPskPrefix, List.isPrefixOf_iff_prefix, String.toList_append]
    exact List.prefix_append _ _
  rw [pskDecode, if_pos hbare, String.toList_append]
  have hlength : pskIpskPrefix.length = pskIpskPrefix.toList.length := rfl
  rw [hlength, List.drop_left, String.ofList_toList]

/-- In either mode exactly the keys without the prefix are read as they were typed. -/
theorem decode_encode_iff : pskDecode (pskEncode psk key) = key ↔ hasPskPrefix key = false := by
  unfold pskEncode
  split
  · exact decode_eq_self_iff
  · split
    · exact decode_eq_self_iff
    · split
      · exact decode_eq_self_iff
      · rename_i hbare
        exact iff_of_true (decode_prefixed key) (by simpa using hbare)

end Prefix

/-! ## One write -/

section OneWrite

variable {psk : PskSettings} {endpointId : EndpointId} {record : PskRecord}
  {stored sent attrs : Attrs} {encode : String → String} {checked : Bool}

/-- A write stores the mode as it is and the key encoded; what it does not bring stays. -/
structure Stores (stored sent attrs : Attrs) (encode : String → String) : Prop where
  mode : attrs.attr pskModeAttr = (sent.get? pskModeAttr).getD (stored.attr pskModeAttr)
  key : attrs.attr pskKeyAttr = ((sent.get? pskKeyAttr).map encode).getD (stored.attr pskKeyAttr)

/-- A write without a key keeps the property by the mode it brings. -/
theorem holds_wrote_without_key (h : PskHolds endpointId record)
    (hstores : Stores record.attrs sent attrs encode) (hsentKey : sent.get? pskKeyAttr = none) :
    PskHolds endpointId (record.wrote psk sent attrs) ↔
      WritesWell psk record.attrs sent encode checked := by
  have hmode := hstores.mode
  have hkey := hstores.key
  have htyped : (record.wrote psk sent attrs).typed = record.typed := by
    rw [PskRecord.wrote, hsentKey, Option.none_or]
  rw [hsentKey] at hkey
  have hreadable : ∀ key, (record.wrote psk sent attrs).typed = some key → ∀ lookups,
      readPskKey lookups endpointId attrs = key := by
    intro key hsame lookups
    rw [read_psk_key, show attrs.attr pskKeyAttr = record.attrs.attr pskKeyAttr from hkey]
    exact h.readable key (htyped ▸ hsame) lookups
  cases hsentMode : sent.get? pskModeAttr with
  | none =>
      rw [hsentMode] at hmode
      refine iff_of_true ⟨fun policy hpolicy => ?_, hreadable⟩ ⟨?_, ?_, ?_, ?_⟩
      · rw [PskRecord.wrote] at hpolicy ⊢
        simp only [writesPsk, hsentKey, hsentMode, Option.isSome_none, Bool.or_self,
          Bool.false_eq_true, ↓reduceIte] at hpolicy
        rw [hmode, hkey]
        exact h.valid policy hpolicy
      · simp [hsentKey]
      · simp [hsentKey]
      · simp [hsentMode]
      · simp [hsentKey]
  | some mode =>
      rw [hsentMode] at hmode
      have hpolicy : (record.wrote psk sent attrs).policy = some psk.policy := by
        simp [PskRecord.wrote, writesPsk, hsentMode]
      constructor
      · intro hholds
        have hvalid := hholds.valid _ hpolicy
        rw [PskRecord.wrote, hmode, hkey] at hvalid
        refine ⟨by simp [hsentKey], by simp [hsentKey], ?_, by simp [hsentKey]⟩
        rintro _ hsame -
        rw [hsentMode] at hsame
        cases hsame
        exact hvalid
      · intro hwell
        refine ⟨fun policy hsame => ?_, hreadable⟩
        rw [hpolicy] at hsame
        cases hsame
        rw [PskRecord.wrote, hmode, hkey]
        exact hwell.modeAlone mode hsentMode hsentKey

/-- A write with a key keeps the property by that key and the mode beside it. -/
theorem holds_wrote_with_key {key : String} (hstores : Stores record.attrs sent attrs encode)
    (hdecode : ∀ key, pskDecode (encode key) = key ↔ hasPskPrefix key = false)
    (hchecked : checked = true → ∀ mode, sent.get? pskModeAttr = some mode →
      hasPskPrefix key = false → PskMeets psk.policy mode (encode key))
    (hsentKey : sent.get? pskKeyAttr = some key) :
    PskHolds endpointId (record.wrote psk sent attrs) ↔
      WritesWell psk record.attrs sent encode checked := by
  have hmode := hstores.mode
  have hkey := hstores.key
  rw [hsentKey] at hkey
  have hpolicy : (record.wrote psk sent attrs).policy = some psk.policy := by
    simp [PskRecord.wrote, writesPsk, hsentKey]
  have htyped : (record.wrote psk sent attrs).typed = some key := by
    rw [PskRecord.wrote, hsentKey, Option.some_or]
  have hreadable : (∀ typed, (record.wrote psk sent attrs).typed = some typed → ∀ lookups,
      readPskKey lookups endpointId attrs = typed) ↔ hasPskPrefix key = false := by
    rw [htyped, ← hdecode]
    simp only [Option.some.injEq, forall_eq', read_psk_key, hkey, Option.map_some,
      Option.getD_some]
    exact ⟨fun hall => hall { setOrder := fun _ => [] }, fun hsame _ => hsame⟩
  have hvalid : (∀ policy, (record.wrote psk sent attrs).policy = some policy →
      PskMeets policy (attrs.attr pskModeAttr) (attrs.attr pskKeyAttr)) ↔
        PskMeets psk.policy ((sent.get? pskModeAttr).getD (record.attrs.attr pskModeAttr))
          (encode key) := by
    rw [hpolicy, hmode, hkey]
    simp only [Option.some.injEq, forall_eq', Option.map_some, Option.getD_some]
  constructor
  · intro hholds
    have hunprefixed := hreadable.mp hholds.readable
    have hmeets := hvalid.mp hholds.valid
    refine ⟨?_, ?_, by simp [hsentKey], ?_⟩
    · rintro _ hsame
      cases hsentKey.symm.trans hsame
      exact hunprefixed
    · rintro _ hsame hnone
      cases hsentKey.symm.trans hsame
      rwa [hnone] at hmeets
    · rintro - _ mode hsame hsentMode
      cases hsentKey.symm.trans hsame
      rwa [hsentMode] at hmeets
  · intro hwell
    have hunprefixed := hwell.unprefixed key hsentKey
    refine ⟨hvalid.mpr ?_, hreadable.mpr hunprefixed⟩
    cases hsentMode : sent.get? pskModeAttr with
    | none => exact hwell.keyAlone key hsentKey hsentMode
    | some mode =>
        cases hcheck : checked with
        | true => exact hchecked hcheck mode hsentMode hunprefixed
        | false => exact hwell.both hcheck key mode hsentKey hsentMode

/-- What a write keeps to is what the property asks of the record after it. -/
theorem holds_wrote_iff (h : PskHolds endpointId record)
    (hstores : Stores record.attrs sent attrs encode)
    (hdecode : ∀ key, pskDecode (encode key) = key ↔ hasPskPrefix key = false)
    (hchecked : checked = true → ∀ key mode, sent.get? pskKeyAttr = some key →
      sent.get? pskModeAttr = some mode → hasPskPrefix key = false →
        PskMeets psk.policy mode (encode key)) :
    PskHolds endpointId (record.wrote psk sent attrs) ↔
      WritesWell psk record.attrs sent encode checked := by
  cases hsentKey : sent.get? pskKeyAttr with
  | none => exact holds_wrote_without_key h hstores hsentKey
  | some key =>
      exact holds_wrote_with_key hstores hdecode
        (fun hcheck mode => hchecked hcheck key mode hsentKey) hsentKey

end OneWrite

/-! ## What the requests send -/

section Requests

variable {psk : PskSettings} {attrs : Option CustomAttrs} {autoTag : Option String}
  {stamp : String} {ca stored : Attrs}

theorem get?_pskEncodeCa_key : (pskEncodeCa psk ca).get? pskKeyAttr =
    (ca.get? pskKeyAttr).map (pskEncode psk) := by
  unfold pskEncodeCa Attrs.attr
  cases hkey : ca.get? pskKeyAttr with
  | none => simp [hkey]
  | some key =>
      by_cases hempty : key = ""
      · simp [hkey, hempty, pskEncode]
      · simp [hempty, Dict.get?_set_self]

theorem get?_prepared {name : String} (hroles : name ≠ rolesAttr) (hhidden : name ≠ hiddenAttr) :
    (applyAutoTag ((requestAttrs attrs).set hiddenAttr "true") autoTag).get? name =
      (requestAttrs attrs).get? name := by
  rw [get?_applyAutoTag_spared (fun h => absurd h hroles), Dict.get?_set_ne _ _ hhidden]

omit [PyText] in
theorem untouched_mode : Untouched pskModeAttr := by decide

/-- A key and a mode that come together are checked. -/
theorem meets_of_validated {key mode : String} (hvalid : validatePsk psk ca = .ok ())
    (hkey : ca.get? pskKeyAttr = some key) (hmode : ca.get? pskModeAttr = some mode)
    (hbare : hasPskPrefix key = false) : PskMeets psk.policy mode (pskEncode psk key) := by
  intro htrue hraw
  have hnonempty : key ≠ "" := by
    rintro rfl
    exact hraw (if_pos rfl)
  rw [decode_encode_iff.mpr hbare]
  simp only [validatePsk, Attrs.attr, hkey, hmode, Option.getD_some] at hvalid
  split at hvalid
  · cases hvalid
  · rw [if_pos ⟨htrue, hnonempty⟩] at hvalid
    split at hvalid
    · assumption
    · cases hvalid

/-- The PSK attributes of a request that is accepted are checked, and the key is encoded. -/
structure Accepted (psk : PskSettings) (attrs : Option CustomAttrs) (ca : Attrs) : Prop where
  key : ca.get? pskKeyAttr = ((requestAttrs attrs).get? pskKeyAttr).map (pskEncode psk)
  mode : ca.get? pskModeAttr = (requestAttrs attrs).get? pskModeAttr
  checked : ∀ key mode, (requestAttrs attrs).get? pskKeyAttr = some key →
    (requestAttrs attrs).get? pskModeAttr = some mode → hasPskPrefix key = false →
      PskMeets psk.policy mode (pskEncode psk key)

theorem create_accepted (hca : createAttrs psk attrs autoTag stamp = .ok ca) :
    Accepted psk attrs ca := by
  have hmode := get?_createAttrs hca untouched_mode
  simp only [createAttrs] at hca
  split at hca
  · cases hca
  · rename_i hvalid
    cases hca
    have hprepared : ∀ name, name ≠ rolesAttr → name ≠ hiddenAttr → name ≠ registeredAtAttr →
        (stampRegisteredAt (applyAutoTag ((requestAttrs attrs).set hiddenAttr "true") autoTag)
          stamp).get? name = (requestAttrs attrs).get? name := by
      intro name hroles hhidden hregistered
      rw [get?_stampRegisteredAt_ne _ _ hregistered, get?_prepared hroles hhidden]
    refine ⟨?_, hmode, fun key mode hkey hmode hbare => ?_⟩
    · rw [get?_pskEncodeCa_key, hprepared _ (by decide) (by decide) (by decide)]
    · rw [← hprepared _ (by decide) (by decide) (by decide)] at hkey hmode
      exact meets_of_validated hvalid hkey hmode hbare

theorem update_accepted {before : Option EndpointDetail}
    (hca : updateAttrs psk attrs autoTag before stamp = .ok ca) : Accepted psk attrs ca := by
  have hmode := get?_updateAttrs hca untouched_mode
  simp only [updateAttrs] at hca
  split at hca
  · cases hca
  · rename_i hvalid
    cases hca
    refine ⟨?_, hmode, fun key mode hkey hmode hbare => ?_⟩
    · rw [get?_stampFromSnapshot_spared stamp (by decide) (fun h => absurd h (by decide)),
        get?_pskEncodeCa_key, get?_prepared (by decide) (by decide)]
    · rw [← get?_prepared (by decide) (by decide)] at hkey hmode
      exact meets_of_validated hvalid hkey hmode hbare

theorem Accepted.stores_create (h : Accepted psk attrs ca) :
    Stores Dict.empty (requestAttrs attrs) (ca.filterValues (· ≠ "")) (pskEncode psk) where
  mode := by
    rw [Attrs.attr_filterValues, Attrs.attr, h.mode]
    rfl
  key := by
    rw [Attrs.attr_filterValues, Attrs.attr, h.key]
    rfl

theorem Accepted.stores_update (h : Accepted psk attrs ca) (stored : Attrs) :
    Stores stored (requestAttrs attrs) (stored.merge ca) (pskEncode psk) where
  mode := by rw [Attrs.attr_merge, h.mode]
  key := by rw [Attrs.attr_merge, h.key]

omit [PyText] in
theorem stores_template (stored templateAttrs : Attrs) :
    Stores stored templateAttrs (stored.merge (templateAttrs.set hiddenAttr "true")) id where
  mode := by rw [Attrs.attr_merge, Dict.get?_set_ne _ _ (by decide)]
  key := by rw [Attrs.attr_merge, Dict.get?_set_ne _ _ (by decide), Option.map_id, id]

end Requests

/-! ## Runs -/

section Runs

variable {portal next : PskPortal}

/-- A new record keeps the property of the portal exactly when it has it. -/
theorem kept_set_iff (h : PskKept portal) (endpointId : EndpointId) (record : PskRecord) :
    PskKept (portal.set endpointId record) ↔ PskHolds endpointId record := by
  constructor
  · intro hkept
    exact hkept endpointId record (Dict.get?_set_self _ _ _)
  · intro hholds id other hother
    rw [Dict.get?_set] at hother
    split at hother
    · rename_i hid
      cases hother
      exact hid ▸ hholds
    · exact h id other hother

/-- A record nobody has written asks for nothing. -/
theorem holds_unwritten (endpointId : EndpointId) (attrs : Attrs) :
    PskHolds endpointId { attrs := attrs } := by
  refine ⟨fun policy hpolicy => ?_, fun key htyped => ?_⟩
  · cases hpolicy
  · cases htyped

/-- A write keeps the property exactly when it writes well. -/
theorem kept_step_iff {op : PskOp} (hstep : portal.step op = some next) (h : PskKept portal) :
    PskKept next ↔ GoodWrite portal op := by
  cases op with
  | create psk attrs autoTag stamp newId ok =>
      simp only [PskPortal.step] at hstep
      split at hstep
      · rename_i hrefused
        cases hstep
        refine iff_of_true h fun _ ca hca => ?_
        rw [hrefused] at hca
        cases hca
      · rename_i ca hca
        cases ok with
        | false =>
            cases hstep
            exact iff_of_true h fun hok => by cases hok
        | true =>
            simp only [↓reduceIte] at hstep
            split at hstep
            · cases hstep
            · cases hstep
              have haccepted := create_accepted hca
              have hwell : PskHolds newId _ ↔
                  WritesWell psk Dict.empty (requestAttrs attrs) (pskEncode psk) true :=
                holds_wrote_iff (holds_unwritten newId Dict.empty) haccepted.stores_create
                  (fun _ => decode_encode_iff) fun _ => haccepted.checked
              refine (kept_set_iff h _ _).trans (hwell.trans ?_)
              exact ⟨fun hwrites _ _ _ => hwrites, fun hgood => hgood rfl ca hca⟩
  | update psk endpointId attrs autoTag before stamp ok =>
      simp only [PskPortal.step] at hstep
      split at hstep
      · rename_i hrefused
        cases hstep
        refine iff_of_true h fun _ ca hca => ?_
        rw [hrefused] at hca
        cases hca
      · rename_i ca hca
        cases ok with
        | false =>
            cases hstep
            exact iff_of_true h fun hok => by cases hok
        | true =>
            obtain ⟨record, hrecord, rfl⟩ := Option.map_eq_some_iff.mp hstep
            have haccepted := update_accepted hca
            have hwell : PskHolds endpointId _ ↔
                WritesWell psk record.attrs (requestAttrs attrs) (pskEncode psk) true :=
              holds_wrote_iff (h endpointId record hrecord)
                (haccepted.stores_update record.attrs) (fun _ => decode_encode_iff)
                  fun _ => haccepted.checked
            refine (kept_set_iff h _ _).trans (hwell.trans ⟨fun hwrites _ _ _ other hother => ?_,
              fun hgood => hgood rfl ca hca record hrecord⟩)
            rw [hrecord] at hother
            cases hother
            exact hwrites
  | applyTemplate psk endpointId templateAttrs ok =>
      cases ok with
      | false =>
          cases hstep
          exact iff_of_true h fun hok => by cases hok
      | true =>
          obtain ⟨record, hrecord, rfl⟩ := Option.map_eq_some_iff.mp hstep
          have hwell : PskHolds endpointId _ ↔
              WritesWell psk record.attrs templateAttrs id false :=
            holds_wrote_iff (h endpointId record hrecord)
              (stores_template record.attrs templateAttrs) (fun _ => decode_eq_self_iff)
                fun hcheck => by cases hcheck
          refine (kept_set_iff h _ _).trans (hwell.trans ⟨fun hwrites _ other hother => ?_,
            fun hgood => hgood rfl record hrecord⟩)
          rw [hrecord] at hother
          cases hother
          exact hwrites

/-- From endpoints the portal has not written yet, every key stays within its policy and readable
exactly when all writes of the run write well. -/
theorem psk_kept_iff (start : PskPortal) (ops : List PskOp)
    (hstart : ∀ endpointId record, start.get? endpointId = some record →
      record.policy = none ∧ record.typed = none) :
    Always PskPortal.step PskKept start ops ↔ Guarded PskPortal.step GoodWrite start ops := by
  refine always_iff_guarded (I := fun _ => True) (fun _ _ _ _ _ => trivial)
    (fun _ _ _ hstep _ hkept => kept_step_iff hstep hkept) trivial ?_
  intro endpointId record hrecord
  obtain ⟨hpolicy, htyped⟩ := hstart endpointId record hrecord
  refine ⟨fun policy hsome => ?_, fun key hsome => ?_⟩
  · rw [hpolicy] at hsome
    cases hsome
  · rw [htyped] at hsome
    cases hsome

end Runs

end Writes

/-! ## Keys that get past the policy -/

section Examples

local instance pskText : PyText := asciiText

/-- The settings ask for eight characters. -/
def eightChars (pskType : String) : PskSettings where
  pskType := pskType
  policy :=
    { minLength := 8, requireUppercase := true, requireNumbers := true, requireSpecial := false }

/-- One endpoint without attributes. -/
def barePortal : PskPortal := Dict.empty.set "ep-1" {}

/-- A template turns the mode on with a key. -/
def templateKey (key : String) : PskOp :=
  .applyTemplate (eightChars "IPSK") "ep-1"
    (Dict.empty |>.set pskModeAttr "true" |>.set pskKeyAttr key) true

/-- An update of a PSK field or two. -/
def updatePsk (mode key : Option String) : PskOp :=
  .update (eightChars "MPSK") "ep-1" (some { pskMode := mode, pskKey := key }) none none "today"
    true

theorem bare_unwritten : ∀ endpointId record, barePortal.get? endpointId = some record →
    record.policy = none ∧ record.typed = none := by
  intro endpointId record hrecord
  rw [barePortal, Dict.get?_set] at hrecord
  split at hrecord
  · cases hrecord
    exact ⟨rfl, rfl⟩
  · cases hrecord

theorem strong_template_kept :
    Always PskPortal.step PskKept barePortal [templateKey "Secret24"] := by
  refine (psk_kept_iff barePortal _ bare_unwritten).mpr ⟨?_, trivial⟩
  rintro - record -
  refine ⟨?_, ?_, ?_, ?_⟩
  · rintro _ ⟨⟩
    decide
  · rintro _ - hnone
    cases hnone
  · rintro _ - hnone
    cases hnone
  · rintro - _ _ ⟨⟩ ⟨⟩ - -
    decide

/-- A template writes a key of one character, a mode turned on later covers a key that was not
checked, and a key beginning with `psk=` is shown without it. -/
theorem psk_not_kept :
    ¬ Always PskPortal.step PskKept barePortal [templateKey "x"] ∧
      ¬ Always PskPortal.step PskKept barePortal
        [updatePsk none (some "x"), updatePsk (some "true") none] ∧
      ¬ Always PskPortal.step PskKept barePortal
        [updatePsk (some "true") (some "psk=Secret24")] := by
  refine ⟨fun h => ?_, fun h => ?_, fun h => ?_⟩
  · have hvalid := (h.last rfl "ep-1" _ rfl).valid _ rfl (by decide) (by decide)
    exact absurd hvalid (by decide)
  · have hvalid := (h.last rfl "ep-1" _ rfl).valid _ rfl (by decide) (by decide)
    exact absurd hvalid (by decide)
  · have hreadable := (h.last rfl "ep-1" _ rfl).readable _ rfl { setOrder := fun _ => [] }
    exact absurd hreadable (by decide)

end Examples

end IsePortal
