import IsePortal.Platform.Json
import Mathlib.Data.List.Infix

/-!
# Update packages

`_safe_target`, `validate_package` and `apply_package` of `app/services/update_service.py`. The
lists of allowed and blocked paths are compared as beginnings of a name, whether an item names
a directory or a file, and the version file that is read is chosen by its last segment.
`update_package_iff` says for which names and packages this comes to what the lists mean.
-/

namespace IsePortal.Update

/-- `_BLOCKED_PREFIXES` -/
def blockedPrefixes : List String :=
  [".env", "backend/.env", "backend/logs/", "backend/cache/", "backend/data/"]

/-- `_ALLOWED_PREFIXES` -/
def allowedPrefixes : List String :=
  ["frontend/", "backend/app/", "backend/pyproject.toml", "version.json"]

/-- `MAX_UNCOMPRESSED_BYTES` -/
def maxUncompressedBytes : Nat := 500 * 1024 * 1024

/-- `zip_name.replace("\\", "/").lstrip("/")` -/
def normalise (zipName : String) : String :=
  String.ofList ((zipName.toList.map fun c => if c = '\\' then '/' else c).dropWhile (· = '/'))

/-- `norm.split("/")` -/
def segments (norm : String) : List String := (norm.toList.splitOn '/').map String.ofList

/-- `Path(norm).parts`: a path has no empty and no `.` segments. -/
def pathParts (norm : String) : List String :=
  (segments norm).filter fun part => part ≠ "" && part ≠ "."

/-- `Path(name).name` -/
def pathName (name : String) : String := (pathParts name).getLast?.getD ""

/-- `text.startswith(start)` -/
def startsWith (text start : String) : Bool := start.toList.isPrefixOf text.toList

/-- `p.rstrip("/")` -/
def rstripSlash (p : String) : String :=
  String.ofList ((p.toList.reverse.dropWhile (· = '/')).reverse)

/-- `_safe_target`, as the parts of the path below the project root. `inside` is the check of the
resolved path: whether no symbolic link leads it out of the root. -/
def safeTarget (inside : List String → Bool) (zipName : String) : Option (List String) :=
  let norm := normalise zipName
  let parts := segments norm
  if ".." ∈ parts ∨ "" ∈ parts.dropLast then none
  else if blockedPrefixes.any (fun blocked => norm = blocked || startsWith norm blocked) then none
  else if !allowedPrefixes.any (fun p => norm = rstripSlash p || startsWith norm p) then none
  else
    let target := pathParts norm
    if inside target then some target else none

/-- An opened archive. `content` is `json.loads(zf.read(name).decode("utf-8"))`, or the text of what
that raises. -/
structure ZipPackage where
  names : List String
  fileSize : String → Nat
  content : String → Except String Json

/-- What is uploaded: nothing, no archive, an archive that cannot be listed, or one that can. -/
inductive Upload where
  | empty
  | badZipFile
  | fault (message : String)
  | archive (package : ZipPackage)

/-- What `validate_package` returns. -/
structure PackageCheck where
  ok : Bool
  version : Json := .str "?"
  build : Json := .str "?"
  files : List String := []
  blocked : List String := []
  errors : List String := []

def isDirectory (name : String) : Bool := name.toList.getLast? = some '/'

namespace ZipPackage

variable (package : ZipPackage) (inside : List String → Bool)

/-- `v_candidates` -/
def candidates : List String :=
  package.names.filter fun name => pathName name = "version.json" && name.toList.count '/' ≤ 1

/-- `total_uncompressed` -/
def totalUncompressed : Nat :=
  ((package.names.filter fun name => !isDirectory name).map package.fileSize).sum

/-- `accepted` -/
def accepted : List String :=
  package.names.filter fun name => !isDirectory name && (safeTarget inside name).isSome

/-- `blocked_files` -/
def blockedFiles : List String :=
  package.names.filter fun name => !isDirectory name && (safeTarget inside name).isNone

/-- The version that is read, and the errors about it. -/
def versionInfo : Json × List String :=
  match package.candidates with
  | [] => (.obj [], ["Pakken mangler version.json på rod-niveau"])
  | first :: _ =>
      match package.content first with
      | .ok info => (info, [])
      | .error message => (.obj [], [s!"version.json er ugyldig: {message}"])

end ZipPackage

/-- The error about a package that unpacks to more than 500 MB. -/
def sizeError (total : Nat) : String :=
  s!"Pakken udpakker til {total / (1024 * 1024)} MB — max 500 MB"

/-- `info.get(key, "?")`, which only an object has. -/
def versionField (info : Json) (key : String) : Except PyError Json :=
  match info with
  | .obj fields => .ok ((fields.lookup key).getD (.str "?"))
  | _ => .error .attributeError

/-- `validate_package` -/
def validatePackage (inside : List String → Bool) : Upload → Except PyError PackageCheck
  | .empty => .ok { ok := false, errors := ["Tom fil"] }
  | .badZipFile => .ok { ok := false, errors := ["Filen er ikke et gyldigt ZIP-arkiv"] }
  | .fault message => .ok { ok := false, errors := [s!"ZIP-fejl: {message}"] }
  | .archive package =>
      if maxUncompressedBytes < package.totalUncompressed then
        .ok { ok := false, errors := [sizeError package.totalUncompressed] }
      else do
        let (info, errors) := package.versionInfo
        let version ← versionField info "version"
        let build ← versionField info "build"
        .ok
          { ok := errors.isEmpty && !(package.accepted inside).isEmpty
            version := version
            build := build
            files := package.accepted inside
            blocked := package.blockedFiles inside
            errors := errors }

/-- The files `apply_package` writes, with the entry each comes from. -/
def applyPackage (inside : List String → Bool) (upload : Upload) :
    Except PyError (List (List String × String)) := do
  let val ← validatePackage inside upload
  match val.ok, upload with
  | true, .archive package =>
      .ok ((package.names.filter fun name => !isDirectory name).filterMap fun name =>
        (safeTarget inside name).map fun target => (target, name))
  | _, _ => .ok []

/-! ## What the lists mean -/

/-- No `..` and no empty segment before the last one. -/
def Clean (norm : String) : Prop := ".." ∉ segments norm ∧ "" ∉ (segments norm).dropLast

/-- A text that begins with another one and goes on. -/
def Beyond (start norm : String) : Prop := start.toList <+: norm.toList ∧ norm ≠ start

/-- A path strictly below a directory. -/
def Below (directory norm : String) : Prop :=
  directory.toList <+: norm.toList ∧ pathParts norm ≠ pathParts directory

/-- A spelling of the directory itself. -/
def Itself (directory norm : String) : Prop :=
  (norm = rstripSlash directory ∨ directory.toList <+: norm.toList) ∧
    pathParts norm = pathParts directory

/-- One of the two files, or a path strictly below one of the two directories. -/
def Allowed (norm : String) : Prop :=
  norm = "version.json" ∨ norm = "backend/pyproject.toml" ∨
    ((Below "frontend/" norm ∨ Below "backend/app/" norm) ∧ Clean norm)

/-- One of the two directories itself, or a name that begins with one of the two files. -/
def Misread (norm : String) : Prop :=
  ((Itself "frontend/" norm ∨ Itself "backend/app/" norm) ∨
    (Beyond "version.json" norm ∨ Beyond "backend/pyproject.toml" norm)) ∧ Clean norm

variable {norm start other name : String} {inside : List String → Bool} {target : List String}

theorem startsWith_iff : startsWith norm start = true ↔ norm = start ∨ Beyond start norm := by
  rw [startsWith, List.isPrefixOf_iff_prefix, Beyond]
  by_cases hsame : norm = start
  · simp [hsame]
  · simp [hsame]

/-- The beginnings that the allowed names have. -/
def allowedStarts : List String :=
  ["frontend", "backend/app", "backend/pyproject.toml", "version.json"]

/-- Two texts a name begins with begin one with the other. -/
theorem starts_comparable (hstart : start.toList <+: norm.toList)
    (hother : other.toList <+: norm.toList) :
    start.toList.isPrefixOf other.toList = true ∨ other.toList.isPrefixOf start.toList = true := by
  rw [List.isPrefixOf_iff_prefix, List.isPrefixOf_iff_prefix]
  exact List.prefix_or_prefix_of_prefix hstart hother

/-- No allowed name is blocked. -/
theorem not_blocked (h : ∃ start ∈ allowedStarts, start.toList <+: norm.toList) :
    blockedPrefixes.any (fun blocked => norm = blocked || startsWith norm blocked) = false := by
  have hapart : ∀ start ∈ allowedStarts, ∀ blocked ∈ blockedPrefixes,
      start.toList.isPrefixOf blocked.toList = false ∧
        blocked.toList.isPrefixOf start.toList = false := by decide
  obtain ⟨start, hstart, hbegins⟩ := h
  rw [Bool.eq_false_iff, Ne, List.any_eq_true]
  rintro ⟨blocked, hblocked, hmatch⟩
  have hother : blocked.toList <+: norm.toList := by
    rw [Bool.or_eq_true, decide_eq_true_eq, startsWith, List.isPrefixOf_iff_prefix] at hmatch
    rcases hmatch with rfl | hmatch
    · exact List.prefix_rfl
    · exact hmatch
  obtain ⟨hone, htwo⟩ := hapart start hstart blocked hblocked
  rcases starts_comparable hbegins hother with hcase | hcase
  · rw [hone] at hcase
    cases hcase
  · rw [htwo] at hcase
    cases hcase

/-- A directory of the list lets through what is below it, and itself. -/
theorem directory_match_iff {directory : String} :
    (norm = rstripSlash directory ∨ startsWith norm directory = true) ↔
      (norm = rstripSlash directory ∧ pathParts norm ≠ pathParts directory) ∨
        Below directory norm ∨ Itself directory norm := by
  rw [startsWith, List.isPrefixOf_iff_prefix, Below, Itself]
  by_cases hparts : pathParts norm = pathParts directory
  · simp [hparts]
  · simp [hparts]

/-- A file of the list lets through itself, and what begins with it. -/
theorem file_match_iff {file : String} (hstrip : rstripSlash file = file) :
    (norm = rstripSlash file ∨ startsWith norm file = true) ↔ norm = file ∨ Beyond file norm := by
  rw [hstrip, startsWith_iff]
  constructor
  · rintro (h | h | h)
    · exact Or.inl h
    · exact Or.inl h
    · exact Or.inr h
  · rintro (h | h)
    · exact Or.inl h
    · exact Or.inr (Or.inr h)

/-- What the list of allowed paths lets through. -/
theorem allowed_any_iff :
    allowedPrefixes.any (fun p => norm = rstripSlash p || startsWith norm p) = true ↔
      (Below "frontend/" norm ∨ Itself "frontend/" norm) ∨
        (Below "backend/app/" norm ∨ Itself "backend/app/" norm) ∨
        (norm = "backend/pyproject.toml" ∨ Beyond "backend/pyproject.toml" norm) ∨
        (norm = "version.json" ∨ Beyond "version.json" norm) := by
  have hfrontend : pathParts (rstripSlash "frontend/") = pathParts "frontend/" := by decide
  have hbackend : pathParts (rstripSlash "backend/app/") = pathParts "backend/app/" := by decide
  have hitself : ∀ {directory : String},
      pathParts (rstripSlash directory) = pathParts directory →
      ¬ (norm = rstripSlash directory ∧ pathParts norm ≠ pathParts directory) := by
    rintro directory hsame ⟨rfl, hother⟩
    exact hother hsame
  simp only [allowedPrefixes, List.any_cons, List.any_nil, Bool.or_false, Bool.or_eq_true,
    decide_eq_true_eq]
  rw [directory_match_iff, directory_match_iff, file_match_iff (by decide),
    file_match_iff (by decide), or_iff_right (hitself hfrontend), or_iff_right (hitself hbackend)]

/-- The names of the two files have no segment that is refused. -/
theorem clean_files (h : norm = "version.json" ∨ norm = "backend/pyproject.toml") :
    Clean norm := by
  have hall : ∀ norm ∈ ["version.json", "backend/pyproject.toml"],
      ".." ∉ segments norm ∧ "" ∉ (segments norm).dropLast := by decide
  exact hall norm (List.mem_pair.mpr h)

/-- The two lists and the segments let through what is allowed and what is misread. -/
theorem listed_iff :
    (Clean norm ∧ allowedPrefixes.any
      (fun p => norm = rstripSlash p || startsWith norm p) = true) ↔
        Allowed norm ∨ Misread norm := by
  rw [allowed_any_iff]
  constructor
  · rintro ⟨hclean, (hbelow | hitself) | (hbelow | hitself) | (hfile | hbeyond) |
      (hfile | hbeyond)⟩
    · exact Or.inl (Or.inr (Or.inr ⟨Or.inl hbelow, hclean⟩))
    · exact Or.inr ⟨Or.inl (Or.inl hitself), hclean⟩
    · exact Or.inl (Or.inr (Or.inr ⟨Or.inr hbelow, hclean⟩))
    · exact Or.inr ⟨Or.inl (Or.inr hitself), hclean⟩
    · exact Or.inl (Or.inr (Or.inl hfile))
    · exact Or.inr ⟨Or.inr (Or.inr hbeyond), hclean⟩
    · exact Or.inl (Or.inl hfile)
    · exact Or.inr ⟨Or.inr (Or.inl hbeyond), hclean⟩
  · rintro ((hfile | hfile | ⟨hbelow | hbelow, hclean⟩) |
      ⟨(hitself | hitself) | (hbeyond | hbeyond), hclean⟩)
    · exact ⟨clean_files (Or.inl hfile), Or.inr (Or.inr (Or.inr (Or.inl hfile)))⟩
    · exact ⟨clean_files (Or.inr hfile), Or.inr (Or.inr (Or.inl (Or.inl hfile)))⟩
    · exact ⟨hclean, Or.inl (Or.inl hbelow)⟩
    · exact ⟨hclean, Or.inr (Or.inl (Or.inl hbelow))⟩
    · exact ⟨hclean, Or.inl (Or.inr hitself)⟩
    · exact ⟨hclean, Or.inr (Or.inl (Or.inr hitself))⟩
    · exact ⟨hclean, Or.inr (Or.inr (Or.inr (Or.inr hbeyond)))⟩
    · exact ⟨hclean, Or.inr (Or.inr (Or.inl (Or.inr hbeyond)))⟩

theorem frontend_begins : "frontend".toList <+: "frontend/".toList :=
  List.isPrefixOf_iff_prefix.mp (by decide)

theorem backend_begins : "backend/app".toList <+: "backend/app/".toList :=
  List.isPrefixOf_iff_prefix.mp (by decide)

/-- The directory itself begins with its name without the slash. -/
theorem Itself.begins {directory : String} (h : Itself directory norm)
    (hstrip : (rstripSlash directory).toList <+: directory.toList) :
    (rstripSlash directory).toList <+: norm.toList := by
  obtain ⟨rfl | hbegins, -⟩ := h
  · exact List.prefix_rfl
  · exact hstrip.trans hbegins

theorem Itself.begins_frontend (h : Itself "frontend/" norm) :
    "frontend".toList <+: norm.toList := by
  have hstrip : rstripSlash "frontend/" = "frontend" := by decide
  have hbegins := h.begins (by rw [hstrip]; exact frontend_begins)
  rwa [hstrip] at hbegins

theorem Itself.begins_backend (h : Itself "backend/app/" norm) :
    "backend/app".toList <+: norm.toList := by
  have hstrip : rstripSlash "backend/app/" = "backend/app" := by decide
  have hbegins := h.begins (by rw [hstrip]; exact backend_begins)
  rwa [hstrip] at hbegins

/-- An allowed or misread name begins as the allowed names do. -/
theorem begins_of_allowed (h : Allowed norm ∨ Misread norm) :
    ∃ start ∈ allowedStarts, start.toList <+: norm.toList := by
  rcases h with (rfl | rfl | ⟨hbelow | hbelow, -⟩) |
    ⟨(hitself | hitself) | (hbeyond | hbeyond), -⟩
  · exact ⟨"version.json", by decide, List.prefix_rfl⟩
  · exact ⟨"backend/pyproject.toml", by decide, List.prefix_rfl⟩
  · exact ⟨"frontend", by decide, frontend_begins.trans hbelow.1⟩
  · exact ⟨"backend/app", by decide, backend_begins.trans hbelow.1⟩
  · exact ⟨"frontend", by decide, hitself.begins_frontend⟩
  · exact ⟨"backend/app", by decide, hitself.begins_backend⟩
  · exact ⟨"version.json", by decide, hbeyond.1⟩
  · exact ⟨"backend/pyproject.toml", by decide, hbeyond.1⟩

/-- A name gets a target exactly when it is an allowed or a misread one, and the target is its path
below the project root. -/
theorem safeTarget_eq_some_iff :
    safeTarget inside name = some target ↔
      (Allowed (normalise name) ∨ Misread (normalise name)) ∧
        inside (pathParts (normalise name)) = true ∧ target = pathParts (normalise name) := by
  unfold safeTarget
  generalize normalise name = norm
  dsimp only
  constructor
  · intro h
    split at h
    · cases h
    · rename_i hsegments
      split at h
      · cases h
      · split at h
        · cases h
        · rename_i hlisted
          split at h
          · rename_i hinside
            have hany : allowedPrefixes.any
                (fun p => norm = rstripSlash p || startsWith norm p) = true := by
              simpa only [Bool.not_eq_true', Bool.not_eq_false] using hlisted
            exact ⟨listed_iff.mp ⟨not_or.mp hsegments, hany⟩, hinside, (Option.some.inj h).symm⟩
          · cases h
  · rintro ⟨hallowed, hinside, rfl⟩
    obtain ⟨hclean, hany⟩ := listed_iff.mpr hallowed
    rw [if_neg (not_or.mpr hclean), if_neg (by rw [not_blocked (begins_of_allowed hallowed)]; simp),
      if_neg (by rw [hany]; decide), if_pos hinside]

/-- Two different beginnings of the list do not begin one name. -/
theorem starts_apart (hstart : start.toList <+: norm.toList) (hother : other.toList <+: norm.toList)
    (hone : start.toList.isPrefixOf other.toList = false)
    (htwo : other.toList.isPrefixOf start.toList = false) : False := by
  rcases starts_comparable hstart hother with hcase | hcase
  · rw [hone] at hcase
    cases hcase
  · rw [htwo] at hcase
    cases hcase

/-- No name is both. -/
theorem not_allowed_of_misread (h : Misread norm) : ¬ Allowed norm := by
  obtain ⟨(hitself | hitself) | (hbeyond | hbeyond), -⟩ := h
  · have hbegins := hitself.begins_frontend
    rintro (rfl | rfl | ⟨hbelow | hbelow, -⟩)
    · exact starts_apart hbegins List.prefix_rfl (by decide) (by decide)
    · exact starts_apart hbegins List.prefix_rfl (by decide) (by decide)
    · exact hbelow.2 hitself.2
    · exact starts_apart hbegins hbelow.1 (by decide) (by decide)
  · have hbegins := hitself.begins_backend
    rintro (rfl | rfl | ⟨hbelow | hbelow, -⟩)
    · exact starts_apart hbegins List.prefix_rfl (by decide) (by decide)
    · exact starts_apart hbegins List.prefix_rfl (by decide) (by decide)
    · exact starts_apart hbegins hbelow.1 (by decide) (by decide)
    · exact hbelow.2 hitself.2
  · rintro (hsame | rfl | ⟨hbelow | hbelow, -⟩)
    · exact hbeyond.2 hsame
    · exact starts_apart hbeyond.1 List.prefix_rfl (by decide) (by decide)
    · exact starts_apart hbeyond.1 hbelow.1 (by decide) (by decide)
    · exact starts_apart hbeyond.1 hbelow.1 (by decide) (by decide)
  · rintro (rfl | hsame | ⟨hbelow | hbelow, -⟩)
    · exact starts_apart hbeyond.1 List.prefix_rfl (by decide) (by decide)
    · exact hbeyond.2 hsame
    · exact starts_apart hbeyond.1 hbelow.1 (by decide) (by decide)
    · exact starts_apart hbeyond.1 hbelow.1 (by decide) (by decide)

/-- A name gets a target exactly when it is allowed, and then its path below the project root. -/
def TargetRight (inside : List String → Bool) (name : String) : Prop :=
  ((∃ target, safeTarget inside name = some target) ↔ Allowed (normalise name)) ∧
    ∀ target, safeTarget inside name = some target → target = pathParts (normalise name)

theorem targetRight_iff :
    TargetRight inside name ↔
      (Allowed (normalise name) → inside (pathParts (normalise name)) = true) ∧
      (Misread (normalise name) → inside (pathParts (normalise name)) = false) := by
  unfold TargetRight
  simp only [safeTarget_eq_some_iff]
  constructor
  · rintro ⟨htarget, -⟩
    refine ⟨fun hallowed => ?_, fun hmisread => ?_⟩
    · obtain ⟨_, -, hinside, -⟩ := htarget.mpr hallowed
      exact hinside
    · by_contra hinside
      rw [Bool.not_eq_false] at hinside
      exact not_allowed_of_misread hmisread
        (htarget.mp ⟨_, Or.inr hmisread, hinside, rfl⟩)
  · rintro ⟨hallowed, hmisread⟩
    refine ⟨⟨?_, fun h => ⟨_, Or.inl h, hallowed h, rfl⟩⟩, fun _ h => h.2.2⟩
    rintro ⟨_, h | h, hinside, -⟩
    · exact h
    · rw [hmisread h] at hinside
      cases hinside

/-! ## The version of a package -/

variable {package : ZipPackage} {upload : Upload}

/-- An entry at the root that is a version file and can be parsed. -/
def HasRootVersion (package : ZipPackage) : Prop :=
  ∃ name ∈ package.names, normalise name = "version.json" ∧ ∃ info, package.content name = .ok info

/-- A package that is reported in order has a version at its root. -/
def VersionChecked (inside : List String → Bool) (upload : Upload) : Prop :=
  ∀ check, validatePackage inside upload = .ok check → check.ok = true →
    ∃ package, upload = .archive package ∧ HasRootVersion package

/-- A package that is reported in order: it is not too large, its first candidate is a JSON object
and some entry is let through. -/
theorem validate_archive_ok_iff :
    (∃ check, validatePackage inside (.archive package) = .ok check ∧ check.ok = true) ↔
      package.totalUncompressed ≤ maxUncompressedBytes ∧ package.accepted inside ≠ [] ∧
        ∃ first fields, package.candidates.head? = some first ∧
          package.content first = .ok (.obj fields) := by
  by_cases hsize : maxUncompressedBytes < package.totalUncompressed
  · have hresult : validatePackage inside (.archive package) = .ok
        { ok := false, errors := [sizeError package.totalUncompressed] } := if_pos hsize
    refine iff_of_false ?_ fun h => absurd h.1 (Nat.not_le.mpr hsize)
    rintro ⟨check, hcheck, hok⟩
    obtain rfl := Except.ok.inj (hresult.symm.trans hcheck)
    cases hok
  · rw [validatePackage, if_neg hsize, ZipPackage.versionInfo]
    cases hfirst : package.candidates with
    | nil => simp [versionField, bind, Except.bind]
    | cons first rest =>
        cases hcontent : package.content first with
        | error message => simp [versionField, hcontent, bind, Except.bind]
        | ok info =>
            cases info <;>
              simp [versionField, hcontent, bind, Except.bind, Nat.not_lt.mp hsize]

/-- A package is reported in order only with a version at its root, exactly when its first
candidate is the one at the root, unless that candidate is no JSON object, the package is refused
for another reason, or there is a version at the root besides. -/
theorem versionChecked_iff :
    VersionChecked inside upload ↔
      ∀ package first fields, upload = .archive package →
        package.candidates.head? = some first → package.content first = .ok (.obj fields) →
        package.totalUncompressed ≤ maxUncompressedBytes → package.accepted inside ≠ [] →
        normalise first = "version.json" ∨ HasRootVersion package := by
  constructor
  · intro h package first fields hupload hfirst hcontent hsize haccepted
    subst hupload
    obtain ⟨check, hcheck, hok⟩ :=
      validate_archive_ok_iff.mpr ⟨hsize, haccepted, first, fields, hfirst, hcontent⟩
    obtain ⟨_, hsame, hroot⟩ := h check hcheck hok
    obtain rfl := Upload.archive.inj hsame
    exact Or.inr hroot
  · intro h check hcheck hok
    cases upload with
    | empty | badZipFile | fault =>
        obtain rfl := Except.ok.inj hcheck
        cases hok
    | archive package =>
        obtain ⟨hsize, haccepted, first, fields, hfirst, hcontent⟩ :=
          validate_archive_ok_iff.mp ⟨check, hcheck, hok⟩
        refine ⟨package, rfl, ?_⟩
        rcases h package first fields rfl hfirst hcontent hsize haccepted with hname | hroot
        · have hmem := List.mem_of_head? hfirst
          exact ⟨first, (List.mem_filter.mp hmem).1, hname, _, hcontent⟩
        · exact hroot

/-- For which names and packages the lists and the version check mean what they say. -/
theorem update_package_iff (inside : List String → Bool) :
    (∀ name, TargetRight inside name ↔
      (Allowed (normalise name) → inside (pathParts (normalise name)) = true) ∧
      (Misread (normalise name) → inside (pathParts (normalise name)) = false)) ∧
    (∀ upload, VersionChecked inside upload ↔
      ∀ package first fields, upload = .archive package →
        package.candidates.head? = some first → package.content first = .ok (.obj fields) →
        package.totalUncompressed ≤ maxUncompressedBytes → package.accepted inside ≠ [] →
        normalise first = "version.json" ∨ HasRootVersion package) :=
  ⟨fun _ => targetRight_iff, fun _ => versionChecked_iff⟩

/-- A package with its version one directory down. -/
def nestedVersion : ZipPackage where
  names := ["sub/version.json", "frontend/app.js"]
  fileSize _ := 2
  content _ := .ok (.obj [])

/-- A copy of the version file and the directory itself get targets, and a package without a
version at its root is reported in order. -/
theorem misread_names :
    ¬ TargetRight (fun _ => true) "version.json.bak" ∧ ¬ TargetRight (fun _ => true) "frontend" ∧
      ¬ VersionChecked (fun _ => true) (.archive nestedVersion) := by
  refine ⟨fun h => ?_, fun h => ?_, fun h => ?_⟩
  · have hnorm : normalise "version.json.bak" = "version.json.bak" := by decide
    have hbeyond : Beyond "version.json" "version.json.bak" :=
      ⟨List.isPrefixOf_iff_prefix.mp (by decide), by decide⟩
    have hclean : Clean "version.json.bak" := by
      unfold Clean
      decide
    have hmisread : Misread (normalise "version.json.bak") := by
      rw [hnorm]
      exact ⟨Or.inr (Or.inl hbeyond), hclean⟩
    exact absurd ((targetRight_iff.mp h).2 hmisread) (by decide)
  · have hnorm : normalise "frontend" = "frontend" := by decide
    have hitself : Itself "frontend/" "frontend" := by
      unfold Itself
      exact ⟨Or.inl (by decide), by decide⟩
    have hclean : Clean "frontend" := by
      unfold Clean
      decide
    have hmisread : Misread (normalise "frontend") := by
      rw [hnorm]
      exact ⟨Or.inl (Or.inl hitself), hclean⟩
    exact absurd ((targetRight_iff.mp h).2 hmisread) (by decide)
  · have hcandidates : nestedVersion.candidates = ["sub/version.json"] := by decide
    have haccepted : nestedVersion.accepted (fun _ => true) = ["frontend/app.js"] := by decide
    have hnames : ∀ name ∈ nestedVersion.names, normalise name ≠ "version.json" := by decide
    have hfirst : nestedVersion.candidates.head? = some "sub/version.json" := by
      rw [hcandidates]
      rfl
    have hsome : nestedVersion.accepted (fun _ => true) ≠ [] := by
      rw [haccepted]
      exact List.cons_ne_nil _ _
    rcases versionChecked_iff.mp h nestedVersion "sub/version.json" [] rfl hfirst rfl (by decide)
      hsome with hroot | hroot
    · exact absurd hroot (by decide)
    · obtain ⟨name, hname, hroot, -⟩ := hroot
      exact hnames name hname hroot

end IsePortal.Update
