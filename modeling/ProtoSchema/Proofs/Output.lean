import Mathlib.Data.List.Pairwise
import ProtoSchema.Program
import ProtoSchema.Proofs.NameTable
import ProtoSchema.Proofs.Reading

/-!
# Output files

Two catalogs collide if they go to one file and belong to different packages. The check goes
through the catalogs with the owner of each file name met so far; as long as nothing collides
there is one owner for each name, so the first catalog that collides with an earlier one is
found, and with it the package of every earlier catalog that goes to the same file.

Documents are written after everything that can be checked has been checked. The only
failures that leave something written are those of a file that cannot be written.
-/

namespace ProtoSchema

namespace Output

/-! ## Collisions -/

/-- Two catalogs of different packages go to the same file. -/
def Collide (first second : Catalog) : Prop :=
  Document.fileName first = Document.fileName second ∧ first.path ≠ second.path

/-- No catalog of a list collides with an earlier one. -/
def AreApart (catalogs : List Catalog) : Prop :=
  catalogs.Pairwise fun first second => ¬Collide first second

theorem Collide.symm {first second : Catalog} (collide : Collide first second) :
    Collide second first :=
  ⟨collide.1.symm, collide.2.symm⟩

theorem areApart_iff {catalogs : List Catalog} :
    AreApart catalogs ↔
      ∀ first ∈ catalogs, ∀ second ∈ catalogs,
        Document.fileName first = Document.fileName second → first.path = second.path := by
  constructor
  · intro apart first isFirst second isSecond sameFile
    have symmetric : Std.Symm fun first second : Catalog => ¬Collide first second :=
      ⟨fun _ _ none collide => none collide.symm⟩
    have none : ¬Collide first second :=
      List.Pairwise.forall_of_forall (fun _ _ collide => collide.2 rfl) apart isFirst isSecond
    exact not_not.mp fun different => none ⟨sameFile, different⟩
  · intro same
    exact List.pairwise_of_forall_mem_list fun first isFirst second isSecond collide =>
      collide.2 (same first isFirst second isSecond collide.1)

/-- A failure that names the first catalog that collides with an earlier one, the package of
the earlier one and the file of both. -/
def NamesFirstCollision (catalogs : List Catalog) (failure : Failure) : Prop :=
  ∃ before catalog after, catalogs = before ++ catalog :: after ∧ AreApart before ∧
    ∃ earlier ∈ before, Collide earlier catalog ∧
      failure = .collision earlier.path catalog.path (Document.fileName catalog)

theorem NamesFirstCollision.not_areApart {catalogs : List Catalog} {failure : Failure}
    (names : NamesFirstCollision catalogs failure) : ¬AreApart catalogs := by
  obtain ⟨before, catalog, after, rfl, _, earlier, isEarlier, collide, _⟩ := names
  intro apart
  exact (List.pairwise_append.mp apart).2.2 earlier isEarlier catalog List.mem_cons_self collide

/-! ## Owners -/

/-- The owners are the packages of catalogs that are apart, by the names of their files. -/
structure Owns (owners : NameTable String) (catalogs : List Catalog) : Prop where
  areApart : AreApart catalogs
  find?_iff : ∀ name path, owners.find? name = some path ↔
    ∃ catalog ∈ catalogs, Document.fileName catalog = name ∧ catalog.path = path

theorem owns_empty : Owns .empty [] where
  areApart := .nil
  find?_iff := by simp

section Step

variable {owners : NameTable String} {before : List Catalog} (owns : Owns owners before)
  {catalog : Catalog}
include owns

/-- A catalog collides with an earlier one exactly if its file has another owner. -/
theorem Owns.collide_iff {owner : String}
    (found : owners.find? (Document.fileName catalog) = some owner) :
    (∃ earlier ∈ before, Collide earlier catalog) ↔ owner ≠ catalog.path := by
  constructor
  · rintro ⟨earlier, isEarlier, sameFile, different⟩ rfl
    obtain ⟨other, isOther, sameFileOther, samePath⟩ := (owns.find?_iff _ _).mp found
    exact different ((areApart_iff.mp owns.areApart earlier isEarlier other isOther
      (sameFile.trans sameFileOther.symm)).trans samePath)
  · intro different
    obtain ⟨earlier, isEarlier, sameFile, rfl⟩ := (owns.find?_iff _ _).mp found
    exact ⟨earlier, isEarlier, sameFile, different⟩

theorem Owns.areApart_concat (noneBefore : ∀ earlier ∈ before, ¬Collide earlier catalog) :
    AreApart (before ++ [catalog]) :=
  List.pairwise_append.mpr ⟨owns.areApart, List.pairwise_singleton _ _, by simpa using noneBefore⟩

/-- A further catalog of the owner of its file changes no owner. -/
theorem Owns.keep (found : owners.find? (Document.fileName catalog) = some catalog.path) :
    Owns owners (before ++ [catalog]) where
  areApart := owns.areApart_concat fun earlier isEarlier collide =>
    (owns.collide_iff found).mp ⟨earlier, isEarlier, collide⟩ rfl
  find?_iff := by
    intro name path
    rw [owns.find?_iff]
    constructor
    · rintro ⟨earlier, isEarlier, same⟩
      exact ⟨earlier, List.mem_append_left _ isEarlier, same⟩
    · rintro ⟨other, isOther, rfl, rfl⟩
      rcases List.mem_append.mp isOther with isEarlier | isLast
      · exact ⟨other, isEarlier, rfl, rfl⟩
      · rw [List.mem_singleton.mp isLast]
        exact (owns.find?_iff _ _).mp found

/-- The first catalog that goes to a file becomes its owner. -/
theorem Owns.insert (unowned : owners.find? (Document.fileName catalog) = none) :
    Owns (owners.insert (Document.fileName catalog) catalog.path) (before ++ [catalog]) := by
  have noneBefore : ∀ earlier ∈ before,
      Document.fileName earlier ≠ Document.fileName catalog := by
    intro earlier isEarlier sameFile
    have owned := (owns.find?_iff _ _).mpr ⟨earlier, isEarlier, sameFile, rfl⟩
    rw [unowned] at owned
    contradiction
  refine ⟨owns.areApart_concat fun earlier isEarlier collide =>
    noneBefore earlier isEarlier collide.1, fun name path => ?_⟩
  rw [NameTable.find?_insert]
  split
  · rename_i isName
    subst isName
    constructor
    · intro isPath
      exact ⟨catalog, by simp, rfl, Option.some.inj isPath⟩
    · rintro ⟨other, isOther, sameFile, rfl⟩
      rcases List.mem_append.mp isOther with isEarlier | isLast
      · exact absurd sameFile (noneBefore other isEarlier)
      · rw [List.mem_singleton.mp isLast]
  · rename_i otherName
    rw [owns.find?_iff]
    constructor
    · rintro ⟨earlier, isEarlier, same⟩
      exact ⟨earlier, List.mem_append_left _ isEarlier, same⟩
    · rintro ⟨other, isOther, sameFile, samePath⟩
      rcases List.mem_append.mp isOther with isEarlier | isLast
      · exact ⟨other, isEarlier, sameFile, samePath⟩
      · rw [List.mem_singleton.mp isLast] at sameFile
        exact absurd sameFile.symm otherName

end Step

/-- What the check of the remaining catalogs says about all of them. -/
theorem checkFrom_spec {owners : NameTable String} {before : List Catalog}
    (owns : Owns owners before) (rest : List Catalog) :
    match checkFrom owners rest with
    | .ok () => AreApart (before ++ rest)
    | .error failure => NamesFirstCollision (before ++ rest) failure := by
  induction rest generalizing owners before with
  | nil => simpa [checkFrom] using owns.areApart
  | cons catalog rest ih =>
      rw [List.append_cons before catalog rest]
      simp only [checkFrom]
      cases found : owners.find? (Document.fileName catalog) with
      | none => exact ih (owns.insert found)
      | some owner =>
          by_cases same : owner = catalog.path
          · simpa only [if_pos same] using ih (owns.keep (same ▸ found))
          · obtain ⟨earlier, isEarlier, sameFile, rfl⟩ := (owns.find?_iff _ _).mp found
            simpa only [if_neg same] using
              ⟨before, catalog, rest, by simp, owns.areApart, earlier, isEarlier,
                ⟨sameFile, same⟩, rfl⟩

theorem checkCollisions_eq_ok_iff (catalogs : List Catalog) :
    checkCollisions catalogs = .ok () ↔ AreApart catalogs := by
  have spec := checkFrom_spec owns_empty catalogs
  rw [List.nil_append] at spec
  rw [checkCollisions]
  cases checked : checkFrom .empty catalogs with
  | ok => simpa [checked] using spec
  | error failure =>
      rw [checked] at spec
      exact iff_of_false nofun spec.not_areApart

theorem namesFirstCollision_of_error {catalogs : List Catalog} {failure : Failure}
    (failed : checkCollisions catalogs = .error failure) :
    NamesFirstCollision catalogs failure := by
  have spec := checkFrom_spec owns_empty catalogs
  rw [List.nil_append, ← checkCollisions, failed] at spec
  exact spec

/-- The check with an owner that is replaced by the latest catalog that goes to its file. -/
def checkLatest (owners : NameTable String) : List Catalog → Except Failure Unit
  | [] => .ok ()
  | catalog :: rest =>
    let fileName := Document.fileName catalog
    let replaced := owners.insert fileName catalog.path
    match owners.find? fileName with
    | none => checkLatest replaced rest
    | some owner =>
      if owner ≠ catalog.path then .error (.collision owner catalog.path fileName)
      else checkLatest replaced rest

/-- An owner is replaced by itself only. -/
theorem checkLatest_eq_checkFrom (owners : NameTable String) (catalogs : List Catalog) :
    checkLatest owners catalogs = checkFrom owners catalogs := by
  induction catalogs generalizing owners with
  | nil => rfl
  | cons catalog rest ih =>
      simp only [checkLatest, checkFrom]
      cases found : owners.find? (Document.fileName catalog) with
      | none => exact ih _
      | some owner =>
          by_cases same : owner = catalog.path
          · have unchanged : owners.insert (Document.fileName catalog) catalog.path = owners := by
              apply NameTable.ext_find?
              intro name
              rw [NameTable.find?_insert]
              split
              · rename_i isName
                rw [isName, found, same]
              · rfl
            simp only [same, unchanged, ne_eq, not_true_eq_false, if_false, if_true]
            exact ih owners
          · simp [same]

/-! ## Writing -/

/-- Writing fails only at a file that cannot be written. -/
theorem exists_unwritable_of_failure {options : Document.Options} {directory : Path}
    {files : Files} {catalogs : List Catalog} {failure : Failure}
    (failed : (write options directory files catalogs).failure = some failure) :
    ∃ path error, failure = .unwritable path error := by
  induction catalogs generalizing files with
  | nil => cases failed
  | cons catalog rest ih =>
      rw [write] at failed
      split at failed
      · exact ⟨_, _, (Option.some.inj failed).symm⟩
      · exact ih failed

end Output

namespace Program

/-! ## Failures before writing -/

/-- The directory that documents are written to. -/
def outputDirectory (output : Option Path) (settings : Settings) : Path :=
  (output <|> settings.output).getD .here

/-- What keeps documents from being written: there is no output directory, or some manifest
cannot be read, or two catalogs collide. -/
inductive Hinders (files : Files) (inputs : List Path) (directory : Path) : Failure → Prop where
  | noSuchOutput (missing : files.isDirectory directory = false) :
      Hinders files inputs directory (.noSuchOutput directory)
  | unreadable {failure : Failure} (present : files.isDirectory directory = true)
      (unread : catalogsOf files inputs = .error failure) : Hinders files inputs directory failure
  | collision {catalogs : List Catalog} {failure : Failure}
      (present : files.isDirectory directory = true)
      (read : catalogsOf files inputs = .ok catalogs)
      (collide : Output.checkCollisions catalogs = .error failure) :
      Hinders files inputs directory failure

section Generate

variable {files : Files} {given : List Path} {output : Option Path} {settings : Settings}

theorem planned_of_hinders {failure : Failure} (some : given ++ settings.packages ≠ [])
    (hinders : Hinders files (given ++ settings.packages) (outputDirectory output settings)
      failure) :
    planned files given output settings = .error failure := by
  have inputs : allInputs given settings = .ok (given ++ settings.packages) := by
    rw [allInputs]
    split
    · rename_i none
      exact absurd none some
    · rfl
  rw [planned, inputs]
  change (if !files.isDirectory (outputDirectory output settings) then _ else _) = _
  cases hinders with
  | noSuchOutput missing => rw [missing]; rfl
  | unreadable present unread => rw [present, unread]; rfl
  | collision present read collide =>
      rw [present, read]
      change (Output.checkCollisions _ >>= _) = _
      rw [collide]
      rfl

theorem generate_of_hinders {failure : Failure} (some : given ++ settings.packages ≠ [])
    (hinders : Hinders files (given ++ settings.packages) (outputDirectory output settings)
      failure) :
    generate files given output settings = failed files failure := by
  rw [generate, planned_of_hinders some hinders]

/-- A run that fails, but not at a file that cannot be written, has written nothing. -/
theorem generate_of_failed {failure : Failure}
    (complaint : (generate files given output settings).complaint = some (.failed failure))
    (writable : ∀ path error, failure ≠ .unwritable path error) :
    generate files given output settings = failed files failure := by
  simp only [generate] at complaint ⊢
  cases plan : planned files given output settings with
  | error cause =>
      rw [plan] at complaint
      cases complaint
      rfl
  | ok planning =>
      obtain ⟨catalogs, directory, options⟩ := planning
      simp only [plan] at complaint
      split at complaint
      · rename_i cause stopped
        obtain ⟨path, error, isUnwritable⟩ := Output.exists_unwritable_of_failure stopped
        cases complaint
        exact absurd isUnwritable (writable path error)
      · cases complaint

end Generate

theorem files_inspect (files : Files) (given : List Path) (settings : Settings) :
    (inspect files given settings).files = files := by
  rw [inspect]
  split <;> rfl

theorem files_lint (files : Files) (given : List Path) (format : ReportFormat)
    (settings : Settings) : (lint files given format settings).files = files := by
  rw [lint]
  split <;> rfl

/-- Whatever the arguments, files change only in a run that succeeds or comes to a file that
cannot be written. -/
theorem files_run {files : Files} {args : List String} {failure : Failure}
    (complaint : (run files args).complaint = some (.failed failure))
    (writable : ∀ path error, failure ≠ .unwritable path error) :
    (run files args).files = files := by
  rw [run] at complaint ⊢
  split at complaint
  · rename_i command _
    cases command with
    | generate given output filter settings =>
        simp only [perform] at complaint ⊢
        cases loaded : Settings.load files settings with
        | error cause => rfl
        | ok settings =>
            rw [loaded] at complaint
            simp only [generate_of_failed complaint writable, failed]
    | inspect given settings =>
        simp only [perform]
        cases Settings.load files settings with
        | error cause => rfl
        | ok settings => exact files_inspect files given settings
    | lint given format settings =>
        simp only [perform]
        cases Settings.load files settings with
        | error cause => rfl
        | ok settings => exact files_lint files given format settings
  all_goals rfl

/-- Collisions are found, the first one is named, and this happens before anything is
written: the check succeeds exactly if any two catalogs that go to one file belong to one
package, and a run that fails over its output directory, a manifest or a collision leaves all
files as they are. -/
theorem collisions_stop_before_writing :
    (∀ catalogs : List Catalog,
      (Output.checkCollisions catalogs = .ok () ↔
        ∀ first ∈ catalogs, ∀ second ∈ catalogs,
          Document.fileName first = Document.fileName second → first.path = second.path) ∧
      (∀ failure, Output.checkCollisions catalogs = .error failure →
        Output.NamesFirstCollision catalogs failure) ∧
      Output.checkLatest .empty catalogs = Output.checkCollisions catalogs) ∧
    ∀ (files : Files) (given : List Path) (output : Option Path) (settings : Settings)
      (failure : Failure),
      let result := generate files given output settings
      (given ++ settings.packages ≠ [] →
        Hinders files (given ++ settings.packages) (outputDirectory output settings) failure →
        result = failed files failure ∧ result.files = files ∧ result.documents = []) ∧
      (result.complaint = some (.failed failure) →
        (∀ path error, failure ≠ .unwritable path error) →
        result.files = files ∧ result.documents = []) := by
  refine ⟨fun catalogs => ⟨?_, ?_, ?_⟩, ?_⟩
  · rw [Output.checkCollisions_eq_ok_iff, Output.areApart_iff]
  · exact fun failure => Output.namesFirstCollision_of_error
  · exact Output.checkLatest_eq_checkFrom .empty catalogs
  · intro files given output settings failure result
    constructor
    · intro some hinders
      have stopped : result = failed files failure := generate_of_hinders some hinders
      exact ⟨stopped, by rw [stopped]; rfl, by rw [stopped]; rfl⟩
    · intro complaint writable
      have stopped : result = failed files failure := generate_of_failed complaint writable
      exact ⟨by rw [stopped]; rfl, by rw [stopped]; rfl⟩

/-- Two packages of one name, the second of them after a catalog of the first. -/
theorem collisions_stop_before_writing_shops :
    let files : Files :=
      { root := .directory [("work", .directory
          [("a.json", .file "\x7b\"name\":\"shop\",\"path\":\"a\"\x7d".toUTF8),
            ("b.json", .file "\x7b\"name\":\"shop\",\"path\":\"b\"\x7d".toUTF8)])]
        workingDirectory := ["work"] }
    let inputs : List Path := [⟨"a.json"⟩, ⟨"a.json"⟩, ⟨"b.json"⟩]
    let collision : Failure := .collision "a" "b" "shop.proto"
    let result := generate files inputs none .empty
    inputs ++ Settings.empty.packages ≠ [] ∧
      Hinders files (inputs ++ Settings.empty.packages) (outputDirectory none .empty) collision ∧
      (∃ catalogs, Output.checkCollisions catalogs = .error collision ∧
        Output.NamesFirstCollision catalogs collision) ∧
      result.complaint = some (.failed collision) ∧
      (∀ path error, collision ≠ .unwritable path error) ∧
      result.files = files ∧ result.documents = [] := by
  intro files inputs collision result
  obtain ⟨check, run⟩ := collisions_stop_before_writing
  let first : Manifest := { name := "shop", path := "a", declarations := [] }
  let second : Manifest := { name := "shop", path := "b", declarations := [] }
  have manifests : Manifest.readInputs files inputs = .ok [first, first, second] := by rfl
  have read : catalogsOf files inputs =
      .ok ([first, first, second].map (Catalog.ofManifest .standard)) := by
    rw [catalogsOf, manifests]
    rfl
  have collide : Output.checkCollisions
      ([first, first, second].map (Catalog.ofManifest .standard)) = .error collision := by rfl
  have given : inputs ++ Settings.empty.packages ≠ [] := List.cons_ne_nil _ _
  have hinders : Hinders files (inputs ++ Settings.empty.packages) (outputDirectory none .empty)
      collision := .collision (by decide) read collide
  obtain ⟨stops, unwritten⟩ := run files inputs none .empty collision
  have complaint : result.complaint = some (.failed collision) :=
    congrArg RunResult.complaint (stops given hinders).1
  have writable : ∀ path error, collision ≠ .unwritable path error := nofun
  exact ⟨given, hinders, ⟨_, collide, (check _).2.1 collision collide⟩, complaint, writable,
    unwritten complaint writable⟩

end Program

end ProtoSchema
