import CardCatalog.Command.Run
import CardCatalog.Proofs.Directory.Create
import Mathlib.Data.List.Induction

/-!
# Sessions

A session is a run of invocations of the program on one root. One invocation keeps the catalog and the
settings file, or makes them, or adds the cards of a file to the catalog, or breaks off while it makes
the catalog (`change_invoke`). So after a session that starts without a catalog, the catalog holds what
the imports that succeeded have put into it, and nothing else has changed it and the settings file
exactly if no invocation has broken off (`session_outcome`).
-/

namespace CardCatalog

/-! ## Invocations -/

/-- An invocation of the program: its arguments, the files that are within reach, and what the system
lets be made. -/
structure Invocation where
  arguments : List String
  files : List (String × FileContents)
  access : Access

/-- The command that an invocation asks for, if it asks for one and its arguments are in order. -/
def Invocation.command? (invocation : Invocation) : Option Command :=
  match Arguments.parse? invocation.arguments with
  | some (.command command) => some command
  | _ => none

/-- The command works on a catalog that has been made before. -/
def Command.needsCatalog : Command → Bool
  | .importFile _ | .search _ _ _ _ | .card _ | .stats => true
  | .create | .keys | .compile _ _ _ => false

namespace Directory

/-- The directory as an invocation finds it. -/
def foundBy (directory : Directory) (invocation : Invocation) : Directory :=
  { directory with files := invocation.files, access := invocation.access }

/-- Run the program on a directory: what is left of the directory, and the outcome. -/
def invoke (directory : Directory) (invocation : Invocation) : Directory × Outcome :=
  runProgram (directory.foundBy invocation) invocation.arguments

/-- The directory after a session. -/
def after (directory : Directory) (session : List Invocation) : Directory :=
  session.foldl (fun directory invocation => (directory.invoke invocation).1) directory

/-- The cards that an invocation imports: those of the file that it names, if it is an import and
succeeds. -/
def imported? (directory : Directory) (invocation : Invocation) : Option (List CardRecord) :=
  match invocation.command? with
  | some (.importFile path) =>
      if (directory.invoke invocation).2.code = 0 then
        ((directory.foundBy invocation).readCards path).toOption
      else none
  | _ => none

/-- Under the same root, the directories have the same settings file and the same catalog, or neither
has a file in the place of the catalog. -/
structure SameStore (directory other : Directory) : Prop where
  root : other.root = directory.root
  settingsFile : other.settingsFile = directory.settingsFile
  initialized : other.isInitialized = directory.isInitialized
  catalog : other.catalog = directory.catalog

/-- The invocation asks for the catalog to be made where there is none, and breaks off once there is a
file in its place. -/
def BreaksOff (directory : Directory) (invocation : Invocation) : Prop :=
  invocation.command? = some .create ∧ directory.isInitialized = false ∧
    ¬(directory.foundBy invocation).StopsEarly ∧
    ¬(directory.foundBy invocation).ComesToEnd (.initial directory.root)

/-- What an invocation may do to a directory, and the outcome that goes with it. -/
inductive Change (directory : Directory) (invocation : Invocation) (next : Directory)
    (outcome : Outcome) : Prop where
  /-- The catalog and the settings file are kept. -/
  | kept (hsame : directory.SameStore next) (himported : directory.imported? invocation = none)
      (hcreate : invocation.command? = some .create → outcome.code = 0 →
        directory.isInitialized = true)
  /-- The catalog is made, and the initial settings are written. -/
  | created (hcommand : invocation.command? = some .create) (hnew : directory.isInitialized = false)
      (hcode : outcome.code = 0) (hroot : next.root = directory.root)
      (hcatalog : next.catalog = some .empty) {content : String}
      (htext : (Settings.initial directory.root).text? = some content)
      (hsettings : next.settingsFile = some (.text content))
  /-- Something is left of a catalog that has not been made to the end. -/
  | brokenOff (hbreaks : directory.BreaksOff invocation) (hcode : outcome.code = 1)
      (hroot : next.root = directory.root) (hinitialized : next.isInitialized = true)
      (hcatalog : next.catalog = none ∨ next.catalog = some .empty)
  /-- The cards of a file are imported. -/
  | imported {path : String} {catalog added : Catalog} {cards : List CardRecord}
      (hcommand : invocation.command? = some (.importFile path))
      (hcatalog : directory.catalog = some catalog) (himport : catalog.import? cards = some added)
      (hcode : outcome.code = 0) (himported : directory.imported? invocation = some cards)
      (hnext : next = (directory.foundBy invocation).withCatalog added)

end Directory

/-! ## One command -/

namespace Command

variable (directory : Directory)

/-- A catalog that is there is not made again. -/
theorem run_create_eq_of_is_initialized (h : directory.isInitialized = true) :
    runCreate directory =
      (directory, .ofResult (.ok ("Catalog already initialized at " ++ directory.root.shown ++ "\n"))) :=
  if_pos h

/-- Where there is none, the outcome tells whether it has been made. -/
theorem run_create_of_new {left : Directory} {result : Except Failure Unit}
    (hnew : directory.isInitialized = false)
    (hcreate : directory.createCatalog (.initial directory.root) = (left, result)) :
    (runCreate directory).1 = left ∧
      (runCreate directory).2.code = if result.isOk then 0 else 1 := by
  rw [runCreate, if_neg (by simp [hnew]), hcreate]
  cases result <;> exact ⟨rfl, rfl⟩

/-- An import fails and leaves the directory, or it adds the cards of the file to the catalog. -/
theorem run_import_cases (path : String) :
    (∃ failure, runImport directory path = (directory, .ofResult (.error failure))) ∨
      ∃ catalog added cards output, directory.catalog = some catalog ∧
        directory.readCards path = .ok cards ∧ catalog.import? cards = some added ∧
        runImport directory path = (directory.withCatalog added, .ofResult (.ok output)) := by
  unfold runImport Directory.importFile Directory.importCounted Directory.importCards
  cases directory.loadSettings with
  | error failure => exact .inl ⟨failure, rfl⟩
  | ok settings =>
      cases directory.checkInitialized with
      | error failure => exact .inl ⟨failure, rfl⟩
      | ok _ =>
          cases hcards : directory.readCards path with
          | error failure => exact .inl ⟨failure, rfl⟩
          | ok cards =>
              cases hopen : directory.openCatalog with
              | error failure => exact .inl ⟨failure, rfl⟩
              | ok catalog =>
                  have hcatalog := Directory.open_catalog_eq_ok_iff.1 hopen
                  cases himport : catalog.import? cards with
                  | none => exact .inl ⟨.refused, by simp [bind, Except.bind, himport]⟩
                  | some added =>
                      exact .inr ⟨catalog, added, cards, _, hcatalog, rfl, himport,
                        by simp [bind, Except.bind, himport]; rfl⟩

/-- A command that needs a catalog fails without one. -/
theorem run_code_of_none {command : Command} (hcatalog : directory.catalog = none)
    (hneeds : command.needsCatalog = true) : (command.run directory).2.code = 1 := by
  obtain ⟨failure, hopen⟩ := Directory.open_catalog_eq_error hcatalog
  cases command with
  | create | keys | compile _ _ _ => cases hneeds
  | importFile path =>
      obtain ⟨failure, hfailed⟩ | ⟨catalog, _, _, _, hsome, _⟩ := run_import_cases directory path
      · rw [run, hfailed]
        rfl
      · exact absurd hcatalog (by simp [hsome])
  | search query limit format includeExtras =>
      unfold run Directory.runSearch
      cases directory.openWithSettings with
      | error _ => rfl
      | ok settings =>
          simp [Directory.search, hopen, bind, Except.bind, Except.map, Outcome.ofResult]
  | card id =>
      unfold run
      cases directory.openWithSettings with
      | error _ => rfl
      | ok settings => simp [Directory.card, hopen, bind, Except.bind, Outcome.ofResult]
  | stats =>
      unfold run runStatistics
      cases directory.openWithSettings with
      | error _ => rfl
      | ok settings =>
          simp [Directory.statistics, Directory.count, hopen, bind, Except.bind,
            Outcome.ofResultAfter]

/-- A command that may not write leaves the directory. -/
theorem run_of_may_write {command : Command} (h : command.mayWrite = false) :
    (command.run directory).1 = directory := by
  cases command with
  | create | importFile _ => cases h
  | search _ _ _ _ | card _ | keys | compile _ _ _ | stats => rfl

end Command

/-! ## One invocation -/

namespace Directory

section

variable (directory : Directory) {invocation : Invocation}

/-- An invocation finds the root, the settings file and the catalog that are there. -/
theorem same_store_found_by (invocation : Invocation) :
    directory.SameStore (directory.foundBy invocation) :=
  ⟨rfl, rfl, rfl, rfl⟩

/-- An invocation without a command keeps everything. -/
theorem invoke_of_command_eq_none (h : invocation.command? = none) :
    (directory.invoke invocation).1 = directory.foundBy invocation := by
  unfold Invocation.command? at h
  unfold invoke runProgram
  cases hparse : Arguments.parse? invocation.arguments with
  | none => rfl
  | some request =>
      cases request with
      | command command => simp [hparse] at h
      | help | version => rfl

/-- An invocation carries out the command that it asks for. -/
theorem invoke_of_command {command : Command} (h : invocation.command? = some command) :
    directory.invoke invocation = command.run (directory.foundBy invocation) := by
  unfold Invocation.command? at h
  unfold invoke runProgram
  cases hparse : Arguments.parse? invocation.arguments with
  | none => simp [hparse] at h
  | some request =>
      cases request with
      | command other =>
          obtain rfl : other = command := by simpa [hparse] using h
          rfl
      | help | version => simp [hparse] at h

/-- Only an import imports cards. -/
theorem imported_eq_none (h : ∀ path, invocation.command? ≠ some (.importFile path)) :
    directory.imported? invocation = none := by
  rw [imported?]
  split
  · rename_i path hcommand
    exact absurd hcommand (h path)
  · rfl

/-- An import imports the cards of its file if it succeeds. -/
theorem imported_of_import {path : String} (h : invocation.command? = some (.importFile path)) :
    directory.imported? invocation =
      if (directory.invoke invocation).2.code = 0 then
        ((directory.foundBy invocation).readCards path).toOption
      else none := by
  rw [imported?, h]

/-- Where an invocation asks for the catalog to be made, it is made unless there is one, or the
invocation stops early or breaks off. -/
theorem change_of_create (h : invocation.command? = some .create) :
    directory.Change invocation (directory.invoke invocation).1
      (directory.invoke invocation).2 := by
  have himported : directory.imported? invocation = none :=
    imported_eq_none directory (by simp [h])
  have hinvoke : directory.invoke invocation = Command.runCreate (directory.foundBy invocation) :=
    invoke_of_command directory h
  rw [hinvoke]
  cases hinitialized : directory.isInitialized with
  | true =>
      rw [Command.run_create_eq_of_is_initialized (directory.foundBy invocation) hinitialized]
      exact .kept (directory.same_store_found_by invocation) himported fun _ _ => hinitialized
  | false =>
      have hnew : (directory.foundBy invocation).isInitialized = false := hinitialized
      by_cases hend : (directory.foundBy invocation).ComesToEnd (.initial directory.root)
      · obtain ⟨content, htext, hcreate⟩ := hend.create_catalog hnew
        obtain ⟨hleft, hcode⟩ := Command.run_create_of_new _ hnew hcreate
        exact .created h hinitialized hcode (by rw [hleft]; rfl) (by rw [hleft]; rfl) htext
          (by rw [hleft])
      · by_cases hearly : (directory.foundBy invocation).StopsEarly
        · obtain ⟨failure, left, hcreate, hnone, hsettings⟩ :=
            hearly.create_catalog (.initial directory.root) hnew
          obtain ⟨hleft, hcode⟩ := Command.run_create_of_new _ hnew hcreate
          obtain ⟨hroot, _⟩ := create_catalog_keeps hnew hcreate
          rw [hleft]
          refine .kept ⟨hroot, hsettings, hnone.trans hinitialized.symm, ?_⟩ himported fun _ hzero => ?_
          · rw [catalog_eq_none_of_new hnone, catalog_eq_none_of_new hinitialized]
          · exact absurd (hcode.symm.trans hzero) (by simp [Except.isOk, Except.toBool])
        · obtain ⟨failure, left, hcreate, hthere⟩ := create_catalog_of_stops_midway hnew hearly hend
          obtain ⟨hleft, hcode⟩ := Command.run_create_of_new _ hnew hcreate
          obtain ⟨hroot, hcatalog⟩ := create_catalog_keeps hnew hcreate
          rw [hleft]
          exact .brokenOff ⟨h, hinitialized, hearly, hend⟩ hcode hroot hthere hcatalog

/-- An import adds the cards of its file to the catalog, or fails. -/
theorem change_of_import {path : String} (h : invocation.command? = some (.importFile path)) :
    directory.Change invocation (directory.invoke invocation).1
      (directory.invoke invocation).2 := by
  have himported := imported_of_import directory h
  rw [invoke_of_command directory h, Command.run] at himported ⊢
  obtain ⟨failure, hrun⟩ | ⟨catalog, added, cards, output, hcatalog, hcards, himport, hrun⟩ :=
    Command.run_import_cases (directory.foundBy invocation) path
  · rw [hrun] at himported ⊢
    exact .kept (directory.same_store_found_by invocation) himported (by simp [h])
  · rw [hrun, hcards] at himported
    rw [hrun]
    exact .imported h hcatalog himport rfl himported rfl

/-- What an invocation does is a change that it may make. -/
theorem change_invoke (invocation : Invocation) :
    directory.Change invocation (directory.invoke invocation).1
      (directory.invoke invocation).2 := by
  have hfound := directory.same_store_found_by invocation
  cases hcommand : invocation.command? with
  | none =>
      rw [invoke_of_command_eq_none directory hcommand]
      exact .kept hfound (imported_eq_none directory (by simp [hcommand])) (by simp [hcommand])
  | some command =>
      cases command with
      | create => exact change_of_create directory hcommand
      | importFile path => exact change_of_import directory hcommand
      | search _ _ _ _ | card _ | keys | compile _ _ _ | stats =>
          rw [invoke_of_command directory hcommand, Command.run_of_may_write _ rfl]
          exact .kept hfound (imported_eq_none directory (by simp [hcommand])) (by simp [hcommand])

end

variable {directory next : Directory} {invocation : Invocation} {outcome : Outcome}

/-- An invocation that breaks off fails, and there is a file in the place of the catalog then. -/
theorem BreaksOff.invoke (h : directory.BreaksOff invocation) :
    (directory.invoke invocation).2.code = 1 ∧
      (directory.invoke invocation).1.isInitialized = true := by
  obtain ⟨hcommand, hnew, hearly, hend⟩ := h
  have hfound : (directory.foundBy invocation).isInitialized = false := hnew
  obtain ⟨failure, left, hcreate, hleft⟩ := create_catalog_of_stops_midway hfound hearly hend
  obtain ⟨hrun, hcode⟩ := Command.run_create_of_new _ hfound hcreate
  rw [invoke_of_command directory hcommand]
  exact ⟨hcode, by rw [Command.run, hrun, hleft]⟩

/-- An invocation that fails, that only looks, or that asks for a catalog that is there, keeps the
catalog and the settings file unless it breaks off. -/
theorem Change.same_store (h : directory.Change invocation next outcome)
    (hunbroken : ¬directory.BreaksOff invocation)
    (hidle : outcome.code ≠ 0 ∨ (∀ command ∈ invocation.command?, command.mayWrite = false) ∨
      (invocation.command? = some .create ∧ directory.isInitialized = true)) :
    directory.SameStore next := by
  cases h with
  | kept hsame _ _ => exact hsame
  | created hcommand hnew hcode _ _ _ _ =>
      rcases hidle with hfailed | hlooks | ⟨_, hinitialized⟩
      · exact absurd hcode hfailed
      · exact absurd (hlooks _ hcommand) (by decide)
      · exact absurd hinitialized (by simp [hnew])
  | brokenOff hbreaks _ _ _ _ => exact absurd hbreaks hunbroken
  | imported hcommand _ _ hcode _ _ =>
      rcases hidle with hfailed | hlooks | ⟨hcreate, _⟩
      · exact absurd hcode hfailed
      · exact absurd (hlooks _ hcommand) (by simp [Command.mayWrite])
      · exact absurd (hcommand.symm.trans hcreate) (by simp)

/-- No invocation goes to another root. -/
theorem Change.root (h : directory.Change invocation next outcome) : next.root = directory.root := by
  cases h with
  | kept hsame _ _ => exact hsame.root
  | created _ _ _ hroot _ _ _ | brokenOff _ _ hroot _ _ => exact hroot
  | imported _ _ _ _ _ hnext => rw [hnext]; rfl

/-- A command that needs a catalog fails without one. -/
theorem invoke_code_of_none (hcatalog : directory.catalog = none) {command : Command}
    (hcommand : invocation.command? = some command) (hneeds : command.needsCatalog = true) :
    (directory.invoke invocation).2.code = 1 := by
  have hnone : (directory.foundBy invocation).catalog = none := hcatalog
  rw [invoke_of_command directory hcommand]
  exact Command.run_code_of_none _ hnone hneeds

/-- An invocation that is refused nothing does not break off under a root with a text. -/
theorem not_breaks_off {root : String} (hroot : directory.root = root)
    (hmade : invocation.access.database = .made)
    (hwritten : invocation.access.settingsFile = .written) : ¬directory.BreaksOff invocation := by
  rintro ⟨_, _, hearly, hend⟩
  rw [StopsEarly, not_or, Bool.not_eq_false] at hearly
  rw [hroot] at hend
  exact hend ⟨hearly.1, hmade, Settings.is_writable_initial root, hwritten⟩

end Directory

/-! ## Sessions -/

/-- Import lists of cards one after the other. -/
def Catalog.importAll? (catalog : Catalog) (batches : List (List CardRecord)) : Option Catalog :=
  batches.foldlM import? catalog

namespace Directory

/-- The cards of the imports of a session that succeed, in order. -/
def successfulImports : Directory → List Invocation → List (List CardRecord)
  | _, [] => []
  | directory, invocation :: session =>
      (directory.imported? invocation).toList ++
        (directory.invoke invocation).1.successfulImports session

/-- The invocation asks for the catalog to be made, and succeeds. -/
def Creates (directory : Directory) (invocation : Invocation) : Prop :=
  invocation.command? = some .create ∧ (directory.invoke invocation).2.code = 0

/-- An invocation of the session has asked for the catalog to be made, and succeeded. -/
def HasCreated (start : Directory) (session : List Invocation) : Prop :=
  ∃ earlier invocation,
    earlier ++ [invocation] <+: session ∧ (start.after earlier).Creates invocation

/-- No invocation of the session has broken off. -/
def Unbroken (start : Directory) (session : List Invocation) : Prop :=
  ∀ earlier invocation,
    earlier ++ [invocation] <+: session → ¬(start.after earlier).BreaksOff invocation

/-- The catalog, if it has been made, holds what the imports of the session have put into it, one after
the other. -/
structure HoldsOnlyImports (start : Directory) (session : List Invocation) : Prop where
  stored : ∀ catalog, (start.after session).catalog = some catalog →
    Catalog.empty.importAll? (start.successfulImports session) = some catalog
  absent : (start.after session).catalog = none → start.successfulImports session = []

/-- The catalog holds what the imports of the session have put into it, one after the other, and the
settings file holds the initial settings. -/
structure HoldsImports (start : Directory) (session : List Invocation) (catalog : Catalog) :
    Prop where
  root : (start.after session).root = start.root
  settingsFile : ∃ content, (Settings.initial start.root).text? = some content ∧
    (start.after session).settingsFile = some (.text content)
  stored : (start.after session).catalog = some catalog
  imports : Catalog.empty.importAll? (start.successfulImports session) = some catalog

/-- What a session leaves in a directory that had no catalog. -/
structure SessionOutcome (start : Directory) (session : List Invocation) : Prop where
  /-- Once the catalog has been made, it holds what the successful imports have put into it. -/
  initialized : start.HasCreated session → ∃ catalog, start.HoldsImports session catalog
  /-- Before, everything is as it was at the start. -/
  uninitialized : ¬start.HasCreated session →
    start.SameStore (start.after session) ∧ start.successfulImports session = []
  /-- Before, commands that need a catalog fail. -/
  refused : ∀ earlier invocation, earlier ++ [invocation] <+: session → ¬start.HasCreated earlier →
    ∀ command, invocation.command? = some command → command.needsCatalog = true →
      ((start.after earlier).invoke invocation).2.code = 1
  /-- Whatever fails, whatever only looks, and whatever asks again for the catalog to be made, keeps
  the catalog and the settings file. -/
  kept : ∀ earlier invocation, earlier ++ [invocation] <+: session →
    ((start.after earlier).invoke invocation).2.code ≠ 0 ∨
        (∀ command ∈ invocation.command?, command.mayWrite = false) ∨
        (invocation.command? = some .create ∧ start.HasCreated earlier) →
      (start.after earlier).SameStore ((start.after earlier).invoke invocation).1

variable {start : Directory}

/-- The last invocation of a session finds what the session before it has left. -/
theorem after_concat (start : Directory) (session : List Invocation) (invocation : Invocation) :
    start.after (session ++ [invocation]) = ((start.after session).invoke invocation).1 := by
  rw [after, after, List.foldl_append]
  rfl

/-- The last invocation of a session adds its cards to those of the session before it. -/
theorem successful_imports_concat (start : Directory) (session : List Invocation)
    (invocation : Invocation) :
    start.successfulImports (session ++ [invocation]) =
      start.successfulImports session ++ ((start.after session).imported? invocation).toList := by
  induction session generalizing start with
  | nil => rw [List.nil_append, successfulImports, successfulImports, successfulImports,
      List.append_nil, List.nil_append]; rfl
  | cons first session ih =>
      rw [List.cons_append, successfulImports, ih, successfulImports, List.append_assoc]
      rfl

/-- A session has made the catalog if the session before its last invocation has, or if that
invocation does. -/
theorem has_created_concat (start : Directory) (session : List Invocation)
    (invocation : Invocation) :
    start.HasCreated (session ++ [invocation]) ↔
      start.HasCreated session ∨ (start.after session).Creates invocation := by
  constructor
  · rintro ⟨earlier, creator, hbefore, hcreates⟩
    rcases List.prefix_concat_iff.1 hbefore with heq | hbefore
    · obtain ⟨rfl, rfl⟩ : earlier = session ∧ creator = invocation := by simpa using heq
      exact .inr hcreates
    · exact .inl ⟨earlier, creator, hbefore, hcreates⟩
  · rintro (⟨earlier, creator, hbefore, hcreates⟩ | hcreates)
    · exact ⟨earlier, creator, hbefore.trans (List.prefix_append _ _), hcreates⟩
    · exact ⟨session, invocation, List.prefix_refl _, hcreates⟩

/-- Before the first invocation, the catalog has not been made. -/
theorem not_has_created_nil : ¬start.HasCreated [] := by
  rintro ⟨earlier, invocation, hbefore, _⟩
  simp at hbefore

/-- What a session begins with is not broken if the session is not. -/
theorem Unbroken.of_prefix {session earlier : List Invocation} (h : start.Unbroken session)
    (hbefore : earlier <+: session) : start.Unbroken earlier :=
  fun first invocation hfirst => h first invocation (hfirst.trans hbefore)

/-- What keeps the store twice keeps it. -/
theorem SameStore.trans {directory other third : Directory} (h : directory.SameStore other)
    (h' : other.SameStore third) : directory.SameStore third :=
  ⟨h'.root.trans h.root, h'.settingsFile.trans h.settingsFile, h'.initialized.trans h.initialized,
    h'.catalog.trans h.catalog⟩

variable {session : List Invocation} {invocation : Invocation}

/-! ### The cards of a session -/

/-- An import adds its cards to those that have been imported before. -/
theorem import_all_concat {catalog added : Catalog} {batches : List (List CardRecord)}
    {cards : List CardRecord} (h : Catalog.empty.importAll? batches = some catalog)
    (himport : catalog.import? cards = some added) :
    Catalog.empty.importAll? (batches ++ [cards]) = some added := by
  rw [Catalog.importAll?] at h
  rw [Catalog.importAll?, List.foldlM_append, h]
  simp [himport]

/-- Whatever an invocation does, the catalog goes on to hold the cards of the successful imports. -/
theorem HoldsOnlyImports.concat (h : start.HoldsOnlyImports session) (invocation : Invocation) :
    start.HoldsOnlyImports (session ++ [invocation]) := by
  have hafter := after_concat start session invocation
  have hconcat := successful_imports_concat start session invocation
  cases (start.after session).change_invoke invocation with
  | kept hsame himported _ =>
      rw [himported, Option.toList_none, List.append_nil] at hconcat
      constructor <;> rw [hafter, hconcat, hsame.catalog]
      · exact h.stored
      · exact h.absent
  | created hcommand hnew _ _ hcatalog _ _ =>
      rw [imported_eq_none _ (by simp [hcommand]), h.absent (catalog_eq_none_of_new hnew)] at hconcat
      constructor <;> rw [hafter, hconcat, hcatalog]
      · rintro catalog ⟨⟩
        rfl
      · simp
  | brokenOff hbreaks _ _ _ hcatalog =>
      rw [imported_eq_none _ (by simp [hbreaks.1]),
        h.absent (catalog_eq_none_of_new hbreaks.2.1)] at hconcat
      constructor <;> rw [hafter, hconcat]
      · intro catalog hstored
        obtain rfl : Catalog.empty = catalog := by simpa [hstored, eq_comm] using hcatalog
        rfl
      · simp
  | imported _ hcatalog himport _ himported hnext =>
      rw [himported, Option.toList_some] at hconcat
      constructor <;> rw [hafter, hnext]
      · rintro catalog ⟨⟩
        rw [hconcat]
        exact import_all_concat (h.stored _ hcatalog) himport
      · exact fun hnone => absurd hnone (by simp [withCatalog, catalog, Database.catalog?])

/-- After any session that starts without a catalog, the catalog holds the cards of the successful
imports, if it is there. -/
theorem holds_only_imports (hstart : start.isInitialized = false) (session : List Invocation) :
    start.HoldsOnlyImports session := by
  induction session using List.reverseRecOn with
  | nil =>
      have hnone := catalog_eq_none_of_new hstart
      exact ⟨fun catalog hstored => absurd hstored (by simp [after, hnone]), fun _ => rfl⟩
  | append_singleton session invocation ih => exact ih.concat invocation

/-! ### The store during a session -/

/-- What an unbroken session may have left in a directory that had no catalog. -/
inductive Reached (start : Directory) (session : List Invocation) : Prop where
  | untouched (hcreated : ¬start.HasCreated session) (hsame : start.SameStore (start.after session))
  | made (hcreated : start.HasCreated session) {catalog : Catalog}
      (hstored : (start.after session).catalog = some catalog)
      (hroot : (start.after session).root = start.root) {content : String}
      (htext : (Settings.initial start.root).text? = some content)
      (hsettings : (start.after session).settingsFile = some (.text content))

/-- There is a file where there is a catalog. -/
theorem is_initialized_of_catalog {directory : Directory} {catalog : Catalog}
    (h : directory.catalog = some catalog) : directory.isInitialized = true := by
  cases hinitialized : directory.isInitialized with
  | true => rfl
  | false => exact absurd (catalog_eq_none_of_new hinitialized) (by simp [h])

/-- As long as there is no catalog, an invocation that does not break off makes one or leaves
everything. -/
theorem reached_concat_of_untouched (hstart : start.isInitialized = false)
    (hunbroken : ¬(start.after session).BreaksOff invocation) (hcreated : ¬start.HasCreated session)
    (hsame : start.SameStore (start.after session)) : start.Reached (session ++ [invocation]) := by
  have hafter := after_concat start session invocation
  have hnew : (start.after session).isInitialized = false := hsame.initialized.trans hstart
  cases (start.after session).change_invoke invocation with
  | kept hkept _ hcreate =>
      refine .untouched ?_ (by rw [hafter]; exact hsame.trans hkept)
      rw [has_created_concat, not_or]
      exact ⟨hcreated, fun hcreates => by simp [hcreate hcreates.1 hcreates.2] at hnew⟩
  | created hcommand _ hcode hroot hcatalog htext hsettings =>
      rw [← hafter] at hroot hcatalog hsettings
      rw [hsame.root] at htext hroot
      exact .made ((has_created_concat _ _ _).2 (.inr ⟨hcommand, hcode⟩)) hcatalog hroot htext
        hsettings
  | brokenOff hbreaks _ _ _ _ => exact absurd hbreaks hunbroken
  | imported _ hcatalog _ _ _ _ =>
      exact absurd hcatalog (by simp [catalog_eq_none_of_new hnew])

/-- Once there is a catalog, an invocation adds the cards of an import to it or leaves everything. -/
theorem reached_concat_of_made (hcreated : start.HasCreated session) {catalog : Catalog}
    (hstored : (start.after session).catalog = some catalog)
    (hroot : (start.after session).root = start.root) {content : String}
    (htext : (Settings.initial start.root).text? = some content)
    (hsettings : (start.after session).settingsFile = some (.text content)) :
    start.Reached (session ++ [invocation]) := by
  have hafter := after_concat start session invocation
  have hcreated' := (has_created_concat start session invocation).2 (.inl hcreated)
  have hinitialized := is_initialized_of_catalog hstored
  cases (start.after session).change_invoke invocation with
  | kept hsame _ _ =>
      rw [← hafter] at hsame
      exact .made hcreated' (hsame.catalog.trans hstored) (hsame.root.trans hroot) htext
        (hsame.settingsFile.trans hsettings)
  | created _ hnew _ _ _ _ _ => simp [hinitialized] at hnew
  | brokenOff hbreaks _ _ _ _ => exact absurd hbreaks.2.1 (by simp [hinitialized])
  | imported _ _ _ _ _ hnext =>
      rw [← hafter] at hnext
      refine .made hcreated' (by rw [hnext]; rfl) (by rw [hnext]; exact hroot) htext ?_
      rw [hnext]
      exact hsettings

/-- An unbroken session that starts without a catalog leaves everything until it has made one. -/
theorem reached_after (hstart : start.isInitialized = false) (session : List Invocation)
    (hunbroken : start.Unbroken session) : start.Reached session := by
  induction session using List.reverseRecOn with
  | nil => exact .untouched not_has_created_nil ⟨rfl, rfl, rfl, rfl⟩
  | append_singleton session invocation ih =>
      cases ih (hunbroken.of_prefix (List.prefix_append _ _)) with
      | untouched hcreated hsame =>
          have hlast := hunbroken session invocation (List.prefix_refl _)
          exact reached_concat_of_untouched hstart hlast hcreated hsame
      | made hcreated hstored hroot htext hsettings =>
          exact reached_concat_of_made hcreated hstored hroot htext hsettings

/-- An unbroken session changes the catalog by its successful imports only, and the settings file not at
all once the catalog has been made. -/
theorem SessionOutcome.of_unbroken (hstart : start.isInitialized = false)
    (hunbroken : start.Unbroken session) : start.SessionOutcome session := by
  have hholds := holds_only_imports hstart session
  have hreached := reached_after hstart session hunbroken
  have hearlier {earlier : List Invocation} {invocation : Invocation}
      (hbefore : earlier ++ [invocation] <+: session) : start.Reached earlier :=
    reached_after hstart earlier
      (hunbroken.of_prefix ((List.prefix_append _ _).trans hbefore))
  refine ⟨fun h => ?_, fun h => ?_, fun earlier invocation hbefore h command hcommand hneeds => ?_,
    fun earlier invocation hbefore hidle => ?_⟩
  · cases hreached with
    | untouched hcreated _ => exact absurd h hcreated
    | made _ hstored hroot htext hsettings =>
        exact ⟨_, hroot, ⟨_, htext, hsettings⟩, hstored, hholds.stored _ hstored⟩
  · cases hreached with
    | untouched _ hsame =>
        exact ⟨hsame, hholds.absent (hsame.catalog.trans (catalog_eq_none_of_new hstart))⟩
    | made hcreated _ _ _ _ => exact absurd hcreated h
  · cases hearlier hbefore with
    | untouched _ hsame =>
        exact invoke_code_of_none (hsame.catalog.trans (catalog_eq_none_of_new hstart)) hcommand hneeds
    | made hcreated _ _ _ _ => exact absurd hcreated h
  · refine ((start.after earlier).change_invoke invocation).same_store
      (hunbroken earlier invocation hbefore) ?_
    refine hidle.imp_right (Or.imp_right fun ⟨hcommand, h⟩ => ⟨hcommand, ?_⟩)
    cases hearlier hbefore with
    | untouched hcreated _ => exact absurd h hcreated
    | made _ hstored _ _ _ => exact is_initialized_of_catalog hstored

/-- An invocation that breaks off fails without keeping the catalog as it was. -/
theorem SessionOutcome.unbroken (h : start.SessionOutcome session) : start.Unbroken session := by
  intro earlier invocation hbefore hbreaks
  obtain ⟨hcode, hinitialized⟩ := hbreaks.invoke
  have hsame := h.kept earlier invocation hbefore (.inl (by simp [hcode]))
  have hthere := hsame.initialized.symm.trans hinitialized
  simp [hbreaks.2.1] at hthere

/-- No session goes to another root. -/
theorem root_after (start : Directory) (session : List Invocation) :
    (start.after session).root = start.root := by
  induction session using List.reverseRecOn with
  | nil => rfl
  | append_singleton session invocation ih =>
      rw [after_concat, ((start.after session).change_invoke invocation).root, ih]

/-- A session is not broken under a root with a text if the system lets every invocation make the
database and write the settings file. -/
theorem unbroken_of_access {root : String} (hroot : start.root = root)
    (haccess : ∀ invocation ∈ session,
      invocation.access.database = .made ∧ invocation.access.settingsFile = .written) :
    start.Unbroken session := by
  intro earlier invocation hbefore
  have hmem : invocation ∈ session := hbefore.subset (by simp)
  obtain ⟨hmade, hwritten⟩ := haccess invocation hmem
  exact not_breaks_off ((root_after start earlier).trans hroot) hmade hwritten

/-- In a session that starts without a catalog, only imports that succeed change the catalog once it
has been made, nothing changes the settings file then, and commands that need a catalog fail before,
exactly if no invocation breaks off while it makes the catalog; none does under a root with a text where
the system lets the database be made and the settings file be written. And whatever breaks off, the
catalog holds the cards of the successful imports and no others. -/
theorem session_outcome (hstart : start.isInitialized = false) (session : List Invocation) :
    (start.SessionOutcome session ↔ start.Unbroken session) ∧
      (∀ root : String, start.root = root →
        (∀ invocation ∈ session,
          invocation.access.database = .made ∧ invocation.access.settingsFile = .written) →
        start.SessionOutcome session) ∧
      start.HoldsOnlyImports session :=
  ⟨⟨SessionOutcome.unbroken, .of_unbroken hstart⟩,
    fun _ hroot haccess => .of_unbroken hstart (unbroken_of_access hroot haccess),
    holds_only_imports hstart session⟩

/-- A directory without a catalog, whose settings cannot be understood. -/
def brokenSettings : Directory :=
  { Directory.empty "/cards" with settingsFile := some (.text "limit") }

/-- A file with one card. -/
def elfFile : String × FileContents :=
  ("elves.json", .text ("[\x7b\"id\": \"00000000-0000-0000-0000-000000000001\", " ++
    "\"name\": \"Llanowar Elves\", \"set\": \"M19\", \"rarity\": \"common\"\x7d]"))

/-- A session in which a search fails, the catalog is made, a card is imported, another import
fails, and the catalog is asked for again. -/
def elfSession : List Invocation :=
  [⟨["search", "t:elf"], [], .full⟩, ⟨["init"], [], .full⟩,
   ⟨["import", "elves.json"], [elfFile], .full⟩, ⟨["import", "goblins.json"], [], .full⟩,
   ⟨["init"], [], .full⟩]

/-- After the session the catalog has been made, and holds the card of the import that succeeded. -/
theorem session_outcome_elves :
    brokenSettings.isInitialized = false ∧ brokenSettings.SessionOutcome elfSession ∧
      brokenSettings.HasCreated elfSession ∧
      (brokenSettings.after elfSession).catalog.map Catalog.size = some 1 := by
  have hcreates : (brokenSettings.after (elfSession.take 1)).Creates ⟨["init"], [], .full⟩ := by
    rw [Creates]
    decide +kernel
  have houtcome : brokenSettings.SessionOutcome elfSession :=
    (session_outcome rfl elfSession).2.1 "/cards" rfl (by decide)
  refine ⟨rfl, houtcome, ⟨elfSession.take 1, _, ?_, hcreates⟩, ?_⟩
  · exact List.prefix_append _ (elfSession.drop 2)
  · decide +kernel

/-- Under a root that no text spells, the catalog is not made to the end, and yet cards are imported
into what is left of it. -/
theorem not_session_outcome_latin_root :
    latinEnvironment.root? = some latinRoot ∧
      (empty latinRoot).isInitialized = false ∧
      ((empty latinRoot).invoke ⟨["init"], [], .full⟩).2.code = 1 ∧
      (((empty latinRoot).after [⟨["init"], [], .full⟩]).invoke
        ⟨["import", "elves.json"], [elfFile], .full⟩).2.code = 0 ∧
      ¬(empty latinRoot).SessionOutcome
        [⟨["init"], [], .full⟩, ⟨["import", "elves.json"], [elfFile], .full⟩] := by
  refine ⟨by decide +kernel, rfl, by decide +kernel, by decide +kernel, fun h => ?_⟩
  refine h.unbroken [] _ (List.prefix_append _ _) ⟨by decide +kernel, rfl, ?_, ?_⟩
  · decide +kernel
  · decide +kernel

end Directory

end CardCatalog
