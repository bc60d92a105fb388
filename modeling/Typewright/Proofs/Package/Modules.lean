/-
  Typewright/Proofs/Package/Modules.lean
  ======================================
  **Modules and files** — the package root declares just the files that are there.

  The module of a model is named twice: where the model is rendered, which says in which
  file it belongs, and where the package root is put together, which knows nothing but
  the name of the type.  The default convention looks at the name alone, so the two
  agree (`root_declares_files`).

  A module has a name of name characters, and some of them.  So its file is one step
  below the directory of sources, whatever the identifiers of the models hold.
-/
import Typewright.Proofs.Naming.Convention
import Typewright.Proofs.Package.Writing
import Typewright.Proofs.Render.Outputs

namespace Typewright

/-! ### A reader of package roots -/

/-- The module that a line declares, if it declares one. -/
def declaredModule? (line : String) : Option String :=
  (Text.after? "pub mod " line).bind fun rest =>
    if rest.getLast? = some ';' then some (String.ofList rest.dropLast) else none

/-- The modules that the lines of a text declare, in order. -/
def declaredModules (text : String) : List String := (Text.lines text).filterMap declaredModule?

theorem declaredModules_endLine (text : String) :
    declaredModules (Text.endLine text) = declaredModules text :=
  Text.filterMap_lines_endLine rfl text

theorem declaredModule?_declaration (module : String) :
    declaredModule? ("pub mod " ++ module ++ ";") = some module := by
  have hend : (module ++ ";").toList = module.toList ++ [';'] := by
    rw [String.toList_append]
    rfl
  unfold declaredModule?
  rw [String.append_assoc, Text.after?_append, hend]
  simp

theorem declaredModule?_use (module : String) :
    declaredModule? ("pub use self::" ++ module ++ "::*;") = none := by
  unfold declaredModule?
  rw [String.append_assoc,
    Text.after?_append_eq_none (by decide) (by decide)]
  rfl

namespace NameRules

variable {rules : NameRules} (hdefault : rules.convention = {})
include hdefault

theorem isName_moduleName (name : String) : Text.IsName (rules.moduleName name) := by
  unfold moduleName
  rw [moduleName_eq hdefault]
  exact isName_identifier _ Text.isName_snakeCase name

theorem moduleName_ne_empty {name : String} (hname : name ≠ "") : rules.moduleName name ≠ "" := by
  unfold moduleName
  rw [moduleName_eq hdefault]
  exact identifier_ne_empty _ Text.snakeCase_escapeMark_ne_empty hname

/-- What is read in the package root: its first lines, and two lines for every name. -/
theorem filterMap_lines_crateRoot {α : Type} {read : String → Option α} (hempty : read "" = none)
    (names : List String) :
    (Text.lines (rules.crateRoot names)).filterMap read =
      (Text.lines "#[macro_use]\nextern crate serde;\nextern crate serde_json;").filterMap read ++
        names.flatMap fun name =>
          ["pub mod " ++ rules.moduleName name ++ ";",
            "pub use self::" ++ rules.moduleName name ++ "::*;"].filterMap read := by
  have hlines : ∀ module, Text.IsName module →
      Text.lines ("pub mod " ++ module ++ ";\npub use self::" ++ module ++ "::*;") =
        ["pub mod " ++ module ++ ";", "pub use self::" ++ module ++ "::*;"] := by
    intro module hmodule
    have hone := Text.oneLine_of_isName hmodule
    have hfirst : Text.OneLine ("pub mod " ++ module ++ ";") := by simp +decide [hone]
    have hsecond : Text.OneLine ("pub use self::" ++ module ++ "::*;") := by simp +decide [hone]
    have hbreak : ";\npub use self::" = ";" ++ "\n" ++ "pub use self::" := rfl
    have hsplit : "pub mod " ++ module ++ ";\npub use self::" ++ module ++ "::*;" =
        "pub mod " ++ module ++ ";" ++ "\n" ++ ("pub use self::" ++ module ++ "::*;") := by
      rw [hbreak]
      simp only [String.append_assoc]
    rw [hsplit, Text.lines_append, Text.lines_eq_singleton hfirst.1,
      Text.lines_eq_singleton hsecond.1]
    rfl
  have hread : ∀ name, (Text.lines ("pub mod " ++ rules.moduleName name ++ ";\npub use self::" ++
      rules.moduleName name ++ "::*;")).filterMap read =
        ["pub mod " ++ rules.moduleName name ++ ";",
          "pub use self::" ++ rules.moduleName name ++ "::*;"].filterMap read := by
    intro name
    rw [hlines _ (isName_moduleName hdefault name)]
  unfold crateRoot
  rw [Text.filterMap_lines_paragraphs hempty, List.flatMap_cons, List.flatMap_map]
  simp only [hread]

/-- The package root declares a module for every name. -/
theorem declaredModules_crateRoot (names : List String) :
    declaredModules (rules.crateRoot names) = names.map rules.moduleName := by
  have hheader : declaredModules "#[macro_use]\nextern crate serde;\nextern crate serde_json;" = [] := by
    decide
  unfold declaredModules at hheader ⊢
  rw [filterMap_lines_crateRoot hdefault rfl, hheader, List.nil_append, List.map_eq_flatMap]
  apply List.flatMap_congr
  intro name _
  simp [declaredModule?_declaration, declaredModule?_use]

end NameRules

/-! ### Files of modules -/

/-- The file of a module, from the root of the package. -/
def moduleFile (module : String) : String := "src/" ++ module ++ ".rs"

theorem TreePath.step_of_name (above : TreePath) {step : String} (hempty : step ≠ "")
    (hdot : step ≠ ".") (hup : step ≠ "..") : above.step step = above ++ [step] := by
  simp [TreePath.step, isIdleStep, hempty, hdot, hup]

namespace Route

theorem ofText_append (first second : String) :
    ofText (first ++ "/" ++ second) = ofText first ++ ofText second := by
  have htext : (first ++ "/" ++ second).toList = first.toList ++ '/' :: second.toList := by
    simp [String.toList_append]
  unfold ofText
  rw [htext, Text.pieces_append _ _ (by rfl), List.map_append]

theorem ofText_moduleFile {module : String} (hmodule : Text.IsName module) :
    ofText (moduleFile module) = ["src", module ++ ".rs"] := by
  have hsplit : moduleFile module = "src" ++ "/" ++ (module ++ ".rs") := by
    unfold moduleFile
    rw [String.append_assoc]
    rfl
  have hend : ∀ c ∈ ".rs".toList, c ≠ '/' := by simp
  have hslash : ∀ c ∈ (module ++ ".rs").toList, (c == '/') = false := by
    intro c hc
    rw [String.toList_append] at hc
    have hne : c ≠ '/' := by
      rcases List.mem_append.mp hc with hname | hlast
      · exact Text.ne_of_isNameChar (hmodule c hname) (by decide)
      · exact hend c hlast
    simpa using hne
  have hfirst : ofText "src" = ["src"] := by decide
  have hlast : ofText (module ++ ".rs") = [module ++ ".rs"] := by
    unfold ofText
    rw [Text.pieces_eq_singleton _ hslash]
    simp
  rw [hsplit, ofText_append, hfirst, hlast]
  rfl

/-- The file of a module is one step below the sources of the directory. -/
theorem destination_moduleFile (directory : String) {module : String} (hmodule : Text.IsName module) :
    (ofText (pathIn directory (moduleFile module))).destination =
      (ofText directory).destination ++ ["src", module ++ ".rs"] := by
  have hlength : ∀ step : String, step.length < 3 → module ++ ".rs" ≠ step := by
    rintro step hshort rfl
    have hend : ".rs".length = 3 := rfl
    rw [String.length_append] at hshort
    omega
  have hsteps : ∀ above : TreePath,
      ["src", module ++ ".rs"].foldl TreePath.step above = above ++ ["src", module ++ ".rs"] := by
    intro above
    have hsource : above.step "src" = above ++ ["src"] :=
      above.step_of_name (by decide) (by decide) (by decide)
    have hfile : ∀ path : TreePath, path.step (module ++ ".rs") = path ++ [module ++ ".rs"] :=
      fun path => path.step_of_name (hlength "" (by decide)) (hlength "." (by decide))
        (hlength ".." (by decide))
    rw [List.foldl_cons, List.foldl_cons, List.foldl_nil, hsource, hfile, List.append_assoc]
    rfl
  unfold pathIn
  cases hlast : directory.toList.getLast? with
  | none =>
    obtain rfl : directory = "" := by simpa using hlast
    simp only [Option.all_none, if_true]
    rw [String.empty_append, destination, ofText_moduleFile hmodule, hsteps]
    rfl
  | some c =>
    by_cases hc : c = '/'
    · -- The slash at the end leaves an idle step behind, and none is put in between.
      subst hc
      obtain ⟨start, hstart⟩ := List.getLast?_eq_some_iff.mp hlast
      have hdirectory : directory = String.ofList start ++ "/" := by
        apply String.toList_injective
        rw [hstart, String.toList_append, String.toList_ofList]
        rfl
      have hroute : ofText directory = ofText (String.ofList start) ++ [""] := by
        have happend := ofText_append (String.ofList start) ""
        rwa [String.append_empty, ← hdirectory] at happend
      have hidle : ∀ path : TreePath, [""].foldl TreePath.step path = path := fun path => rfl
      simp only [Option.all_some, decide_true, if_true]
      rw [destination, destination, hroute, List.foldl_append, hidle, hdirectory, ofText_append,
        List.foldl_append, ofText_moduleFile hmodule, hsteps]
    · rw [if_neg (by simpa using hc), ofText_append, ofText_moduleFile hmodule, destination,
        List.foldl_append, hsteps]
      rfl

end Route

/-! ### Files of models -/

theorem Scope.fileName_eq (scope : Scope) (hdefault : scope.rules.convention = {}) (name : String) :
    scope.fileName name = moduleFile (scope.rules.moduleName name) := by
  unfold Scope.fileName Scope.moduleName NameRules.moduleName moduleFile
  rw [NameRules.moduleName_eq hdefault, NameRules.moduleName_eq hdefault]
  rfl

namespace Options

variable {options : Options} {registry : Registry}

theorem file_renderComplete (options : Options) (registry : Registry) (site : Site) :
    (options.renderComplete registry site).file = (options.renderModel registry site).file := by
  unfold renderComplete
  simp only
  split <;> rfl

theorem file_renderModel (options : Options) (registry : Registry) (site : Site)
    (hkind : site.node.kind.IsRendered) :
    (options.renderModel registry site).file =
      (Scope.ofModel options.rules registry site.node).fileName
        (options.renderModel registry site).name := by
  unfold renderModel
  cases hcase : site.node.kind with
  | object | enumeration | union => rfl
  | array => exact absurd hcase hkind.2
  | primitive => exact absurd hcase hkind.1

/-- Every output has a name and the file of its module. -/
theorem file_of_mem_generateComplete (hdefault : options.rules.convention = {}) {model : Source}
    (hmodel : model ∈ options.generateComplete registry) :
    model.name ≠ "" ∧ model.file = moduleFile (options.rules.moduleName model.name) := by
  rw [generateComplete_eq] at hmodel
  obtain ⟨site, hsite, rfl⟩ := List.mem_map.mp hmodel
  have hname := (mem_outputs_iff.mp hsite).2
  have hrendered := isRendered_of_name_ne_empty hname
  simp only [Rendered.toSource, name_renderComplete, file_renderComplete]
  refine ⟨hname, ?_⟩
  rw [file_renderModel options registry site hrendered]
  exact Scope.fileName_eq _ hdefault _

/-- The files of the outputs are those of their modules, in order. -/
theorem files_generateComplete (hdefault : options.rules.convention = {}) :
    (options.generateComplete registry).map (·.file) =
      ((options.generateComplete registry).map fun model =>
        options.rules.moduleName model.name).map moduleFile := by
  rw [List.map_map]
  apply List.map_congr_left
  intro model hmodel
  exact (file_of_mem_generateComplete hdefault hmodel).2

/-- The package root declares the modules of the outputs, in order. -/
theorem declaredModules_rootSource (hhooks : options.hooks = {})
    (hdefault : options.rules.convention = {}) :
    declaredModules (options.rootSource (options.generateComplete registry)).text =
      (options.generateComplete registry).map fun model => options.rules.moduleName model.name := by
  have hnames : ((options.generateComplete registry).map (·.name)).filter (· ≠ "") =
      (options.generateComplete registry).map (·.name) := by
    rw [List.filter_eq_self]
    intro name hname
    obtain ⟨model, hmodel, rfl⟩ := List.mem_map.mp hname
    simpa using (file_of_mem_generateComplete hdefault hmodel).1
  unfold rootSource
  simp only [hnames, hhooks]
  rw [NameRules.declaredModules_crateRoot hdefault, List.map_map]
  rfl

theorem writtenModels_generateComplete (options : Options) (registry : Registry) :
    writtenModels (options.generateComplete registry) = options.generateComplete registry := by
  unfold writtenModels
  rw [List.filter_eq_self]
  intro model hmodel
  rw [generateComplete_eq] at hmodel
  obtain ⟨site, hsite, rfl⟩ := List.mem_map.mp hmodel
  simpa [Rendered.toSource, name_renderComplete] using (mem_outputs_iff.mp hsite).2

/-- A generation that succeeds returns the outputs, and has written the whole package. -/
theorem generateFiles_eq_ok_iff {δ : Type} {write : FileWriter δ} {directory : String}
    {disk final : δ} {models : List Source} :
    options.generateFiles write registry directory disk = (final, .ok models) ↔
      models = options.generateComplete registry ∧
        writeSources write directory (options.packageSources models) disk = (final, none) := by
  unfold generateFiles
  rw [writtenModels_generateComplete]
  simp only
  rcases hwritten : writeSources write directory
      (options.packageSources (options.generateComplete registry)) disk with ⟨after, _ | fault⟩
  · constructor
    · rintro ⟨⟩
      exact ⟨rfl, hwritten⟩
    · rintro ⟨rfl, hsources⟩
      rw [hwritten] at hsources
      cases hsources
      rfl
  · constructor
    · rintro ⟨⟩
    · rintro ⟨rfl, hsources⟩
      rw [hwritten] at hsources
      cases hsources

theorem generateFiles_contents (options : Options) (registry : Registry) (directory : String)
    (disk : Contents) :
    options.generateFiles Contents.writer registry directory disk =
      ((writeSources Contents.writer directory
        (options.packageSources (options.generateComplete registry)) disk).1,
        .ok (options.generateComplete registry)) := by
  rw [generateFiles_eq_ok_iff]
  exact ⟨rfl, Prod.ext rfl (Contents.writeSources_succeeds _ _)⟩

/-- **The package root declares the files.**  Where a generation succeeds, the modules of
    the package root are those of the returned files, in order, and a record of the
    writing has just these files and, if asked for, the manifest and the root.  A module
    has a name without slash or dot, so its file is one step below the sources. -/
theorem root_declares_files (options : Options) (registry : Registry) {δ : Type}
    (write : FileWriter δ) (directory : String) (disk final : δ) (models : List Source)
    (hhooks : options.hooks = {}) (hdefault : options.rules.convention = {})
    (hrun : options.generateFiles write registry directory disk = (final, .ok models)) :
    let modules := declaredModules (options.rootSource models).text
    models.map (·.file) = modules.map moduleFile ∧
    (∀ module ∈ modules,
      module ≠ "" ∧ '/' ∉ module.toList ∧ '\\' ∉ module.toList ∧ '.' ∉ module.toList ∧
      (Route.ofText (pathIn directory (moduleFile module))).destination =
        (Route.ofText directory).destination ++ ["src", module ++ ".rs"]) ∧
    ∃ log, options.generateFiles write.recorded registry directory (disk, []) =
        ((final, log), .ok models) ∧
      log.map (·.1) = (modules.map moduleFile ++
        if options.supportFiles then ["Cargo.toml", "src/lib.rs"] else []).map (pathIn directory) ∧
      (options.supportFiles → ∃ content,
        log.getLast? = some (pathIn directory "src/lib.rs", content) ∧
          declaredModules content = modules) := by
  intro modules
  obtain ⟨rfl, hwritten⟩ := generateFiles_eq_ok_iff.mp hrun
  have hmodules : modules = (options.generateComplete registry).map
      fun model => options.rules.moduleName model.name := declaredModules_rootSource hhooks hdefault
  have hnamed : (options.generateComplete registry).map (·.file) = modules.map moduleFile := by
    rw [hmodules]
    exact files_generateComplete hdefault
  refine ⟨hnamed, ?_, ?_⟩
  · intro module hmodule
    rw [hmodules] at hmodule
    obtain ⟨model, hmodel, rfl⟩ := List.mem_map.mp hmodule
    have hname := NameRules.isName_moduleName hdefault model.name
    have hsource := (file_of_mem_generateComplete hdefault hmodel).1
    refine ⟨NameRules.moduleName_ne_empty hdefault hsource, ?_, ?_, ?_,
      Route.destination_moduleFile directory hname⟩
    · exact Text.not_mem_of_isName hname (by decide)
    · exact Text.not_mem_of_isName hname (by decide)
    · exact Text.not_mem_of_isName hname (by decide)
  · obtain ⟨log, -, hall, hrecorded⟩ := writeSources_recorded write directory
      (options.packageSources (options.generateComplete registry)) disk []
    rw [hwritten] at hall hrecorded
    have hlog := hall rfl
    refine ⟨log, ?_, ?_, ?_⟩
    · rw [generateFiles_eq_ok_iff]
      exact ⟨rfl, hrecorded⟩
    · rw [hlog, ← hnamed, packageSources]
      cases options.supportFiles with
      | true => simp [Source.placed, supportSources, manifestSource, rootSource]
      | false => simp [Source.placed]
    · intro hsupport
      refine ⟨Text.endLine (options.rootSource (options.generateComplete registry)).text, ?_,
        declaredModules_endLine _⟩
      rw [hlog, packageSources, if_pos hsupport]
      simp [Source.placed, supportSources, rootSource]

/-- A model with an identifier that climbs out of a directory, and one with a reserved
    word. -/
def intruders : Registry where
  entries := [("../etc/passwd.d", { id := some "../etc/passwd.d", type := some (.single "object") }),
    ("type", { id := some "type", type := some (.single "object") })]

theorem root_declares_files_intruders :
    declaredModules (({} : Options).rootSource (({} : Options).generateComplete intruders)).text =
      ["etc_passwd_d", "reserved_type"] ∧
    (({} : Options).generateComplete intruders).map (·.file) =
      ["src/etc_passwd_d.rs", "src/reserved_type.rs"] ∧
    ∃ log, (({} : Options).generateFiles Contents.writer.recorded intruders "out" (fun _ => none, [])).1.2 =
        log ∧
      log.map (·.1) =
        ["out/src/etc_passwd_d.rs", "out/src/reserved_type.rs", "out/Cargo.toml", "out/src/lib.rs"] := by
  have hnames : ((({} : Options).generateComplete intruders).map (·.name)).filter (· ≠ "") =
      ["EtcPasswdD", "Type"] := by decide
  have hmodules : declaredModules
      (({} : Options).rootSource (({} : Options).generateComplete intruders)).text =
        ["etc_passwd_d", "reserved_type"] := by
    unfold rootSource
    rw [hnames]
    change declaredModules (NameRules.crateRoot {} ["EtcPasswdD", "Type"]) = _
    rw [NameRules.declaredModules_crateRoot rfl]
    decide
  obtain ⟨hfiles, -, log, hlog, hpaths, -⟩ :=
    root_declares_files {} intruders Contents.writer "out" _ _ _ rfl rfl
      (generateFiles_contents {} intruders "out" fun _ => none)
  rw [hmodules] at hfiles hpaths
  refine ⟨hmodules, hfiles, log, by rw [hlog], ?_⟩
  rw [hpaths]
  decide

end Options

end Typewright
