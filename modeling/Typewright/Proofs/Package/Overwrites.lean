/-
  Typewright/Proofs/Package/Overwrites.lean
  =========================================
  **Files that overwrite others** — when every model keeps its file.

  Types with different names may have one module: the names are put in another case,
  which forgets where a word began in capitals.  The manifest and the package root are
  written last, and the package root has a file that a module may have too.  On a disk
  on which every writing succeeds, these are the two ways in which a file is lost
  (`keeps_files_iff`).

  That a file is lost, and not written twice with one text, is read off the texts: that
  of a model opens the type of the model last, and the package root opens no type.
-/
import Typewright.Proofs.Package.Modules
import Typewright.Proofs.Render.Layout

namespace Typewright

theorem moduleFile_injective {first second : String} (h : moduleFile first = moduleFile second) :
    first = second :=
  (String.append_right_inj _).mp ((String.append_left_inj _).mp h)

theorem moduleFile_lib : moduleFile "lib" = "src/lib.rs" := rfl

theorem moduleFile_ne_manifest (module : String) : moduleFile module ≠ "Cargo.toml" := by
  intro h
  have hfirst : (moduleFile module).toList.head? = some 's' := by
    unfold moduleFile
    rw [String.append_assoc, String.toList_append]
    rfl
  rw [h] at hfirst
  exact absurd hfirst (by decide)

/-- Files with different names are all found after the writing. -/
theorem Contents.writeSources_of_nodup {directory : String} {sources : List Source}
    (hfiles : (sources.map (·.file)).Nodup) (disk : Contents) {source : Source}
    (hsource : source ∈ sources) :
    (writeSources writer directory sources disk).1 (pathIn directory source.file) =
      some (Text.endLine source.text) := by
  obtain ⟨before, after, rfl⟩ := List.append_of_mem hsource
  apply writeSources_of_last
  intro other hother hpath
  have hsame : other.file = source.file := pathIn_injective hpath
  rw [List.map_append, List.map_cons, List.nodup_append] at hfiles
  have hlater := (List.nodup_cons.mp hfiles.2.1).1
  exact hlater (List.mem_map.mpr ⟨other, hother, hsame⟩)

/-- The package root opens no type. -/
theorem NameRules.definedTypes_crateRoot {rules : NameRules} (hdefault : rules.convention = {})
    (names : List String) : definedTypes (rules.crateRoot names) = [] := by
  have hheader : definedTypes "#[macro_use]\nextern crate serde;\nextern crate serde_json;" = [] := by
    decide
  have hsilent : ∀ {lead : String} (rest : String),
      Text.after? "pub struct " (lead ++ rest) = none →
        Text.after? "pub enum " (lead ++ rest) = none → definedType? (lead ++ rest) = none := by
    intro lead rest hstruct henum
    unfold definedType?
    rw [hstruct, henum]
    rfl
  have hdeclaration : ∀ rest, definedType? ("pub mod " ++ rest) = none := fun rest =>
    hsilent rest (Text.after?_append_eq_none (by decide) (by decide) rest)
      (Text.after?_append_eq_none (by decide) (by decide) rest)
  have huse : ∀ rest, definedType? ("pub use self::" ++ rest) = none := fun rest =>
    hsilent rest (Text.after?_append_eq_none (by decide) (by decide) rest)
      (Text.after?_append_eq_none (by decide) (by decide) rest)
  unfold definedTypes at hheader ⊢
  rw [filterMap_lines_crateRoot hdefault rfl, hheader, List.nil_append, List.flatMap_eq_nil_iff]
  intro name _
  simp [String.append_assoc, hdeclaration, huse]

namespace Options

variable {options : Options} {registry : Registry}

/-- The files of a package have different names if the modules have, and none has the name
    of the package root. -/
theorem nodup_packageSources {models : List Source} {modules : List String}
    (hfiles : models.map (·.file) = modules.map moduleFile) (hmodules : modules.Nodup)
    (hlib : options.supportFiles → "lib" ∉ modules) :
    ((options.packageSources models).map (·.file)).Nodup := by
  have hdistinct : (models.map (·.file)).Nodup := by
    rw [hfiles]
    exact List.Nodup.map (fun _ _ => moduleFile_injective) hmodules
  unfold packageSources
  split
  · next hsupport =>
    have hmanifest : "Cargo.toml" ∉ models.map (·.file) := by
      rw [hfiles, List.mem_map]
      rintro ⟨module, -, hmodule⟩
      exact moduleFile_ne_manifest module hmodule
    have hroot : "src/lib.rs" ∉ models.map (·.file) := by
      rw [hfiles, List.mem_map]
      rintro ⟨module, hmem, hmodule⟩
      rw [← moduleFile_lib] at hmodule
      exact hlib hsupport (moduleFile_injective hmodule ▸ hmem)
    have hsupports : (options.supportSources models).map (·.file) =
        ["Cargo.toml", "src/lib.rs"] := rfl
    rw [List.map_append, hsupports, List.nodup_append]
    refine ⟨hdistinct, by decide, ?_⟩
    intro file hfile other hother
    rcases List.mem_cons.mp hother with rfl | hrest
    · rintro rfl
      exact hmanifest hfile
    · obtain rfl := List.mem_singleton.mp hrest
      rintro rfl
      exact hroot hfile
  · rwa [List.append_nil]

/-- The package root is written last, so it is found whatever is written before it. -/
theorem writeSources_packageSources_root (hsupport : options.supportFiles) (directory : String)
    (models : List Source) (disk : Contents) :
    (writeSources Contents.writer directory (options.packageSources models) disk).1
        (pathIn directory "src/lib.rs") =
      some (Text.endLine (options.rootSource models).text) := by
  have hsources : options.packageSources models =
      (models ++ [options.manifestSource]) ++ options.rootSource models :: [] := by
    simp [packageSources, hsupport, supportSources]
  have hlast : ∀ other ∈ ([] : List Source),
      pathIn directory other.file ≠ pathIn directory (options.rootSource models).file := by
    simp
  rw [hsources]
  exact Contents.writeSources_of_last hlast disk

section

variable (hhooks : options.hooks = {})
  (hdefault : options.rules.convention = {}) (hconstructors : options.constructors = false)
  (hdefaults : options.enumDefaults = false)
include hhooks hdefault hconstructors hdefaults

/-- The text of an output opens the type of the output last. -/
theorem getLast?_definedTypes_of_mem {model : Source}
    (hmodel : model ∈ options.generateComplete registry) :
    (definedTypes model.text).getLast? = some model.name := by
  rw [generateComplete_eq] at hmodel
  obtain ⟨site, hsite, rfl⟩ := List.mem_map.mp hmodel
  have hname := (mem_outputs_iff.mp hsite).2
  simp only [Rendered.toSource, name_renderComplete]
  exact getLast?_definedTypes hhooks hdefault hconstructors hdefaults hname

/-- Files with one content are of models with one name. -/
theorem name_eq_of_content {model other : Source} (hmodel : model ∈ options.generateComplete registry)
    (hother : other ∈ options.generateComplete registry)
    (hcontent : Text.endLine model.text = Text.endLine other.text) : model.name = other.name := by
  have htypes : definedTypes model.text = definedTypes other.text := by
    rw [← definedTypes_endLine model.text, hcontent, definedTypes_endLine]
  have hfirst := getLast?_definedTypes_of_mem hhooks hdefault hconstructors hdefaults hmodel
  have hsecond := getLast?_definedTypes_of_mem hhooks hdefault hconstructors hdefaults hother
  rw [htypes, hsecond] at hfirst
  exact (Option.some.inj hfirst).symm

/-- The package root has not the content of a model. -/
theorem content_ne_root {model : Source} (hmodel : model ∈ options.generateComplete registry)
    (models : List Source) :
    Text.endLine model.text ≠ Text.endLine (options.rootSource models).text := by
  intro hcontent
  have hroot : definedTypes (options.rootSource models).text = [] := by
    unfold rootSource
    rw [hhooks]
    exact NameRules.definedTypes_crateRoot hdefault _
  have htypes : definedTypes model.text = [] := by
    rw [← definedTypes_endLine model.text, hcontent, definedTypes_endLine, hroot]
  have hlast := getLast?_definedTypes_of_mem hhooks hdefault hconstructors hdefaults hmodel
  rw [htypes] at hlast
  exact absurd hlast (by simp)

end

/-- **No model loses its file** exactly if no two have one module, and none has that of the
    package root where this is written.  Every writing succeeds, and the models have
    different names. -/
theorem keeps_files_iff (options : Options) (registry : Registry) (directory : String)
    (disk : Contents) (hhooks : options.hooks = {}) (hdefault : options.rules.convention = {})
    (hconstructors : options.constructors = false) (hdefaults : options.enumDefaults = false)
    (hnames : ((options.generateComplete registry).map (·.name)).Nodup) :
    let models := options.generateComplete registry
    let modules := models.map fun model => options.rules.moduleName model.name
    ∃ final, options.generateFiles Contents.writer registry directory disk = (final, .ok models) ∧
      ((∀ model ∈ models, final (pathIn directory model.file) = some (Text.endLine model.text)) ↔
        modules.Nodup ∧ (options.supportFiles → "lib" ∉ modules)) := by
  intro models modules
  have hfile : ∀ model ∈ models,
      model.file = moduleFile (options.rules.moduleName model.name) :=
    fun model hmodel => (file_of_mem_generateComplete hdefault hmodel).2
  refine ⟨_, generateFiles_contents options registry directory disk, ?_⟩
  constructor
  · intro hkept
    constructor
    · have hmodules : modules = (models.map (·.name)).map options.rules.moduleName := by
        rw [List.map_map]
        rfl
      rw [hmodules]
      apply List.Nodup.map_on _ hnames
      intro name hname other hother hmodule
      obtain ⟨model, hmodel, rfl⟩ := List.mem_map.mp hname
      obtain ⟨model', hmodel', rfl⟩ := List.mem_map.mp hother
      -- One module is one path, and what stands there is the text of both.
      apply name_eq_of_content hhooks hdefault hconstructors hdefaults hmodel hmodel'
      have hcontent := hkept model hmodel
      rw [hfile model hmodel, hmodule, ← hfile model' hmodel', hkept model' hmodel'] at hcontent
      exact (Option.some.inj hcontent).symm
    · intro hsupport hlib
      obtain ⟨model, hmodel, hmodule⟩ := List.mem_map.mp hlib
      -- What stands at the path of the root is the root, which is no text of a model.
      have hcontent := hkept model hmodel
      rw [hfile model hmodel, hmodule, moduleFile_lib,
        writeSources_packageSources_root hsupport] at hcontent
      exact content_ne_root hhooks hdefault hconstructors hdefaults hmodel models
        (Option.some.inj hcontent).symm
  · rintro ⟨hmodules, hlib⟩ model hmodel
    have hfiles := nodup_packageSources (files_generateComplete hdefault) hmodules hlib
    exact Contents.writeSources_of_nodup hfiles disk (List.mem_append_left _ hmodel)

/-- Two models of which the types differ in the second letter, and the modules do not. -/
def lookalikes : Registry where
  entries := [("aB", { id := some "aB", type := some (.single "object") }),
    ("ab", { id := some "ab", type := some (.single "object") })]

theorem keeps_files_lookalikes :
    let models := ({} : Options).generateComplete lookalikes
    models.map (·.name) = ["AB", "Ab"] ∧ models.map (·.file) = ["src/ab.rs", "src/ab.rs"] ∧
    ∃ final, ({} : Options).generateFiles Contents.writer lookalikes "out" (fun _ => none) =
        (final, .ok models) ∧
      ¬ ∀ model ∈ models, final (pathIn "out" model.file) = some (Text.endLine model.text) := by
  intro models
  have hnames : models.map (·.name) = ["AB", "Ab"] := by decide
  have hfiles : models.map (·.file) = ["src/ab.rs", "src/ab.rs"] := by decide
  have hdistinct : (models.map (·.name)).Nodup := by
    rw [hnames]
    decide
  obtain ⟨final, hrun, hkept⟩ := keeps_files_iff {} lookalikes "out" (fun _ => none) rfl rfl rfl rfl
    hdistinct
  refine ⟨hnames, hfiles, final, hrun, ?_⟩
  intro hall
  have hmodules := (hkept.mp hall).1
  have hsame : models.map (fun model => ({} : Options).rules.moduleName model.name) =
      ["ab", "ab"] := by decide
  rw [hsame] at hmodules
  exact absurd hmodules (by decide)

/-- A model of which the module is the package root. -/
def rootless : Registry where
  entries := [("Lib", { id := some "Lib", type := some (.single "object") })]

/-- The types have different names, and yet a model has lost its file. -/
theorem loses_file_rootless :
    ∃ final models, ({} : Options).generateFiles Contents.writer rootless "out" (fun _ => none) =
        (final, .ok models) ∧
      (models.map (·.name)).Nodup ∧
      ∃ model ∈ models, final (pathIn "out" model.file) ≠ some (Text.endLine model.text) := by
  have hnames : (({} : Options).generateComplete rootless).map (·.name) = ["Lib"] := by
    decide
  have hfiles : (({} : Options).generateComplete rootless).map (·.file) = ["src/lib.rs"] := by
    decide
  have hlib : "src/lib.rs" ∈ (({} : Options).generateComplete rootless).map (·.file) := by
    rw [hfiles]
    exact List.mem_singleton_self _
  obtain ⟨model, hmodel, hfile⟩ := List.mem_map.mp hlib
  refine ⟨_, _, generateFiles_contents _ _ _ _, ?_, model, hmodel, ?_⟩
  · rw [hnames]
    decide
  · rw [hfile, writeSources_packageSources_root rfl]
    intro hcontent
    exact content_ne_root rfl rfl rfl rfl hmodel _ (Option.some.inj hcontent).symm

end Options

end Typewright
