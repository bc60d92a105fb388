/-
  Typewright/Proofs/Package/Writing.lean
  ======================================
  **What is written where** — the files of a package on any disk.

  How a file is written is a parameter of the writing, so two writers can be put side
  by side.  One records what another one is asked to write, and changes nothing else.
  The other is a plain map from paths to contents, on which every writing succeeds: of
  several files with one path it holds the last.
-/
import Typewright.Package.Files

namespace Typewright

/-- The path and the content of a source in a directory. -/
def Source.placed (directory : String) (source : Source) : String × String :=
  (pathIn directory source.file, Text.endLine source.text)

theorem pathIn_injective {directory first second : String}
    (h : pathIn directory first = pathIn directory second) : first = second := by
  unfold pathIn at h
  split at h
  · exact (String.append_right_inj _).mp h
  · exact (String.append_right_inj _).mp h

/-! ### A record of what is written -/

section

variable {δ : Type}

/-- A writer that keeps, in order, all that it is asked to write. -/
def FileWriter.recorded (write : FileWriter δ) : FileWriter (δ × List (String × String)) :=
  fun path content state =>
    (((write path content state.1).1, state.2 ++ [(path, content)]), (write path content state.1).2)

/-- The record is that of the sources in order, up to the first that fails. -/
theorem writeSources_recorded (write : FileWriter δ) (directory : String) (sources : List Source)
    (disk : δ) (log : List (String × String)) :
    ∃ asked, asked <+: sources.map (Source.placed directory) ∧
      ((writeSources write directory sources disk).2 = none →
        asked = sources.map (Source.placed directory)) ∧
      writeSources write.recorded directory sources (disk, log) =
        (((writeSources write directory sources disk).1, log ++ asked),
          (writeSources write directory sources disk).2) := by
  induction sources generalizing disk log with
  | nil => exact ⟨[], List.prefix_rfl, fun _ => rfl, by simp [writeSources]⟩
  | cons source rest ih =>
    rcases hwrite : write (pathIn directory source.file) (Text.endLine source.text) disk with
      ⟨after, _ | fault⟩
    · obtain ⟨asked, hstart, hall, heq⟩ := ih after (log ++ [source.placed directory])
      refine ⟨source.placed directory :: asked, ?_, ?_, ?_⟩
      · exact List.prefix_cons_inj _ |>.mpr hstart
      · intro hnone
        simp only [writeSources, hwrite] at hnone
        rw [hall hnone, List.map_cons]
      · simp only [Source.placed] at heq
        simp only [writeSources, FileWriter.recorded, hwrite, Source.placed]
        rw [heq]
        simp
    · refine ⟨[source.placed directory], ?_, ?_, ?_⟩
      · rw [List.map_cons]
        exact ⟨rest.map (Source.placed directory), rfl⟩
      · intro hnone
        simp [writeSources, hwrite] at hnone
      · simp [writeSources, FileWriter.recorded, hwrite, Source.placed]

end

/-! ### A map from paths to contents -/

abbrev Contents := String → Option String

/-- Writes a file into the map, in place of what the map has at its path. -/
def Contents.writer : FileWriter Contents := fun path content disk =>
  (fun other => if other = path then some content else disk other, none)

namespace Contents

variable {directory : String}

theorem writeSources_append (first second : List Source) (disk : Contents) :
    writeSources writer directory (first ++ second) disk =
      writeSources writer directory second (writeSources writer directory first disk).1 := by
  induction first generalizing disk with
  | nil => rfl
  | cons source rest ih => exact ih _

theorem writeSources_succeeds (sources : List Source) (disk : Contents) :
    (writeSources writer directory sources disk).2 = none := by
  induction sources generalizing disk with
  | nil => rfl
  | cons source rest ih => exact ih _

/-- A path that no source has keeps its content. -/
theorem writeSources_of_not_mem {sources : List Source} {path : String}
    (hpath : ∀ source ∈ sources, pathIn directory source.file ≠ path) (disk : Contents) :
    (writeSources writer directory sources disk).1 path = disk path := by
  induction sources generalizing disk with
  | nil => rfl
  | cons source rest ih =>
    have hsource := hpath source List.mem_cons_self
    have hrest := ih fun other hother => hpath other (List.mem_cons_of_mem source hother)
    simp only [writeSources, writer]
    rw [hrest]
    simp [Ne.symm hsource]

/-- A source with a path that no later source has is found there. -/
theorem writeSources_of_last {before after : List Source} {source : Source}
    (hlast : ∀ other ∈ after, pathIn directory other.file ≠ pathIn directory source.file)
    (disk : Contents) :
    (writeSources writer directory (before ++ source :: after) disk).1
      (pathIn directory source.file) = some (Text.endLine source.text) := by
  rw [writeSources_append]
  simp only [writeSources, writer]
  rw [writeSources_of_not_mem hlast]
  simp

end Contents

end Typewright
