/-
  Typewright/Proofs/Naming/FreeNames.lean
  =======================================
  **Names that are free** — how many marks are put before a name that may be
  declared.

  The fewest that make it differ from every declared property (`frees_uniqueProperty`).
  The search has as many tries as there are properties: if all of them failed, and the
  last one too, there would be one declared name more than there are properties.  So
  the bound on its tries never shows, and a search without one comes to the same name
  (`escapes_uniqueProperty`).
-/
import Mathlib.Data.List.Nodup
import Mathlib.Data.List.Perm.Subperm
import Mathlib.Order.Bounds.Defs
import Typewright.Naming.Convention
import Typewright.Proofs.Keyed

namespace Typewright

/-! ### Marks -/

/-- A name after a number of marks. -/
def marked : Nat → String → String
  | 0, name => name
  | count + 1, name => escapeMark ++ marked count name

theorem marked_mark (count : Nat) (name : String) :
    marked count (escapeMark ++ name) = marked (count + 1) name := by
  induction count with
  | zero => rfl
  | succ count ih =>
    rw [marked, ih]
    rfl

theorem marked_add (count more : Nat) (name : String) :
    marked (count + more) name = marked count (marked more name) := by
  induction count with
  | zero => rw [Nat.zero_add, marked]
  | succ count ih => rw [Nat.succ_add, marked, ih, marked]

theorem marked_append (count : Nat) (first second : String) :
    marked count (first ++ second) = marked count first ++ second := by
  induction count with
  | zero => rfl
  | succ count ih => rw [marked, ih, marked, String.append_assoc]

theorem marked_inj {count : Nat} {name other : String} :
    marked count name = marked count other ↔ name = other := by
  induction count with
  | zero => rfl
  | succ count ih => rw [marked, marked, String.append_right_inj, ih]

theorem length_marked (count : Nat) (name : String) :
    (marked count name).length = escapeMark.length * count + name.length := by
  induction count with
  | zero => simp [marked]
  | succ count ih =>
    rw [marked, String.length_append, ih, Nat.mul_succ]
    omega

theorem marked_eq_join (count : Nat) (name : String) :
    marked count name = String.join (List.replicate count escapeMark) ++ name := by
  induction count with
  | zero => rw [marked, List.replicate_zero, String.join_nil, String.empty_append]
  | succ count ih =>
    rw [marked, ih, List.replicate_succ, String.join_cons, String.append_assoc]

/-- Names with more marks are longer. -/
theorem marked_injective (name : String) : Function.Injective (marked · name) := by
  intro count more heq
  have hlength := congrArg String.length heq
  have hmark : escapeMark.length = 9 := rfl
  simp only [length_marked, hmark] at hlength
  omega

/-! ### Marks that free a name -/

namespace Node

variable {node : Node} {base : String}

/-- So many marks and no fewer make a name differ from all declared ones. -/
structure Frees (node : Node) (count : Nat) (base : String) : Prop where
  taken : ∀ fewer < count, node.hasProperty (marked fewer base)
  free : node.hasProperty (marked count base) = false

theorem Frees.unique {count more : Nat} (h : node.Frees count base) (h' : node.Frees more base) :
    count = more := by
  rcases Nat.lt_trichotomy count more with hlt | heq | hgt
  · have htaken := h'.taken count hlt
    rw [h.free] at htaken
    cases htaken
  · exact heq
  · have htaken := h.taken more hgt
    rw [h'.free] at htaken
    cases htaken

/-- The search stops at the first name that is free, or where its tries end. -/
theorem exists_escapeProperty_eq (node : Node) (fuel : Nat) (base : String) :
    ∃ count ≤ fuel, node.escapeProperty fuel base = marked count base ∧
      (∀ fewer < count, node.hasProperty (marked fewer base)) ∧
      (count < fuel → node.hasProperty (marked count base) = false) := by
  induction fuel generalizing base with
  | zero => exact ⟨0, Nat.le_refl 0, rfl, by simp, by simp⟩
  | succ fuel ih =>
    unfold escapeProperty
    by_cases htaken : node.hasProperty base
    · rw [if_pos htaken]
      obtain ⟨count, hle, heq, hbefore, hfree⟩ := ih (escapeMark ++ base)
      simp only [marked_mark] at heq hbefore hfree
      refine ⟨count + 1, by omega, heq, ?_, fun hlt => hfree (by omega)⟩
      intro fewer hfewer
      cases fewer with
      | zero => exact htaken
      | succ fewer => exact hbefore fewer (by omega)
    · rw [if_neg htaken]
      exact ⟨0, by omega, rfl, by simp, fun _ => by simpa [marked] using htaken⟩

/-- There are not more declared names than properties. -/
theorem exists_free (node : Node) (base : String) :
    ∃ count ≤ (node.properties.getD []).length, node.hasProperty (marked count base) = false := by
  by_contra hnone
  simp only [not_exists, not_and, Bool.not_eq_false] at hnone
  have hnodup : ((List.range ((node.properties.getD []).length + 1)).map
      (marked · base)).Nodup := List.Nodup.map (marked_injective base) List.nodup_range
  have hsubset : (List.range ((node.properties.getD []).length + 1)).map (marked · base) ⊆
      (node.properties.getD []).map (·.1) := by
    intro name hname
    obtain ⟨count, hcount, rfl⟩ := List.mem_map.mp hname
    have hle := List.mem_range.mp hcount
    exact Keyed.contains_iff.mp (hnone count (by omega))
  have hlength := (List.subperm_of_subset hnodup hsubset).length_le
  rw [List.length_map, List.length_map, List.length_range] at hlength
  omega

/-- A name gets the fewest marks that make it free, and at most one for
    every property. -/
theorem frees_uniqueProperty (node : Node) (base : String) :
    ∃ count ≤ (node.properties.getD []).length,
      node.uniqueProperty base = marked count base ∧ node.Frees count base := by
  obtain ⟨count, hle, heq, htaken, hfree⟩ :=
    node.exists_escapeProperty_eq (node.properties.getD []).length base
  refine ⟨count, hle, heq, htaken, ?_⟩
  by_cases hlt : count < (node.properties.getD []).length
  · exact hfree hlt
  · -- all tries failed, so the name after them is the one that is free
    obtain ⟨least, hleast, hnone⟩ := node.exists_free base
    by_cases hbefore : least < count
    · have hdeclared := htaken least hbefore
      rw [hnone] at hdeclared
      cases hdeclared
    · obtain rfl : least = count := by omega
      exact hnone

theorem hasProperty_uniqueProperty (node : Node) (base : String) :
    node.hasProperty (node.uniqueProperty base) = false := by
  obtain ⟨count, -, heq, hfrees⟩ := node.frees_uniqueProperty base
  rw [heq]
  exact hfrees.free

/-! ### The search without a bound -/

/-- A search for a free name with no bound on its tries: the name it starts with, the
    marks it puts and the name it ends with. -/
inductive Escapes (node : Node) : String → Nat → String → Prop
  | free {name : String} (hfree : node.hasProperty name = false) : Escapes node name 0 name
  | taken {name last : String} {count : Nat} (htaken : node.hasProperty name)
      (hrest : Escapes node (escapeMark ++ name) count last) : Escapes node name (count + 1) last

theorem Frees.next {count : Nat} (h : node.Frees count (escapeMark ++ base))
    (htaken : node.hasProperty base) : node.Frees (count + 1) base where
  taken := by
    intro fewer hfewer
    cases fewer with
    | zero => exact htaken
    | succ fewer =>
      rw [← marked_mark]
      exact h.taken fewer (Nat.lt_of_succ_lt_succ hfewer)
  free := by
    rw [← marked_mark]
    exact h.free

theorem Frees.rest {count : Nat} (h : node.Frees (count + 1) base) :
    node.Frees count (escapeMark ++ base) where
  taken fewer hfewer := by
    rw [marked_mark]
    exact h.taken (fewer + 1) (Nat.succ_lt_succ hfewer)
  free := by
    rw [marked_mark]
    exact h.free

theorem Frees.escapes {count : Nat} (h : node.Frees count base) :
    node.Escapes base count (marked count base) := by
  induction count generalizing base with
  | zero => exact .free h.free
  | succ count ih =>
    have hrest := ih h.rest
    rw [marked_mark] at hrest
    exact .taken (h.taken 0 (Nat.succ_pos count)) hrest

theorem Escapes.frees {count : Nat} {last : String} (h : node.Escapes base count last) :
    node.Frees count base ∧ last = marked count base := by
  induction h with
  | free hfree => exact ⟨⟨fun _ hfewer => absurd hfewer (Nat.not_lt_zero _), hfree⟩, rfl⟩
  | taken htaken _ ih => exact ⟨ih.1.next htaken, ih.2.trans (marked_mark _ _)⟩

theorem Frees.isLeast {count : Nat} (h : node.Frees count base) :
    IsLeast {marks | node.hasProperty (marked marks base) = false} count := by
  refine ⟨h.free, ?_⟩
  intro marks hmarks
  have hfree : node.hasProperty (marked marks base) = false := hmarks
  by_contra hless
  have htaken := h.taken marks (Nat.lt_of_not_le hless)
  rw [hfree] at htaken
  cases htaken

/-- **Names that are free.**  The search for a free name comes to an end without a bound
    on its tries, with at most one mark for every property and in one way only.  It ends
    with the name after the fewest marks that make it differ from the declared ones. -/
theorem escapes_uniqueProperty (node : Node) (base : String) :
    ∃ count ≤ (node.properties.getD []).length,
      (∀ marks last, node.Escapes base marks last ↔
        marks = count ∧ last = node.uniqueProperty base) ∧
      node.uniqueProperty base = String.join (List.replicate count escapeMark) ++ base ∧
      IsLeast {marks | node.hasProperty
        (String.join (List.replicate marks escapeMark) ++ base) = false} count := by
  obtain ⟨count, hle, heq, hfrees⟩ := node.frees_uniqueProperty base
  simp only [← marked_eq_join]
  refine ⟨count, hle, ?_, heq, hfrees.isLeast⟩
  intro marks last
  constructor
  · intro hescapes
    obtain ⟨hmarks, hlast⟩ := hescapes.frees
    obtain rfl := hmarks.unique hfrees
    exact ⟨rfl, hlast.trans heq.symm⟩
  · rintro ⟨rfl, rfl⟩
    rw [heq]
    exact hfrees.escapes

/-! ### Names that get one name -/

/-- The search for a free name, starting with `base`, tries `name`. -/
def Tries (node : Node) (base name : String) : Prop :=
  ∃ count, name = marked count base ∧ ∀ fewer < count, node.hasProperty (marked fewer base)

/-- From a name that is tried, the search goes on as it would from there. -/
theorem Tries.uniqueProperty_eq {name : String} (h : node.Tries base name) :
    node.uniqueProperty name = node.uniqueProperty base := by
  obtain ⟨more, rfl, htaken⟩ := h
  obtain ⟨rest, -, hrest, hfrees⟩ := node.frees_uniqueProperty (marked more base)
  obtain ⟨count, -, hcount, hbase⟩ := node.frees_uniqueProperty base
  have hsum : node.Frees (rest + more) base := by
    refine ⟨?_, by rw [marked_add, hfrees.free]⟩
    intro fewer hfewer
    by_cases hearly : fewer < more
    · exact htaken fewer hearly
    · have hlate := hfrees.taken (fewer - more) (by omega)
      rwa [← marked_add, Nat.sub_add_cancel (by omega)] at hlate
  rw [hrest, hcount, hbase.unique hsum, marked_add]

/-- With no more marks than another name needs, a name is tried for it. -/
theorem tries_of_marked_eq {name : String} {count more : Nat} (hle : count ≤ more)
    (heq : marked count name = marked more base)
    (htaken : ∀ fewer < more, node.hasProperty (marked fewer base)) : node.Tries base name := by
  refine ⟨more - count, ?_, fun fewer hfewer => htaken fewer (by omega)⟩
  have hsplit : more = count + (more - count) := by omega
  rw [hsplit, marked_add] at heq
  exact marked_inj.mp heq

/-- Two names get one free name just if one of them is tried for the other. -/
theorem uniqueProperty_eq_iff {first second : String} :
    node.uniqueProperty first = node.uniqueProperty second ↔
      node.Tries first second ∨ node.Tries second first := by
  constructor
  · intro heq
    obtain ⟨count, -, hfirst, hcount⟩ := node.frees_uniqueProperty first
    obtain ⟨more, -, hsecond, hmore⟩ := node.frees_uniqueProperty second
    rw [hfirst, hsecond] at heq
    rcases Nat.le_total count more with hle | hle
    · exact Or.inr (tries_of_marked_eq hle heq hmore.taken)
    · exact Or.inl (tries_of_marked_eq hle heq.symm hcount.taken)
  · rintro (h | h)
    · exact h.uniqueProperty_eq.symm
    · exact h.uniqueProperty_eq

end Node

end Typewright
