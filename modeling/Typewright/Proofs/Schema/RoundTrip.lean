/-
  Typewright/Proofs/Schema/RoundTrip.lean
  =======================================
  **What is written is read again** — reading and writing nodes lose nothing.

  What a tidy node writes under a key gives back the field of that key, and a field that
  writes nothing is one that reading leaves empty.  So reading all that a node writes
  makes the same node (`ofJson_toJson`).

  Since what is read is tidy, a value that is accepted loses nothing on the way: it is
  written in its form, and the node is read from that again (`toJson_of_ofJson`).
-/
import Typewright.Proofs.Schema.Mirror

namespace Typewright.Node

/-! ### One field -/

theorem textsOf_map (texts : List String) : textsOf (texts.map .string) = .ok texts := by
  induction texts with
  | nil => rfl
  | cons text rest ih =>
    rw [List.map_cons, textsOf, ih]
    rfl

theorem nodeMembers_entriesJson {entries : List (String × Node)}
    (hparts : ∀ entry ∈ entries, ofJson entry.2.toJson = .ok entry.2) :
    nodeMembers (entriesJson entries) = .ok entries := by
  induction entries with
  | nil => rw [entriesJson, nodeMembers]
  | cons entry rest ih =>
    obtain ⟨name, node⟩ := entry
    rw [entriesJson, nodeMembers, hparts _ List.mem_cons_self,
      ih fun entry hentry => hparts entry (List.mem_cons_of_mem _ hentry)]
    rfl

theorem nodeItems_nodesJson {nodes : List Node}
    (hparts : ∀ node ∈ nodes, ofJson node.toJson = .ok node) :
    nodeItems (nodesJson nodes) = .ok nodes := by
  induction nodes with
  | nil => rw [nodesJson, nodeItems]
  | cons node rest ih =>
    rw [nodesJson, nodeItems, hparts _ List.mem_cons_self,
      ih fun node hnode => hparts node (List.mem_cons_of_mem _ hnode)]
    rfl

theorem entriesOf_written {entries : Option (List (String × Node))} {value : Json}
    (hwritten : entriesJson? entries = some value)
    (hdistinct : ((entries.getD []).map (·.1)).Nodup)
    (hparts : ∀ part ∈ entryNodes entries, ofJson part.toJson = .ok part) :
    entriesOf value = .ok entries := by
  cases entries with
  | none =>
    rw [entriesJson?] at hwritten
    cases hwritten
  | some entries =>
    rw [entriesJson?] at hwritten
    cases hwritten
    have hread : nodeMembers (entriesJson entries) = .ok entries :=
      nodeMembers_entriesJson fun entry hentry => hparts entry.2 (List.mem_map_of_mem hentry)
    rw [entriesOf, hread]
    exact congrArg (fun map => Except.ok (some map)) (Keyed.ofList_eq_self hdistinct)

theorem itemsOf_written {items : Option (Items Node)} {value : Json}
    (hwritten : itemsJson? items = some value)
    (hparts : ∀ part ∈ itemNodes items, ofJson part.toJson = .ok part) :
    itemsOf value = .ok items := by
  match items with
  | none =>
    rw [itemsJson?] at hwritten
    cases hwritten
  | some (.tuple nodes) =>
    rw [itemsJson?] at hwritten
    cases hwritten
    have hread : nodeItems (nodesJson nodes) = .ok nodes := nodeItems_nodesJson hparts
    rw [itemsOf, hread]
    rfl
  | some (.single node) =>
    rw [itemsJson?] at hwritten
    cases hwritten
    have hnode := hparts node List.mem_cons_self
    rw [toJson_eq, ofJson] at hnode
    obtain ⟨draft, hdraft, heq⟩ := exists_of_bind_eq_ok hnode
    rw [toJson_eq, itemsOf, hdraft]
    cases heq
    rfl

theorem additionalOf_written {additional : Option (Additional Node)} {value : Json}
    (hwritten : additionalJson? additional = some value)
    (hparts : ∀ part ∈ additionalNodes additional, ofJson part.toJson = .ok part) :
    additionalOf value = .ok additional := by
  match additional with
  | none =>
    rw [additionalJson?] at hwritten
    cases hwritten
  | some (.allowed any) =>
    rw [additionalJson?] at hwritten
    cases hwritten
    rw [additionalOf]
  | some (.schema node) =>
    rw [additionalJson?] at hwritten
    cases hwritten
    have hnode := hparts node List.mem_cons_self
    rw [toJson_eq, ofJson] at hnode
    obtain ⟨draft, hdraft, heq⟩ := exists_of_bind_eq_ok hnode
    rw [toJson_eq, additionalOf, hdraft]
    cases heq
    rfl

/-- What is written under a key gives back the field. -/
theorem fills_written {source node : Node} {key : Key} {value : Json} (htidy : source.TidyAt key)
    (hparts : ∀ part ∈ source.parts, ofJson part.toJson = .ok part)
    (hwritten : source.written key = some value) :
    ∃ next, Fills value node key next ∧ SameAt next source key := by
  unfold parts at hparts
  simp only [List.mem_append] at hparts
  cases key with
  | id =>
    obtain ⟨text, htext, rfl⟩ := Option.map_eq_some_iff.mp hwritten
    exact ⟨_, .id rfl, htext.symm⟩
  | reference =>
    obtain ⟨text, htext, rfl⟩ := Option.map_eq_some_iff.mp hwritten
    exact ⟨_, .reference rfl, htext.symm⟩
  | description =>
    obtain ⟨text, htext, rfl⟩ := Option.map_eq_some_iff.mp hwritten
    exact ⟨_, .description rfl, htext.symm⟩
  | type =>
    obtain ⟨type, htype, rfl⟩ := Option.map_eq_some_iff.mp hwritten
    refine ⟨_, .type ?_, htype.symm⟩
    cases type with
    | single name => rfl
    | several names => simp only [typeJson, typeOf, textsOf_map]
  | properties =>
    have hread := entriesOf_written hwritten htidy.1
      fun part hpart => hparts part (Or.inl (Or.inl (Or.inl hpart)))
    exact ⟨_, .properties hread, rfl⟩
  | items =>
    have hread := itemsOf_written hwritten
      fun part hpart => hparts part (Or.inl (Or.inl (Or.inr hpart)))
    exact ⟨_, .items hread, rfl⟩
  | additional =>
    have hread := additionalOf_written hwritten fun part hpart =>
      hparts part (Or.inl (Or.inr hpart))
    exact ⟨_, .additional hread, rfl⟩
  | patterns =>
    have hread := entriesOf_written hwritten htidy.1 fun part hpart => hparts part (Or.inr hpart)
    exact ⟨_, .patterns hread, rfl⟩
  | literals =>
    obtain ⟨literals, hliterals, rfl⟩ := Option.map_eq_some_iff.mp hwritten
    refine ⟨_, .literals ?_, hliterals.symm⟩
    simp only [TidyAt, members, hliterals, Option.getD_some] at htidy
    rw [literalsOf, Json.mergeItems_eq_self (Json.distinctItems_iff.mpr htidy)]
  | required =>
    simp only [written] at hwritten
    split at hwritten
    · cases hwritten
    · cases hwritten
      exact ⟨_, .required (textsOf_map source.required), rfl⟩
  | default =>
    obtain ⟨hnull, hdistinct⟩ := htidy value hwritten
    have hread : defaultOf value = some value := by
      unfold defaultOf
      split
      · exact absurd rfl hnull
      · rw [Json.mergeKeys_eq_self hdistinct]
    exact ⟨_, .default, hread.trans hwritten.symm⟩

/-! ### All fields -/

/-- Reading what a node writes under some keys gives a draft the fields of these keys. -/
theorem readMembers_written {source : Node} {keys : List Key} {draft : Draft}
    (htidy : ∀ key, source.TidyAt key)
    (hparts : ∀ part ∈ source.parts, ofJson part.toJson = .ok part) (hkeys : keys.Nodup)
    (hunread : ∀ key ∈ keys, key ∉ draft.seen ∧ draft.node.written key = none)
    (rest : List (String × Json)) :
    ∃ next : Draft,
      readMembers draft (keys.flatMap (fun key => member key (source.written key)) ++ rest) =
        readMembers next rest ∧
      next.node.extra = draft.node.extra ∧ (∀ key ∈ keys, SameAt next.node source key) ∧
      ∀ key ∉ keys, SameAt next.node draft.node key := by
  induction keys generalizing draft with
  | nil =>
    exact ⟨draft, rfl, rfl, fun _ hkey => (List.not_mem_nil hkey).elim,
      fun key _ => sameAt_refl draft.node key⟩
  | cons key keys ih =>
    obtain ⟨hkey, hkeys⟩ := List.nodup_cons.mp hkeys
    obtain ⟨hnew, hnone⟩ := hunread key List.mem_cons_self
    cases hwritten : source.written key with
    | none =>
      obtain ⟨next, hread, hextra, hsame, hframe⟩ :=
        ih hkeys fun other hother => hunread other (List.mem_cons_of_mem _ hother)
      refine ⟨next, ?_, hextra, ?_, ?_⟩
      · rw [List.flatMap_cons, hwritten]
        exact hread
      · intro other hother
        rcases List.mem_cons.mp hother with rfl | hother
        · refine sameAt_of_written_eq_none ?_ hwritten
          rw [(hframe other hkey).written_eq]
          exact hnone
        · exact hsame other hother
      · intro other hother
        exact hframe other fun hmem => hother (List.mem_cons_of_mem _ hmem)
    | some value =>
      obtain ⟨node, hfills, hfield⟩ := @fills_written source draft.node key value (htidy key) hparts
        hwritten
      obtain ⟨hkept, hothers⟩ := hfills.frame
      have hunread' : ∀ other ∈ keys, other ∉ key :: draft.seen ∧ node.written other = none := by
        intro other hother
        have hne : other ≠ key := by
          rintro rfl
          exact hkey hother
        obtain ⟨hunseen, hempty⟩ := hunread other (List.mem_cons_of_mem _ hother)
        refine ⟨?_, ?_⟩
        · rw [List.mem_cons, not_or]
          exact ⟨hne, hunseen⟩
        · rw [(hothers other hne).written_eq]
          exact hempty
      obtain ⟨next, hread, hextra, hsame, hframe⟩ := @ih ⟨node, key :: draft.seen⟩ hkeys hunread'
      refine ⟨next, ?_, hextra.trans hkept, ?_, ?_⟩
      · rw [List.flatMap_cons, hwritten, List.append_assoc]
        exact (readMembers_of_fills _ hnew hfills).trans hread
      · intro other hother
        rcases List.mem_cons.mp hother with rfl | hother
        · exact (hframe other hkey).trans hfield
        · exact hsame other hother
      · intro other hother
        rw [List.mem_cons, not_or] at hother
        exact (hframe other hother.2).trans (hothers other hother.1)

/-- What a node keeps aside is kept aside again. -/
theorem readMembers_extra {extra : List (String × Json)} {draft : Draft} (htidy : TidyExtra extra)
    (hnew : ∀ name ∈ extra.map (·.1), name ∉ draft.node.extra.map (·.1)) :
    ∃ next, readMembers draft extra = .ok next ∧ next.node.extra = draft.node.extra ++ extra ∧
      ∀ key, SameAt next.node draft.node key := by
  induction extra generalizing draft with
  | nil =>
    exact ⟨draft, by rw [readMembers], (List.append_nil _).symm, sameAt_refl draft.node⟩
  | cons first rest ih =>
    obtain ⟨name, value⟩ := first
    obtain ⟨hname, hvalue⟩ := htidy.2 (name, value) List.mem_cons_self
    obtain ⟨hfresh, hrest⟩ := List.nodup_cons.mp htidy.1
    obtain ⟨hextra, hsame⟩ := addExtra_frame (hnew name List.mem_cons_self) hvalue
    have hnew' : ∀ other ∈ rest.map (·.1),
        other ∉ (draft.addExtra name value).node.extra.map (·.1) := by
      intro other hother hmem
      rw [hextra, List.map_append, List.mem_append] at hmem
      rcases hmem with hold | hlast
      · exact hnew other (List.mem_cons_of_mem _ hother) hold
      · obtain rfl := List.mem_singleton.mp hlast
        exact hfresh hother
    obtain ⟨next, hread, hextra', hsame'⟩ :=
      ih ⟨hrest, fun member hmember => htidy.2 member (List.mem_cons_of_mem _ hmember)⟩ hnew'
    refine ⟨next, (readMembers_unknown hname).trans hread, ?_, ?_⟩
    · rw [hextra', hextra, List.append_assoc, List.singleton_append]
    · intro key
      exact (hsame' key).trans (hsame key)

/-- **What is written is read again.**  A tidy node is what is read from the value that it
    is written as. -/
theorem ofJson_toJson {node : Node} (htidy : node.Tidy) : ofJson node.toJson = .ok node := by
  induction node using induction_on_parts with
  | step node ih =>
    have hparts : ∀ part ∈ node.parts, ofJson part.toJson = .ok part := by
      intro part hpart
      exact ih part hpart ((tidy_iff.mp htidy).2 part hpart)
    obtain ⟨hfields, haside⟩ := tidy_iff_tidyAt.mp htidy
    have hunread : ∀ key ∈ Key.all,
        key ∉ ({} : Draft).seen ∧ ({} : Draft).node.written key = none := by
      intro key _
      refine ⟨List.not_mem_nil, ?_⟩
      cases key <;> rfl
    obtain ⟨known, hknown, hextra, hsame, -⟩ :=
      readMembers_written hfields hparts (by decide) hunread node.extra
    have hnew : ∀ name ∈ node.extra.map (·.1), name ∉ known.node.extra.map (·.1) := by
      intro name _ hmem
      rw [hextra] at hmem
      exact List.not_mem_nil hmem
    obtain ⟨last, hlast, hextra', hsame'⟩ := readMembers_extra haside hnew
    have hnode : last.node = node := by
      apply eq_of_sameAt
      · intro key
        exact (hsame' key).trans (hsame key (Key.mem_all key))
      · rw [hextra', hextra]
        rfl
    rw [toJson_eq, ofJson, hknown, hlast, ← hnode]
    rfl

/-- **Reading and writing lose nothing.**  Whatever node is read from a value without
    repeated keys is written as the value is, but for the order of known keys and for
    those that stand for a missing value; and it is read from that again. -/
theorem toJson_of_ofJson {value : Json} {node : Node} (hdistinct : value.hasDistinctKeys)
    (h : ofJson value = .ok node) :
    node.toJson = value.schemaForm ∧ ofJson node.toJson = .ok node := by
  have hmirrors := mirrored value hdistinct node h
  exact ⟨hmirrors.writes, ofJson_toJson hmirrors.tidy⟩

/-- A schema with keys out of order, missing values, and keys without a meaning. -/
def letter : Json :=
  .object [
    ("x-origin", .null),
    ("required", .array []),
    ("properties", .object [
      ("to", .object [("format", .string "name"), ("type", .string "string"), ("$ref", .null)]),
      ("pages", .object [
        ("items", .object [("default", .null), ("type", .string "string")]),
        ("type", .string "array")])]),
    ("description", .null),
    ("additionalProperties", .object [
      ("enum", .array [.null, .bool true]), ("$id", .string "Mark")]),
    ("patternProperties", .object [
      ("^x-", .object [
        ("items", .array [.object [], .object [("required", .array [.string "a"])]])])]),
    ("$id", .string "Letter")]

/-- The same schema as it is written. -/
def letterForm : Json :=
  .object [
    ("$id", .string "Letter"),
    ("properties", .object [
      ("to", .object [("type", .string "string"), ("format", .string "name")]),
      ("pages", .object [
        ("type", .string "array"),
        ("items", .object [("type", .string "string")])])]),
    ("additionalProperties", .object [
      ("$id", .string "Mark"), ("enum", .array [.null, .bool true])]),
    ("patternProperties", .object [
      ("^x-", .object [
        ("items", .array [.object [], .object [("required", .array [.string "a"])]])])]),
    ("x-origin", .null)]

theorem toJson_of_ofJson_letter :
    letter.hasDistinctKeys ∧ ∃ node, ofJson letter = .ok node ∧ node.toJson = letterForm ∧
      ofJson node.toJson = .ok node := by
  have hdistinct : letter.hasDistinctKeys := by decide
  have hform : letter.schemaForm = letterForm := by rfl
  have haccepted : ∃ node, ofJson letter = .ok node := by
    simp [letter, ofJson, readMembers, fill, Draft.claim, Draft.addExtra, entriesOf, itemsOf,
      additionalOf, nodeMembers, nodeItems, orNoVariant, textOf?, typeOf, textsOf, literalsOf,
      requiredOf, defaultOf, Key.ofText?, Key.all, Key.text, bind, Except.bind, pure, Except.pure]
  obtain ⟨node, hnode⟩ := haccepted
  obtain ⟨hwrites, hreads⟩ := toJson_of_ofJson hdistinct hnode
  rw [hform] at hwrites
  exact ⟨hdistinct, node, hnode, hwrites, hreads⟩

end Typewright.Node
