/-
  Typewright/Proofs/Schema/Mirror.lean
  ====================================
  **What is read is written again** — a node that is read from a JSON value without
  repeated keys is written as the value is.

  A member of a known key gives the node one field, and what is written under the key
  is the form of the value (`Fills.mirrors`).  A run over the members keeps what was
  read before them, so under every key the node writes the members that are kept
  (`mirrors_readMembers`).  The schemas inside a value are smaller than the value, so
  the rest is an induction on its size (`mirrored`).

  The node is also tidy: nothing in it has a key twice, and nothing that is kept aside
  has a meaning.  So nothing is merged or mistaken when it is read again.
-/
import Typewright.Proofs.Schema.Parts
import Typewright.Proofs.Schema.Written

namespace Typewright.Node

open Relation (ReflTransGen)

/-! ### Tidy nodes -/

/-- What a node keeps aside has distinct keys, none of them known. -/
def TidyExtra (extra : List (String × Json)) : Prop :=
  (extra.map (·.1)).Nodup ∧
    ∀ member ∈ extra, Key.ofText? member.1 = none ∧ member.2.hasDistinctKeys

/-- Nothing in a node has a key twice, what it keeps aside has no known key, and no
    default is missing. -/
structure IsTidy (node : Node) : Prop where
  properties : ((node.properties.getD []).map (·.1)).Nodup
  patterns : ((node.patterns.getD []).map (·.1)).Nodup
  literals : ∀ value ∈ node.members, value.hasDistinctKeys
  default : ∀ value ∈ node.default, value ≠ .null ∧ value.hasDistinctKeys
  extra : TidyExtra node.extra

/-- All nodes of a tree are tidy. -/
def Tidy (node : Node) : Prop := ∀ inner, ReflTransGen HasPart node inner → inner.IsTidy

theorem tidy_iff {node : Node} : node.Tidy ↔ node.IsTidy ∧ ∀ part ∈ node.parts, part.Tidy := by
  constructor
  · intro htidy
    exact ⟨htidy node .refl, fun part hpart inner hinner => htidy inner (.head hpart hinner)⟩
  · rintro ⟨hown, hparts⟩ inner hinner
    rcases hinner.cases_head with rfl | ⟨part, hpart, hrest⟩
    · exact hown
    · exact hparts part hpart inner hrest

/-- The field of a key is tidy. -/
def TidyAt (node : Node) : Key → Prop
  | .properties =>
    ((node.properties.getD []).map (·.1)).Nodup ∧ ∀ part ∈ entryNodes node.properties, part.Tidy
  | .patterns =>
    ((node.patterns.getD []).map (·.1)).Nodup ∧ ∀ part ∈ entryNodes node.patterns, part.Tidy
  | .items => ∀ part ∈ itemNodes node.items, part.Tidy
  | .additional => ∀ part ∈ additionalNodes node.additional, part.Tidy
  | .literals => ∀ value ∈ node.members, value.hasDistinctKeys
  | .default => ∀ value ∈ node.default, value ≠ .null ∧ value.hasDistinctKeys
  | .id | .reference | .type | .required | .description => True

theorem SameAt.tidyAt {node other : Node} {key : Key} (h : SameAt node other key)
    (htidy : other.TidyAt key) : node.TidyAt key := by
  cases key <;> simp only [SameAt] at h <;> simp only [TidyAt, members, h] at htidy ⊢ <;>
    exact htidy

theorem tidy_iff_tidyAt {node : Node} :
    node.Tidy ↔ (∀ key, node.TidyAt key) ∧ TidyExtra node.extra := by
  rw [tidy_iff]
  unfold parts
  simp only [List.mem_append]
  constructor
  · rintro ⟨hown, hparts⟩
    refine ⟨?_, hown.extra⟩
    intro key
    cases key with
    | id | reference | type | required | description => trivial
    | properties => exact ⟨hown.properties, fun part h => hparts part (Or.inl (Or.inl (Or.inl h)))⟩
    | items => exact fun part h => hparts part (Or.inl (Or.inl (Or.inr h)))
    | additional => exact fun part h => hparts part (Or.inl (Or.inr h))
    | patterns => exact ⟨hown.patterns, fun part h => hparts part (Or.inr h)⟩
    | literals => exact hown.literals
    | default => exact hown.default
  · rintro ⟨hkeys, hextra⟩
    refine ⟨⟨(hkeys .properties).1, (hkeys .patterns).1, hkeys .literals, hkeys .default, hextra⟩,
      ?_⟩
    rintro part (((h | h) | h) | h)
    · exact (hkeys .properties).2 part h
    · exact hkeys .items part h
    · exact hkeys .additional part h
    · exact (hkeys .patterns).2 part h

theorem tidy_empty : ({} : Node).Tidy := by
  rw [tidy_iff_tidyAt]
  refine ⟨?_, List.nodup_nil, fun _ hmember => (List.not_mem_nil hmember).elim⟩
  intro key
  cases key with
  | id | reference | type | required | description => trivial
  | properties | patterns =>
    exact ⟨List.nodup_nil, fun _ hpart => (List.not_mem_nil hpart).elim⟩
  | items | additional | literals | default => exact fun _ hmem => by cases hmem

theorem TidyExtra.concat {extra : List (String × Json)} {name : String} {value : Json}
    (h : TidyExtra extra) (hname : Key.ofText? name = none) (hnew : name ∉ extra.map (·.1))
    (hdistinct : value.hasDistinctKeys) : TidyExtra (extra ++ [(name, value)]) := by
  refine ⟨Keyed.nodup_concat h.1 hnew value, ?_⟩
  intro member hmember
  rcases List.mem_append.mp hmember with hold | hlast
  · exact h.2 member hold
  · obtain rfl := List.mem_singleton.mp hlast
    exact ⟨hname, hdistinct⟩

/-! ### Nodes that say what a value says -/

/-- The node holds all that a value says. -/
structure Mirrors (node : Node) (value : Json) : Prop where
  writes : node.toJson = value.schemaForm
  tidy : node.Tidy

/-- Whatever node is read from the value holds all that it says. -/
def Mirrored (value : Json) : Prop :=
  value.hasDistinctKeys → ∀ node, ofJson value = .ok node → node.Mirrors value

theorem mirrors_nodeMembers {members : List (String × Json)} {entries : List (String × Node)}
    (hinner : ∀ member ∈ members, Mirrored member.2)
    (hdistinct : ∀ member ∈ members, member.2.hasDistinctKeys)
    (h : nodeMembers members = .ok entries) :
    entries.map (·.1) = members.map (·.1) ∧ entriesJson entries = Json.entryForms members ∧
      ∀ entry ∈ entries, entry.2.Tidy := by
  induction members generalizing entries with
  | nil =>
    simp only [nodeMembers] at h
    cases h
    exact ⟨rfl, rfl, fun _ hentry => (List.not_mem_nil hentry).elim⟩
  | cons member rest ih =>
    obtain ⟨name, value⟩ := member
    simp only [nodeMembers] at h
    obtain ⟨node, hnode, h⟩ := exists_of_bind_eq_ok h
    obtain ⟨others, hothers, h⟩ := exists_of_bind_eq_ok h
    cases h
    have hfirst := hinner _ List.mem_cons_self (hdistinct _ List.mem_cons_self) node hnode
    obtain ⟨hnames, hforms, htidy⟩ := ih (fun member hmember => hinner member (.tail _ hmember))
      (fun member hmember => hdistinct member (.tail _ hmember)) hothers
    refine ⟨by simp only [List.map_cons, hnames], ?_, ?_⟩
    · simp only [entriesJson, Json.entryForms, hforms, hfirst.writes]
    · intro entry hentry
      rcases List.mem_cons.mp hentry with rfl | hentry
      · exact hfirst.tidy
      · exact htidy entry hentry

theorem mirrors_nodeItems {items : List Json} {nodes : List Node}
    (hinner : ∀ item ∈ items, Mirrored item) (hdistinct : ∀ item ∈ items, item.hasDistinctKeys)
    (h : nodeItems items = .ok nodes) :
    nodesJson nodes = Json.itemForms items ∧ ∀ node ∈ nodes, node.Tidy := by
  induction items generalizing nodes with
  | nil =>
    simp only [nodeItems] at h
    cases h
    exact ⟨rfl, fun _ hnode => (List.not_mem_nil hnode).elim⟩
  | cons item rest ih =>
    simp only [nodeItems] at h
    obtain ⟨node, hnode, h⟩ := exists_of_bind_eq_ok h
    obtain ⟨others, hothers, h⟩ := exists_of_bind_eq_ok h
    cases h
    have hfirst := hinner _ List.mem_cons_self (hdistinct _ List.mem_cons_self) node hnode
    obtain ⟨hforms, htidy⟩ := ih (fun item hitem => hinner item (.tail _ hitem))
      (fun item hitem => hdistinct item (.tail _ hitem)) hothers
    refine ⟨?_, ?_⟩
    · simp only [nodesJson, Json.itemForms, hforms, hfirst.writes]
    · intro node hnode
      rcases List.mem_cons.mp hnode with rfl | hnode
      · exact hfirst.tidy
      · exact htidy node hnode

/-! ### One field -/

theorem eq_of_textOf? {value : Json} {text : Option String} (h : textOf? value = .ok text) :
    value = (text.map Json.string).getD .null := by
  cases value <;> cases h <;> rfl

theorem eq_of_textsOf {items : List Json} {texts : List String} (h : textsOf items = .ok texts) :
    items = texts.map .string := by
  induction items generalizing texts with
  | nil =>
    cases h
    rfl
  | cons item rest ih =>
    cases item with
    | string s =>
      obtain ⟨others, hothers, heq⟩ := exists_of_bind_eq_ok h
      cases heq
      rw [List.map_cons, ih hothers]
    | null | bool _ | number _ | array _ | object _ => cases h

theorem form?_typeOf {value : Json} {type : Option TypeDecl} (h : typeOf value = .ok type) :
    type.map typeJson = Key.type.form? value := by
  cases value with
  | null | string _ =>
    cases h
    rfl
  | array items =>
    simp only [typeOf] at h
    cases htexts : textsOf items with
    | error cause => simp [htexts] at h
    | ok names =>
      simp only [htexts] at h
      cases h
      rw [eq_of_textsOf htexts]
      rfl
  | bool _ | number _ | object _ => cases h

theorem form?_literalsOf {value : Json} {literals : Option (List Json)}
    (hdistinct : value.hasDistinctKeys) (h : literalsOf value = .ok literals) :
    literals.map Json.array = Key.literals.form? value ∧
      ∀ literal ∈ literals.getD [], literal.hasDistinctKeys := by
  cases value with
  | null =>
    cases h
    exact ⟨rfl, fun _ hmem => (List.not_mem_nil hmem).elim⟩
  | array items =>
    rw [Json.hasDistinctKeys] at hdistinct
    rw [literalsOf, Json.mergeItems_eq_self hdistinct] at h
    cases h
    exact ⟨rfl, Json.distinctItems_iff.mp hdistinct⟩
  | bool _ | number _ | string _ | object _ => cases h

theorem form?_requiredOf {value : Json} {node : Node}
    (h : requiredOf value = .ok node.required) :
    node.written .required = Key.required.form? value := by
  cases value with
  | array items =>
    rw [eq_of_textsOf h, written]
    cases node.required <;> rfl
  | null | bool _ | number _ | string _ | object _ => cases h

theorem form?_defaultOf {value : Json} (hdistinct : value.hasDistinctKeys) :
    defaultOf value = Key.default.form? value ∧
      ∀ default ∈ defaultOf value, default ≠ .null ∧ default.hasDistinctKeys := by
  cases value with
  | null => exact ⟨rfl, fun _ hmem => by cases hmem⟩
  | bool _ | number _ | string _ | array _ | object _ =>
    simp only [defaultOf, Json.mergeKeys_eq_self hdistinct]
    refine ⟨rfl, ?_⟩
    rintro _ ⟨rfl⟩
    exact ⟨Json.noConfusion, hdistinct⟩

theorem mirrors_entriesOf {value : Json} {entries : Option (List (String × Node))}
    (hinner : ∀ inner, sizeOf inner ≤ sizeOf value → Mirrored inner)
    (hdistinct : value.hasDistinctKeys) (h : entriesOf value = .ok entries) :
    entriesJson? entries = Key.form? .properties value ∧
      entriesJson? entries = Key.form? .patterns value ∧
      ((entries.getD []).map (·.1)).Nodup ∧ ∀ part ∈ entryNodes entries, part.Tidy := by
  cases value with
  | null =>
    simp only [entriesOf] at h
    cases h
    exact ⟨rfl, rfl, List.nodup_nil, fun _ hpart => (List.not_mem_nil hpart).elim⟩
  | object members =>
    simp only [entriesOf] at h
    obtain ⟨read, hread, h⟩ := exists_of_bind_eq_ok h
    cases h
    rw [Json.hasDistinctKeys_object_iff] at hdistinct
    have hsmaller : ∀ member ∈ members, Mirrored member.2 := by
      intro member hmember
      exact hinner member.2 (Nat.le_of_lt (Json.sizeOf_lt_of_mem_members hmember))
    obtain ⟨hnames, hforms, htidy⟩ := mirrors_nodeMembers hsmaller hdistinct.2 hread
    have hnodup : (read.map (·.1)).Nodup := by
      rw [hnames]
      exact hdistinct.1
    rw [Keyed.ofList_eq_self hnodup]
    refine ⟨?_, ?_, hnodup, ?_⟩
    · simp only [entriesJson?, hforms]
      rfl
    · simp only [entriesJson?, hforms]
      rfl
    · intro part hpart
      obtain ⟨entry, hentry, rfl⟩ := List.mem_map.mp hpart
      exact htidy entry hentry
  | bool _ | number _ | string _ | array _ =>
    simp only [entriesOf] at h
    cases h

theorem mirrors_itemsOf {value : Json} {items : Option (Items Node)}
    (hinner : ∀ inner, sizeOf inner ≤ sizeOf value → Mirrored inner)
    (hdistinct : value.hasDistinctKeys) (h : itemsOf value = .ok items) :
    itemsJson? items = Key.items.form? value ∧ ∀ part ∈ itemNodes items, part.Tidy := by
  cases value with
  | null =>
    simp only [itemsOf] at h
    cases h
    exact ⟨rfl, fun _ hpart => (List.not_mem_nil hpart).elim⟩
  | array schemas =>
    simp only [itemsOf] at h
    obtain ⟨nodes, hnodes, h⟩ := exists_of_bind_eq_ok h
    cases h
    have hsmaller : ∀ schema ∈ schemas, Mirrored schema := by
      intro schema hschema
      exact hinner schema (Nat.le_of_lt (Json.sizeOf_lt_of_mem_items hschema))
    obtain ⟨hforms, htidy⟩ := mirrors_nodeItems hsmaller
      (Json.hasDistinctKeys_array_iff.mp hdistinct) hnodes
    refine ⟨?_, htidy⟩
    simp only [itemsJson?, hforms]
    rfl
  | object members =>
    simp only [itemsOf] at h
    obtain ⟨draft, hdraft, h⟩ := exists_of_bind_eq_ok h
    cases h
    have hmirrors := hinner _ (Nat.le_refl _) hdistinct draft.node (by rw [ofJson, hdraft]; rfl)
    refine ⟨?_, ?_⟩
    · simp only [itemsJson?, hmirrors.writes]
      rfl
    · intro part hpart
      obtain rfl := List.mem_singleton.mp hpart
      exact hmirrors.tidy
  | bool _ | number _ | string _ =>
    simp only [itemsOf] at h
    cases h

theorem mirrors_additionalOf {value : Json} {additional : Option (Additional Node)}
    (hinner : ∀ inner, sizeOf inner ≤ sizeOf value → Mirrored inner)
    (hdistinct : value.hasDistinctKeys) (h : additionalOf value = .ok additional) :
    additionalJson? additional = Key.additional.form? value ∧
      ∀ part ∈ additionalNodes additional, part.Tidy := by
  cases value with
  | null | bool _ =>
    simp only [additionalOf] at h
    cases h
    exact ⟨rfl, fun _ hpart => (List.not_mem_nil hpart).elim⟩
  | object members =>
    simp only [additionalOf] at h
    obtain ⟨draft, hdraft, h⟩ := exists_of_bind_eq_ok h
    cases h
    have hmirrors := hinner _ (Nat.le_refl _) hdistinct draft.node (by rw [ofJson, hdraft]; rfl)
    refine ⟨?_, ?_⟩
    · simp only [additionalJson?, hmirrors.writes]
      rfl
    · intro part hpart
      obtain rfl := List.mem_singleton.mp hpart
      exact hmirrors.tidy
  | number _ | string _ | array _ =>
    simp only [additionalOf] at h
    cases h

theorem Fills.mirrors {value : Json} {node next : Node} {key : Key}
    (hinner : ∀ inner, sizeOf inner ≤ sizeOf value → Mirrored inner)
    (hdistinct : value.hasDistinctKeys) (h : Fills value node key next) :
    next.written key = key.form? value ∧ next.TidyAt key := by
  cases h with
  | @id text h | @reference text h | @description text h =>
    rw [eq_of_textOf? h]
    refine ⟨?_, trivial⟩
    cases text <;> rfl
  | type h => exact ⟨form?_typeOf h, trivial⟩
  | properties h =>
    obtain ⟨hform, -, hnodup, htidy⟩ := mirrors_entriesOf hinner hdistinct h
    exact ⟨hform, hnodup, htidy⟩
  | items h => exact mirrors_itemsOf hinner hdistinct h
  | additional h => exact mirrors_additionalOf hinner hdistinct h
  | patterns h =>
    obtain ⟨-, hform, hnodup, htidy⟩ := mirrors_entriesOf hinner hdistinct h
    exact ⟨hform, hnodup, htidy⟩
  | literals h => exact form?_literalsOf hdistinct h
  | @required required h =>
    have hform : ({ node with required } : Node).written .required = Key.required.form? value :=
      form?_requiredOf h
    exact ⟨hform, trivial⟩
  | default => exact form?_defaultOf hdistinct

/-! ### All fields -/

/-- The node of a draft is tidy, and has nothing yet of the keys that were not given. -/
structure Draft.IsSound (draft : Draft) : Prop where
  unread : ∀ key ∉ draft.seen, draft.node.written key = none
  tidy : draft.node.Tidy

theorem Draft.isSound_empty : ({} : Draft).IsSound := by
  refine ⟨?_, tidy_empty⟩
  intro key _
  cases key <;> rfl

theorem Draft.IsSound.fill {draft : Draft} (h : draft.IsSound) {key : Key} {value : Json}
    {node : Node} (hfills : Fills value draft.node key node) (hfield : node.TidyAt key) :
    Draft.IsSound ⟨node, key :: draft.seen⟩ := by
  obtain ⟨hextra, hsame⟩ := hfills.frame
  constructor
  · intro other hother
    rw [List.mem_cons, not_or] at hother
    rw [(hsame other hother.1).written_eq]
    exact h.unread other hother.2
  · have htidy := tidy_iff_tidyAt.mp h.tidy
    refine tidy_iff_tidyAt.mpr ⟨?_, hextra ▸ htidy.2⟩
    intro other
    by_cases hother : other = key
    · exact hother ▸ hfield
    · exact (hsame other hother).tidyAt (htidy.1 other)

theorem Draft.IsSound.addExtra {draft : Draft} (h : draft.IsSound) {name : String} {value : Json}
    (hname : Key.ofText? name = none) (hnew : name ∉ draft.node.extra.map (·.1))
    (hvalue : value.hasDistinctKeys) : (draft.addExtra name value).IsSound := by
  obtain ⟨hextra, hsame⟩ := addExtra_frame hnew hvalue
  constructor
  · intro key hkey
    rw [(hsame key).written_eq]
    exact h.unread key hkey
  · have htidy := tidy_iff_tidyAt.mp h.tidy
    refine tidy_iff_tidyAt.mpr ⟨fun key => (hsame key).tidyAt (htidy.1 key), ?_⟩
    rw [hextra]
    exact htidy.2.concat hname hnew hvalue

/-- After reading some members, the node writes under every key what it wrote before and
    the members of that key, and keeps aside the members without a meaning. -/
theorem mirrors_readMembers {members : List (String × Json)} {draft result : Draft}
    (hinner : ∀ member ∈ members, ∀ inner, sizeOf inner ≤ sizeOf member.2 → Mirrored inner)
    (hdistinct : ((draft.node.extra ++ members).map (·.1)).Nodup)
    (hvalues : ∀ member ∈ members, member.2.hasDistinctKeys) (hsound : draft.IsSound)
    (h : readMembers draft members = .ok result) :
    result.node.Tidy ∧ result.node.extra = draft.node.extra ++ aside members ∧
      ∀ key, member key (result.node.written key) =
        member key (draft.node.written key) ++ key.kept (Json.memberForms members) := by
  induction members generalizing draft with
  | nil =>
    rw [readMembers] at h
    cases h
    exact ⟨hsound.tidy, (List.append_nil _).symm, fun key => (List.append_nil _).symm⟩
  | cons first rest ih =>
    obtain ⟨name, value⟩ := first
    have hinner' := fun member hmember => hinner member (List.mem_cons_of_mem _ hmember)
    have hvalues' := fun member hmember => hvalues member (List.mem_cons_of_mem _ hmember)
    have hvalue : value.hasDistinctKeys := hvalues (name, value) List.mem_cons_self
    cases hname : Key.ofText? name with
    | none =>
      have hnew : name ∉ draft.node.extra.map (·.1) := by
        intro hknown
        rw [List.map_append, List.nodup_append] at hdistinct
        exact hdistinct.2.2 _ hknown _ List.mem_cons_self rfl
      obtain ⟨hextra, hsame⟩ := addExtra_frame hnew hvalue
      have hdistinct' : (((draft.addExtra name value).node.extra ++ rest).map (·.1)).Nodup := by
        rwa [hextra, List.append_assoc, List.singleton_append]
      rw [readMembers_unknown hname] at h
      obtain ⟨htidy, haside, hkept⟩ :=
        ih hinner' hdistinct' hvalues' (hsound.addExtra hname hnew hvalue) h
      refine ⟨htidy, ?_, ?_⟩
      · rw [haside, hextra, List.append_assoc, List.singleton_append, aside, aside,
          List.filter_cons, if_pos (by simpa using hname)]
      · intro key
        rw [hkept key, Key.kept_memberForms_of_ne (by simp [hname]), (hsame key).written_eq]
    | some key =>
      obtain ⟨hnew, node, hfills, h⟩ := readMembers_known_eq_ok hname h
      obtain ⟨hwritten, hfield⟩ := hfills.mirrors (hinner _ List.mem_cons_self) hvalue
      obtain ⟨hextra, hsame⟩ := hfills.frame
      have hdistinct' : ((node.extra ++ rest).map (·.1)).Nodup := by
        rw [hextra]
        refine hdistinct.sublist (List.Sublist.map _ ?_)
        exact (List.sublist_cons_self _ _).append_left _
      obtain ⟨htidy, haside, hkept⟩ := ih hinner' hdistinct' hvalues' (hsound.fill hfills hfield) h
      refine ⟨htidy, ?_, ?_⟩
      · rw [haside, hextra, aside, aside, List.filter_cons, if_neg (by simp [hname])]
      · intro other
        rw [hkept other]
        by_cases hother : other = key
        · subst hother
          rw [Key.kept_memberForms_self hname, hwritten, hsound.unread other hnew]
          rfl
        · have hne : Key.ofText? name ≠ some other := by
            rw [hname]
            exact fun heq => hother (Option.some.inj heq).symm
          rw [Key.kept_memberForms_of_ne hne, (hsame other hother).written_eq]

/-- **What is read is written again.**  A node that is read from a value without repeated
    keys is written as the value is, and is tidy. -/
theorem mirrored (value : Json) : Mirrored value := by
  intro hdistinct node h
  cases value with
  | object members =>
    rw [ofJson] at h
    obtain ⟨draft, hdraft, h⟩ := exists_of_bind_eq_ok h
    cases h
    have hinner : ∀ member ∈ members, ∀ inner, sizeOf inner ≤ sizeOf member.2 → Mirrored inner := by
      intro member hmember inner hsize
      have hlt := Json.sizeOf_lt_of_mem_members hmember
      exact mirrored inner
    rw [Json.hasDistinctKeys_object_iff] at hdistinct
    obtain ⟨htidy, haside, hkept⟩ := @mirrors_readMembers members {} draft hinner hdistinct.1
      hdistinct.2 Draft.isSound_empty hdraft
    refine ⟨?_, htidy⟩
    have hkept' : ∀ key, member key (draft.node.written key) =
        key.kept (Json.memberForms members) := by
      intro key
      rw [hkept key, Draft.isSound_empty.unread key List.not_mem_nil]
      rfl
    rw [toJson_eq, haside, Json.schemaForm, arranged, aside_memberForms]
    simp only [hkept']
    rfl
  | null | bool _ | number _ | string _ | array _ =>
    rw [ofJson.eq_def] at h
    cases h
termination_by sizeOf value

end Typewright.Node
