/-
  Typewright/Proofs/Schema/Written.lean
  =====================================
  **Schemas as they are written** — what becomes of a JSON value that is read as a
  node and written again.

  At every place where a schema stands, the known keys come first and in their own
  order, but for those whose value says nothing; the other keys come after them, as
  they stood.  Whatever is no schema stays as it is.  `Json.schemaForm` is this form,
  made from the value alone.

  A node is written key by key, and read member by member.  The reader is taken apart
  here into what one member does: a known key gives the node the field of that key
  (`Node.Fills`), any other key is kept aside, and all other fields stay.
-/
import Typewright.Proofs.Json.Distinct
import Typewright.Schema.Fields

namespace Typewright

open Node (Key)

/-! ### The form of a schema -/

namespace Node

/-- Whether the value of a known key says anything: `null` stands for a missing value,
    and no required properties are the same as an empty list of them. -/
def Key.keeps : Key → Json → Bool
  | _, .null => false
  | .required, .array names => !names.isEmpty
  | _, _ => true

/-- The members of a schema that are written under a key. -/
def Key.kept (key : Key) (members : List (String × Json)) : List (String × Json) :=
  members.filter fun (name, value) => name = key.text ∧ key.keeps value

/-- The members of a schema whose keys have no meaning. -/
def aside (members : List (String × Json)) : List (String × Json) :=
  members.filter fun (name, _) => Key.ofText? name = none

/-- The members of a schema in the order in which they are written. -/
def arranged (members : List (String × Json)) : List (String × Json) :=
  Key.all.flatMap (fun key => key.kept members) ++ aside members

end Node

namespace Json

mutual

/-- A schema as it is written. -/
def schemaForm : Json → Json
  | .object members => .object (Node.arranged (memberForms members))
  | value => value

def memberForms : List (String × Json) → List (String × Json)
  | [] => []
  | (name, value) :: rest => (name, keyForm (Key.ofText? name) value) :: memberForms rest

/-- The value of a key, in which the schemas are as they are written. -/
def keyForm : Option Key → Json → Json
  | some .properties, .object entries | some .patterns, .object entries =>
    .object (entryForms entries)
  | some .items, .array schemas => .array (itemForms schemas)
  | some .items, .object members | some .additional, .object members =>
    .object (Node.arranged (memberForms members))
  | _, value => value

def entryForms : List (String × Json) → List (String × Json)
  | [] => []
  | (name, schema) :: rest => (name, schema.schemaForm) :: entryForms rest

def itemForms : List Json → List Json
  | [] => []
  | schema :: rest => schema.schemaForm :: itemForms rest

end

end Json

namespace Node

/-- What is written for a value of a key: its form, or nothing. -/
def Key.form? (key : Key) (value : Json) : Option Json :=
  (some (Json.keyForm (some key) value)).filter key.keeps

/-! ### Keys -/

theorem Key.mem_all (key : Key) : key ∈ all := by
  cases key <;> decide

theorem Key.ofText?_text (key : Key) : ofText? key.text = some key := by
  cases key <;> decide

theorem Key.text_of_ofText? {name : String} {key : Key} (h : ofText? name = some key) :
    key.text = name := by
  simpa using List.find?_some h

theorem Key.kept_memberForms_self {name : String} {value : Json} {rest : List (String × Json)}
    {key : Key} (hname : ofText? name = some key) :
    key.kept (Json.memberForms ((name, value) :: rest)) =
      member key (key.form? value) ++ key.kept (Json.memberForms rest) := by
  simp only [kept, Json.memberForms, hname, form?, List.filter_cons, text_of_ofText? hname,
    true_and, Option.filter_some]
  cases key.keeps (Json.keyForm (some key) value) <;> simp [member, text_of_ofText? hname]

theorem Key.kept_memberForms_of_ne {name : String} {value : Json} {rest : List (String × Json)}
    {key : Key} (hname : ofText? name ≠ some key) :
    key.kept (Json.memberForms ((name, value) :: rest)) = key.kept (Json.memberForms rest) := by
  have hne : name ≠ key.text := by
    rintro rfl
    exact hname (ofText?_text key)
  simp only [kept, Json.memberForms, List.filter_cons, hne, false_and, decide_false,
    Bool.false_eq_true, if_false]

theorem aside_memberForms (members : List (String × Json)) :
    aside (Json.memberForms members) = aside members := by
  induction members with
  | nil => rfl
  | cons first rest ih =>
    obtain ⟨name, value⟩ := first
    unfold aside at ih ⊢
    rw [Json.memberForms, List.filter_cons, List.filter_cons, ih]
    cases hname : Key.ofText? name with
    | none => simp [Json.keyForm]
    | some key => simp [hname]

/-! ### Writing by keys -/

/-- What is written under a key. -/
def written (node : Node) : Key → Option Json
  | .id => node.id.map .string
  | .reference => node.reference.map .string
  | .type => node.type.map typeJson
  | .properties => entriesJson? node.properties
  | .items => itemsJson? node.items
  | .additional => additionalJson? node.additional
  | .patterns => entriesJson? node.patterns
  | .literals => node.literals.map .array
  | .required => if node.required.isEmpty then none else some (.array (node.required.map .string))
  | .description => node.description.map .string
  | .default => node.default

theorem toJson_eq (node : Node) :
    node.toJson =
      .object (Key.all.flatMap (fun key => member key (node.written key)) ++ node.extra) := by
  have hrequired : ∀ required : List String,
      member .required (if required.isEmpty then none else some (.array (required.map .string))) =
        if required.isEmpty then [] else [(Key.required.text, .array (required.map .string))] := by
    intro required
    cases required <;> rfl
  cases node
  simp only [toJson, Key.all, List.flatMap_cons, List.flatMap_nil, written, hrequired,
    List.append_assoc, List.append_nil]

/-- Two nodes have the same field of a key. -/
def SameAt (node other : Node) : Key → Prop
  | .id => node.id = other.id
  | .reference => node.reference = other.reference
  | .type => node.type = other.type
  | .properties => node.properties = other.properties
  | .items => node.items = other.items
  | .additional => node.additional = other.additional
  | .patterns => node.patterns = other.patterns
  | .literals => node.literals = other.literals
  | .required => node.required = other.required
  | .description => node.description = other.description
  | .default => node.default = other.default

theorem sameAt_refl (node : Node) (key : Key) : SameAt node node key := by
  cases key <;> rfl

theorem SameAt.trans {node other last : Node} {key : Key} (h : SameAt node other key)
    (hother : SameAt other last key) : SameAt node last key := by
  cases key <;> exact Eq.trans h hother

theorem SameAt.written_eq {node other : Node} {key : Key} (h : SameAt node other key) :
    node.written key = other.written key := by
  cases key <;> simp only [SameAt] at h <;> simp only [written, h]

theorem eq_none_of_entriesJson? {entries : Option (List (String × Node))}
    (h : entriesJson? entries = none) : entries = none := by
  cases entries with
  | none => rfl
  | some entries =>
    rw [entriesJson?] at h
    cases h

theorem eq_none_of_itemsJson? {items : Option (Items Node)} (h : itemsJson? items = none) :
    items = none := by
  match items with
  | none => rfl
  | some (.single _) | some (.tuple _) =>
    rw [itemsJson?] at h
    cases h

theorem eq_none_of_additionalJson? {additional : Option (Additional Node)}
    (h : additionalJson? additional = none) : additional = none := by
  match additional with
  | none => rfl
  | some (.allowed _) | some (.schema _) =>
    rw [additionalJson?] at h
    cases h

theorem required_eq_nil_of_written {node : Node} (h : node.written .required = none) :
    node.required = [] := by
  rw [written] at h
  split at h
  · next hempty => exact List.isEmpty_iff.mp hempty
  · cases h

/-- Where two nodes write nothing under a key they have the same field. -/
theorem sameAt_of_written_eq_none {node other : Node} {key : Key} (hnode : node.written key = none)
    (hother : other.written key = none) : SameAt node other key := by
  cases key with
  | id | reference | type | literals | description =>
    exact (Option.map_eq_none_iff.mp hnode).trans (Option.map_eq_none_iff.mp hother).symm
  | properties | patterns =>
    exact (eq_none_of_entriesJson? hnode).trans (eq_none_of_entriesJson? hother).symm
  | items => exact (eq_none_of_itemsJson? hnode).trans (eq_none_of_itemsJson? hother).symm
  | additional =>
    exact (eq_none_of_additionalJson? hnode).trans (eq_none_of_additionalJson? hother).symm
  | required =>
    exact (required_eq_nil_of_written hnode).trans (required_eq_nil_of_written hother).symm
  | default => exact hnode.trans hother.symm

theorem eq_of_sameAt {node other : Node} (hkeys : ∀ key, SameAt node other key)
    (hextra : node.extra = other.extra) : node = other := by
  cases node
  cases other
  rw [Node.mk.injEq]
  exact ⟨hkeys .id, hkeys .reference, hkeys .type, hkeys .properties, hkeys .items,
    hkeys .additional, hkeys .patterns, hkeys .literals, hkeys .required, hkeys .description,
    hkeys .default, hextra⟩

/-! ### Reading by members -/

theorem exists_of_bind_eq_ok {ε α β : Type} {x : Except ε α} {f : α → Except ε β} {b : β}
    (h : (x >>= f) = .ok b) : ∃ a, x = .ok a ∧ f a = .ok b := by
  cases x with
  | error cause => cases h
  | ok a => exact ⟨a, rfl, h⟩

theorem orNoVariant_eq_ok_iff {α : Type} {union : String} {result : Except Mismatch α} {a : α} :
    orNoVariant union result = .ok a ↔ result = .ok a := by
  cases result with
  | ok b => rfl
  | error cause => simp [orNoVariant]

/-- `Fills value node key next`: the value gives a node its field of the key. -/
inductive Fills (value : Json) (node : Node) : Key → Node → Prop where
  | id {id : Option String} (h : textOf? value = .ok id) : Fills value node .id { node with id }
  | reference {reference : Option String} (h : textOf? value = .ok reference) :
      Fills value node .reference { node with reference }
  | type {type : Option TypeDecl} (h : typeOf value = .ok type) :
      Fills value node .type { node with type }
  | properties {properties : Option (List (String × Node))} (h : entriesOf value = .ok properties) :
      Fills value node .properties { node with properties }
  | items {items : Option (Items Node)} (h : itemsOf value = .ok items) :
      Fills value node .items { node with items }
  | additional {additional : Option (Additional Node)} (h : additionalOf value = .ok additional) :
      Fills value node .additional { node with additional }
  | patterns {patterns : Option (List (String × Node))} (h : entriesOf value = .ok patterns) :
      Fills value node .patterns { node with patterns }
  | literals {literals : Option (List Json)} (h : literalsOf value = .ok literals) :
      Fills value node .literals { node with literals }
  | required {required : List String} (h : requiredOf value = .ok required) :
      Fills value node .required { node with required }
  | description {description : Option String} (h : textOf? value = .ok description) :
      Fills value node .description { node with description }
  | default : Fills value node .default { node with default := defaultOf value }

theorem fills_of_fill {draft result : Draft} {key : Key} {value : Json}
    (h : fill draft key value = .ok result) :
    Fills value draft.node key result.node ∧ result.seen = draft.seen := by
  cases key
  case default =>
    simp only [fill.eq_def] at h
    cases h
    exact ⟨.default, rfl⟩
  all_goals
    simp only [fill.eq_def] at h
    obtain ⟨field, hfield, heq⟩ := exists_of_bind_eq_ok h
    cases heq
    try rw [orNoVariant_eq_ok_iff] at hfield
    refine ⟨?_, rfl⟩
    constructor
    exact hfield

theorem fill_of_fills {draft : Draft} {node : Node} {key : Key} {value : Json}
    (h : Fills value draft.node key node) : fill draft key value = .ok { draft with node } := by
  cases h with
  | items h | additional h =>
    simp only [fill.eq_def, h, orNoVariant]
    rfl
  | default =>
    simp only [fill.eq_def]
    rfl
  | id h | reference h | type h | properties h | patterns h | literals h | required h
  | description h =>
    simp only [fill.eq_def, h]
    rfl

/-- A value changes the field of its key and nothing else. -/
theorem Fills.frame {value : Json} {node next : Node} {key : Key}
    (h : Fills value node key next) :
    next.extra = node.extra ∧ ∀ other ≠ key, SameAt next node other := by
  constructor
  · cases h <;> rfl
  · intro other hne
    cases h <;> cases other <;> first | rfl | exact absurd rfl hne

theorem readMembers_unknown {draft : Draft} {name : String} {value : Json}
    {rest : List (String × Json)} (hname : Key.ofText? name = none) :
    readMembers draft ((name, value) :: rest) = readMembers (draft.addExtra name value) rest := by
  rw [readMembers, hname]

theorem readMembers_known {draft : Draft} {name : String} {value : Json}
    {rest : List (String × Json)} {key : Key} (hname : Key.ofText? name = some key) :
    readMembers draft ((name, value) :: rest) =
      (do readMembers (← fill (← draft.claim key) key value) rest) := by
  rw [readMembers, hname]

theorem claim_of_not_mem {draft : Draft} {key : Key} (hnew : key ∉ draft.seen) :
    draft.claim key = .ok { draft with seen := key :: draft.seen } := by
  unfold Draft.claim
  rw [if_neg]
  simpa using hnew

/-- A member of a known key is accepted once, and gives the node its field. -/
theorem readMembers_known_eq_ok {draft result : Draft} {name : String} {value : Json}
    {rest : List (String × Json)} {key : Key} (hname : Key.ofText? name = some key)
    (h : readMembers draft ((name, value) :: rest) = .ok result) :
    key ∉ draft.seen ∧ ∃ node, Fills value draft.node key node ∧
      readMembers ⟨node, key :: draft.seen⟩ rest = .ok result := by
  rw [readMembers_known hname] at h
  obtain ⟨claimed, hclaim, hread⟩ := exists_of_bind_eq_ok h
  obtain ⟨filled, hfill, hrest⟩ := exists_of_bind_eq_ok hread
  have hnew : key ∉ draft.seen := by
    intro hseen
    unfold Draft.claim at hclaim
    rw [if_pos (by simpa using hseen)] at hclaim
    cases hclaim
  rw [claim_of_not_mem hnew] at hclaim
  cases hclaim
  obtain ⟨hfills, hseen⟩ := fills_of_fill hfill
  cases filled
  cases hseen
  exact ⟨hnew, _, hfills, hrest⟩

theorem readMembers_of_fills {draft : Draft} {key : Key} {value : Json} {node : Node}
    (rest : List (String × Json)) (hnew : key ∉ draft.seen)
    (hfills : Fills value draft.node key node) :
    readMembers draft ((key.text, value) :: rest) = readMembers ⟨node, key :: draft.seen⟩ rest := by
  rw [readMembers_known (Key.ofText?_text key), claim_of_not_mem hnew]
  have hfill : fill ⟨draft.node, key :: draft.seen⟩ key value = .ok ⟨node, key :: draft.seen⟩ :=
    fill_of_fills hfills
  simp only [bind, Except.bind, hfill]

/-- A new member without a meaning is kept at the end, and nothing else changes. -/
theorem addExtra_frame {draft : Draft} {name : String} {value : Json}
    (hnew : name ∉ draft.node.extra.map (·.1)) (hdistinct : value.hasDistinctKeys) :
    (draft.addExtra name value).node.extra = draft.node.extra ++ [(name, value)] ∧
      ∀ key, SameAt (draft.addExtra name value).node draft.node key := by
  constructor
  · unfold Draft.addExtra
    rw [Json.mergeKeys_eq_self hdistinct, Keyed.put_of_not_mem hnew]
  · intro key
    cases key <;> rfl

end Node

end Typewright
