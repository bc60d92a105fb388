/-
  Typewright/Proofs/Package/Manifest.lean
  =======================================
  **Manifests read back** — what a manifest says about its package to one who reads it.

  A manifest is read line by line: a line is empty, or the header of a table, or gives a
  value to a key.  The first line that is none of these makes the whole text unreadable,
  and so does a key that is given twice.

  Every text of the package information is written as a basic string on one line.  So a
  manifest says what it should just if each of these strings is read back, that is, if
  none of the texts holds a control character that writing leaves as it is
  (`manifest_reads_back`).
-/
import Typewright.Package.Support
import Typewright.Proofs.Text.BasicString

namespace Typewright

namespace Manifest

open Text (BasicString.IsWritable BasicString.decode? BasicString.decode?_quote BasicString.quote)

/-! ### A reader of manifests -/

/-- What a key may be given. -/
inductive Value where
  | text (text : String)
  | flag (flag : Bool)
  | list (items : List Value)
  /-- Keys and values on one line. -/
  | table (entries : List (String × Value))

/-- A key and its value. -/
abbrev Entry := String × Value

/-- A part that a text starts with, and what follows it. -/
abbrev Part (α : Type) := Option (α × List Char)

def isBlank (c : Char) : Bool := c == ' ' || c == '\t'

/-- The characters of a key without quotes. -/
def isBare (c : Char) : Bool := c.isAlphanum || c == '_' || c == '-'

def skipBlanks (text : List Char) : List Char := text.dropWhile isBlank

/-- Reads some items up to the mark `close`, with commas between them.  Every item takes
    a character at least, so the text that is left bounds them. -/
def readSome {α : Type} (item : List Char → Part α) (close : Char) :
    (bound : List Char) → List Char → Part (List α)
  | [], _ => none
  | _ :: bound, text =>
    (item (skipBlanks text)).bind fun (found, rest) =>
      match skipBlanks rest with
      | [] => none
      | c :: rest =>
        if c = close then some ([found], rest)
        else if c = ',' then
          (readSome item close bound rest).map fun (more, rest) => (found :: more, rest)
        else none

/-- Reads any number of items up to the mark `close`. -/
def readItems {α : Type} (item : List Char → Part α) (close : Char) (text : List Char) :
    Part (List α) :=
  match skipBlanks text with
  | [] => none
  | c :: rest => if c = close then some ([], rest) else readSome item close text text

def readEntry (value : List Char → Part Value) (text : List Char) : Part Entry :=
  let key := text.takeWhile isBare
  match skipBlanks (text.dropWhile isBare) with
  | '=' :: rest =>
    if key = [] then none
    else (value (skipBlanks rest)).map fun (found, rest) => ((String.ofList key, found), rest)
  | _ => none

def readFlag (text : List Char) : Part Value :=
  let word := text.takeWhile isBare
  let rest := text.dropWhile isBare
  if word = ['t', 'r', 'u', 'e'] then some (.flag true, rest)
  else if word = ['f', 'a', 'l', 's', 'e'] then some (.flag false, rest)
  else none

/-- A value in which at most `depth` brackets are open at once. -/
def readValue : (depth : Nat) → List Char → Part Value
  | _, '\x22' :: rest =>
    (BasicString.decode? ('\x22' :: rest)).map fun (text, rest) => (.text text, rest)
  | depth + 1, '[' :: rest =>
    (readItems (readValue depth) ']' rest).map fun (items, rest) => (.list items, rest)
  | depth + 1, '\x7b' :: rest =>
    (readItems (readEntry (readValue depth)) '\x7d' rest).bind fun (entries, rest) =>
      if (entries.map (·.1)).Nodup then some (.table entries, rest) else none
  | _, text => readFlag text

/-- A line, by what it does. -/
inductive Line where
  | blank
  /-- Opens the table with the name. -/
  | header (name : String)
  | entry (entry : Entry)

/-- The header that a line holds after its opening bracket. -/
def readHeader (text : List Char) : Option Line :=
  let name := text.takeWhile isBare
  if name ≠ [] ∧ text.dropWhile isBare = [']'] then some (.header (String.ofList name)) else none

def readLine (line : String) : Option Line :=
  match skipBlanks line.toList with
  | [] => some .blank
  | '[' :: rest => readHeader rest
  | text =>
    (readEntry (readValue text.length) text).bind fun (entry, rest) =>
      if skipBlanks rest = [] then some (.entry entry) else none

def readLines : List String → Option (List Line)
  | [] => some []
  | line :: rest => (readLine line).bind fun found => (readLines rest).map (found :: ·)

/-- What a manifest says: entries outside of all tables, and tables with their entries. -/
structure Document where
  top : List Entry := []
  tables : List (String × List Entry) := []

namespace Document

/-- An entry belongs to the table whose header is the last one before it. -/
def ofLines : List Line → Document
  | [] => {}
  | .blank :: rest => ofLines rest
  | .entry entry :: rest => { ofLines rest with top := entry :: (ofLines rest).top }
  | .header name :: rest => { tables := (name, (ofLines rest).top) :: (ofLines rest).tables }

/-- No name is given twice where it would mean two things. -/
structure IsDistinct (document : Document) : Prop where
  names : (document.top.map (·.1) ++ document.tables.map (·.1)).Nodup
  keys : ∀ table ∈ document.tables, (table.2.map (·.1)).Nodup

instance (document : Document) : Decidable document.IsDistinct :=
  decidable_of_iff
    ((document.top.map (·.1) ++ document.tables.map (·.1)).Nodup ∧
      ∀ table ∈ document.tables, (table.2.map (·.1)).Nodup)
    ⟨fun h => ⟨h.1, h.2⟩, fun h => ⟨h.names, h.keys⟩⟩

def read (text : String) : Option Document :=
  (readLines (Text.lines text)).bind fun lines =>
    if (ofLines lines).IsDistinct then some (ofLines lines) else none

end Document

theorem Document.ofLines_entries (entries : List Entry) (rest : List Line) :
    ofLines (entries.map .entry ++ rest) =
      { ofLines rest with top := entries ++ (ofLines rest).top } := by
  induction entries with
  | nil => rfl
  | cons entry entries ih => rw [List.map_cons, List.cons_append, ofLines, ih, List.cons_append]

/-! ### Values that are written -/

theorem skipBlanks_of_not_isBlank {c : Char} (hc : isBlank c = false) (rest : List Char) :
    skipBlanks (c :: rest) = c :: rest := by
  rw [skipBlanks, List.dropWhile_cons, if_neg (by simp [hc])]

theorem exists_quote_append (text : String) (rest : List Char) :
    ∃ letters, (BasicString.quote text).toList ++ rest = '\x22' :: letters := by
  simp [BasicString.quote]

theorem skipBlanks_quote (text : String) (rest : List Char) :
    skipBlanks ((BasicString.quote text).toList ++ rest) =
      (BasicString.quote text).toList ++ rest := by
  obtain ⟨letters, hletters⟩ := exists_quote_append text rest
  rw [hletters, skipBlanks_of_not_isBlank (by decide)]

theorem readValue_quote (depth : Nat) (text : String) (rest : List Char) :
    readValue depth ((BasicString.quote text).toList ++ rest) =
      if BasicString.IsWritable text then some (.text text, rest) else none := by
  obtain ⟨letters, hletters⟩ := exists_quote_append text rest
  rw [hletters, readValue, ← hletters, BasicString.decode?_quote]
  split
  · rfl
  · rfl

/-! ### Lists of texts -/

section

variable {α : Type} {item : List Char → Part α} {close : Char} {given rest after : List Char}
  {found : α}

theorem readSome_of_none (hitem : item (skipBlanks given) = none) (bound : List Char) :
    readSome item close bound given = none := by
  cases bound with
  | nil => rfl
  | cons b bound => rw [readSome, hitem, Option.bind_none]

theorem readSome_of_close (hitem : item (skipBlanks given) = some (found, rest))
    (hrest : skipBlanks rest = close :: after) (b : Char) (bound : List Char) :
    readSome item close (b :: bound) given = some ([found], after) := by
  simp only [readSome, hitem, Option.bind_some, hrest, if_true]

theorem readSome_of_comma (hclose : close ≠ ',') (hitem : item (skipBlanks given) = some (found, rest))
    (hrest : skipBlanks rest = ',' :: after) (b : Char) (bound : List Char) :
    readSome item close (b :: bound) given =
      (readSome item close bound after).map fun (more, rest) => (found :: more, rest) := by
  simp only [readSome, hitem, Option.bind_some, hrest, if_neg hclose.symm, if_true]

end

/-- Texts as a list writes them, without its brackets. -/
def quotedTexts (texts : List String) : String := ", ".intercalate (texts.map BasicString.quote)

theorem toList_quotedTexts_singleton (text : String) :
    (quotedTexts [text]).toList = (BasicString.quote text).toList := by
  rw [quotedTexts, List.map_singleton, String.intercalate_singleton]

theorem quotedTexts_cons (text next : String) (texts : List String) :
    quotedTexts (text :: next :: texts) =
      BasicString.quote text ++ ", " ++ quotedTexts (next :: texts) := by
  rw [quotedTexts, List.map_cons, List.map_cons, String.intercalate_cons_cons]
  rfl

theorem quotedTexts_cons_append (text next : String) (texts : List String) (rest : List Char) :
    (quotedTexts (text :: next :: texts)).toList ++ rest =
      (BasicString.quote text).toList ++
        ',' :: ' ' :: ((quotedTexts (next :: texts)).toList ++ rest) := by
  simp [quotedTexts_cons, String.toList_append]

theorem skipBlanks_quotedTexts (text : String) (texts : List String) (rest : List Char) :
    skipBlanks ((quotedTexts (text :: texts)).toList ++ rest) =
      (quotedTexts (text :: texts)).toList ++ rest := by
  cases texts with
  | nil => rw [toList_quotedTexts_singleton, skipBlanks_quote]
  | cons next texts => rw [quotedTexts_cons_append, skipBlanks_quote]

/-- A list is read up to its end, or refused for the first text that is no string. -/
theorem readSome_quotedTexts (depth : Nat) (text : String) (texts : List String)
    {given bound rest : List Char}
    (hgiven : skipBlanks given = (quotedTexts (text :: texts)).toList ++ ']' :: rest)
    (hbound : texts.length < bound.length) :
    readSome (readValue depth) ']' bound given =
      if ∀ t ∈ text :: texts, BasicString.IsWritable t
        then some ((text :: texts).map .text, rest) else none := by
  -- The texts left bound the list, and behind a comma there is a blank.
  induction texts generalizing text given bound with
  | nil =>
    rcases bound with _ | ⟨b, bound⟩
    · cases hbound
    rw [toList_quotedTexts_singleton] at hgiven
    have hitem := readValue_quote depth text (']' :: rest)
    rw [← hgiven] at hitem
    by_cases htext : BasicString.IsWritable text
    · rw [if_pos htext] at hitem
      have hend : skipBlanks (']' :: rest) = ']' :: rest := skipBlanks_of_not_isBlank rfl rest
      rw [readSome_of_close hitem hend, if_pos (by simpa using htext)]
      rfl
    · rw [if_neg htext] at hitem
      rw [readSome_of_none hitem, if_neg (by simpa using htext)]
  | cons next texts ih =>
    rcases bound with _ | ⟨b, bound⟩
    · cases hbound
    rw [quotedTexts_cons_append] at hgiven
    have hitem := readValue_quote depth text
      (',' :: ' ' :: ((quotedTexts (next :: texts)).toList ++ ']' :: rest))
    rw [← hgiven] at hitem
    by_cases htext : BasicString.IsWritable text
    · rw [if_pos htext] at hitem
      have hcomma := skipBlanks_of_not_isBlank (show isBlank ',' = false by rfl)
        (' ' :: ((quotedTexts (next :: texts)).toList ++ ']' :: rest))
      have hnext : skipBlanks (' ' :: ((quotedTexts (next :: texts)).toList ++ ']' :: rest)) =
          (quotedTexts (next :: texts)).toList ++ ']' :: rest :=
        skipBlanks_quotedTexts next texts (']' :: rest)
      rw [readSome_of_comma (by decide) hitem hcomma, ih next hnext (Nat.lt_of_succ_lt_succ hbound)]
      by_cases hrest : ∀ t ∈ next :: texts, BasicString.IsWritable t
      · rw [if_pos hrest, if_pos (List.forall_mem_cons.mpr ⟨htext, hrest⟩)]
        rfl
      · rw [if_neg hrest, if_neg fun h => hrest (List.forall_mem_cons.mp h).2]
        rfl
    · rw [if_neg htext] at hitem
      rw [readSome_of_none hitem, if_neg fun h => htext (List.forall_mem_cons.mp h).1]

theorem length_le_quotedTexts (texts : List String) :
    texts.length ≤ (quotedTexts texts).toList.length := by
  have hquote : ∀ text, 1 ≤ (BasicString.quote text).toList.length := by
    intro text
    obtain ⟨letters, hletters⟩ := exists_quote_append text []
    rw [List.append_nil] at hletters
    rw [hletters, List.length_cons]
    omega
  induction texts with
  | nil => exact Nat.zero_le _
  | cons text texts ih =>
    have htext := hquote text
    cases texts with
    | nil =>
      rw [toList_quotedTexts_singleton]
      exact htext
    | cons next texts =>
      have hsplit := quotedTexts_cons_append text next texts []
      rw [List.append_nil, List.append_nil] at hsplit
      rw [hsplit]
      simp only [List.length_append, List.length_cons] at ih ⊢
      omega

theorem oneLine_quotedTexts (texts : List String) : Text.OneLine (quotedTexts texts) := by
  induction texts with
  | nil => decide
  | cons text texts ih =>
    have htext := Text.BasicString.oneLine_quote text
    cases texts with
    | nil =>
      rw [quotedTexts, List.map_singleton, String.intercalate_singleton]
      exact htext
    | cons next texts =>
      rw [quotedTexts_cons, Text.oneLine_append, Text.oneLine_append]
      exact ⟨⟨htext, by decide⟩, ih⟩

theorem readValue_quotedTexts (depth : Nat) (texts : List String) (rest : List Char) :
    readValue (depth + 1) ('[' :: ((quotedTexts texts).toList ++ ']' :: rest)) =
      if ∀ t ∈ texts, BasicString.IsWritable t
        then some (.list (texts.map .text), rest) else none := by
  rw [readValue]
  cases texts with
  | nil =>
    have hend : skipBlanks (']' :: rest) = ']' :: rest := skipBlanks_of_not_isBlank rfl rest
    simp [readItems, quotedTexts, hend]
  | cons text texts =>
    have hskip := skipBlanks_quotedTexts text texts (']' :: rest)
    have hlength := length_le_quotedTexts (text :: texts)
    have hbound : texts.length < ((quotedTexts (text :: texts)).toList ++ ']' :: rest).length := by
      rw [List.length_append]
      rw [List.length_cons] at hlength
      omega
    have hitems := readSome_quotedTexts depth text texts hskip hbound
    obtain ⟨letters, hletters⟩ : ∃ letters,
        (quotedTexts (text :: texts)).toList ++ ']' :: rest = '\x22' :: letters := by
      cases texts with
      | nil => rw [toList_quotedTexts_singleton]; exact exists_quote_append _ _
      | cons next texts => rw [quotedTexts_cons_append]; exact exists_quote_append _ _
    have hread : readItems (readValue depth) ']' ((quotedTexts (text :: texts)).toList ++ ']' :: rest) =
        readSome (readValue depth) ']' ((quotedTexts (text :: texts)).toList ++ ']' :: rest)
          ((quotedTexts (text :: texts)).toList ++ ']' :: rest) := by
      simp only [readItems, hskip]
      rw [hletters]
      exact if_neg (by decide)
    rw [hread, hitems]
    split
    · rfl
    · rfl

/-! ### Lines that are written -/

/-- A text that can be a key. -/
def IsKey (key : String) : Prop := key ≠ "" ∧ ∀ c ∈ key.toList, isBare c

instance (key : String) : Decidable (IsKey key) :=
  decidable_of_iff (key ≠ "" ∧ key.toList.all isBare) (by rw [IsKey, List.all_eq_true])

theorem readEntry_written {key : String} (hkey : IsKey key) (value : List Char → Part Value)
    (written : String) :
    readEntry value (key ++ " = " ++ written).toList =
      (value (skipBlanks written.toList)).map fun (found, rest) => ((key, found), rest) := by
  have htext : (key ++ " = " ++ written).toList =
      key.toList ++ ' ' :: '=' :: ' ' :: written.toList := by simp [String.toList_append]
  have htake : (key ++ " = " ++ written).toList.takeWhile isBare = key.toList := by
    rw [htext, List.takeWhile_append_of_pos hkey.2]
    exact List.append_nil _
  have hdrop : skipBlanks ((key ++ " = " ++ written).toList.dropWhile isBare) =
      '=' :: ' ' :: written.toList := by
    rw [htext, List.dropWhile_append_of_pos hkey.2]
    rfl
  have hblank : skipBlanks (' ' :: written.toList) = skipBlanks written.toList := rfl
  have hne : key.toList ≠ [] := by simpa using hkey.1
  simp only [readEntry, htake, hdrop, if_neg hne, hblank, String.ofList_toList]

theorem ne_of_isBare {c : Char} (hc : isBare c) : isBlank c = false ∧ c ≠ '[' := by
  constructor
  · rw [Bool.eq_false_iff]
    intro hblank
    rcases (Bool.or_eq_true _ _).mp hblank with h | h
    · obtain rfl := eq_of_beq h
      cases hc
    · obtain rfl := eq_of_beq h
      cases hc
  · rintro rfl
    cases hc

theorem readLine_written {key : String} (hkey : IsKey key) (written : String) :
    readLine (key ++ " = " ++ written) =
      (readValue (key ++ " = " ++ written).toList.length (skipBlanks written.toList)).bind
        fun (found, rest) => if skipBlanks rest = [] then some (.entry (key, found)) else none := by
  have hentry := fun value => readEntry_written hkey value written
  rcases hletters : key.toList with _ | ⟨c, letters⟩
  · exact absurd (by simpa using hletters) hkey.1
  have hc : isBare c := hkey.2 c (by rw [hletters]; exact List.mem_cons_self)
  obtain ⟨hblank, hbracket⟩ := ne_of_isBare hc
  obtain ⟨rest, hrest⟩ : ∃ rest, (key ++ " = " ++ written).toList = c :: rest := by
    simp [String.toList_append, hletters]
  have hline : readLine (key ++ " = " ++ written) =
      (readEntry (readValue (key ++ " = " ++ written).toList.length)
        (key ++ " = " ++ written).toList).bind fun (entry, rest) =>
          if skipBlanks rest = [] then some (.entry entry) else none := by
    rw [readLine, hrest, skipBlanks_of_not_isBlank hblank]
    split
    · next heq => cases heq
    · next heq => cases heq; exact absurd rfl hbracket
    · rfl
  rw [hline, hentry, Option.bind_map]
  rfl

/-- A line of a manifest, with the texts that it holds and what it is read as. -/
structure WrittenLine where
  text : String
  holds : List String := []
  line : Line

namespace WrittenLine

/-- The line is one line, and it is read just if all texts that it holds are writable. -/
structure IsRead (written : WrittenLine) : Prop where
  oneLine : Text.OneLine written.text
  read : readLine written.text =
    if ∀ t ∈ written.holds, BasicString.IsWritable t then some written.line else none

/-- A key with a text. -/
def ofText (key text : String) : WrittenLine :=
  ⟨key ++ " = " ++ BasicString.quote text, [text], .entry (key, .text text)⟩

/-- A key with a list of texts. -/
def ofTexts (key : String) (texts : List String) : WrittenLine :=
  ⟨key ++ " = " ++ ("[" ++ quotedTexts texts ++ "]"), texts, .entry (key, .list (texts.map .text))⟩

theorem isRead_ofText {key : String} (hkey : IsKey key) (hone : Text.OneLine key) (text : String) :
    (ofText key text).IsRead where
  oneLine := by
    simp only [ofText, Text.oneLine_append]
    exact ⟨⟨hone, by decide⟩, Text.BasicString.oneLine_quote text⟩
  read := by
    have hskip := skipBlanks_quote text []
    have hvalue := fun depth => readValue_quote depth text []
    rw [List.append_nil] at hskip hvalue
    change readLine (key ++ " = " ++ BasicString.quote text) =
      if ∀ t ∈ [text], BasicString.IsWritable t then some (.entry (key, .text text)) else none
    rw [readLine_written hkey, hskip, hvalue]
    by_cases htext : BasicString.IsWritable text
    · rw [if_pos htext, if_pos (by simpa using htext)]
      rfl
    · rw [if_neg htext, if_neg (by simpa using htext)]
      rfl

theorem isRead_ofTexts {key : String} (hkey : IsKey key) (hone : Text.OneLine key)
    (texts : List String) : (ofTexts key texts).IsRead where
  oneLine := by
    simp only [ofTexts, Text.oneLine_append]
    exact ⟨⟨hone, by decide⟩, ⟨by decide, oneLine_quotedTexts texts⟩, by decide⟩
  read := by
    have hwritten : ("[" ++ quotedTexts texts ++ "]").toList =
        '[' :: ((quotedTexts texts).toList ++ [']']) := by simp [String.toList_append]
    have hskip := skipBlanks_of_not_isBlank (show isBlank '[' = false by rfl)
      ((quotedTexts texts).toList ++ [']'])
    obtain ⟨depth, hdepth⟩ : ∃ depth,
        (key ++ " = " ++ ("[" ++ quotedTexts texts ++ "]")).toList.length = depth + 1 :=
      Nat.exists_eq_add_one_of_ne_zero (by simp [String.toList_append])
    change readLine (key ++ " = " ++ ("[" ++ quotedTexts texts ++ "]")) =
      if ∀ t ∈ texts, BasicString.IsWritable t
        then some (.entry (key, .list (texts.map .text))) else none
    rw [readLine_written hkey, hdepth, hwritten, hskip, readValue_quotedTexts]
    by_cases htexts : ∀ t ∈ texts, BasicString.IsWritable t
    · rw [if_pos htexts, if_pos htexts]
      rfl
    · rw [if_neg htexts, if_neg htexts]
      rfl

end WrittenLine

theorem readLines_written {written : List WrittenLine} (h : ∀ line ∈ written, line.IsRead) :
    readLines (written.map (·.text)) =
      if ∀ line ∈ written, ∀ t ∈ line.holds, BasicString.IsWritable t
        then some (written.map (·.line)) else none := by
  induction written with
  | nil => rfl
  | cons line written ih =>
    have hread := (h line List.mem_cons_self).read
    have hrest := ih fun other hother => h other (List.mem_cons_of_mem line hother)
    rw [List.map_cons, readLines]
    by_cases hline : ∀ t ∈ line.holds, BasicString.IsWritable t
    · rw [if_pos hline] at hread
      by_cases hothers : ∀ other ∈ written, ∀ t ∈ other.holds, BasicString.IsWritable t
      · rw [if_pos hothers] at hrest
        rw [hread, hrest, if_pos (List.forall_mem_cons.mpr ⟨hline, hothers⟩)]
        rfl
      · rw [if_neg hothers] at hrest
        rw [hread, hrest, if_neg fun hall => hothers (List.forall_mem_cons.mp hall).2]
        rfl
    · rw [if_neg hline] at hread
      rw [hread, if_neg fun hall => hline (List.forall_mem_cons.mp hall).1]
      rfl

end Manifest

/-! ### What the manifest of a package says -/

namespace Manifest

def serdeEntry : Entry :=
  ("serde", .table [("version", .text "1"), ("features", .list [.text "derive"])])

def tokenEntry : Entry :=
  ("jsonwebtoken", .table [("version", .text "7"), ("optional", .flag true)])

/-- What the package needs, with or without signed tokens. -/
def dependencyEntries (jwt : Bool) : List Entry :=
  [serdeEntry, ("serde_json", .text "1")] ++ if jwt then [tokenEntry] else []

def featureEntries (jwt : Bool) : List Entry :=
  if jwt then [("default", .list [.text "jwt"]), ("jwt", .list [.text "dep:jsonwebtoken"])]
  else [("default", .list [])]

end Manifest

namespace PackageInfo

open Manifest

/-- All texts of the information that stand in the manifest. -/
def texts (info : PackageInfo) : List String :=
  [info.name, info.version] ++ info.authors ++ info.homepage.toList ++ info.repository.toList ++
    [info.license, info.description, info.edition]

def packageEntries (info : PackageInfo) : List Entry :=
  let optional (key : String) (value : Option String) : List Entry :=
    (value.map fun text => (key, .text text)).toList
  [("name", .text info.name), ("version", .text info.version),
      ("authors", .list (info.authors.map .text))] ++
    optional "homepage" info.homepage ++ optional "repository" info.repository ++
    [("license", .text info.license), ("description", .text info.description),
      ("edition", .text info.edition)]

/-- What the manifest is to say. -/
def document (info : PackageInfo) : Document where
  tables :=
    [("package", info.packageEntries),
      ("dependencies", dependencyEntries (info.hasFeature .jwt)),
      ("features", featureEntries (info.hasFeature .jwt))]

theorem isDistinct_document (info : PackageInfo) : info.document.IsDistinct := by
  unfold document packageEntries
  cases info.homepage <;> cases info.repository <;> cases info.hasFeature .jwt <;>
    exact ⟨by simp, by simp [dependencyEntries, featureEntries, serdeEntry, tokenEntry]⟩

end PackageInfo

/-! ### The lines of the manifest -/

namespace Manifest

def dependencyLines (jwt : Bool) : List WrittenLine :=
  [⟨"[dependencies]", [], .header "dependencies"⟩,
      ⟨"serde = \x7b version = \"1\", features = [\"derive\"] \x7d", [], .entry serdeEntry⟩,
      ⟨"serde_json = \"1\"", [], .entry ("serde_json", .text "1")⟩] ++
    if jwt then
      [⟨"jsonwebtoken = \x7b version = \"7\", optional = true \x7d", [], .entry tokenEntry⟩]
    else []

def featureLines (jwt : Bool) : List WrittenLine :=
  ⟨"[features]", [], .header "features"⟩ ::
    if jwt then
      [⟨"default = [\"jwt\"]", [], .entry ("default", .list [.text "jwt"])⟩,
        ⟨"jwt = [\"dep:jsonwebtoken\"]", [], .entry ("jwt", .list [.text "dep:jsonwebtoken"])⟩]
    else [⟨"default = []", [], .entry ("default", .list [])⟩]

theorem isRead_dependencyLines (jwt : Bool) : ∀ line ∈ dependencyLines jwt, line.IsRead := by
  cases jwt with
  | false =>
    simp only [dependencyLines, Bool.false_eq_true, if_false, List.append_nil, List.forall_mem_cons]
    exact ⟨⟨by decide, rfl⟩, ⟨by decide, rfl⟩, ⟨by decide, rfl⟩, List.forall_mem_nil _⟩
  | true =>
    simp only [dependencyLines, if_true, List.cons_append, List.nil_append, List.forall_mem_cons]
    exact ⟨⟨by decide, rfl⟩, ⟨by decide, rfl⟩, ⟨by decide, rfl⟩, ⟨by decide, rfl⟩,
      List.forall_mem_nil _⟩

theorem isRead_featureLines (jwt : Bool) : ∀ line ∈ featureLines jwt, line.IsRead := by
  cases jwt with
  | false =>
    simp only [featureLines, Bool.false_eq_true, if_false, List.forall_mem_cons]
    exact ⟨⟨by decide, rfl⟩, ⟨by decide, rfl⟩, List.forall_mem_nil _⟩
  | true =>
    simp only [featureLines, if_true, List.forall_mem_cons]
    exact ⟨⟨by decide, rfl⟩, ⟨by decide, rfl⟩, ⟨by decide, rfl⟩, List.forall_mem_nil _⟩

end Manifest

namespace PackageInfo

open Manifest Text

def packageLines (info : PackageInfo) : List WrittenLine :=
  let optional (key : String) (value : Option String) : List WrittenLine :=
    (value.map (.ofText key)).toList
  [⟨"[package]", [], .header "package"⟩, .ofText "name" info.name, .ofText "version" info.version,
      .ofTexts "authors" info.authors] ++
    optional "homepage" info.homepage ++ optional "repository" info.repository ++
    [.ofText "license" info.license, .ofText "description" info.description,
      .ofText "edition" info.edition]

def manifestLines (info : PackageInfo) : List WrittenLine :=
  info.packageLines ++ ⟨"", [], .blank⟩ :: dependencyLines (info.hasFeature .jwt) ++
    ⟨"", [], .blank⟩ :: featureLines (info.hasFeature .jwt)

theorem isRead_packageLines (info : PackageInfo) : ∀ line ∈ info.packageLines, line.IsRead := by
  have hoptional : ∀ {key : String} (value : Option String), IsKey key → Text.OneLine key →
      ∀ line ∈ (value.map (WrittenLine.ofText key)).toList, line.IsRead := by
    intro key value hkey hone line hline
    obtain ⟨text, -, rfl⟩ := Option.map_eq_some_iff.mp (Option.mem_toList.mp hline)
    exact WrittenLine.isRead_ofText hkey hone text
  simp only [packageLines, List.forall_mem_append, List.forall_mem_cons]
  refine ⟨⟨⟨⟨⟨by decide, rfl⟩, ?_, ?_, ?_, List.forall_mem_nil _⟩, ?_⟩, ?_⟩, ?_, ?_, ?_,
    List.forall_mem_nil _⟩
  · exact WrittenLine.isRead_ofText (by decide) (by decide) info.name
  · exact WrittenLine.isRead_ofText (by decide) (by decide) info.version
  · exact WrittenLine.isRead_ofTexts (by decide) (by decide) info.authors
  · exact hoptional info.homepage (by decide) (by decide)
  · exact hoptional info.repository (by decide) (by decide)
  · exact WrittenLine.isRead_ofText (by decide) (by decide) info.license
  · exact WrittenLine.isRead_ofText (by decide) (by decide) info.description
  · exact WrittenLine.isRead_ofText (by decide) (by decide) info.edition

theorem isRead_manifestLines (info : PackageInfo) : ∀ line ∈ info.manifestLines, line.IsRead := by
  have hempty : (⟨"", [], .blank⟩ : WrittenLine).IsRead := ⟨by decide, rfl⟩
  simp only [manifestLines, List.forall_mem_append, List.forall_mem_cons]
  exact ⟨⟨info.isRead_packageLines, hempty, isRead_dependencyLines _⟩, hempty, isRead_featureLines _⟩

/-- The manifest is these lines. -/
theorem manifest_eq (info : PackageInfo) :
    info.manifest = "\n".intercalate (info.manifestLines.map (·.text)) := by
  -- Each piece that is written at once is taken apart where a line or a value begins.
  have hopen : "[package]\n" = "[package]" ++ "\n" := rfl
  have hlist : "authors = [" = "authors" ++ (" = " ++ "[") := rfl
  have hclose : "]\n" = "]" ++ "\n" := rfl
  have hneeds : "\n[dependencies]\n" = "\n" ++ ("[dependencies]" ++ "\n") := rfl
  have hserde : "serde = \x7b version = \"1\", features = [\"derive\"] \x7d\n" =
    "serde = \x7b version = \"1\", features = [\"derive\"] \x7d" ++ "\n" := rfl
  have hjson : "serde_json = \"1\"\n" = "serde_json = \"1\"" ++ "\n" := rfl
  have htoken : "jsonwebtoken = \x7b version = \"7\", optional = true \x7d\n" =
    "jsonwebtoken = \x7b version = \"7\", optional = true \x7d" ++ "\n" := rfl
  have hfeatures : "\n[features]\n" = "\n" ++ ("[features]" ++ "\n") := rfl
  have hjwt : "default = [\"jwt\"]\njwt = [\"dep:jsonwebtoken\"]" =
    "default = [\"jwt\"]" ++ ("\n" ++ "jwt = [\"dep:jsonwebtoken\"]") := rfl
  unfold manifest manifestLines packageLines dependencyLines featureLines
  cases info.homepage <;> cases info.repository <;> cases info.hasFeature .jwt <;>
    simp only [hopen, hlist, hclose, hneeds, hserde, hjson, htoken, hfeatures, hjwt, manifestLine,
      WrittenLine.ofText, WrittenLine.ofTexts, quotedTexts, Option.map_none, Option.map_some,
      Option.getD_none, Option.getD_some, Option.toList_none, Option.toList_some,
      Bool.false_eq_true, if_false, if_true, List.map_cons, List.map_nil, List.cons_append,
      List.nil_append, List.append_nil, String.intercalate_cons_cons, String.intercalate_singleton,
      String.append_assoc, String.empty_append, String.append_empty, -String.reduceAppend]

theorem texts_manifestLines (info : PackageInfo) :
    info.manifestLines.flatMap (·.holds) = info.texts := by
  have hneeds : (dependencyLines (info.hasFeature .jwt)).flatMap (·.holds) = [] := by
    cases info.hasFeature .jwt <;> rfl
  have hfeatures : (featureLines (info.hasFeature .jwt)).flatMap (·.holds) = [] := by
    cases info.hasFeature .jwt <;> rfl
  simp only [manifestLines, List.flatMap_append, List.flatMap_cons, hneeds, hfeatures]
  cases hhomepage : info.homepage <;> cases hrepository : info.repository <;>
    simp [packageLines, texts, hhomepage, hrepository, WrittenLine.ofText, WrittenLine.ofTexts]

theorem ofLines_manifestLines (info : PackageInfo) :
    Document.ofLines (info.manifestLines.map (·.line)) = info.document := by
  have hpackage : info.packageLines.map (·.line) =
      .header "package" :: info.packageEntries.map .entry := by
    unfold packageLines packageEntries
    cases info.homepage <;> cases info.repository <;> rfl
  have hneeds : ∀ jwt, (dependencyLines jwt).map (·.line) =
      .header "dependencies" :: (dependencyEntries jwt).map .entry := by
    intro jwt
    cases jwt <;> rfl
  have hfeatures : ∀ jwt, (featureLines jwt).map (·.line) =
      .header "features" :: (featureEntries jwt).map .entry := by
    intro jwt
    cases jwt <;> rfl
  have hlast : ∀ entries, Document.ofLines (entries.map .entry) = { top := entries } := by
    intro entries
    simpa [Document.ofLines] using Document.ofLines_entries entries []
  simp only [manifestLines, List.map_append, List.map_cons, hpackage, hneeds, hfeatures,
    List.cons_append, List.append_assoc, Document.ofLines, Document.ofLines_entries, hlast,
    List.append_nil, document]

/-- The manifest is read as what it is to say, or not at all. -/
theorem read_manifest (info : PackageInfo) :
    Document.read info.manifest =
      if ∀ text ∈ info.texts, Text.BasicString.IsWritable text then some info.document else none := by
  have hlines : Text.lines info.manifest = info.manifestLines.map (·.text) := by
    rw [manifest_eq]
    apply Text.lines_intercalate
    · simp [manifestLines]
    · intro text htext
      obtain ⟨line, hline, rfl⟩ := List.mem_map.mp htext
      exact (info.isRead_manifestLines line hline).oneLine.1
  have htexts : (∀ line ∈ info.manifestLines, ∀ text ∈ line.holds,
      Text.BasicString.IsWritable text) ↔ ∀ text ∈ info.texts, Text.BasicString.IsWritable text := by
    rw [← texts_manifestLines]
    simp only [List.mem_flatMap]
    grind
  rw [Document.read, hlines, readLines_written info.isRead_manifestLines]
  by_cases hwritable : ∀ text ∈ info.texts, Text.BasicString.IsWritable text
  · rw [if_pos (htexts.mpr hwritable), if_pos hwritable, Option.bind_some, ofLines_manifestLines,
      if_pos info.isDistinct_document]
  · rw [if_neg (mt htexts.mp hwritable), if_neg hwritable, Option.bind_none]

/-- **Manifests read back.**  A text is read back from the string that is written for it,
    whatever follows it, if this string holds no control character; these are the texts
    whose only control characters are tabs and line ends.  Else what was written is no
    string.  So a manifest is read as what it is to say, with every text of the
    information unchanged, if none of them holds another control character, and is not
    readable at all if one does. -/
theorem manifest_reads_back (info : PackageInfo) :
    (∀ text rest, BasicString.decode? ((BasicString.quote text).toList ++ rest) =
      if BasicString.IsWritable text then some (text, rest) else none) ∧
    (∀ text, BasicString.IsWritable text ↔
      ∀ c ∈ (BasicString.quote text).toList, ¬ BasicString.IsControl c) ∧
    Document.read info.manifest =
      if ∀ text ∈ info.texts, BasicString.IsWritable text then some info.document else none :=
  ⟨BasicString.decode?_quote, fun _ => BasicString.isWritable_iff, info.read_manifest⟩

/-- The information on a package whose description rings a bell. -/
def ringing : PackageInfo := { name := "doorbell", description := "Rings \x07 twice" }

/-- The bell stands between the quotes as it is, so what is written for the description
    is no string, and the manifest is not readable. -/
theorem ringing_unreadable :
    BasicString.quote ringing.description = "\"Rings \x07 twice\"" ∧
      BasicString.decode? (BasicString.quote ringing.description).toList = none ∧
      Document.read ringing.manifest = none := by
  refine ⟨by decide, by decide, ?_⟩
  rw [read_manifest, if_neg (by decide)]

end PackageInfo

end Typewright
