/-
  Typewright/Naming/Reserved.lean
  ===============================
  **Reserved words** — the words of the generated language that cannot name
  anything.

  Words that are reserved only in some places count as reserved everywhere, and
  so do those kept for later use.
-/

namespace Typewright

def reservedWords : List String :=
  ["as", "async", "await", "break", "const", "continue", "crate", "dyn", "else", "enum", "extern",
    "false", "fn", "for", "if", "impl", "in", "let", "loop", "match", "mod", "move", "mut", "pub",
    "ref", "return", "self", "Self", "static", "struct", "super", "trait", "true", "try", "type",
    "unsafe", "use", "where", "while", "union", "\x27static", "macro_rules", "abstract", "become",
    "box", "do", "final", "macro", "override", "priv", "typeof", "unsized", "yield"]

def isReservedWord (word : String) : Bool := reservedWords.contains word

end Typewright
