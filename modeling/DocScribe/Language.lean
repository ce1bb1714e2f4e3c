import DocScribe.Path
import DocScribe.Text.LetterCase

/-!
# `DocScribe.Language`: the language of a source file

The suffix of a path, in any case, decides which language its file is
written in. A file of an unknown suffix is text and is not documented.
-/

set_option autoImplicit false

namespace DocScribe.Language

/-- The suffixes that are known and their languages. -/
def table : List (Text × Text) :=
  [(".js", "javascript"), (".ts", "typescript"), (".py", "python"), (".java", "java"),
    (".cs", "csharp"), (".cpp", "cpp"), (".c", "c"), (".go", "go"), (".php", "php"),
    (".rb", "ruby")]

/-- The label of a file without a known suffix. -/
def fallback : Text := "text"

/-- The language of a suffix. -/
def ofSuffix? (suffix : Text) : Option Text :=
  (table.find? fun entry => entry.1 == suffix.toSmall).map (·.2)

/-- The label of a path. -/
def ofPath (p : Path) : Text :=
  (ofSuffix? p.suffix).getD fallback

/-- Whether a path has a known suffix. -/
def isSupported (p : Path) : Bool :=
  (ofSuffix? p.suffix).isSome

/-- No language is called like the fallback. -/
theorem fallback_not_mem_table : ∀ entry ∈ table, entry.2 ≠ fallback := by
  decide

end DocScribe.Language
