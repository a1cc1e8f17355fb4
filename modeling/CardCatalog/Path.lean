import CardCatalog.Text.Utf8

/-!
# Paths

A path is a sequence of bytes. Most paths are texts in UTF-8, but the system does not ask for it, and
so a path need not have a text. Paths are compared part by part: repeated slashes and single dots do
not count. A path that ends in either names a directory.
-/

namespace CardCatalog

/-- The bytes of a path. -/
structure Path where
  bytes : ByteArray

namespace Path

instance : DecidableEq Path := fun path other =>
  match ByteArray.instDecidableEq path.bytes other.bytes with
  | isTrue h => isTrue (congrArg mk h)
  | isFalse h => isFalse fun heq => h (congrArg bytes heq)

/-- The path that a text spells. -/
def ofText (s : String) : Path :=
  ⟨s.toByteArray⟩

/-- The text of a path, if its bytes spell one. -/
def text? (path : Path) : Option String :=
  String.fromUTF8? path.bytes

/-- The bytes of a path spell a text. -/
def isText (path : Path) : Bool :=
  path.text?.isSome

/-- The text that shows a path: its own, or one with replacement characters. -/
def shown (path : Path) : String :=
  path.text?.getD (Text.shownBytes path.bytes.data.toList)

/-- A path that a text spells has that text. -/
@[simp]
theorem text_of_text (s : String) : (ofText s).text? = some s :=
  dif_pos s.isValidUTF8

/-- Only the path that a text spells has that text. -/
theorem text_eq_some_iff {path : Path} {s : String} : path.text? = some s ↔ path = ofText s := by
  constructor
  · intro h
    unfold text? String.fromUTF8? at h
    split at h
    · cases h
      rfl
    · cases h
  · rintro rfl
    exact text_of_text s

/-- The bytes of a path spell a text if the path is that of a text. -/
theorem is_text_iff {path : Path} : path.isText = true ↔ ∃ s : String, path = ofText s := by
  rw [isText, Option.isSome_iff_exists]
  exact exists_congr fun _ => text_eq_some_iff

instance : Coe String Path :=
  ⟨ofText⟩

instance : CoeOut Path String :=
  ⟨shown⟩

/-- The byte that separates the parts of a path. -/
def slash : UInt8 :=
  0x2F

end Path

/-- A path and a relative path inside it, as one path. -/
def joinPath (path : Path) (name : String) : Path :=
  let separator := if path.bytes.data.toList.getLast?.all (· == Path.slash) then "" else "/"
  ⟨path.bytes ++ (separator ++ name).toByteArray⟩

/-- The path is absolute. -/
def isAbsolutePath (path : Path) : Bool :=
  path.bytes.data.toList.head? == some Path.slash

/-- What stands between the slashes of a path. -/
def pathSegments (path : Path) : List (List UInt8) :=
  path.bytes.data.toList.splitOn Path.slash

/-- The parts of a path between its slashes, without empty ones and single dots. -/
def pathParts (path : Path) : List (List UInt8) :=
  (pathSegments path).filter fun part => part != [] && part != [0x2E]

/-- Two paths lead to the same place. -/
def samePath (path other : Path) : Bool :=
  isAbsolutePath path == isAbsolutePath other && pathParts path == pathParts other

/-- The path can only name a directory. -/
def namesDirectory (path : Path) : Bool :=
  (pathSegments path).getLast?.any fun part => part == [] || part == [0x2E]

end CardCatalog
