import DeviceSplit.Text.Blank

set_option autoImplicit false

/-! # Paths

Paths inside a module have slashes between their components and none at the ends. Backslashes
count as slashes, so the same path can be spelled in many ways; `normalize` gives its one normal
spelling. `contains` compares normal spellings character by character; `components` is the list of
names that a path goes through. -/

namespace DeviceSplit.Path

/-- A backslash is a slash. -/
def forward (c : Char) : Char := if c = '\\' then '/' else c

/-- The normal spelling of a path, as characters. -/
def normalizeChars (cs : List Char) : List Char := Text.trimBy (· == '/') (cs.map forward)

/-- The normal spelling of a path. -/
def normalize (s : String) : String := String.ofList (normalizeChars s.toList)

/-- Whether a path is a directory or lies below it, both in normal spelling. Everything lies below
the directory without a name, and the name of a directory ends at a slash: `lib/x86` does not
contain `lib/x86_64`. -/
def contains (dir path : List Char) : Bool :=
  dir.isEmpty || path == dir || (dir ++ ['/']).isPrefixOf path

/-- The names that a path goes through, from the outermost one. -/
def components (s : String) : List (List Char) :=
  match normalizeChars s.toList with
  | [] => []
  | cs => cs.splitOn '/'

theorem toList_normalize (s : String) : (normalize s).toList = normalizeChars s.toList :=
  String.toList_ofList

end DeviceSplit.Path
