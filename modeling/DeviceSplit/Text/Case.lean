set_option autoImplicit false

/-! # Upper and lower case, for comparison with ASCII words

Switches and level names are ASCII words, and a text is compared with them after a change of
case. A change of case may turn a character outside ASCII into ASCII letters, so the maps here
give those characters their full case form and leave every other character outside ASCII as it
is: its case form holds a character outside ASCII too, and no ASCII word does. -/

namespace DeviceSplit.Text

/-- The characters outside ASCII whose upper case form consists of ASCII letters. -/
def upperToAscii : List (Char × List Char) :=
  [('ı', ['I']), ('ſ', ['S']), ('ß', ['S', 'S']), ('ﬀ', ['F', 'F']), ('ﬁ', ['F', 'I']),
   ('ﬂ', ['F', 'L']), ('ﬃ', ['F', 'F', 'I']), ('ﬄ', ['F', 'F', 'L']), ('ﬅ', ['S', 'T']),
   ('ﬆ', ['S', 'T'])]

/-- The upper case form of a character. -/
def upperChar (c : Char) : List Char :=
  match upperToAscii.lookup c with
  | some cs => cs
  | none => [c.toUpper]

/-- A text in upper case. -/
def upper (s : String) : String := String.ofList (s.toList.flatMap upperChar)

/-- The lower case form of a character; the Kelvin sign is the only one outside ASCII whose form
is an ASCII letter. -/
def lowerChar (c : Char) : Char := if c = '\u212A' then 'k' else c.toLower

/-- A text in lower case. -/
def lower (s : String) : String := String.ofList (s.toList.map lowerChar)

end DeviceSplit.Text
