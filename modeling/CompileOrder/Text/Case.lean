/-!
# Upper and lower case

Names are compared after upper-casing their ASCII letters; every other character
stays as it is. Reserved words are recognised under the wider rule of Unicode, by
which a few characters outside ASCII stand for ASCII letters.
-/

namespace CompileOrder.Text

/-- The text with its ASCII letters in upper case. -/
def upper (s : String) : String := String.ofList (s.toList.map Char.toUpper)

/-- The text with its ASCII letters in lower case. -/
def lower (s : String) : String := String.ofList (s.toList.map Char.toLower)

/-- The ASCII letters that one character spells in upper case. Dotless i, long s,
sharp s and the Latin ligatures are the only characters above ASCII whose full
upper-case form is ASCII; any other character above ASCII stands for itself, which
no reserved word contains. -/
def upperLetters (c : Char) : List Char :=
  if c == 'ı' then ['I']
  else if c == 'ſ' then ['S']
  else if c == 'ß' then ['S', 'S']
  else if c == 'ﬀ' then ['F', 'F']
  else if c == 'ﬁ' then ['F', 'I']
  else if c == 'ﬂ' then ['F', 'L']
  else if c == 'ﬃ' then ['F', 'F', 'I']
  else if c == 'ﬄ' then ['F', 'F', 'L']
  else if c == 'ﬅ' || c == 'ﬆ' then ['S', 'T']
  else [c.toUpper]

/-- The upper-case spelling under which a word is looked up among the reserved words. -/
def spelledUpper (word : List Char) : String := String.ofList (word.flatMap upperLetters)

end CompileOrder.Text
