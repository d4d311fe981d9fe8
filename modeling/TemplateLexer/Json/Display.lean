import TemplateLexer.Json.Basic
import TemplateLexer.Text.Quoted

set_option autoImplicit false

namespace TemplateLexer.Json

def commaSeparated (parts : List String) : String := ", ".intercalate parts

mutual

def display : Json → String
  | null => "None"
  | bool true => "True"
  | bool false => "False"
  | int n => toString n
  | decimal text => text
  | str s => Text.quoted s
  | arr items => "[" ++ commaSeparated (displayItems items) ++ "]"
  | obj entries => "\x7b" ++ commaSeparated (displayEntries entries) ++ "\x7d"

def displayItems : List Json → List String
  | [] => []
  | x :: rest => x.display :: displayItems rest

def displayEntries : List (String × Json) → List String
  | [] => []
  | (k, x) :: rest => (Text.quoted k ++ ": " ++ x.display) :: displayEntries rest

end

/-- A row of values between parentheses; a comma tells a row of one from a bare value. -/
def displayRow : List Json → String
  | [x] => "(" ++ x.display ++ ",)"
  | items => "(" ++ commaSeparated (displayItems items) ++ ")"

/-- A value as part of a text: texts stand without quotes. -/
def bare : Json → String
  | str s => s
  | j => j.display

@[simp] theorem bare_str (s : String) : (str s).bare = s := rfl

end TemplateLexer.Json
