import TabShell.Json.Basic
/-!
# JSON values on several lines

Each item of an array and each member of an object has a line of its own, indented by two blanks
for every array or object around it; empty arrays and objects take no lines.

* `Json.render depth v`   the text of `v` inside `depth` arrays and objects.
-/

namespace TabShell.Json

/-- the end of a line, and the indentation of the next -/
def newline (depth : Nat) : List Char := '\n' :: List.replicate (2 * depth) ' '

/-- a string literal between its marks -/
def renderText (literal : List Char) : List Char := '"' :: literal ++ ['"']

mutual

/-- a value inside `depth` arrays and objects -/
def render (depth : Nat) : Json → List Char
  | null => ['n', 'u', 'l', 'l']
  | bool true => ['t', 'r', 'u', 'e']
  | bool false => ['f', 'a', 'l', 's', 'e']
  | number literal => literal
  | string literal => renderText literal
  | array [] => ['[', ']']
  | array (v :: vs) =>
    '[' :: newline (depth + 1) ++ render (depth + 1) v ++ renderItems (depth + 1) vs ++
      newline depth ++ [']']
  | object [] => ['\x7b', '\x7d']
  | object ((k, v) :: ms) =>
    '\x7b' :: newline (depth + 1) ++ renderText k ++ [':', ' '] ++ render (depth + 1) v ++
      renderMembers (depth + 1) ms ++ newline depth ++ ['\x7d']

/-- the items after the first -/
def renderItems (depth : Nat) : List Json → List Char
  | [] => []
  | v :: vs => ',' :: newline depth ++ render depth v ++ renderItems depth vs

/-- the members after the first -/
def renderMembers (depth : Nat) : List (List Char × Json) → List Char
  | [] => []
  | (k, v) :: ms =>
    ',' :: newline depth ++ renderText k ++ [':', ' '] ++ render depth v ++
      renderMembers depth ms

end

end TabShell.Json
