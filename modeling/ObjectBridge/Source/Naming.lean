import ObjectBridge.Text.Uppercase

/-!
# Names of exported methods

A method is exported under the Pascal-case form of its name: the words between
underscores, each with its first character in upper case, put together.  Upper
case is that of Unicode, so one character may become several.
-/

namespace ObjectBridge.Source

/-- The parts of a name between underscores, empty ones included. -/
def splitWords : List Char → List (List Char)
  | [] => [[]]
  | character :: rest =>
      if character = '_' then [] :: splitWords rest
      else
        match splitWords rest with
        | word :: words => (character :: word) :: words
        | [] => [[character]]

/-- A word with its first character in upper case. -/
def capitalize : List Char → List Char
  | [] => []
  | first :: rest => Text.upper first ++ rest

/-- The Pascal-case form of a name. -/
def pascalCase (name : String) : String :=
  String.ofList ((splitWords name.toList).flatMap capitalize)

end ObjectBridge.Source
