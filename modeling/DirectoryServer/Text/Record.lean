set_option autoImplicit false

namespace DirectoryServer.Text

def record (name : String) (fields : List (String × String)) : String :=
  name ++ " \x7b " ++
    String.intercalate ", " (fields.map fun (field, value) => field ++ ": " ++ value) ++ " \x7d"

def optionText {α : Type} (display : α → String) : Option α → String
  | none => "None"
  | some value => "Some(" ++ display value ++ ")"

end DirectoryServer.Text
