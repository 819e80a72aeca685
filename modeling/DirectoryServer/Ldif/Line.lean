import DirectoryServer.Text.Blank

set_option autoImplicit false

namespace DirectoryServer.Ldif

def withoutReturn (line : List Char) : List Char :=
  if line.getLast? = some '\r' then line.dropLast else line

-- `line` holds what was read of the next line, last character first. The text behind the last line feed
-- is a line unless it is empty.
def physicalLinesFrom (line : List Char) : List Char → List (List Char)
  | [] => if line.isEmpty then [] else [withoutReturn line.reverse]
  | c :: rest =>
      if c = '\n' then withoutReturn (withoutReturn line.reverse) :: physicalLinesFrom [] rest
      else physicalLinesFrom (c :: line) rest

def physicalLines (text : List Char) : List (List Char) :=
  physicalLinesFrom [] text

def isSkipped (line : List Char) : Bool :=
  line.all Text.isBlank || line.head? = some '#'

abbrev Logical := Nat × List Char

-- `done` holds the lines before, last first.
def joinLines (done : List Logical) (number : Nat) : List (List Char) → List Logical
  | [] => done.reverse
  | line :: rest =>
      match line, done with
      | ' ' :: more, (start, text) :: earlier =>
          joinLines ((start, text ++ more) :: earlier) (number + 1) rest
      | _, _ =>
          if isSkipped line then joinLines done (number + 1) rest
          else joinLines ((number, line) :: done) (number + 1) rest

def unfold (text : List Char) : List Logical :=
  joinLines [] 1 (physicalLines text)

end DirectoryServer.Ldif
