import DirectoryServer.Filter.Basic

set_option autoImplicit false

namespace DirectoryServer.Filter

def escapeChar (c : Char) : List Char :=
  match c with
  | '*' => ['\\', '2', 'a']
  | '(' => ['\\', '2', '8']
  | ')' => ['\\', '2', '9']
  | '\\' => ['\\', '5', 'c']
  | '\x00' => ['\\', '0', '0']
  | c => [c]

def escape (value : String) : List Char :=
  value.toList.flatMap escapeChar

def printSubstrings (pieces : Substrings) : List Char :=
  (pieces.initial.map escape).getD [] ++ ['*'] ++
    pieces.any.flatMap (fun piece => escape piece ++ ['*']) ++
    (pieces.final.map escape).getD []

mutual
def printChars : Filter → List Char
  | .and parts => ['(', '&'] ++ printAll parts ++ [')']
  | .or parts => ['(', '|'] ++ printAll parts ++ [')']
  | .not part => ['(', '!'] ++ printChars part ++ [')']
  | .equality attr value => '(' :: attr.toList ++ ['='] ++ escape value ++ [')']
  | .present attr => '(' :: attr.toList ++ ['=', '*', ')']
  | .substrings attr pieces =>
      '(' :: attr.toList ++ ['='] ++ printSubstrings pieces ++ [')']
  | .unsupported relation attr value =>
      '(' :: attr.toList ++ [relation.sign, '='] ++ escape value ++ [')']

def printAll : List Filter → List Char
  | [] => []
  | part :: rest => printChars part ++ printAll rest
end

def print (filter : Filter) : String :=
  String.ofList (printChars filter)

end DirectoryServer.Filter
