import DirectoryServer.Frame.Basic

set_option autoImplicit false

namespace DirectoryServer.Frame

def line (marker : Marker) (text : List Char) : Bytes :=
  marker.octet :: Text.encodeChars text ++ lineEnd

mutual
def serialize : Frame → Bytes
  | .simple text => line .simple text.toList
  | .error text => line .error text.toList
  | .integer value => line .integer (Text.int64Digits value)
  | .bulk data => line .bulk (Text.natDigits data.length) ++ data ++ lineEnd
  | .null => line .bulk ['-', '1']
  | .array elements => line .array (Text.natDigits elements.length) ++ serializeAll elements

def serializeAll : List Frame → Bytes
  | [] => []
  | element :: rest => serialize element ++ serializeAll rest
end

mutual
def display : Frame → String
  | .simple text => text
  | .error text => "(error) " ++ text
  | .integer value => String.ofList (Text.int64Digits value)
  | .bulk data =>
      match Text.decode? data with
      | some text => "\"" ++ text ++ "\""
      | none => s!"(binary data, {data.length} bytes)"
  | .null => "(nil)"
  | .array elements => "[" ++ displayAll elements ++ "]"

def displayAll : List Frame → String
  | [] => ""
  | [element] => display element
  | element :: rest => display element ++ ", " ++ displayAll rest
end

end DirectoryServer.Frame
