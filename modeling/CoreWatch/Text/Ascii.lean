set_option autoImplicit false

namespace CoreWatch.Text

/-- Maps `A`-`Z` to `a`-`z` and keeps every other character. -/
def lower (text : List Char) : List Char :=
  text.map Char.toLower

def contains (marker : List Char) : List Char → Bool
  | [] => marker.isEmpty
  | c :: rest => marker.isPrefixOf (c :: rest) || contains marker rest

/-- Whether the ASCII-lowercased name holds the marker. -/
def hasMarker (marker name : String) : Bool :=
  contains marker.toList (lower name.toList)

def lowercase (text : String) : String :=
  String.ofList (lower text.toList)

end CoreWatch.Text
