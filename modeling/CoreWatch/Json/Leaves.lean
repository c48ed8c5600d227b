import CoreWatch.Json.Basic

set_option autoImplicit false

namespace CoreWatch.Json

abbrev LeafRule := (key : String) → Json → Option Json

mutual

/-- Changes the leaves of a value under a key; the items of a list have the key of the list. -/
def mapLeaves? (rule : LeafRule) (key : String) : Json → Option Json
  | .arr items => some (.arr (mapItemLeaves rule key items))
  | .obj members => some (.obj (mapMemberLeaves rule members))
  | leaf => rule key leaf

def mapItemLeaves (rule : LeafRule) (key : String) : List Json → List Json
  | [] => []
  | item :: items => (item.mapLeaves? rule key).toList ++ mapItemLeaves rule key items

def mapMemberLeaves (rule : LeafRule) : List (String × Json) → List (String × Json)
  | [] => []
  | (key, value) :: members =>
    ((value.mapLeaves? rule key).map (key, ·)).toList ++ mapMemberLeaves rule members

end

def mapLeaves (rule : LeafRule) (document : Json) : Json :=
  (document.mapLeaves? rule "").getD .null

end CoreWatch.Json
