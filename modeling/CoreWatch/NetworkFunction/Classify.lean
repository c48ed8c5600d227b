import CoreWatch.NetworkFunction.Basic
import CoreWatch.Text.Blank
import CoreWatch.Topology.Basic

set_option autoImplicit false

namespace CoreWatch
namespace NetworkFunction

/-- Parts of names by the function that they show; the first one found counts. -/
def nameMarkers : List (String × NetworkFunction) :=
  [("amf", amf), ("smf", smf), ("pcrf", pcrf), ("pcf", pcf), ("upf", upf), ("mme", mme)]

/--
Role tags that name one function. Tags that several functions share, such as `5G-Control-Plane`,
are not among them.
-/
def roleTags : List (String × NetworkFunction) :=
  [("access-and-mobility", amf),
   ("access-and-mobility-management", amf),
   ("session-management", smf),
   ("5g-session-management", smf),
   ("5g-policy", pcf),
   ("4g-policy", pcrf),
   ("policy-charging", pcrf),
   ("5g-user-plane", upf),
   ("mobility-management-entity", mme)]

def ofMarkedName? (name : String) : Option NetworkFunction :=
  (nameMarkers.find? fun marker => Text.hasMarker marker.1 name).map (·.2)

/-- A role tag without blanks at its ends, in small letters, its words joined by hyphens. -/
def normalTag (tag : String) : String :=
  String.ofList <| (Text.trim tag.toList).map fun c =>
    if c = ' ' || c = '_' then '-' else c.toLower

def ofRoleTag? (tag : String) : Option NetworkFunction :=
  (roleTags.find? (·.1 == normalTag tag)).map (·.2)

/-- The name decides; when it shows nothing, the role tag does. -/
def classify? (name tag : String) : Option NetworkFunction :=
  (ofMarkedName? name).or (ofRoleTag? tag)

end NetworkFunction

def Component.function? (component : Component) : Option NetworkFunction :=
  NetworkFunction.classify? component.name component.type

end CoreWatch
