import CoreWatch.Topology.Basic

set_option autoImplicit false

namespace CoreWatch

structure Container where
  id : String
  /-- The primary name without leading slashes. -/
  name : String
  state : String
  image : String
  address : Option String
  ports : List Nat
  labels : List (String × String)

namespace Container

def isRunning (container : Container) : Bool :=
  container.state == "running"

/-- Whether the image holds one of the markers; without markers every image counts. -/
def isRelevant (markers : List String) (container : Container) : Bool :=
  markers.isEmpty ||
    markers.any fun marker => Text.contains marker.toList container.image.toList

/-- A container stands for a component of its own name, reached by that name if need be. -/
def component (container : Container) : Component :=
  { name := container.name
    type := Component.typeFor container.name
    address := container.address.getD container.name
    running := container.isRunning
    ports := container.ports }

def toJson (container : Container) : Json :=
  .object [
    ("id", .str container.id),
    ("name", .str container.name),
    ("state", .str container.state),
    ("image", .str container.image),
    ("address", .ofOption .str container.address),
    ("ports", .arr (container.ports.map .nat)),
    ("labels", .object (container.labels.map fun (key, value) => (key, .str value))),
    ("running", .bool container.isRunning)]

end Container

def Topology.ofContainers (markers : List String) (containers : List Container) : Topology :=
  .ofComponents <|
    (containers.filter fun container =>
      !container.name.isEmpty && container.isRelevant markers).map Container.component

inductive RuntimeFault
  | engine
  | noStats (id : String)
deriving DecidableEq, Repr

def RuntimeFault.message : RuntimeFault → String
  | .engine => "container runtime error"
  | .noStats id => "no stats returned for container " ++ id

/-- Why there is no topology when containers cannot be listed, the outermost cause first. -/
def RuntimeFault.causes (fault : RuntimeFault) : List String :=
  ["Failed to list containers", fault.message]

end CoreWatch
