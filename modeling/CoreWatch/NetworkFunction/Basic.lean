set_option autoImplicit false

namespace CoreWatch

inductive NetworkFunction
  | amf
  | smf
  | pcf
  | upf
  | mme
  | pcrf
deriving DecidableEq, Repr

namespace NetworkFunction

def all : List NetworkFunction :=
  [amf, smf, pcf, upf, mme, pcrf]

def name : NetworkFunction → String
  | amf => "amf"
  | smf => "smf"
  | pcf => "pcf"
  | upf => "upf"
  | mme => "mme"
  | pcrf => "pcrf"

/-- The first port tried for a collector of this function. -/
def basePort : NetworkFunction → Nat
  | amf => 9091
  | smf => 9092
  | pcf => 9093
  | upf => 9094
  | mme => 9095
  | pcrf => 9096

def ofName? (name : String) : Option NetworkFunction :=
  all.find? (·.name == name)

end NetworkFunction
end CoreWatch
