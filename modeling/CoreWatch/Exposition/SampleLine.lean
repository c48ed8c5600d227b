import CoreWatch.Exposition.LabelText
import CoreWatch.Text.Quoted

set_option autoImplicit false

namespace CoreWatch.Exposition

open Text

inductive SampleFault
  | missingValue
  | invalidName (name : String)
  | invalidValue (word : String)
  | unterminatedLabels
  | malformedLabel (malformed : MalformedLabel)
deriving DecidableEq, Repr

namespace SampleFault

def message : SampleFault → String
  | missingValue => "sample line has no value"
  | invalidName name => "invalid metric name " ++ quoted name
  | invalidValue word => "invalid sample value " ++ quoted word
  | unterminatedLabels => "label set is not terminated by '\x7d'"
  | malformedLabel malformed => malformed.message

end SampleFault

/-- The name, labels and value of a sample, without what was announced about its metric. -/
structure Reading where
  name : String
  labels : LabelSet
  value : Double

/--
Splits a text at the brace that closes its label set. A brace inside quotes closes nothing, and a
backslash inside quotes takes the next character with it.
-/
def splitAtBrace (inQuotes : Bool) : List Char → Option (List Char × List Char)
  | [] => none
  | c :: rest =>
    if c = '\x7d' && !inQuotes then some ([], rest)
    else if c = '\\' && inQuotes then
      match rest with
      | [] => none
      | next :: rest =>
        (splitAtBrace inQuotes rest).map fun (body, rest) => (c :: next :: body, rest)
    else
      (splitAtBrace (if c = '"' then !inQuotes else inQuotes) rest).map fun (body, rest) =>
        (c :: body, rest)

def readSampleValue (text : List Char) : Except SampleFault Double :=
  let word := (nextWord text).1
  if word.isEmpty then .error .missingValue
  else
    match Double.read? word with
    | some value => .ok value
    | none => .error (.invalidValue (String.ofList word))

/-- Whether a character can stand inside a metric name as far as its end is concerned. -/
def continuesMetricName (c : Char) : Bool :=
  c != '\x7b' && !isBlank c

namespace Reading

/-- Reads a line that has no blanks at its ends. -/
def ofLine (line : List Char) : Except SampleFault Reading :=
  let name := line.takeWhile continuesMetricName
  match line.dropWhile continuesMetricName with
  | [] => .error .missingValue
  | c :: rest =>
    if !isMetricName name then .error (.invalidName (String.ofList name))
    else if c = '\x7b' then
      match splitAtBrace false rest with
      | none => .error .unterminatedLabels
      | some (body, rest) =>
        match LabelSet.read body with
        | .error malformed => .error (.malformedLabel malformed)
        | .ok labels => (readSampleValue rest).map fun value => ⟨String.ofList name, labels, value⟩
    else (readSampleValue (c :: rest)).map fun value => ⟨String.ofList name, ∅, value⟩

end Reading

namespace Sample

def line (sample : Sample) : String :=
  if sample.labels.isEmpty then
    sample.name ++ " " ++ sample.value.toText
  else
    sample.name ++ "\x7b" ++ sample.labels.render ++ "\x7d " ++ sample.value.toText

end Sample
end CoreWatch.Exposition
