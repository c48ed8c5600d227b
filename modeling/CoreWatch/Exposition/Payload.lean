import CoreWatch.Exposition.SampleLine

set_option autoImplicit false

namespace CoreWatch.Exposition

open Text

structure Announcement where
  name : String
  help : String
  kind : Kind
deriving DecidableEq

/-- Undoes the escapes of a description; a backslash before any other character stays. -/
def unescapeHelp : List Char → List Char
  | '\\' :: c :: rest =>
    (if c = 'n' then ['\n'] else if c = '\\' then ['\\'] else ['\\', c]) ++ unescapeHelp rest
  | c :: rest => c :: unescapeHelp rest
  | [] => []

inductive Comment
  | help (name : String) (text : String)
  | type (name : String) (kind : Kind)
deriving DecidableEq

namespace Comment

/-- What follows a keyword and one space. -/
def afterKeyword? (keyword : String) (text : List Char) : Option (List Char) :=
  if (keyword.toList ++ [' ']).isPrefixOf text then some (text.drop (keyword.length + 1)) else none

/-- Reads a description: the name up to the first blank, then the text without outer blanks. -/
def readHelp? (body : List Char) : Option Comment :=
  let body := trimLeft body
  let name := body.takeWhile (!isBlank ·)
  let text := trim (body.dropWhile (!isBlank ·))
  if name.isEmpty then none
  else
    some (.help (String.ofList name)
      (if text.isEmpty then defaultHelp else String.ofList (unescapeHelp text)))

/-- Reads a kind: the first two words are the name and the kind. -/
def readType? (body : List Char) : Option Comment :=
  let (name, rest) := nextWord body
  let (kind, _) := nextWord rest
  if name.isEmpty || kind.isEmpty then none
  else some (.type (String.ofList name) (Kind.ofWord kind))

/-- Reads what stands after the hash of a comment line; most comments say nothing. -/
def read? (text : List Char) : Option Comment :=
  let text := trimLeft text
  match afterKeyword? "HELP" text with
  | some body => readHelp? body
  | none => (afterKeyword? "TYPE" text).bind readType?

/--
What is announced after a comment. A description forgets the kind announced before it, and a kind
keeps a description of the same metric.
-/
def apply (announced : Option Announcement) : Comment → Announcement
  | .help name text => ⟨name, text, .unknown⟩
  | .type name kind =>
    match announced with
    | some announcement =>
      if announcement.name = name then { announcement with kind } else ⟨name, defaultHelp, kind⟩
    | none => ⟨name, defaultHelp, kind⟩

end Comment

structure Skip where
  line : Nat
  fault : SampleFault
deriving DecidableEq

inductive Outcome
  | sample (sample : Sample)
  | skip (skip : Skip)

def Reading.announced (announced : Option Announcement) (reading : Reading) : Sample :=
  match announced with
  | some announcement =>
    if announcement.name = reading.name then
      ⟨reading.name, announcement.kind, announcement.help, reading.value, reading.labels⟩
    else ⟨reading.name, .unknown, defaultHelp, reading.value, reading.labels⟩
  | none => ⟨reading.name, .unknown, defaultHelp, reading.value, reading.labels⟩

/-- Reads lines from a line number on, after the comments before them. -/
def readLines (number : Nat) (announced : Option Announcement) : List (List Char) → List Outcome
  | [] => []
  | line :: lines =>
    match trim line with
    | [] => readLines (number + 1) announced lines
    | '#' :: comment =>
      match Comment.read? comment with
      | some comment => readLines (number + 1) (some (comment.apply announced)) lines
      | none => readLines (number + 1) announced lines
    | line =>
      let outcome :=
        match Reading.ofLine line with
        | .ok reading => .sample (reading.announced announced)
        | .error fault => .skip ⟨number, fault⟩
      outcome :: readLines (number + 1) announced lines

def outcomes (text : String) : List Outcome :=
  readLines 1 none (splitOn '\n' text.toList)

def samples (text : String) : List Sample :=
  (outcomes text).filterMap fun
    | .sample sample => some sample
    | .skip _ => none

def skips (text : String) : List Skip :=
  (outcomes text).filterMap fun
    | .sample _ => none
    | .skip skip => some skip

end CoreWatch.Exposition
