set_option autoImplicit false

namespace CoreWatch.Yaml

inductive Token
  /-- The version that a document is said to have. -/
  | version
  /-- What a handle of tags stands for. -/
  | handle (name meaning : String)
  | documentStart
  | documentEnd
  | blockList
  | blockRecord
  /-- The end of the innermost list or record that is made by indentation. -/
  | blockEnd
  | flowList
  | flowListEnd
  | flowRecord
  | flowRecordEnd
  /-- The hyphen before an item. -/
  | item
  | comma
  | key
  | value
  /-- The place of a value that has an anchor. -/
  | link (name : String)
  | anchor (name : String)
  | tag (handle suffix : String)
  | scalar (isPlain : Bool) (text : String)
deriving DecidableEq, Repr

end CoreWatch.Yaml
