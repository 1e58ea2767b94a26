import CauseTree.Json.Parser
import CauseTree.Json.Printer
import CauseTree.Snapshot.Basic

/-!
# Snapshots and tags as JSON

A snapshot is written as an object with up to five members, in a fixed order; members
without content are left out. A tag is written as an object of its name and value.

Reading accepts more than writing produces. Members may come in any order, unknown ones
are skipped whatever they hold, and the content of a missing one is empty; but a member
that is known must not be repeated. A list is accepted in place of an object and holds
the members in their order, those of a snapshot up to any point and those of a tag in
full. Inside the tags of a snapshot, which must be an object, the last value of a
repeated name counts. What is read may be nested 127 deep and no deeper; what is skipped
has no such limit.
-/

namespace CauseTree

namespace Json

/-- The text of a string value. -/
def readText? : Json → Option String
  | .string symbols => text? symbols
  | _ => none

/-- The texts of several string values, all of them or none. -/
def readTexts? : List Json → Option (List String)
  | [] => some []
  | item :: rest => do
    let text ← readText? item
    let texts ← readTexts? rest
    some (text :: texts)

/-- The members of an object as tags, all of them or none. -/
def readTags? : List (List Symbol × Json) → Option (List Tag)
  | [] => some []
  | (name, value) :: rest => do
    let name ← text? name
    let value ← readText? value
    let tags ← readTags? rest
    some (⟨name, value⟩ :: tags)

/-- A member with a given name. -/
def member (name : String) (value : Json) : List Symbol × Json := (symbols name, value)

/-- A string value. -/
def ofText (text : String) : Json := .string (symbols text)

/-- An array of string values. -/
def ofTexts (texts : List String) : Json := .array (texts.map ofText)

/-- An object with a member for each tag. -/
def ofTags (tags : List Tag) : Json :=
  .object (tags.map fun tag => member tag.name (ofText tag.value))

end Json

namespace Tag

/-- The tag as an object. -/
def toJson (tag : Tag) : Json :=
  .object [Json.member "name" (Json.ofText tag.name), Json.member "value" (Json.ofText tag.value)]

/-- Reads the members of a tag on top of the name and value found so far. -/
def readMembers? (name value : Option String) : List (List Json.Symbol × Json) → Option Tag
  | [] => do some ⟨← name, ← value⟩
  | (key, content) :: rest => do
    let key ← Json.text? key
    if key = "name" then
      if name.isSome then none else readMembers? (some (← Json.readText? content)) value rest
    else if key = "value" then
      if value.isSome then none else readMembers? name (some (← Json.readText? content)) rest
    else readMembers? name value rest

/-- The tag that a value stands for. -/
def ofJson? : Json → Option Tag
  | .object members => readMembers? none none members
  | .array [name, value] => do some ⟨← Json.readText? name, ← Json.readText? value⟩
  | _ => none

/-- The compact JSON text of a tag. -/
def encode (tag : Tag) : String := tag.toJson.compact

/-- The tag that a JSON text stands for. -/
def decode? (text : String) : Option Tag := (Json.parse? text).bind ofJson?

end Tag

namespace Snapshot

/-- The members that a snapshot can have, in the order in which they are written. -/
inductive Field where
  | message
  | types
  | tags
  | stack
  | causes
  deriving DecidableEq, Repr

namespace Field

/-- The name of the member. -/
def name : Field → String
  | message => "message"
  | types => "types"
  | tags => "tags"
  | stack => "stack"
  | causes => "causes"

/-- All members in order. -/
def all : List Field := [message, types, tags, stack, causes]

/-- The member of that name. -/
def ofName? (name : String) : Option Field := all.find? fun field => field.name = name

end Field

/-- What has been read of a snapshot. -/
structure Draft where
  message : Option String
  types : Option (List String)
  tags : Option TagMap
  stack : Option (List String)
  causes : Option (List Snapshot)

namespace Draft

/-- Nothing has been read. -/
def empty : Draft := ⟨none, none, none, none, none⟩

/-- The snapshot, with nothing in the members that were not read. -/
def complete (found : Draft) : Snapshot :=
  ⟨found.message.getD "", found.types.getD [], found.tags.getD .empty, found.stack.getD [],
    found.causes.getD []⟩

/-- Whether the member has been read. -/
def has (found : Draft) : Field → Bool
  | .message => found.message.isSome
  | .types => found.types.isSome
  | .tags => found.tags.isSome
  | .stack => found.stack.isSome
  | .causes => found.causes.isSome

end Draft

/-- How deep the containers that are read may be nested. -/
def depthLimit : Nat := 127

mutual

/-- The snapshot that a value stands for, when its containers are nested at most `depth` deep. -/
def ofJson? (depth : Nat) : Json → Option Snapshot
  | .object members =>
    match depth with
    | 0 => none
    | depth + 1 => (readMembers? depth .empty members).map Draft.complete
  | .array items =>
    match depth with
    | 0 => none
    | depth + 1 => (readItems? depth .empty Field.all items).map Draft.complete
  | _ => none

/-- Reads the members of an object. -/
def readMembers? (depth : Nat) (found : Draft) : List (List Json.Symbol × Json) → Option Draft
  | [] => some found
  | (key, content) :: rest =>
    match Json.text? key with
    | none => none
    | some name =>
      match Field.ofName? name with
      | none => readMembers? depth found rest
      | some field =>
        if found.has field then none
        else match readField? depth found field content with
          | none => none
          | some found => readMembers? depth found rest

/-- Reads the items of a list as members in their order. -/
def readItems? (depth : Nat) (found : Draft) (fields : List Field) : List Json → Option Draft
  | [] => some found
  | content :: rest =>
    match fields with
    | [] => none
    | field :: fields =>
      match readField? depth found field content with
      | none => none
      | some found => readItems? depth found fields rest

/-- Reads the content of one member. -/
def readField? (depth : Nat) (found : Draft) (field : Field) : Json → Option Draft
  | .string symbols =>
    match field with
    | .message => (Json.text? symbols).map fun message => { found with message := some message }
    | _ => none
  | .array items =>
    match depth, field with
    | _ + 1, .types => (Json.readTexts? items).map fun types => { found with types := some types }
    | _ + 1, .stack => (Json.readTexts? items).map fun stack => { found with stack := some stack }
    | depth + 1, .causes =>
      (readAll? depth items).map fun causes => { found with causes := some causes }
    | _, _ => none
  | .object members =>
    match depth, field with
    | _ + 1, .tags =>
      (Json.readTags? members).map fun tags => { found with tags := some (TagMap.ofLast tags) }
    | _, _ => none
  | _ => none

/-- Reads several snapshots, all of them or none. -/
def readAll? (depth : Nat) : List Json → Option (List Snapshot)
  | [] => some []
  | item :: rest =>
    match ofJson? depth item, readAll? depth rest with
    | some snapshot, some snapshots => some (snapshot :: snapshots)
    | _, _ => none

end

mutual

/-- The snapshot as an object with all five members. -/
def toFullJson : Snapshot → Json
  | ⟨message, types, tags, stack, causes⟩ =>
    .object
      [Json.member "message" (Json.ofText message), Json.member "types" (Json.ofTexts types),
        Json.member "tags" (Json.ofTags tags.entries), Json.member "stack" (Json.ofTexts stack),
        Json.member "causes" (.array (toFullJsons causes))]

/-- Several snapshots as objects with all members. -/
def toFullJsons : List Snapshot → List Json
  | [] => []
  | snapshot :: rest => toFullJson snapshot :: toFullJsons rest

end

/-- A member, unless it is empty. -/
def memberUnless (empty : Bool) (name : String) (value : Json) : List (List Json.Symbol × Json) :=
  if empty then [] else [Json.member name value]

mutual

/-- The snapshot as an object, members without content left out. -/
def toJson : Snapshot → Json
  | ⟨message, types, tags, stack, causes⟩ =>
    .object
      (memberUnless message.isEmpty "message" (Json.ofText message) ++
        memberUnless types.isEmpty "types" (Json.ofTexts types) ++
        memberUnless tags.isEmpty "tags" (Json.ofTags tags.entries) ++
        memberUnless stack.isEmpty "stack" (Json.ofTexts stack) ++
        memberUnless causes.isEmpty "causes" (.array (toJsons causes)))

/-- Several snapshots as objects. -/
def toJsons : List Snapshot → List Json
  | [] => []
  | snapshot :: rest => toJson snapshot :: toJsons rest

end

/-- The compact JSON text of a snapshot. -/
def encode (snapshot : Snapshot) : String := snapshot.toJson.compact

/-- The snapshot that a JSON text stands for. -/
def decode? (text : String) : Option Snapshot := (Json.parse? text).bind (ofJson? depthLimit)

end Snapshot

end CauseTree
