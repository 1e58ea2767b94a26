import CauseTree.Proofs.Canonical
import CauseTree.Proofs.Printed
import CauseTree.Snapshot.Json

/-!
# Snapshots on the wire

A snapshot comes back from its JSON text, whether the members without content are left out
or written all the same. The reader takes members in any order, so what it has found so far
is described by the set of members that it has read; each member read adds itself to this
set, and at the end every member is in the set or has no content.

The only limit is the nesting of arrays and objects. A text that is nested no deeper than
the reader goes is read back, and a deeper one is refused.
-/

namespace CauseTree

namespace Json

mutual

/-- How deep the arrays and objects of a value are nested. -/
def nesting : Json → Nat
  | .array items => nestings items + 1
  | .object members => memberNestings members + 1
  | _ => 0

/-- The deepest nesting among several values. -/
def nestings : List Json → Nat
  | [] => 0
  | item :: rest => max item.nesting (nestings rest)

/-- The deepest nesting among the values of several members. -/
def memberNestings : List (List Symbol × Json) → Nat
  | [] => 0
  | (_, value) :: rest => max value.nesting (memberNestings rest)

end

/-- Texts are not nested. -/
theorem nesting_ofTexts (texts : List String) : (ofTexts texts).nesting = 1 := by
  have flat : nestings (texts.map ofText) = 0 := by
    induction texts with
    | nil => rfl
    | cons text rest inductionHypothesis => simp [nestings, nesting, ofText, inductionHypothesis]
  simp [ofTexts, nesting, flat]

/-- Tags are not nested. -/
theorem nesting_ofTags (tags : List Tag) : (ofTags tags).nesting = 1 := by
  have flat : memberNestings (tags.map fun tag => member tag.name (ofText tag.value)) = 0 := by
    induction tags with
    | nil => rfl
    | cons tag rest inductionHypothesis =>
      rw [List.map_cons, member, memberNestings, inductionHypothesis]
      rfl
  simp [ofTags, nesting, flat]

/-- Members are nested as deep as the deepest of them. -/
theorem memberNestings_append (before after : List (List Symbol × Json)) :
    memberNestings (before ++ after) = max (memberNestings before) (memberNestings after) := by
  induction before with
  | nil => simp [memberNestings]
  | cons member rest inductionHypothesis =>
    simp [memberNestings, inductionHypothesis, Nat.max_assoc]

/-- Two values are both within a depth when the deeper one is. -/
theorem within_max {α : Type} (first second depth : Nat) (value : Option α) :
    (if max first second ≤ depth then value else none) =
      if first ≤ depth then (if second ≤ depth then value else none) else none := by
  simp only [Nat.max_le]
  by_cases shallow : first ≤ depth
  · simp only [shallow, true_and, if_true]
  · simp only [shallow, false_and, if_false]

/-- A text is read from its value. -/
theorem readText?_ofText (text : String) : readText? (ofText text) = some text :=
  text?_symbols text

/-- Texts are read from their array. -/
theorem readTexts?_ofTexts (texts : List String) :
    readTexts? (texts.map ofText) = some texts := by
  induction texts with
  | nil => rfl
  | cons text rest inductionHypothesis =>
    simp [readTexts?, readText?_ofText, inductionHypothesis]

/-- Tags are read from their object. -/
theorem readTags?_ofTags (tags : List Tag) :
    readTags? (tags.map fun tag => member tag.name (ofText tag.value)) = some tags := by
  induction tags with
  | nil => rfl
  | cons tag rest inductionHypothesis =>
    rw [List.map_cons, member, readTags?, inductionHypothesis]
    simp [text?_symbols, readText?_ofText]

/-- An array of texts is textual. -/
theorem textual_ofTexts (texts : List String) : Textual (ofTexts texts) := by
  apply Textual.array
  intro item member
  obtain ⟨text, _, rfl⟩ := List.mem_map.mp member
  exact .text text

/-- An object of tags is textual. -/
theorem textual_ofTags (tags : List Tag) : Textual (ofTags tags) := by
  apply Textual.object
  · intro entry member
    obtain ⟨tag, _, rfl⟩ := List.mem_map.mp member
    exact ⟨tag.name, rfl⟩
  · intro entry member
    obtain ⟨tag, _, rfl⟩ := List.mem_map.mp member
    exact .text tag.value

end Json

namespace Snapshot

/-- What passes from the causes of a snapshot to the snapshot holds of every snapshot. -/
theorem snapshot_induction {motive : Snapshot → Prop}
    (step : ∀ snapshot, (∀ cause ∈ snapshot.causes, motive cause) → motive snapshot)
    (snapshot : Snapshot) : motive snapshot :=
  step snapshot fun cause _ => snapshot_induction step cause
termination_by sizeOf snapshot
decreasing_by
  have smaller := List.sizeOf_lt_of_mem ‹_›
  cases snapshot
  simp only [mk.sizeOf_spec] at smaller ⊢
  omega

/-- Whether a snapshot has nothing to write in a member. -/
def lacks (snapshot : Snapshot) : Field → Bool
  | .message => snapshot.message.isEmpty
  | .types => snapshot.types.isEmpty
  | .tags => snapshot.tags.isEmpty
  | .stack => snapshot.stack.isEmpty
  | .causes => snapshot.causes.isEmpty

/-- What is written in a member, where the causes are written as the given values. -/
def content (snapshot : Snapshot) (causes : List Json) : Field → Json
  | .message => Json.ofText snapshot.message
  | .types => Json.ofTexts snapshot.types
  | .tags => Json.ofTags snapshot.tags.entries
  | .stack => Json.ofTexts snapshot.stack
  | .causes => .array causes

/-- The members of these fields, but for those that are omitted. -/
def members (snapshot : Snapshot) (causes : List Json) (omitted : Field → Bool)
    (fields : List Field) : List (List Json.Symbol × Json) :=
  fields.flatMap fun field => memberUnless (omitted field) field.name (snapshot.content causes field)

/-- A way of writing snapshots: all members in order, but for some that have no content. -/
structure Writing where
  write : Snapshot → Json
  omitted : Snapshot → Field → Bool
  shape : ∀ snapshot, write snapshot =
    .object (snapshot.members (snapshot.causes.map write) (omitted snapshot) Field.all)
  lacking : ∀ snapshot field, omitted snapshot field = true → snapshot.lacks field = true

/-- Snapshots written one after another, members without content left out. -/
theorem toJsons_eq (snapshots : List Snapshot) : toJsons snapshots = snapshots.map toJson := by
  induction snapshots with
  | nil => rfl
  | cons snapshot rest inductionHypothesis => simp [toJsons, inductionHypothesis]

/-- Snapshots written in full one after another. -/
theorem toFullJsons_eq (snapshots : List Snapshot) :
    toFullJsons snapshots = snapshots.map toFullJson := by
  induction snapshots with
  | nil => rfl
  | cons snapshot rest inductionHypothesis => simp [toFullJsons, inductionHypothesis]

/-- Members without content are left out. -/
def Writing.sparse : Writing where
  write := toJson
  omitted := lacks
  shape snapshot := by
    obtain ⟨message, types, tags, stack, causes⟩ := snapshot
    simp [toJson, toJsons_eq, members, Field.all, content, lacks, Field.name]
  lacking _ _ omitted := omitted

/-- All members are written. -/
def Writing.full : Writing where
  write := toFullJson
  omitted _ _ := false
  shape snapshot := by
    obtain ⟨message, types, tags, stack, causes⟩ := snapshot
    simp [toFullJson, toFullJsons_eq, members, Field.all, content, memberUnless, Field.name]
  lacking _ _ omitted := absurd omitted (by decide)

/-- What has been found when the given members of a snapshot have been read. -/
def draft (snapshot : Snapshot) (read : Field → Bool) : Draft where
  message := if read .message then some snapshot.message else none
  types := if read .types then some snapshot.types else none
  tags := if read .tags then some snapshot.tags else none
  stack := if read .stack then some snapshot.stack else none
  causes := if read .causes then some snapshot.causes else none

/-- A draft has the members that have been read. -/
theorem has_draft (snapshot : Snapshot) (read : Field → Bool) (field : Field) :
    (snapshot.draft read).has field = read field := by
  cases field <;> simp only [draft, Draft.has] <;> split <;> simp_all

/-- A value that was read, or is the default, is found. -/
theorem getD_read {α : Type} {read : Bool} {value default : α}
    (lacking : read = false → value = default) :
    (if read then some value else none).getD default = value := by
  cases read with
  | true => rfl
  | false => exact (lacking rfl).symm

/-- A snapshot is complete when every member has been read or has no content. -/
theorem complete_draft (snapshot : Snapshot) (read : Field → Bool)
    (lacking : ∀ field, read field = false → snapshot.lacks field = true) :
    (snapshot.draft read).complete = snapshot := by
  have message := getD_read fun unread => String.isEmpty_iff.mp (lacking .message unread)
  have types := getD_read fun unread => List.isEmpty_iff.mp (lacking .types unread)
  have tags := getD_read fun unread => TagMap.eq_empty (lacking .tags unread)
  have stack := getD_read fun unread => List.isEmpty_iff.mp (lacking .stack unread)
  have causes := getD_read fun unread => List.isEmpty_iff.mp (lacking .causes unread)
  simp only [draft, Draft.complete, message, types, tags, stack, causes]
  cases snapshot
  rfl

/-- The members that have been read once those of some fields have been that are not
omitted. -/
def readAfter (read omitted : Field → Bool) (fields : List Field) : Field → Bool :=
  fun field => read field || (fields.contains field && !omitted field)

/-- The members that have been read once that of a field has been. -/
def andAlso (read : Field → Bool) (field : Field) : Field → Bool :=
  fun other => read other || decide (other = field)

section ReadAfter

variable {read omitted : Field → Bool} {field : Field} {rest : List Field}

/-- Without fields nothing more is read. -/
theorem readAfter_nil : readAfter read omitted [] = read := by
  funext other
  simp [readAfter]

/-- An omitted member adds nothing. -/
theorem readAfter_omitted (left : omitted field = true) :
    readAfter read omitted (field :: rest) = readAfter read omitted rest := by
  funext other
  by_cases same : other = field
  · simp [readAfter, same, left]
  · simp [readAfter, same]

/-- A member that is written comes before the others. -/
theorem readAfter_written (kept : omitted field = false) :
    readAfter read omitted (field :: rest) = readAfter (andAlso read field) omitted rest := by
  funext other
  by_cases same : other = field
  · simp [readAfter, andAlso, same, kept]
  · simp [readAfter, andAlso, same]

end ReadAfter

/-- The causes are read from their values, if these are nested no deeper than the reader goes. -/
def Reads (causes : List Snapshot) (values : List Json) : Prop :=
  ∀ depth, readAll? depth values = if Json.nestings values ≤ depth then some causes else none

/-- What is written in a member adds the member to those that have been read, if it is
nested no deeper than the reader goes. -/
theorem readField?_draft (snapshot : Snapshot) {values : List Json}
    (reads : Reads snapshot.causes values) (depth : Nat) (read : Field → Bool) (field : Field) :
    readField? depth (snapshot.draft read) field (snapshot.content values field) =
      if (snapshot.content values field).nesting ≤ depth then
        some (snapshot.draft (andAlso read field))
      else none := by
  cases field with
  | message =>
    simp [content, Json.ofText, readField?, Json.text?_symbols, Json.nesting, draft, andAlso]
  | types =>
    rw [content, Json.nesting_ofTexts]
    cases depth with
    | zero => simp [Json.ofTexts, readField?]
    | succ depth =>
      simp [Json.ofTexts, readField?, Json.readTexts?_ofTexts, draft, andAlso]
  | tags =>
    rw [content, Json.nesting_ofTags]
    cases depth with
    | zero => simp [Json.ofTags, readField?]
    | succ depth =>
      simp [Json.ofTags, readField?, Json.readTags?_ofTags, TagMap.ofLast_entries, draft, andAlso]
  | stack =>
    rw [content, Json.nesting_ofTexts]
    cases depth with
    | zero => simp [Json.ofTexts, readField?]
    | succ depth =>
      simp [Json.ofTexts, readField?, Json.readTexts?_ofTexts, draft, andAlso]
  | causes =>
    rw [content, Json.nesting]
    cases depth with
    | zero => simp [readField?]
    | succ depth =>
      simp only [readField?, reads depth, Nat.add_le_add_iff_right]
      split <;> simp [draft, andAlso]

/-- A member is found by its name. -/
theorem ofName?_name (field : Field) : Field.ofName? field.name = some field := by
  cases field <;> decide

/-- A member that is written is read, and reading goes on after one that is omitted. -/
theorem readMembers?_memberUnless (depth : Nat) {found : Draft} {field : Field}
    (fresh : found.has field = false) (omitted : Bool) (value : Json)
    (rest : List (List Json.Symbol × Json)) :
    readMembers? depth found (memberUnless omitted field.name value ++ rest) =
      if omitted then readMembers? depth found rest
      else (readField? depth found field value).bind fun found => readMembers? depth found rest := by
  cases omitted with
  | true => rfl
  | false =>
    simp only [memberUnless, Json.member, List.cons_append, List.nil_append, readMembers?,
      Json.text?_symbols, ofName?_name, fresh, Bool.false_eq_true, if_false]
    cases readField? depth found field value <;> rfl

/-- A member is nested as deep as its value, and not at all where it is omitted. -/
theorem memberNestings_memberUnless (omitted : Bool) (name : String) (value : Json) :
    Json.memberNestings (memberUnless omitted name value) = if omitted then 0 else value.nesting := by
  cases omitted <;> simp [memberUnless, Json.member, Json.memberNestings]

/-- Reading the members of some fields adds those that are not omitted to the members that
have been read, if none of them is nested deeper than the reader goes. -/
theorem readMembers?_members (snapshot : Snapshot) {values : List Json}
    (reads : Reads snapshot.causes values) (depth : Nat) (omitted : Field → Bool)
    {fields : List Field} (distinct : fields.Nodup) {read : Field → Bool}
    (fresh : ∀ field ∈ fields, read field = false) :
    readMembers? depth (snapshot.draft read) (snapshot.members values omitted fields) =
      if Json.memberNestings (snapshot.members values omitted fields) ≤ depth then
        some (snapshot.draft (readAfter read omitted fields))
      else none := by
  induction fields generalizing read with
  | nil => simp [members, readMembers?, Json.memberNestings, readAfter_nil]
  | cons field rest inductionHypothesis =>
    obtain ⟨unread, restUnread⟩ := List.forall_mem_cons.mp fresh
    obtain ⟨notInRest, restDistinct⟩ := List.nodup_cons.mp distinct
    have absent := (has_draft snapshot read field).trans unread
    have shape : snapshot.members values omitted (field :: rest) =
        memberUnless (omitted field) field.name (snapshot.content values field) ++
          snapshot.members values omitted rest := rfl
    rw [shape, readMembers?_memberUnless depth absent, Json.memberNestings_append,
      memberNestings_memberUnless]
    cases left : omitted field with
    | true =>
      rw [readAfter_omitted left]
      simp [inductionHypothesis restDistinct restUnread]
    | false =>
      have stillUnread : ∀ other ∈ rest, andAlso read field other = false := by
        intro other member
        have different : other ≠ field := fun same => notInRest (same ▸ member)
        simp [andAlso, restUnread other member, different]
      simp only [Bool.false_eq_true, if_false]
      rw [readAfter_written left, readField?_draft snapshot reads, Json.within_max]
      by_cases shallow : (snapshot.content values field).nesting ≤ depth
      · rw [if_pos shallow, if_pos shallow, Option.bind_some,
          inductionHypothesis restDistinct stillUnread]
      · rw [if_neg shallow, if_neg shallow, Option.bind_none]

/-- A snapshot is read from its members, if they are nested less deep than the reader goes. -/
theorem ofJson?_object (snapshot : Snapshot) {values : List Json}
    (reads : Reads snapshot.causes values) (omitted : Field → Bool)
    (lacking : ∀ field, omitted field = true → snapshot.lacks field = true) (depth : Nat) :
    ofJson? depth (.object (snapshot.members values omitted Field.all)) =
      if (Json.object (snapshot.members values omitted Field.all)).nesting ≤ depth then
        some snapshot
      else none := by
  have complete :
      (snapshot.draft (readAfter (fun _ => false) omitted Field.all)).complete = snapshot := by
    apply complete_draft
    intro field unread
    apply lacking
    cases field <;> simpa [readAfter, Field.all] using unread
  have nothing : Draft.empty = snapshot.draft fun _ => false := rfl
  cases depth with
  | zero => simp [ofJson?, Json.nesting]
  | succ depth =>
    have distinct : Field.all.Nodup := by decide
    have read := readMembers?_members snapshot reads depth omitted distinct fun _ _ => rfl
    rw [ofJson?, nothing, read, Json.nesting]
    simp only [Nat.add_le_add_iff_right]
    split
    · rw [Option.map_some, complete]
    · rfl

/-- Causes are read one after another when each of them is. -/
theorem reads_map {write : Snapshot → Json} {causes : List Snapshot}
    (each : ∀ cause ∈ causes, ∀ depth,
      ofJson? depth (write cause) = if (write cause).nesting ≤ depth then some cause else none) :
    Reads causes (causes.map write) := by
  intro depth
  induction causes with
  | nil => simp [readAll?, Json.nestings]
  | cons cause rest inductionHypothesis =>
    obtain ⟨first, others⟩ := List.forall_mem_cons.mp each
    rw [List.map_cons, readAll?, first depth, inductionHypothesis others, Json.nestings,
      Json.within_max]
    by_cases firstShallow : (write cause).nesting ≤ depth
    · by_cases restShallow : Json.nestings (rest.map write) ≤ depth
      · simp only [firstShallow, restShallow, if_true]
      · simp only [firstShallow, restShallow, if_true, if_false]
    · simp only [firstShallow, if_false]

/-- A written snapshot is read back, if it is nested no deeper than the reader goes. -/
theorem Writing.ofJson? (writing : Writing) (snapshot : Snapshot) (depth : Nat) :
    Snapshot.ofJson? depth (writing.write snapshot) =
      if (writing.write snapshot).nesting ≤ depth then some snapshot else none := by
  induction snapshot using snapshot_induction generalizing depth with
  | step snapshot inductionHypothesis =>
    have reads := reads_map inductionHypothesis
    rw [writing.shape snapshot]
    exact ofJson?_object snapshot reads _ (writing.lacking snapshot) depth

/-- A member of a snapshot is textual when its causes are written as textual values. -/
theorem textual_content (snapshot : Snapshot) {values : List Json}
    (each : ∀ value ∈ values, Json.Textual value) (field : Field) :
    Json.Textual (snapshot.content values field) := by
  cases field with
  | message => exact .text snapshot.message
  | types => exact Json.textual_ofTexts snapshot.types
  | tags => exact Json.textual_ofTags snapshot.tags.entries
  | stack => exact Json.textual_ofTexts snapshot.stack
  | causes => exact .array values each

/-- Each member that is written is that of some field. -/
theorem mem_members {snapshot : Snapshot} {values : List Json} {omitted : Field → Bool}
    {fields : List Field} {member : List Json.Symbol × Json}
    (inside : member ∈ snapshot.members values omitted fields) :
    ∃ field : Field, member = Json.member field.name (snapshot.content values field) := by
  obtain ⟨field, _, listed⟩ := List.mem_flatMap.mp inside
  unfold memberUnless at listed
  split at listed
  · simp at listed
  · exact ⟨field, List.mem_singleton.mp listed⟩

/-- A written snapshot is textual. -/
theorem Writing.textual (writing : Writing) (snapshot : Snapshot) :
    Json.Textual (writing.write snapshot) := by
  induction snapshot using snapshot_induction with
  | step snapshot inductionHypothesis =>
    have causes : ∀ value ∈ snapshot.causes.map writing.write, Json.Textual value :=
      List.forall_mem_map.mpr inductionHypothesis
    rw [writing.shape snapshot]
    apply Json.Textual.object
    · intro member inside
      obtain ⟨field, rfl⟩ := mem_members inside
      exact ⟨field.name, rfl⟩
    · intro member inside
      obtain ⟨field, rfl⟩ := mem_members inside
      exact textual_content snapshot causes field

/-- A snapshot comes back from its written text, if it is nested no deeper than the reader
goes. -/
theorem Writing.decode? (writing : Writing) (snapshot : Snapshot) :
    Snapshot.decode? (writing.write snapshot).compact =
      if (writing.write snapshot).nesting ≤ depthLimit then some snapshot else none := by
  rw [Snapshot.decode?, Json.parse?_compact (writing.textual snapshot), Option.bind_some,
    writing.ofJson?]

/-- Decoding gives back exactly the snapshot that was written, with the empty members left
out or with all of them, as long as the text is nested no deeper than the reader goes; a
deeper text is refused. -/
theorem decode_encode (snapshot : Snapshot) :
    (decode? snapshot.encode =
        if snapshot.toJson.nesting ≤ 127 then some snapshot else none) ∧
      (decode? snapshot.toFullJson.compact =
        if snapshot.toFullJson.nesting ≤ 127 then some snapshot else none) :=
  ⟨Writing.sparse.decode? snapshot, Writing.full.decode? snapshot⟩

/-- A snapshot with a quote in the message of its cause and a backslash in the tag of that. -/
def quotedCause : Snapshot :=
  ⟨"", [], .empty, [], [⟨"say \"no\"", [], .ofFirst [⟨"path", "C:\\tmp"⟩], [], []⟩]⟩

/-- So many snapshots around one another. -/
def nested : Nat → Snapshot
  | 0 => ⟨"full", [], .empty, [], []⟩
  | depth + 1 => ⟨"", [], .empty, [], [nested depth]⟩

/-- Quotes and backslashes come back from both texts of a snapshot. A snapshot with so many
causes around one another that there are 127 arrays and objects comes back, and with one more
cause it does not. -/
theorem decode_encode_quotedCause :
    quotedCause.encode = "\x7b\"causes\":[\x7b\"message\":\"say \\\"no\\\"\"," ++
        "\"tags\":\x7b\"path\":\"C:\\\\tmp\"\x7d\x7d]\x7d" ∧
      decode? quotedCause.encode = some quotedCause ∧
      decode? quotedCause.toFullJson.compact = some quotedCause ∧
      decode? (nested 63).encode = some (nested 63) ∧ decode? (nested 64).encode = none := by
  obtain ⟨sparse, full⟩ := decode_encode quotedCause
  refine ⟨by decide +kernel, sparse.trans (if_pos (by decide +kernel)),
    full.trans (if_pos (by decide +kernel)), ?_, ?_⟩
  · exact (decode_encode (nested 63)).1.trans (if_pos (by decide +kernel))
  · exact (decode_encode (nested 64)).1.trans (if_neg (by decide +kernel))

end Snapshot

end CauseTree
