import LifeStory.StringMap

/-!
# Tags that exclude each other, and tags that open events

Authors declare groups of tags of which at most one can be held. `Exclusions` is the table of the
declared relation, built once: for each tag of a group, the tags that it shares a group with.
Authors also close events by tag; a closed event is open to who holds a tag that unlocks it.
-/

namespace LifeStory

/-- What the base content says about tags. -/
structure TagRules where
  /-- Groups of tags that exclude each other. -/
  conflicts : List (List String)
  /-- The event tags that close an event. -/
  gated : List String
  /-- The event tags that a held tag opens. -/
  unlocks : StringMap (List String)

namespace TagRules

/-- No groups, and no closed events. -/
def empty : TagRules := ⟨[], [], .empty⟩

/-- Whether an event with the given tags is open to who holds the given tags. One closing tag that
is opened is enough. -/
def permits (rules : TagRules) (eventTags held : List String) : Bool :=
  let closing := eventTags.filter rules.gated.contains
  closing.isEmpty || held.any fun tag ↦
    match rules.unlocks.get? tag with
    | some opens => closing.any opens.contains
    | none => false

end TagRules

/-- For each tag of a group, the tags that exclude it. -/
abbrev Exclusions : Type := StringMap StringSet

namespace Exclusions

/-- Adds names to the set of a tag. -/
def extend (table : Exclusions) (tag : String) (others : List String) : Exclusions :=
  table.insert tag (others.foldl StringSet.add ((table.get? tag).getD .empty))

/-- Adds a group: each of its tags excludes the others. -/
def addGroup (table : Exclusions) (group : List String) : Exclusions :=
  group.foldl (fun table tag ↦ table.extend tag (group.filter (· ≠ tag))) table

/-- The table of a list of groups. -/
def ofGroups (groups : List (List String)) : Exclusions := groups.foldl addGroup StringMap.empty

/-- The tags that exclude a tag, in increasing order. -/
def excludedBy (table : Exclusions) (tag : String) : List String :=
  match table.get? tag with
  | some others => others.keys
  | none => []

/-- Whether two tags exclude each other. -/
def exclusive (table : Exclusions) (a b : String) : Bool :=
  match table.get? a with
  | some others => others.contains b
  | none => false

/-- Whether a tag excludes one of those that are held. -/
def clashes (table : Exclusions) (tag : String) (held : List String) : Bool :=
  held.any (table.exclusive tag)

end Exclusions

end LifeStory
