/-!
# Groups of a template

A group begins at an opening brace and ends at the first closing brace after it. A text is
therefore cut at its closing braces, and each piece holds at most one group of a kind: the one that
begins at the leftmost opening brace whose content is of that kind. `resolveGroups` replaces the
groups of one kind, from left to right, and leaves all else as it is.
-/

namespace LifeStory.Template

/-- Cuts a text at its closing braces: the pieces that end in one, without it, and the rest. -/
def pieces : List Char → List (List Char) × List Char
  | [] => ([], [])
  | c :: cs =>
    let (closed, rest) := pieces cs
    if c = '\x7d' then ([] :: closed, rest)
    else
      match closed with
      | [] => ([], c :: rest)
      | piece :: more => ((c :: piece) :: more, rest)

/-- The leftmost group of a piece that is of a kind: the text before it, and what it is read as. -/
def findGroup {α : Type} (kind? : List Char → Option α) : List Char → Option (List Char × α)
  | [] => none
  | c :: cs =>
    match if c = '\x7b' then kind? cs else none with
    | some a => some ([], a)
    | none => (findGroup kind? cs).map fun found ↦ (c :: found.1, found.2)

/-- Resolves the group of one closed piece. The replacement may draw from a source `σ`, and may
decline, in which case the group stays as it is. -/
def resolvePiece {α σ : Type} (kind? : List Char → Option α)
    (replace : α → σ → Option (List Char) × σ) (piece : List Char) (source : σ) :
    List Char × σ :=
  match findGroup kind? piece with
  | none => (piece ++ ['\x7d'], source)
  | some (before, a) =>
    match replace a source with
    | (some replacement, source) => (before ++ replacement, source)
    | (none, source) => (piece ++ ['\x7d'], source)

/-- Resolves the groups of closed pieces, from left to right. -/
def resolvePieces {α σ : Type} (kind? : List Char → Option α)
    (replace : α → σ → Option (List Char) × σ) : List (List Char) → σ → List Char × σ
  | [], source => ([], source)
  | piece :: more, source =>
    let (first, source) := resolvePiece kind? replace piece source
    let (others, source) := resolvePieces kind? replace more source
    (first ++ others, source)

/-- Resolves all groups of one kind in a text. -/
def resolveGroups {α σ : Type} (kind? : List Char → Option α)
    (replace : α → σ → Option (List Char) × σ) (text : List Char) (source : σ) :
    List Char × σ :=
  let (closed, rest) := pieces text
  let (resolved, source) := resolvePieces kind? replace closed source
  (resolved ++ rest, source)

end LifeStory.Template
