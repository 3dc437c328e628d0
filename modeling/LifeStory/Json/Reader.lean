import LifeStory.Decimal.Parse
import LifeStory.Json.Value
import LifeStory.Text.Digit

/-!
# Reading documents

A document is read one character at a time. `Reader` holds what has been read so far: the
containers that are still open, the innermost first, and what the next character belongs to. The
form is strict: no comments, no comma before a closing bracket, no zero before another digit, no
control character in a string, nothing but blanks after the value.

What has the right form and no meaning becomes an unreadable leaf: a number that is beyond double
precision, a string with half of a surrogate pair, an object with such a key, and a container
inside of `maxDepth` others.
-/

namespace LifeStory.Json

/-- How many containers may be inside of each other. -/
def maxDepth : Nat := 127

/-- What is expected inside of a string. -/
inductive Expecting where
  | plain
  | escape
  /-- More digits of a code unit: the value so far, and how many digits are missing. -/
  | unit (value : Nat) (missing : Nat)
deriving DecidableEq, Repr

/-- A string whose closing quote has not come yet. -/
structure OpenString where
  /-- The characters so far, the last one first. -/
  chars : List Char
  /-- The first half of a surrogate pair that waits for its second half. -/
  half : Option Nat
  /-- Whether every half of a surrogate pair so far had its other half. -/
  readable : Bool
  expecting : Expecting
deriving DecidableEq, Repr

/-- A container that is still open; what it holds is in reverse order. -/
inductive Frame where
  | items (done : List Json)
  | fields (done : List (Option String × Json))
  /-- An object that waits for the value of a key. -/
  | keyed (done : List (Option String × Json)) (key : Option String)

/-- What the next character belongs to. -/
inductive Mode where
  /-- A value has to begin; right after an opening bracket the closing one may stand instead. -/
  | value (mayClose : Bool)
  /-- A key has to begin; right after an opening brace the closing one may stand instead. -/
  | key (mayClose : Bool)
  | colon
  /-- A value of an open container is complete. -/
  | next
  /-- The letters of a word, the last one first. -/
  | word (letters : List Char)
  /-- The characters of a number, the last one first. -/
  | number (chars : List Char)
  | string (s : OpenString)
  | keyString (s : OpenString)
  /-- The document is complete. -/
  | done (value : Json)

/-- A document that has been read up to some character. -/
structure Reader where
  mode : Mode
  stack : List Frame

namespace OpenString

/-- A string right after its opening quote. -/
def start : OpenString := ⟨[], none, true, .plain⟩

/-- The string that has been read, if it can be read. -/
def result (s : OpenString) : Option String :=
  if s.readable && s.half.isNone then some (String.ofList s.chars.reverse) else none

/-- Adds a character to a string; a half of a surrogate pair before it stays alone. -/
def push (s : OpenString) (c : Char) : OpenString :=
  { s with
    chars := c :: s.chars
    half := none
    readable := s.readable && s.half.isNone
    expecting := .plain }

/-- Adds a code unit of an escape to a string. -/
def pushUnit (s : OpenString) (u : Nat) : OpenString :=
  let isLow := 0xDC00 ≤ u && u < 0xE000
  let isHigh := 0xD800 ≤ u && u < 0xDC00
  match s.half with
  | some high =>
    if isLow then
      { s with
        chars := Char.ofNat (0x10000 + (high - 0xD800) * 0x400 + (u - 0xDC00)) :: s.chars
        half := none
        expecting := .plain }
    else { s with half := none, readable := false, expecting := .plain }
  | none =>
    if isHigh then { s with half := some u, expecting := .plain }
    else if isLow then { s with readable := false, expecting := .plain }
    else { s with chars := Char.ofNat u :: s.chars, expecting := .plain }

/-- The character that a one-letter escape stands for. -/
def escaped? (c : Char) : Option Char :=
  match c with
  | '"' => some '"'
  | '\\' => some '\\'
  | '/' => some '/'
  | 'b' => some (Char.ofNat 0x08)
  | 'f' => some (Char.ofNat 0x0C)
  | 'n' => some '\n'
  | 'r' => some '\r'
  | 't' => some '\t'
  | _ => none

/-- One more character of a string: the string goes on, or it is closed. -/
def step (s : OpenString) (c : Char) : Option (OpenString ⊕ Option String) :=
  match s.expecting with
  | .plain =>
    if c = '"' then some (.inr s.result)
    else if c = '\\' then some (.inl { s with expecting := .escape })
    else if c.toNat < 0x20 then none
    else some (.inl (s.push c))
  | .escape =>
    if c = 'u' then some (.inl { s with expecting := .unit 0 4 })
    else (escaped? c).map fun c ↦ .inl (s.push c)
  | .unit value missing =>
    (Text.hexValue? c).map fun d ↦
      let value := value * 16 + d
      if missing ≤ 1 then .inl (s.pushUnit value)
      else .inl { s with expecting := .unit value (missing - 1) }

end OpenString

namespace Reader

/-- The blanks between the parts of a document. -/
def isGap (c : Char) : Bool := c = ' ' || c = '\n' || c = '\t' || c = '\r'

/-- Hands a complete value to the innermost open container. -/
def complete (stack : List Frame) (value : Json) : Option Reader :=
  match stack with
  | [] => some ⟨.done value, []⟩
  | .items done :: rest => some ⟨.next, .items (value :: done) :: rest⟩
  | .keyed done key :: rest => some ⟨.next, .fields ((key, value) :: done) :: rest⟩
  | .fields _ :: _ => none

/-- The fields in the order of the document, if every key could be read. -/
def fieldList? :
    List (Option String × Json) → List (String × Json) → Option (List (String × Json))
  | [], fields => some fields
  | (some key, value) :: rest, fields => fieldList? rest ((key, value) :: fields)
  | (none, _) :: _, _ => none

/-- Closes the innermost container. -/
def close (stack : List Frame) : Option Reader :=
  let tooDeep := decide (maxDepth < stack.length)
  match stack with
  | .items done :: rest =>
    complete rest (if tooDeep then .unreadable else .array done.reverse)
  | .fields done :: rest =>
    complete rest <|
      match fieldList? done [] with
      | some fields => if tooDeep then .unreadable else .object fields
      | none => .unreadable
  | _ => none

/-- The value of a word. -/
def wordValue? (letters : List Char) : Option Json :=
  match String.ofList letters.reverse with
  | "null" => some .null
  | "true" => some (.bool true)
  | "false" => some (.bool false)
  | _ => none

/-- Whether the numeral has a digit on each side of the point and no zero before another digit. -/
def isWellFormed (n : Decimal.Numeral) (hasPoint : Bool) : Bool :=
  n.whole ≠ [] && (n.whole.length = 1 || n.whole.head? ≠ some '0') && (!hasPoint || n.fraction ≠ [])

/-- A whole number when the numeral has neither point nor exponent and fits 64 bits, else a number
of double precision. Minus zero is of the second kind. -/
def numeralValue (negative isWhole : Bool) (n : Decimal.Numeral) : Json :=
  let size := Decimal.ofDigits n.whole
  let real : Json :=
    match Decimal.ofScaled n with
    | some x => .real (if negative then -x else x)
    | none => .unreadable
  if isWhole then
    if negative then if size = 0 ∨ 1 <<< 63 < size then real else .int (-(size : Int))
    else if size ≤ Decimal.maxWord then .int size else real
  else real

/-- The value of a number. -/
def numberValue? (chars : List Char) : Option Json :=
  let text := chars.reverse
  let (negative, unsigned) :=
    match text with
    | '-' :: rest => (true, rest)
    | rest => (false, rest)
  let hasPoint := unsigned.contains '.'
  let hasPower := unsigned.any fun c ↦ c = 'e' || c = 'E'
  (Decimal.Numeral.ofChars? unsigned).bind fun n ↦
    if isWellFormed n hasPoint then some (numeralValue negative (!hasPoint && !hasPower) n)
    else none

/-- Whether the character can be part of a number. -/
def isNumberChar (c : Char) : Bool :=
  c.isDigit || c = '-' || c = '+' || c = '.' || c = 'e' || c = 'E'

/-- The first character of a value. -/
def begin (mayClose : Bool) (stack : List Frame) (c : Char) : Option Reader :=
  if isGap c then some ⟨.value mayClose, stack⟩
  else if c = '"' then some ⟨.string OpenString.start, stack⟩
  else if c = '[' then some ⟨.value true, .items [] :: stack⟩
  else if c = '\x7b' then some ⟨.key true, .fields [] :: stack⟩
  else if c = ']' ∧ mayClose then close stack
  else if c.isDigit ∨ c = '-' then some ⟨.number [c], stack⟩
  else if c.isLower then some ⟨.word [c], stack⟩
  else none

/-- The first character of a key. -/
def beginKey (mayClose : Bool) (stack : List Frame) (c : Char) : Option Reader :=
  if isGap c then some ⟨.key mayClose, stack⟩
  else if c = '"' then some ⟨.keyString OpenString.start, stack⟩
  else if c = '\x7d' ∧ mayClose then close stack
  else none

/-- The first character after a value of an open container. -/
def after (stack : List Frame) (c : Char) : Option Reader :=
  if isGap c then some ⟨.next, stack⟩
  else
    match c, stack with
    | ',', .items done :: rest => some ⟨.value false, .items done :: rest⟩
    | ',', .fields done :: rest => some ⟨.key false, .fields done :: rest⟩
    | ']', .items done :: rest => close (.items done :: rest)
    | '\x7d', .fields done :: rest => close (.fields done :: rest)
    | _, _ => none

/-- A character that comes right after a word or a number. -/
def afterToken (reader : Reader) (c : Char) : Option Reader :=
  match reader.mode with
  | .done value => if isGap c then some ⟨.done value, []⟩ else none
  | .next => after reader.stack c
  | _ => none

/-- One more character of the document. -/
def step (reader : Reader) (c : Char) : Option Reader :=
  match reader.mode with
  | .value mayClose => begin mayClose reader.stack c
  | .key mayClose => beginKey mayClose reader.stack c
  | .colon =>
    if isGap c then some reader
    else if c = ':' then some ⟨.value false, reader.stack⟩
    else none
  | .next => after reader.stack c
  | .word letters =>
    if c.isLower then some ⟨.word (c :: letters), reader.stack⟩
    else (wordValue? letters).bind (complete reader.stack) |>.bind (afterToken · c)
  | .number chars =>
    if isNumberChar c then some ⟨.number (c :: chars), reader.stack⟩
    else (numberValue? chars).bind (complete reader.stack) |>.bind (afterToken · c)
  | .string s =>
    (s.step c).bind fun
      | .inl s => some ⟨.string s, reader.stack⟩
      | .inr (some text) => complete reader.stack (.string text)
      | .inr none => complete reader.stack .unreadable
  | .keyString s =>
    (s.step c).bind fun
      | .inl s => some ⟨.keyString s, reader.stack⟩
      | .inr key =>
        match reader.stack with
        | .fields done :: rest => some ⟨.colon, .keyed done key :: rest⟩
        | _ => none
  | .done value => if isGap c then some ⟨.done value, []⟩ else none

/-- The value of a document that ends here. -/
def finish (reader : Reader) : Option Json :=
  let last :=
    match reader.mode with
    | .word letters => (wordValue? letters).bind (complete reader.stack)
    | .number chars => (numberValue? chars).bind (complete reader.stack)
    | _ => some reader
  last.bind fun reader ↦
    match reader.mode with
    | .done value => some value
    | _ => none

end Reader

/-- Reads a document; none when its form is wrong. -/
def parse? (text : String) : Option Json :=
  (text.toList.foldlM Reader.step ⟨.value false, []⟩).bind Reader.finish

end LifeStory.Json
