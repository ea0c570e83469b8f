/-
What opens a group, and the operators of repetition.
-/
import StatefulLexer.Regex.Parser.Atom
import StatefulLexer.Unicode.BinaryProperty
import StatefulLexer.Unicode.Recent

set_option autoImplicit false

namespace StatefulLexer.Regex

/-! ## Flags -/

/-- Flags while they are being read: those before the hyphen, the place of the
hyphen, those behind it. Each flag has its place, and the last one comes first. -/
structure FlagsSoFar where
  set : List (Flag × Region) := []
  hyphen : Option Region := none
  cleared : List (Flag × Region) := []

namespace FlagsSoFar

/-- The list of flags, in the order they were written. -/
def toList (f : FlagsSoFar) : FlagList :=
  ⟨(f.set.map Prod.fst).reverse, (f.cleared.map Prod.fst).reverse⟩

/-- Where a flag was written. -/
def find? (f : FlagsSoFar) (flag : Flag) : Option Region :=
  ((f.set ++ f.cleared).find? fun (g, _) => g == flag).map Prod.snd

/-- One more flag. -/
def push (f : FlagsSoFar) (flag : Flag) (region : Region) : FlagsSoFar :=
  if f.hyphen.isNone then { f with set := (flag, region) :: f.set }
  else { f with cleared := (flag, region) :: f.cleared }

end FlagsSoFar

/-- One letter of a list of flags, or the hyphen in it. -/
def pushFlag (f : FlagsSoFar) (c : Char) (region : Region) : Except Fault FlagsSoFar :=
  if c = '-' then
    match f.hyphen with
    | some earlier => .error ⟨.flagRepeatedNegation, region, some earlier⟩
    | none => .ok { f with hyphen := some region }
  else
    match Flag.ofLetter? c with
    | none => fault .flagUnrecognized region
    | some flag =>
      match f.find? flag with
      | some earlier => .error ⟨.flagDuplicate, region, some earlier⟩
      | none => .ok (f.push flag region)

/-- A list of flags up to a colon or a closing parenthesis. -/
def flagList (r : Reader) (f : FlagsSoFar) : Except Fault (FlagList × Reader) :=
  match h : r.rest with
  | [] => fault .flagUnexpectedEnd r.point
  | (c, _) :: rest =>
    if c = ':' ∨ c = ')' then
      match f.hyphen, f.cleared with
      | some hyphen, [] => fault .flagDanglingNegation hyphen
      | _, _ => .ok (f.toList, r)
    else
      match pushFlag f c r.charRegion with
      | .error e => .error e
      | .ok f =>
        have : r.advance.rest.length < r.rest.length := by simp [Reader.advance, h]
        flagList r.advance f
termination_by r.rest.length

/-! ## Names -/

/-- A letter or a sign that is used like one, the newest among them. -/
def isNameLetter (c : Char) : Bool :=
  BinaryProperty.alphabetic.contains c || Recent.alphabetic.contains c

/-- A number, the newest among them. -/
def isNameNumber (c : Char) : Bool :=
  GeneralCategory.numbers.contains c || Recent.numbers.contains c

/-- The characters of a group name. The first is a letter or a low line. -/
def isNameChar (first : Bool) (c : Char) : Bool :=
  c == '_' || isNameLetter c ||
    (!first && (isNameNumber c || c == '.' || c == '[' || c == ']'))

/-- The characters of a name up to the angle bracket. -/
def nameChars (r : Reader) (name : List Char) : Except Fault (List Char × Reader) :=
  match h : r.rest with
  | [] => fault .groupNameUnexpectedEnd r.point
  | (c, _) :: rest =>
    if c = '>' then .ok (name, r)
    else if isNameChar name.isEmpty c then
      have : r.advance.rest.length < r.rest.length := by simp [Reader.advance, h]
      nameChars r.advance (name ++ [c])
    else fault .groupNameInvalid r.charRegion
termination_by r.rest.length

/-- The name of a group; the reader stands behind the opening angle bracket. -/
def groupName (r : Reader) : Except Fault (List Char × Reader) := do
  let start := r.place
  let (name, r) ← nameChars r []
  let region : Region := ⟨start, r.place⟩
  let r := r.advance
  if name.isEmpty then fault .groupNameEmpty (.point start)
  else
    match r.names.find? fun (n, _) => n == name with
    | some (_, earlier) => .error ⟨.groupNameDuplicate, region, some earlier⟩
    | none => .ok (name, { r with names := (name, region) :: r.names })

/-! ## Opening a group -/

/-- What an opening parenthesis begins: a change of flags, or a group. -/
inductive Opening where
  | setFlags (region : Region) (flags : FlagList)
  | group (region : Region) (kind : GroupKind)

/-- The reader behind a look-around prefix. -/
def lookAround? (r : Reader) : Option Reader :=
  ["?=", "?!", "?<=", "?<!"].findSome? fun sign => r.after? sign.toList

/-- **What a parenthesis begins;** the reader stands at it. -/
def opening (r : Reader) : Except Fault (Opening × Reader) := do
  let region := r.charRegion
  let r := r.advanceSkip
  if let some behind := lookAround? r then
    fault .lookAroundUnsupported ⟨region.start, behind.place⟩
  else
    let question := r.point
    -- A group has its number before its name is read.
    let capturing := { r with groups := r.groups + 1 }
    if let some r := capturing.after? "?P<".toList then
      let (name, r) ← groupName r
      .ok (.group region (.named r.groups true name), r)
    else if let some r := capturing.after? "?<".toList then
      let (name, r) ← groupName r
      .ok (.group region (.named r.groups false name), r)
    else if let some r := r.after? ['?'] then
      if r.peek?.isNone then fault .groupUnclosed region
      else
        let (flags, r) ← flagList r {}
        let closed := r.peek? == some ')'
        let r := r.advance
        if closed then
          -- Without flags the question mark is an operator behind nothing.
          if flags.set.isEmpty && flags.cleared.isEmpty then fault .repetitionMissing question
          else .ok (.setFlags ⟨region.start, r.place⟩ flags, r)
        else .ok (.group region (.flags flags), r)
    else .ok (.group region (.capture capturing.groups), capturing)

/-! ## Counts -/

/-- The reader behind the spaces at it, whether or not blanks are skipped. -/
def skipSpaces (r : Reader) : Reader :=
  { r with rest := r.rest.dropWhile fun (c, _) => CharSet.space.contains c }

/-- The greatest count that may be written. -/
def greatestCount : Nat := 4294967295

/-- A count, with spaces around it. The reader moves on even if there is none,
and the fault may turn out not to matter. -/
def count (r : Reader) : Except Fault Nat × Reader :=
  let r := skipSpaces r
  let start := r.place
  let (digits, r) := r.readWhile Char.isDigit []
  let region : Region := ⟨start, r.place⟩
  let r := skipSpaces r
  let value := digits.foldl (fun n d => 10 * n + (d.toNat - '0'.toNat)) 0
  if digits.isEmpty then (fault .countMissing region, r)
  else if value ≤ greatestCount then (.ok value, r)
  else (fault .decimalInvalid region, r)

/-- The bounds do not contradict each other. -/
def RepeatOp.isOrdered (op : RepeatOp) : Bool :=
  match op.bounds with
  | (least, some most) => decide (least ≤ most)
  | (_, none) => true

/-- The operator between braces, the reader standing behind the opening brace at
`start`. It is left standing at what should be the closing brace. -/
def countedOp (start : Place) (r : Reader) : Except Fault (RepeatOp × Reader) := do
  if r.peek?.isNone then fault .countUnclosed ⟨start, r.place⟩
  else
    let (least, r) := count r
    if r.peek?.isNone then fault .countUnclosed ⟨start, r.place⟩
    else if r.peek? = some ',' then
      let r := r.advanceSkip
      if r.peek?.isNone then fault .countUnclosed ⟨start, r.place⟩
      else if r.peek? = some '}' then
        return (.atLeast (← least), r)
      else
        -- A fault of the first count is reported before the second is read.
        let least ← least
        let (most, r) := count r
        return (.between least (← most), r)
    else
      return (.exactly (← least), r)

/-- A repetition operator, and whether it is greedy. -/
structure Repeating where
  op : RepeatOp
  greedy : Bool

/-- A repetition operator in braces; the reader stands at the opening brace. A
question mark behind it may come after blanks. -/
def counted (r : Reader) : Except Fault (Repeating × Reader) := do
  let start := r.place
  let (op, r) ← countedOp start r.advanceSkip
  if r.peek? = some '}' then
    let r := r.advanceSkip
    let lazy := r.peek? == some '?'
    let r := if lazy then r.advance else r
    if op.isOrdered then .ok (⟨op, !lazy⟩, r)
    else fault .countRangeInvalid ⟨start, r.place⟩
  else fault .countUnclosed ⟨start, r.place⟩

/-- The operator of a sign. -/
def signOp? : Char → Option RepeatOp
  | '?' => some .optional
  | '*' => some .star
  | '+' => some .plus
  | _ => none

/-- A repetition operator of one sign. A question mark behind it follows at
once. -/
def signed (op : RepeatOp) (r : Reader) : Repeating × Reader :=
  let r := r.advance
  if r.peek? = some '?' then (⟨op, false⟩, r.advance) else (⟨op, true⟩, r)

end StatefulLexer.Regex
