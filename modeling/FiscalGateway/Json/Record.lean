import FiscalGateway.Json.Reader
import FiscalGateway.Number.Shortest

/-!
# Reading records

Typed reading of values. A refusal says whether the text is no JSON or the value has another form
than asked for; whichever comes first in the text is reported. `Record.ofJson` reads an object
member by member: a name given twice is refused, an unknown name is skipped.
-/

namespace FiscalGateway.Json

/-- Why a value is refused. -/
inductive Refusal where
  /-- The text is no JSON. -/
  | malformed
  /-- The value has another form than asked for. -/
  | mismatch
  deriving DecidableEq, Repr

/-- What a numeral is read as: an integer where it has neither point nor exponent and fits a word,
a double otherwise. -/
inductive Quantity where
  | integer (n : Int)
  | double (d : Number.Binary64)
  deriving DecidableEq, Repr

/-- The value of a decimal digit. -/
def digitValue (c : Char) : Nat := c.toNat - '0'.toNat

/-- Appends digits to a number as long as it stays below `2 ^ 64`; the rest is left. -/
def takeDigits (n : Nat) : List Char → Nat × List Char
  | [] => (n, [])
  | c :: rest =>
    let m := n * 10 + digitValue c
    if m < UInt64.size then takeDigits m rest else (n, c :: rest)

/-- The power of ten that a double can name exactly once rounded. -/
def powerOfTen (k : Nat) : Number.Binary64 := Number.Binary64.round false (Nat.pow 10 k) 1

/-- The double `n * 10 ^ k`: the two factors are rounded first and the product then; nothing beyond
the range is a number. -/
def scaleDouble (n : Nat) (k : Int) : Option Number.Binary64 :=
  let f := Number.Binary64.ofNat n
  if n = 0 then some f
  else if k ≥ 0 then
    if k ≤ 308 then
      let d := f.mul (powerOfTen k.toNat)
      if d.isInfinite then none else some d
    else none
  else if -k ≤ 308 then some (f.div (powerOfTen (-k).toNat))
  else
    let d := f.div (powerOfTen 308)
    if -k ≤ 616 then some (d.div (powerOfTen (-k - 308).toNat))
    else some (Number.Binary64.zero false)

/-- The largest exponent that is counted. -/
def exponentLimit : Int := 2147483647

/-- The exponent of a numeral, held within a word of 32 bits; the flag says that the digits alone
exceed it. -/
def Numeral.exponentValue (n : Numeral) : Bool × Int :=
  match n.exponent with
  | none => (false, 0)
  | some (negative, digits) =>
    let e : Int := (digits.foldl (fun v c => v * 10 + digitValue c) 0 : Nat)
    (e > exponentLimit, if negative then -e else e)

/-- The value of a numeral; a number beyond the range of doubles is none. Digits beyond the width of
a word are dropped: those in front of the point count for the exponent. -/
def Numeral.quantity? (n : Numeral) : Option Quantity :=
  let (v, restWhole) := takeDigits 0 n.whole
  if n.fraction.isEmpty ∧ n.exponent.isNone ∧ restWhole.isEmpty then
    if !n.negative then some (.integer v)
    -- a word has no minus zero, and none below its least value
    else if v = 0 ∨ v > 1 <<< 63 then some (.double (Number.Binary64.ofNat v).neg)
    else some (.integer (-v))
  else
    let (w, restFraction) := takeDigits v n.fraction
    let shift : Int := (restWhole.length : Int) - ((n.fraction.length - restFraction.length : Nat) : Int)
    let (overflows, e) := n.exponentValue
    let d? :=
      -- too large an exponent decides alone: nothing fits, or nothing is left
      if overflows then
        if w ≠ 0 ∧ e > 0 then none else some (Number.Binary64.zero false)
      else scaleDouble w (max (-exponentLimit - 1) (min exponentLimit (shift + e)))
    d?.map fun d => .double (if n.negative then d.neg else d)

/-- The refusal of a value that has the wrong form. A number that is none is a fault of the text. -/
def refuse : Json → Refusal
  | .fault | .unpaired => .malformed
  | .number n => if n.quantity?.isSome then .mismatch else .malformed
  | _ => .mismatch

/-- A string. -/
def readString : Json → Except Refusal String
  | .string s => .ok s
  | v => .error v.refuse

/-- A truth value. -/
def readBool : Json → Except Refusal Bool
  | .bool b => .ok b
  | v => .error v.refuse

/-- A natural number below a bound. -/
def readBelow (bound : Nat) : Json → Except Refusal Nat
  | .number n =>
    match n.quantity? with
    | none => .error .malformed
    | some (.integer i) => if 0 ≤ i ∧ i.toNat < bound then .ok i.toNat else .error .mismatch
    | some (.double _) => .error .mismatch
  | v => .error v.refuse

/-- A value, or `null` for none. -/
def readOption (read : Json → Except Refusal α) : Json → Except Refusal (Option α)
  | .null => .ok none
  | v => some <$> read v

/-- A member of a record. -/
structure Member (α : Type) where
  name : String
  read : Json → Except Refusal α
  /-- The value where the member is missing; without one the member is required. -/
  absent : Option α

/-- A member that must be there. -/
def Member.required (name : String) (read : Json → Except Refusal α) : Member α := ⟨name, read, none⟩

/-- A member that may be missing or `null`. -/
def Member.optional (name : String) (read : Json → Except Refusal α) : Member (Option α) :=
  ⟨name, readOption read, some none⟩

/-- A member as the reader of a record sees it. -/
structure MemberCheck where
  name : String
  check : Json → Except Refusal Unit
  required : Bool

/-- What a record needs to know of a member while it passes over the text. -/
def Member.toCheck (f : Member α) : MemberCheck :=
  ⟨f.name, fun v => (f.read v).map fun _ => (), f.absent.isNone⟩

/-- The members of a record, each name once. -/
abbrev Record := List (String × Json)

/-- The value of a member. -/
def Member.get (f : Member α) (r : Record) : Except Refusal α :=
  match r.lookup f.name with
  | some v => f.read v
  | none =>
    match f.absent with
    | some a => .ok a
    | none => .error .mismatch

/-- Passes over members in order. `seen` holds the known names that were met before. -/
def checkMembers (known : List MemberCheck) (seen : List String) : Record → Except Refusal Unit
  | [] => .ok ()
  | (name, v) :: rest =>
    match known.find? (·.name = name) with
    | none => if v.isWhole then checkMembers known seen rest else .error .malformed
    | some f =>
      if name ∈ seen then .error .mismatch
      else do
        f.check v
        checkMembers known (name :: seen) rest

/-- Refuses a record without a required member. -/
def checkPresent (known : List MemberCheck) (r : Record) : Except Refusal Unit :=
  if known.all fun f => !f.required || (r.lookup f.name).isSome then .ok () else .error .mismatch

/-- The members of an object, or the items of an array under the names in order. -/
def Record.ofJson (known : List MemberCheck) : Json → Except Refusal Record
  | .object members => do
    checkMembers known [] members
    checkPresent known members
    return members
  | .array items => do
    let members := (known.map (·.name)).zip items
    checkMembers known [] members
    checkPresent known members
    if items.length > known.length then throw .malformed
    return members
  | v => .error v.refuse

/-- Reads a text as a value of one kind; nothing may follow it. -/
def readText (read : Json → Except Refusal α) (s : String) : Except Refusal α := do
  let d := Json.read s.toList
  let a ← read d.value
  if d.ended then return a else throw .malformed

end FiscalGateway.Json
