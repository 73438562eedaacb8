import FiscalGateway.Text.Octets

/-!
# Items of ASN.1

An item is a tag, a length and as many octets. `Item.read?` takes the first item of a sequence of
octets and `Item.readAll?` all of them; `write` gives the shortest form. Lengths are definite, in as
many octets as the writer liked.
-/

namespace FiscalGateway.Asn1

/-- An item as it was read. -/
structure Item where
  tag : UInt8
  content : Octets
  /-- The item with its header. -/
  encoding : Octets
  deriving DecidableEq, Repr, Inhabited

/-- The tags in use. -/
def boolean : UInt8 := 0x01

def integer : UInt8 := 0x02

def bitString : UInt8 := 0x03

def octetString : UInt8 := 0x04

def null : UInt8 := 0x05

def objectIdentifier : UInt8 := 0x06

def sequence : UInt8 := 0x30

def set : UInt8 := 0x31

/-- The tag of a constructed item numbered by its context. -/
def context (n : UInt8) : UInt8 := 0xA0 + n

/-- The first length that is refused. -/
def lengthLimit : Nat := 1 <<< 63

/-- The length at the front and what follows it. -/
def readLength? : Octets → Option (Nat × Octets)
  | [] => none
  | o :: rest =>
    if o < 0x80 then some (o.toNat, rest)
    else
      let count := o.toNat - 0x80
      let length := Octets.toNat (rest.take count)
      if count = 0 ∨ rest.length < count ∨ lengthLimit ≤ length then none
      else some (length, rest.drop count)

theorem length_of_readLength? {b rest : Octets} {n : Nat} (h : readLength? b = some (n, rest)) :
    rest.length < b.length := by
  cases b with
  | nil => simp [readLength?] at h
  | cons o tail =>
    simp only [readLength?] at h
    split at h
    · simp only [Option.some.injEq, Prod.mk.injEq] at h
      simp [← h.2]
    · split at h
      · contradiction
      · simp only [Option.some.injEq, Prod.mk.injEq] at h
        simp only [← h.2, List.length_drop, List.length_cons]
        omega

/-- A length is read without a look at what follows it. -/
theorem exists_of_readLength? {b rest : Octets} {n : Nat} (h : readLength? b = some (n, rest)) :
    ∃ front, b = front ++ rest ∧ ∀ rest', readLength? (front ++ rest') = some (n, rest') := by
  cases b with
  | nil => simp [readLength?] at h
  | cons o tail =>
    simp only [readLength?] at h
    split at h
    · next ho =>
      obtain ⟨rfl, rfl⟩ := Prod.mk.inj (Option.some.inj h)
      exact ⟨[o], rfl, fun rest' => by simp [readLength?, ho]⟩
    · next ho =>
      split at h
      · contradiction
      · next hfault =>
        obtain ⟨rfl, rfl⟩ := Prod.mk.inj (Option.some.inj h)
        simp only [not_or] at hfault
        have hlength : (tail.take (o.toNat - 0x80)).length = o.toNat - 0x80 := by
          rw [List.length_take]
          omega
        refine ⟨o :: tail.take (o.toNat - 0x80), by simp, fun rest' => ?_⟩
        simp only [List.cons_append, readLength?, if_neg ho]
        rw [List.take_left' hlength, List.drop_left' hlength, if_neg]
        rw [List.length_append, hlength]
        simp only [not_or]
        exact ⟨hfault.1, by omega, hfault.2.2⟩

/-- The first item and what follows it. Tags of more than one octet are refused. -/
def Item.read? : Octets → Option (Item × Octets)
  | [] => none
  | tag :: body =>
    if tag &&& 0x1F = 0x1F then none
    else
      match readLength? body with
      | none => none
      | some (length, rest) =>
        if rest.length < length then none
        else
          let after := rest.drop length
          let encoding := (tag :: body).take (body.length + 1 - after.length)
          some (⟨tag, rest.take length, encoding⟩, after)

theorem Item.length_of_read? {b rest : Octets} {i : Item} (h : Item.read? b = some (i, rest)) :
    rest.length < b.length := by
  cases b with
  | nil => simp [Item.read?] at h
  | cons tag body =>
    simp only [Item.read?] at h
    split at h
    · contradiction
    · split at h
      · contradiction
      · next hl =>
        have hlt := length_of_readLength? hl
        split at h
        · contradiction
        · simp only [Option.some.injEq, Prod.mk.injEq] at h
          simp only [← h.2, List.length_drop, List.length_cons]
          omega

/-- An item is read without a look at what follows it. -/
theorem Item.exists_of_read? {b rest : Octets} {i : Item} (h : Item.read? b = some (i, rest)) :
    b = i.encoding ++ rest ∧ ∀ rest', Item.read? (i.encoding ++ rest') = some (i, rest') := by
  cases b with
  | nil => simp [Item.read?] at h
  | cons tag body =>
    simp only [Item.read?] at h
    split at h
    · contradiction
    · next htag =>
      split at h
      · contradiction
      · next length after hl =>
        split at h
        · contradiction
        · next hlong =>
          obtain ⟨front, rfl, hfront⟩ := exists_of_readLength? hl
          obtain ⟨rfl, rfl⟩ := Prod.mk.inj (Option.some.inj h)
          have hlength : (after.take length).length = length := by
            rw [List.length_take]
            omega
          have hencoding : (tag :: (front ++ after)).take
              ((front ++ after).length + 1 - (after.drop length).length) =
                tag :: (front ++ after.take length) := by
            have hsplit : tag :: (front ++ after) =
                (tag :: (front ++ after.take length)) ++ after.drop length := by simp
            rw [hsplit, List.take_left']
            simp only [List.length_cons, List.length_append, List.length_take, List.length_drop]
            omega
          refine ⟨?_, fun rest' => ?_⟩
          · simp only [hencoding]
            simp
          · simp only [hencoding, List.cons_append, List.append_assoc, Item.read?, if_neg htag,
              hfront]
            rw [if_neg (by rw [List.length_append, hlength]; omega), List.take_left' hlength,
              List.drop_left' hlength]
            simp only [Option.some.injEq, Prod.mk.injEq, Item.mk.injEq, true_and, and_true]
            have hsplit : tag :: (front ++ (after.take length ++ rest')) =
                (tag :: (front ++ after.take length)) ++ rest' := by simp
            rw [hsplit, List.take_left']
            simp only [List.length_cons, List.length_append]
            omega

/-- Every item, to the last octet. -/
def Item.readAll? (b : Octets) : Option (List Item) :=
  if b.isEmpty then some []
  else
    match h : Item.read? b with
    | none => none
    | some (i, rest) =>
      have : rest.length < b.length := Item.length_of_read? h
      (Item.readAll? rest).map (i :: ·)
termination_by b.length

namespace Item

/-- The items inside an item with this tag. -/
def children? (i : Item) (tag : UInt8) : Option (List Item) :=
  if i.tag = tag then readAll? i.content else none

/-- The items inside a sequence. -/
def sequence? (i : Item) : Option (List Item) := i.children? sequence

/-- The items of the sequence at the front; what follows it is ignored. -/
def readSequence? (b : Octets) : Option (List Item) := do (← read? b).1.sequence?

/-- The content of an item with this tag. -/
def content? (i : Item) (tag : UInt8) : Option Octets :=
  if i.tag = tag then some i.content else none

/-- An integer taken without sign. -/
def natural? (i : Item) : Option Nat := (i.content? integer).map Octets.toNat

/-- The octets of a bit string that has whole octets only. -/
def bits? (i : Item) : Option Octets :=
  match i.content? bitString with
  | some (0 :: b) => some b
  | _ => none

end Item

/-- A length in its shortest form. -/
def writeLength (n : Nat) : Octets :=
  if n < 0x80 then [UInt8.ofNat n]
  else
    let digits := Octets.ofNatMinimal n
    UInt8.ofNat (0x80 + digits.length) :: digits

/-- An item with its header. -/
def write (tag : UInt8) (content : Octets) : Octets := tag :: writeLength content.length ++ content

/-- An integer without sign. -/
def writeNatural (n : Nat) : Octets :=
  write integer <| match Octets.ofNatMinimal n with
    | [] => [0]
    | o :: rest => if o < 0x80 then o :: rest else 0 :: o :: rest

/-- The digits of a number to the base 128; `mark` is added to the last one and 128 to the others. -/
def writeDigits (mark n : Nat) : Octets :=
  if n < 128 then [UInt8.ofNat (n + mark)]
  else writeDigits 128 (n / 128) ++ [UInt8.ofNat (n % 128 + mark)]

/-- The content of an object identifier; the first two arcs share one number. -/
def objectId : List Nat → Octets
  | a :: b :: rest => (writeDigits 0 (a * 40 + b)) ++ rest.flatMap (writeDigits 0)
  | _ => []

end FiscalGateway.Asn1
