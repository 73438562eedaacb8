import FiscalGateway.Json.Record
import FiscalGateway.Proofs.Json.Reader
import FiscalGateway.Proofs.Number.Digits
import FiscalGateway.Proofs.Outcome

/-!
# Records that were written

A record is written from a list of fields, each a member with the value written for it or with none
(`written`). Where every name occurs once, a member finds the value of its field again
(`lookup_written`); and where each field fits its member, the record is accepted as it stands
(`ofJson_written`). What a member makes of its field depends on no other field (`Member.Holds`).
-/

namespace FiscalGateway.Json

open Nat (ofDigitChars toDigits)

/-! ## Natural numbers -/

theorem isDigit_eq (c : Char) : isDigit c = c.isDigit := by
  rw [Bool.eq_iff_iff, Number.isDigit_iff, isDigit, Bool.and_eq_true, decide_eq_true_eq,
    decide_eq_true_eq]

/-- Digits whose number fits a word are taken to the last. -/
theorem takeDigits_eq {s : List Char} {n : Nat} (h : ofDigitChars 10 s n < UInt64.size) :
    takeDigits n s = (ofDigitChars 10 s n, []) := by
  induction s generalizing n with
  | nil => simp [takeDigits]
  | cons c s ih =>
    rw [Nat.ofDigitChars_cons, Nat.mul_comm 10] at h
    have hnext : n * 10 + digitValue c < UInt64.size :=
      Nat.lt_of_le_of_lt (Number.le_ofDigitChars s _) h
    rw [Nat.ofDigitChars_cons, Nat.mul_comm 10, takeDigits, if_pos hnext]
    exact ih h

/-- A number has the form of the grammar. -/
theorem isWritten_ofNat (n : Nat) : (ofNat n).IsWritten where
  whole := by
    refine ⟨Nat.toDigits_ne_nil, fun c hc => ?_⟩
    rw [isDigit_eq]
    exact Number.isDigit_of_mem_toDigits hc
  zero_alone := by
    intro hzero
    rcases Nat.eq_zero_or_pos n with rfl | hn
    · rfl
    · exact absurd hzero (Number.head?_toDigits_ne_zero hn)
  fraction := by simp
  exponent := by simp

/-- **A number below the bound is read as itself.** -/
theorem readBelow_ofNat {bound n : Nat} (hbound : bound ≤ UInt64.size) (h : n < bound) :
    readBelow bound (ofNat n) = .ok n := by
  have htake : takeDigits 0 (toDigits 10 n) = (n, []) := by
    have hn : ofDigitChars 10 (toDigits 10 n) 0 = n := Nat.ofDigitChars_ten_toDigits
    rw [takeDigits_eq (by omega), hn]
  have hquantity : (⟨false, toDigits 10 n, [], none⟩ : Numeral).quantity? = some (.integer n) := by
    simp [Numeral.quantity?, htake]
  simp only [readBelow, ofNat, hquantity]
  rw [if_pos ⟨by omega, by simpa using h⟩]
  simp

/-! ## Fields -/

/-- A member and the value that is written for it, if there is one. -/
structure Field where
  check : MemberCheck
  value? : Option Json

/-- The name of the member. -/
def Field.name (f : Field) : String := f.check.name

/-- The record in which fields are written. -/
def written (fields : List Field) : Record :=
  fields.filterMap fun f => f.value?.map (f.name, ·)

/-- Whether the member accepts what is written for it. -/
def Field.Fits (f : Field) : Prop :=
  match f.value? with
  | some v => f.check.check v = .ok ()
  | none => f.check.required = false

/-- Whether the member accepts what is written for it, and that can stand in a text. -/
structure Field.Stands (f : Field) : Prop where
  isWritten : ∀ v ∈ f.value?, v.IsWritten
  fits : f.Fits

section

variable {fields : List Field} {f : Field}

@[simp] theorem written_nil : written [] = [] := rfl

theorem written_cons (f : Field) (fields : List Field) :
    written (f :: fields) = (f.value?.map (f.name, ·)).toList ++ written fields := by
  rw [written, List.filterMap_cons]
  cases f.value? <;> rfl

theorem written_append (fields more : List Field) :
    written (fields ++ more) = written fields ++ written more :=
  List.filterMap_append ..

theorem mem_written {p : String × Json} (h : p ∈ written fields) :
    ∃ f ∈ fields, f.value? = some p.2 ∧ f.name = p.1 := by
  obtain ⟨f, hf, hp⟩ := List.mem_filterMap.1 h
  obtain ⟨v, hv, rfl⟩ := Option.map_eq_some_iff.1 hp
  exact ⟨f, hf, hv, rfl⟩

/-- The names that are written are among those of the fields, in the same order. -/
theorem names_written_sublist (fields : List Field) :
    ((written fields).map Prod.fst).Sublist (fields.map Field.name) := by
  induction fields with
  | nil => exact .slnil
  | cons f fields ih =>
    rw [written, List.filterMap_cons]
    cases f.value? with
    | none => exact ih.cons _
    | some v => exact ih.cons_cons _

/-- **A name finds the value of its field.** -/
theorem lookup_written (hnodup : (fields.map Field.name).Nodup) (h : f ∈ fields) :
    (written fields).lookup f.name = f.value? := by
  induction fields with
  | nil => cases h
  | cons g fields ih =>
    obtain ⟨hnew, hnodup⟩ := List.nodup_cons.1 hnodup
    rw [written, List.filterMap_cons]
    rcases List.mem_cons.1 h with rfl | h
    · cases f.value? with
      | none =>
        -- nothing is written for this field, and no later one has its name
        refine List.lookup_eq_none_iff.2 fun p hp => bne_iff_ne.2 fun he => hnew ?_
        rw [he]
        exact (names_written_sublist fields).subset (List.mem_map_of_mem hp)
      | some v => exact List.lookup_cons_self
    · have hne : f.name ≠ g.name := fun he => hnew (he ▸ List.mem_map_of_mem h)
      cases g.value? with
      | none => exact ih hnodup h
      | some v =>
        rw [Option.map_some, List.lookup_cons, beq_eq_false_iff_ne.2 hne]
        exact ih hnodup h

/-- And the member itself. -/
theorem find?_name (hnodup : (fields.map Field.name).Nodup) (h : f ∈ fields) :
    (fields.map Field.check).find? (·.name = f.name) = some f.check := by
  induction fields with
  | nil => cases h
  | cons g fields ih =>
    obtain ⟨hnew, hnodup⟩ := List.nodup_cons.1 hnodup
    rw [List.map_cons]
    rcases List.mem_cons.1 h with rfl | h
    · exact List.find?_cons_of_pos (by simp [Field.name])
    · have hne : g.check.name ≠ f.name := fun he =>
        hnew (List.mem_map.2 ⟨f, h, he.symm⟩)
      rw [List.find?_cons_of_neg (by simpa using hne)]
      exact ih hnodup h

/-- Members pass if each is known, none comes twice, and each value is accepted. -/
theorem checkMembers_eq_ok {known : List MemberCheck} {seen : List String} {r : Record}
    (hnodup : (r.map Prod.fst).Nodup) (hseen : ∀ p ∈ r, p.1 ∉ seen)
    (h : ∀ p ∈ r, ∃ f, known.find? (·.name = p.1) = some f ∧ f.check p.2 = .ok ()) :
    checkMembers known seen r = .ok () := by
  induction r generalizing seen with
  | nil => rfl
  | cons p r ih =>
    obtain ⟨name, v⟩ := p
    obtain ⟨hnew, hnodup⟩ := List.nodup_cons.1 hnodup
    obtain ⟨hname, hseen⟩ := List.forall_mem_cons.1 hseen
    obtain ⟨⟨f, hfind, hcheck⟩, h⟩ := List.forall_mem_cons.1 h
    -- the name now counts as seen, and it does not come again
    have hrest : checkMembers known (name :: seen) r = .ok () := by
      refine ih hnodup (fun p hp hmem => ?_) h
      rcases List.mem_cons.1 hmem with he | hmem
      · exact hnew (List.mem_map.2 ⟨p, hp, he⟩)
      · exact hseen p hp hmem
    simp only [checkMembers, hfind, if_neg hname, hcheck, hrest]
    rfl

theorem membersAreWritten_iff {members : List (String × Json)} :
    MembersAreWritten members ↔ ∀ p ∈ members, p.2.IsWritten := by
  induction members with
  | nil => simp [MembersAreWritten]
  | cons p members ih => rw [MembersAreWritten, ih, List.forall_mem_cons]

/-- A record of such fields can stand in a text. -/
theorem isWritten_written (h : ∀ f ∈ fields, f.Stands) : (object (written fields)).IsWritten := by
  refine membersAreWritten_iff.2 fun p hp => ?_
  obtain ⟨f, hf, hv, -⟩ := mem_written hp
  exact (h f hf).isWritten p.2 hv

/-- **And it is accepted.** -/
theorem ofJson_written (hnodup : (fields.map Field.name).Nodup) (h : ∀ f ∈ fields, f.Stands) :
    Record.ofJson (fields.map Field.check) (.object (written fields)) = .ok (written fields) := by
  have hmembers : checkMembers (fields.map Field.check) [] (written fields) = .ok () := by
    refine checkMembers_eq_ok ((names_written_sublist fields).nodup hnodup) (by simp)
      fun p hp => ?_
    obtain ⟨f, hf, hv, hname⟩ := mem_written hp
    have hfit := (h f hf).fits
    rw [Field.Fits, hv] at hfit
    exact ⟨f.check, hname ▸ find?_name hnodup hf, hfit⟩
  have hpresent : checkPresent (fields.map Field.check) (written fields) = .ok () := by
    refine if_pos (List.all_eq_true.2 fun check hcheck => ?_)
    obtain ⟨f, hf, rfl⟩ := List.mem_map.1 hcheck
    have hfit := (h f hf).fits
    change (!f.check.required || ((written fields).lookup f.name).isSome) = true
    rw [lookup_written hnodup hf]
    rw [Field.Fits] at hfit
    cases hv : f.value? with
    | some v => simp
    | none => simpa [hv] using hfit
  simp only [Record.ofJson, hmembers, hpresent]
  rfl

end

/-! ## Members -/

section

variable {α β : Type} {m : Member α} {read : Json → Except Refusal α} {v : Json}
  {value? : Option Json} {a : α} {fields : List Field}

/-- A value that can stand in a text and is read as `a`. It is not the one that means no value. -/
structure IsForm (read : Json → Except Refusal α) (v : Json) (a : α) : Prop where
  isWritten : v.IsWritten
  ne_null : v ≠ .null
  read_eq : read v = .ok a

/-- The field of a member. -/
def Member.field (m : Member α) (value? : Option Json) : Field := ⟨m.toCheck, value?⟩

/-- What a member makes of its field. -/
def Member.readField (m : Member α) : Option Json → Except Refusal α
  | some v => m.read v
  | none =>
    match m.absent with
    | some a => .ok a
    | none => .error .mismatch

theorem Member.get_eq (m : Member α) (r : Record) : m.get r = m.readField (r.lookup m.name) := by
  unfold get readField
  cases r.lookup m.name <;> rfl

/-- What is written for a member can stand in a text, and the member makes `a` of it. -/
structure Member.Holds (m : Member α) (value? : Option Json) (a : α) : Prop where
  isWritten : ∀ v ∈ value?, v.IsWritten
  readField_eq : m.readField value? = .ok a

theorem Member.Holds.stands (h : m.Holds value? a) : (m.field value?).Stands := by
  refine ⟨h.isWritten, ?_⟩
  have hread := h.readField_eq
  cases value? with
  | some v =>
    change (m.read v).map _ = .ok ()
    rw [show m.read v = .ok a from hread]
    rfl
  | none =>
    change m.absent.isNone = false
    rw [Member.readField] at hread
    cases hm : m.absent with
    | some a => rfl
    | none => simp [hm] at hread

/-- **In the record a member makes the same of its field.** -/
theorem Member.Holds.get_eq_ok (h : m.Holds value? a) (hnodup : (fields.map Field.name).Nodup)
    (hmem : m.field value? ∈ fields) : m.get (written fields) = .ok a := by
  have hlookup := lookup_written hnodup hmem
  rw [m.get_eq]
  exact (congrArg m.readField hlookup).trans h.readField_eq

/-- A member that is written. -/
theorem Member.holds_some (h : IsForm m.read v a) : m.Holds (some v) a :=
  ⟨fun _ hv => Option.some.inj hv ▸ h.isWritten, h.read_eq⟩

/-- A member that is written where it has a value. -/
theorem Member.holds_optional {name : String} {write : α → Json} (o : Option α)
    (h : ∀ a, IsForm read (write a) a) : (Member.optional name read).Holds (o.map write) o := by
  cases o with
  | none => exact ⟨by simp, rfl⟩
  | some a =>
    refine Member.holds_some ⟨(h a).isWritten, (h a).ne_null, ?_⟩
    change readOption read (write a) = .ok (some a)
    rw [readOption, (h a).read_eq]
    · rfl
    · exact (h a).ne_null

end

/-! ## Texts -/

/-- **The text of a value is read as the value is.** -/
theorem readText_text {α : Type} (read : Json → Except Refusal α) {v : Json} (h : v.IsWritten) :
    readText read v.text = read v := by
  rw [readText, text, String.toList_ofList, read_write h]
  cases read v <;> rfl

end FiscalGateway.Json
