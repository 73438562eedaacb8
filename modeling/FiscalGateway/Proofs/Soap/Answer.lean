import FiscalGateway.Proofs.Outcome
import FiscalGateway.Proofs.Xml.Query
import FiscalGateway.Soap.Response

/-!
# Answers — what they say of the outcome

The reader looks at the first confirmation and at the first refusal, and refuses an element that has
both or neither. So an element that is read has children of one kind only that state an outcome, and
the first of them is the one that counts (`IsAnswer`, `ofElement_eq_ok`). Others of the same kind are
passed over, whatever they state.
-/

namespace FiscalGateway.Soap

open Outcome
open Xml (Element)

/-! ## Contents -/

section Contents

variable {c : Element} {element : AnswerElement} {name : String}

/-- What an element says about being a test: without a mark, that it is none. -/
def IsTestMark (c : Element) (test : Bool) : Prop :=
  match (c.attribute? "test").map trimmed with
  | none => test = false
  | some value =>
    if test then value = "true".toList ∨ value = ['1'] else value = "false".toList ∨ value = ['0']

/-- What a confirmation states. -/
structure Confirmation.IsContentOf (x : Confirmation) (c : Element) : Prop where
  fiscalCode : c.attribute? "fik" = some x.fiscalCode
  test : IsTestMark c x.test

/-- The integer in an attribute. -/
def HasInteger (c : Element) (name : String) (n : Int) : Prop :=
  ∃ value, c.attribute? name = some value ∧ Number.readInt32 (trimmed value) = .ok n

/-- What a refusal states. -/
structure Refusal.IsContentOf (x : Refusal) (c : Element) : Prop where
  code : HasInteger c "kod" x.code
  text : c.text = x.text
  test : IsTestMark c x.test

/-- What a warning states. -/
structure Warning.IsContentOf (x : Warning) (c : Element) : Prop where
  code : HasInteger c "kod_varov" x.code
  text : c.text = x.text

theorem testValue_eq_ok {test : Bool} : testValue element c = .ok test ↔ IsTestMark c test := by
  unfold testValue IsTestMark
  cases (c.attribute? "test").map trimmed with
  | none => simp [eq_comm]
  | some value =>
    dsimp only
    by_cases hfalse : value = "false".toList ∨ value = ['0']
    · have htrue : ¬ (value = "true".toList ∨ value = ['1']) := by
        rcases hfalse with rfl | rfl <;> decide
      rw [if_pos hfalse]
      cases test with
      | false => exact iff_of_true rfl hfalse
      | true => exact iff_of_false (by simp) htrue
    · rw [if_neg hfalse]
      by_cases htrue : value = "true".toList ∨ value = ['1']
      · rw [if_pos htrue]
        cases test with
        | false => exact iff_of_false (by simp) hfalse
        | true => exact iff_of_true rfl htrue
      · rw [if_neg htrue]
        cases test with
        | false => exact iff_of_false (by simp) hfalse
        | true => exact iff_of_false (by simp) htrue

theorem requiredValue_eq_ok {value : String} :
    requiredValue element c name = .ok value ↔ c.attribute? name = some value := by
  rw [requiredValue]
  split <;> simp_all

theorem integerValue_eq_ok {n : Int} :
    integerValue element c name = .ok n ↔ HasInteger c name n := by
  simp [integerValue, HasInteger, requiredValue_eq_ok]

theorem Confirmation.ofElement_eq_ok {x : Confirmation} :
    Confirmation.ofElement c = .ok x ↔ x.IsContentOf c := by
  simp only [Confirmation.ofElement, bind_eq_ok, pure_eq_ok, requiredValue_eq_ok, testValue_eq_ok]
  constructor
  · rintro ⟨_, hcode, _, htest, rfl⟩
    exact ⟨hcode, htest⟩
  · rintro ⟨hcode, htest⟩
    exact ⟨_, hcode, _, htest, rfl⟩

theorem Refusal.ofElement_eq_ok {x : Refusal} :
    Refusal.ofElement c = .ok x ↔ x.IsContentOf c := by
  simp only [Refusal.ofElement, bind_eq_ok, pure_eq_ok, integerValue_eq_ok, testValue_eq_ok]
  constructor
  · rintro ⟨_, hcode, _, htest, rfl⟩
    exact ⟨hcode, rfl, htest⟩
  · rintro ⟨hcode, htext, htest⟩
    exact ⟨_, hcode, _, htest, by rw [htext]⟩

theorem Warning.ofElement_eq_ok {x : Warning} :
    Warning.ofElement c = .ok x ↔ x.IsContentOf c := by
  simp only [Warning.ofElement, bind_eq_ok, pure_eq_ok, integerValue_eq_ok]
  constructor
  · rintro ⟨_, hcode, rfl⟩
    exact ⟨hcode, rfl⟩
  · rintro ⟨hcode, htext⟩
    exact ⟨_, hcode, by rw [htext]⟩

/-! ### Faults of contents -/

/-- A fault of the contents is about an attribute of the element that is read. -/
def AnswerFault.IsAbout (fault : AnswerFault) (element : AnswerElement) : Prop :=
  ∃ name value, fault = .attribute element name value

theorem AnswerFault.IsAbout.ne_ambiguous {fault : AnswerFault} (h : fault.IsAbout element) :
    fault ≠ .ambiguous := by
  obtain ⟨name, value, rfl⟩ := h
  exact nofun

variable {fault : AnswerFault}

theorem isAbout_of_requiredValue (h : requiredValue element c name = .error fault) :
    fault.IsAbout element := by
  rw [requiredValue] at h
  split at h
  · contradiction
  · exact ⟨_, _, (Except.error.inj h).symm⟩

theorem isAbout_of_integerValue (h : integerValue element c name = .error fault) :
    fault.IsAbout element := by
  rw [integerValue, bind_eq_error] at h
  rcases h with h | ⟨_, -, h⟩
  · exact isAbout_of_requiredValue h
  · obtain ⟨_, -, rfl⟩ := mapError_eq_error.1 h
    exact ⟨_, _, rfl⟩

theorem isAbout_of_headerValue {α : Type} {read? : List Char → Option α}
    (h : headerValue read? c name = .error fault) : fault.IsAbout .header := by
  rw [headerValue] at h
  split at h
  · contradiction
  · split at h
    · contradiction
    · exact ⟨_, _, (Except.error.inj h).symm⟩

theorem isAbout_of_testValue (h : testValue element c = .error fault) : fault.IsAbout element := by
  rw [testValue] at h
  split at h
  · contradiction
  · split at h
    · contradiction
    · split at h
      · contradiction
      · exact ⟨_, _, (Except.error.inj h).symm⟩

/-- **Every fault names the element that it is about.** -/
theorem isAbout_of_ofElement :
    (AnswerHeader.ofElement c = .error fault → fault.IsAbout .header) ∧
    (Confirmation.ofElement c = .error fault → fault.IsAbout .confirmation) ∧
    (Refusal.ofElement c = .error fault → fault.IsAbout .rejection) ∧
    (Warning.ofElement c = .error fault → fault.IsAbout .warning) := by
  have hpure {α : Type} {a : α} : (pure a : Except AnswerFault α) ≠ .error fault := nofun
  refine ⟨fun h => ?_, fun h => ?_, fun h => ?_, fun h => ?_⟩
  · simp only [AnswerHeader.ofElement, bind_eq_error, hpure, and_false, exists_false, or_false] at h
    rcases h with h | ⟨_, -, h | ⟨_, -, h⟩⟩ <;> exact isAbout_of_headerValue h
  · simp only [Confirmation.ofElement, bind_eq_error, hpure, and_false, exists_false, or_false] at h
    rcases h with h | ⟨_, -, h⟩
    · exact isAbout_of_requiredValue h
    · exact isAbout_of_testValue h
  · simp only [Refusal.ofElement, bind_eq_error, hpure, and_false, exists_false, or_false] at h
    rcases h with h | ⟨_, -, h⟩
    · exact isAbout_of_integerValue h
    · exact isAbout_of_testValue h
  · simp only [Warning.ofElement, bind_eq_error, hpure, and_false, exists_false, or_false] at h
    exact isAbout_of_integerValue h

end Contents

/-! ## Outcomes -/

section Outcomes

variable {e c : Element} {kind : AnswerElement}

/-- Whether an element is one of this kind. -/
def AnswerElement.isKindOf (kind : AnswerElement) (c : Element) : Bool :=
  c.isNamed receiptNs kind.name

/-- No element is of two kinds. -/
theorem AnswerElement.isKindOf_inj {other : AnswerElement} (h : kind.isKindOf c = true)
    (h' : other.isKindOf c = true) : kind = other := by
  have hname : kind.name = other.name :=
    (Element.isNamed_iff.1 h).1.symm.trans (Element.isNamed_iff.1 h').1
  revert hname
  cases kind <;> cases other <;> decide

/-- The children of a kind, in order. -/
def childrenOf (e : Element) (kind : AnswerElement) : List Element :=
  e.childElements.filter kind.isKindOf

/-- **The children that state an outcome**, in order. -/
def outcomeChildren (e : Element) : List Element :=
  e.childElements.filter fun c =>
    AnswerElement.confirmation.isKindOf c || AnswerElement.rejection.isKindOf c

/-- A look-up finds the first of them. -/
theorem head?_childrenOf (e : Element) (kind : AnswerElement) :
    (childrenOf e kind).head? = (e.find? receiptNs kind.name).map (·.2) := by
  rw [childrenOf, List.head?_filter, Element.map_snd_find?]
  rfl

/-- The first child of a kind is read, and no other. -/
theorem readChild_eq {α : Type} {read : Element → Except AnswerFault α} :
    readChild e kind read =
      match childrenOf e kind with
      | [] => .ok none
      | c :: _ => some <$> read c := by
  have hhead := head?_childrenOf e kind
  rw [readChild]
  cases hfind : e.find? receiptNs kind.name with
  | none =>
    rw [hfind, Option.map_none, List.head?_eq_none_iff] at hhead
    rw [hhead]
  | some found =>
    rw [hfind, Option.map_some, List.head?_eq_some_iff] at hhead
    obtain ⟨rest, hrest⟩ := hhead
    rw [hrest]

/-- What the children say of the outcome: those that state one are all of one kind, and the first of
them counts. -/
inductive StatesOutcome (e : Element) : Option Confirmation → Option Refusal → Prop
  | confirmed {c : Element} {rest : List Element} {x : Confirmation}
      (children : outcomeChildren e = c :: rest)
      (kind : ∀ b ∈ c :: rest, AnswerElement.confirmation.isKindOf b = true)
      (content : x.IsContentOf c) : StatesOutcome e (some x) none
  | refused {c : Element} {rest : List Element} {x : Refusal}
      (children : outcomeChildren e = c :: rest)
      (kind : ∀ b ∈ c :: rest, AnswerElement.rejection.isKindOf b = true)
      (content : x.IsContentOf c) : StatesOutcome e none (some x)

/-- The two kinds of elements that state an outcome, either of them first. -/
def Opposed (kind other : AnswerElement) : Prop :=
  kind = .confirmation ∧ other = .rejection ∨ kind = .rejection ∧ other = .confirmation

theorem mem_outcomeChildren {other : AnswerElement} (h : Opposed kind other) :
    c ∈ outcomeChildren e ↔
      c ∈ e.childElements ∧ (kind.isKindOf c = true ∨ other.isKindOf c = true) := by
  rw [outcomeChildren, List.mem_filter, Bool.or_eq_true]
  rcases h with ⟨rfl, rfl⟩ | ⟨rfl, rfl⟩
  · rfl
  · rw [or_comm]

/-- The children of a kind are among those that state an outcome. -/
theorem childrenOf_eq_filter (h : kind = .confirmation ∨ kind = .rejection) (e : Element) :
    childrenOf e kind = (outcomeChildren e).filter kind.isKindOf := by
  rw [outcomeChildren, List.filter_filter, childrenOf]
  refine List.filter_congr fun c _ => ?_
  rcases h with rfl | rfl
  · cases AnswerElement.confirmation.isKindOf c <;> rfl
  · cases AnswerElement.rejection.isKindOf c <;> simp

/-- **The outcome is of one kind** exactly if there are no children of the other. -/
theorem outcomeChildren_of_one_kind {other : AnswerElement} (h : Opposed kind other)
    {cs : List Element} :
    (outcomeChildren e = cs ∧ ∀ b ∈ cs, kind.isKindOf b = true) ↔
      childrenOf e kind = cs ∧ childrenOf e other = [] := by
  have hkind : kind = .confirmation ∨ kind = .rejection := h.imp And.left And.left
  have hother : other = .confirmation ∨ other = .rejection := (h.imp And.right And.right).symm
  have hne : kind ≠ other := by rcases h with ⟨rfl, rfl⟩ | ⟨rfl, rfl⟩ <;> decide
  constructor
  · rintro ⟨rfl, hall⟩
    rw [childrenOf_eq_filter hkind, childrenOf_eq_filter hother]
    refine ⟨List.filter_eq_self.2 hall, List.filter_eq_nil_iff.2 fun b hb hb' => ?_⟩
    exact hne (AnswerElement.isKindOf_inj (hall b hb) hb')
  · rintro ⟨rfl, hnone⟩
    -- what states an outcome is of one kind or of the other, and there is none of the other
    have hall : ∀ b ∈ outcomeChildren e, kind.isKindOf b = true := by
      intro b hb
      obtain ⟨hmem, hb | hb⟩ := (mem_outcomeChildren h).1 hb
      · exact hb
      · exact absurd hb (List.filter_eq_nil_iff.1 hnone b hmem)
    rw [childrenOf_eq_filter hkind, List.filter_eq_self.2 hall]
    exact ⟨rfl, hall⟩

/-- A child of a kind is read if there is one. -/
theorem readChild_eq_ok {α : Type} {read : Element → Except AnswerFault α} {o : Option α} :
    readChild e kind read = .ok o ↔
      match o with
      | none => childrenOf e kind = []
      | some a => ∃ c rest, childrenOf e kind = c :: rest ∧ read c = .ok a := by
  rw [readChild_eq]
  cases childrenOf e kind with
  | nil => cases o <;> simp
  | cons c rest => cases o <;> simp

theorem exists_of_readChild_eq_error {α : Type} {read : Element → Except AnswerFault α}
    {fault : AnswerFault} (h : readChild e kind read = .error fault) :
    ∃ c, read c = .error fault := by
  rw [readChild_eq] at h
  split at h
  · contradiction
  · next c _ _ =>
    refine ⟨c, ?_⟩
    cases hread : read c with
    | ok a => rw [hread] at h; contradiction
    | error fault' =>
      rw [hread] at h
      exact congrArg _ (Except.error.inj h)

theorem outcomeChildren_eq_nil :
    outcomeChildren e = [] ↔ childrenOf e .confirmation = [] ∧ childrenOf e .rejection = [] := by
  -- no children at all are children of either kind alone
  have hnil : (outcomeChildren e = [] ∧ ∀ b ∈ [], AnswerElement.confirmation.isKindOf b = true) ↔
      _ := outcomeChildren_of_one_kind (.inl ⟨rfl, rfl⟩)
  simpa using hnil

/-- **One outcome is read** exactly if the children state it. -/
theorem statesOutcome_iff {confirmation : Option Confirmation} {refusal : Option Refusal} :
    StatesOutcome e confirmation refusal ↔
      readChild e .confirmation Confirmation.ofElement = .ok confirmation ∧
      readChild e .rejection Refusal.ofElement = .ok refusal ∧
      confirmation.isSome ≠ refusal.isSome := by
  have hconfirmed : Opposed .confirmation .rejection := .inl ⟨rfl, rfl⟩
  have hrefused : Opposed .rejection .confirmation := .inr ⟨rfl, rfl⟩
  rw [readChild_eq_ok, readChild_eq_ok]
  constructor
  · rintro (⟨children, kind, content⟩ | ⟨children, kind, content⟩)
    · obtain ⟨hchildren, hnone⟩ := (outcomeChildren_of_one_kind hconfirmed).1 ⟨children, kind⟩
      exact ⟨⟨_, _, hchildren, Confirmation.ofElement_eq_ok.2 content⟩, hnone, by simp⟩
    · obtain ⟨hchildren, hnone⟩ := (outcomeChildren_of_one_kind hrefused).1 ⟨children, kind⟩
      exact ⟨hnone, ⟨_, _, hchildren, Refusal.ofElement_eq_ok.2 content⟩, by simp⟩
  · rintro ⟨hc, hr, hone⟩
    -- of the four cases, both and neither contradict `hone`
    cases confirmation with
    | none =>
      cases refusal with
      | none => exact absurd rfl hone
      | some x =>
        obtain ⟨c, rest, hchildren, hread⟩ := hr
        obtain ⟨children, kind⟩ := (outcomeChildren_of_one_kind hrefused).2 ⟨hchildren, hc⟩
        exact .refused children kind (Refusal.ofElement_eq_ok.1 hread)
    | some x =>
      cases refusal with
      | none =>
        obtain ⟨c, rest, hchildren, hread⟩ := hc
        obtain ⟨children, kind⟩ := (outcomeChildren_of_one_kind hconfirmed).2 ⟨hchildren, hr⟩
        exact .confirmed children kind (Confirmation.ofElement_eq_ok.1 hread)
      | some y => exact absurd rfl hone

/-- Without children there is no outcome. -/
theorem StatesOutcome.ne_nil {confirmation : Option Confirmation} {refusal : Option Refusal}
    (h : StatesOutcome e confirmation refusal) : outcomeChildren e ≠ [] := by
  rcases h with ⟨children, -, -⟩ | ⟨children, -, -⟩
  all_goals
    rw [children]
    exact List.cons_ne_nil _ _

/-- Children of both kinds are no outcome. -/
theorem not_statesOutcome_of_both {confirmation : Option Confirmation} {refusal : Option Refusal}
    {b c : Element} (hb : b ∈ outcomeChildren e) (hc : c ∈ outcomeChildren e)
    (hb' : AnswerElement.confirmation.isKindOf b = true)
    (hc' : AnswerElement.rejection.isKindOf c = true) : ¬ StatesOutcome e confirmation refusal := by
  rintro (⟨children, kind, -⟩ | ⟨children, kind, -⟩)
  · rw [children] at hc
    exact absurd (AnswerElement.isKindOf_inj (kind c hc) hc') (by decide)
  · rw [children] at hb
    exact absurd (AnswerElement.isKindOf_inj (kind b hb) hb') (by decide)

end Outcomes

/-! ## Answers -/

/-- **An element that carries an answer**: its first header, its outcome, and its warnings one by one
in their order. -/
structure IsAnswer (e : Element) (r : Response) : Prop where
  header : ∃ h ∈ (childrenOf e .header).head?, AnswerHeader.ofElement h = .ok r.header
  outcome : StatesOutcome e r.confirmation r.refusal
  warnings : List.Forall₂ (fun c w => w.IsContentOf c) (childrenOf e .warning) r.warnings

section Answers

variable {e : Element} {r : Response}

/-- **What the reader does**, with the first header at hand. -/
theorem ofElement_eq :
    Response.ofElement e =
      match (childrenOf e .header).head? with
      | none => .error (.missing .header)
      | some h => do
        let header ← AnswerHeader.ofElement h
        let confirmation ← readChild e .confirmation Confirmation.ofElement
        let refusal ← readChild e .rejection Refusal.ofElement
        if confirmation.isSome = refusal.isSome then throw .ambiguous
        let warnings ← (childrenOf e .warning).mapM Warning.ofElement
        return ⟨header, confirmation, refusal, warnings⟩ := by
  have hwarnings : e.findAll receiptNs AnswerElement.warning.name = childrenOf e .warning :=
    Element.findAll_eq e receiptNs _
  rw [head?_childrenOf, Response.ofElement, hwarnings]
  cases e.find? receiptNs AnswerElement.header.name <;> rfl

/-- **An element is read exactly if it carries an answer**, and as that answer. -/
theorem ofElement_eq_ok : Response.ofElement e = .ok r ↔ IsAnswer e r := by
  have hwarnings {ws : List Warning} :
      (childrenOf e .warning).mapM Warning.ofElement = .ok ws ↔
        List.Forall₂ (fun c w => w.IsContentOf c) (childrenOf e .warning) ws := by
    simp only [mapM_eq_ok, Warning.ofElement_eq_ok]
  rw [ofElement_eq]
  constructor
  · intro h
    split at h
    · contradiction
    · next c hc =>
      simp only [bind_eq_ok] at h
      obtain ⟨header, hheader, confirmation, hconfirmation, refusal, hrefusal, h⟩ := h
      split at h
      · simp at h
      · next hone =>
        simp only [bind_eq_ok, pure_eq_ok] at h
        obtain ⟨warnings, hread, rfl⟩ := h
        exact ⟨⟨c, hc, hheader⟩, statesOutcome_iff.2 ⟨hconfirmation, hrefusal, hone⟩,
          hwarnings.1 hread⟩
  · rintro ⟨⟨c, hc, hheader⟩, houtcome, hread⟩
    obtain ⟨hconfirmation, hrefusal, hone⟩ := statesOutcome_iff.1 houtcome
    -- each step of reading finds what the answer says
    rw [Option.mem_def.1 hc]
    simp only [bind_eq_ok]
    refine ⟨_, hheader, _, hconfirmation, _, hrefusal, ?_⟩
    rw [if_neg hone]
    simp only [bind_eq_ok, pure_eq_ok]
    exact ⟨_, hwarnings.2 hread, rfl⟩

/-- The first child of a kind can be read. -/
def IsReadable {α : Type} (e : Element) (kind : AnswerElement)
    (read : Element → Except AnswerFault α) : Prop :=
  ∃ c ∈ (childrenOf e kind).head?, ∃ a, read c = .ok a

theorem isReadable_iff {α : Type} {kind : AnswerElement} {read : Element → Except AnswerFault α} :
    IsReadable e kind read ↔ ∃ a, readChild e kind read = .ok (some a) := by
  simp only [readChild_eq_ok, IsReadable, Option.mem_def, List.head?_eq_some_iff]
  constructor
  · rintro ⟨c, ⟨rest, hc⟩, a, ha⟩
    exact ⟨a, c, rest, hc, ha⟩
  · rintro ⟨a, c, rest, hc, ha⟩
    exact ⟨c, ⟨rest, hc⟩, a, ha⟩

/-- Neither outcome is read, or both are. -/
theorem both_or_neither_iff :
    (∃ confirmation refusal, readChild e .confirmation Confirmation.ofElement = .ok confirmation ∧
      readChild e .rejection Refusal.ofElement = .ok refusal ∧
      confirmation.isSome = refusal.isSome) ↔
    outcomeChildren e = [] ∨ IsReadable e .confirmation Confirmation.ofElement ∧
      IsReadable e .rejection Refusal.ofElement := by
  rw [outcomeChildren_eq_nil, isReadable_iff, isReadable_iff]
  constructor
  · rintro ⟨_ | x, _ | y, hc, hr, hsame⟩
    · exact .inl ⟨readChild_eq_ok.1 hc, readChild_eq_ok.1 hr⟩
    · contradiction
    · contradiction
    · exact .inr ⟨⟨x, hc⟩, ⟨y, hr⟩⟩
  · rintro (⟨hc, hr⟩ | ⟨⟨x, hc⟩, ⟨y, hr⟩⟩)
    · exact ⟨none, none, readChild_eq_ok.2 hc, readChild_eq_ok.2 hr, rfl⟩
    · exact ⟨some x, some y, hc, hr, rfl⟩

/-- **The outcome is ambiguous** if nothing states one, or children of both kinds do. -/
theorem ofElement_eq_ambiguous :
    Response.ofElement e = .error .ambiguous ↔ IsReadable e .header AnswerHeader.ofElement ∧
      (outcomeChildren e = [] ∨ IsReadable e .confirmation Confirmation.ofElement ∧
        IsReadable e .rejection Refusal.ofElement) := by
  -- no part has this fault
  have hheader {c : Element} : AnswerHeader.ofElement c ≠ .error .ambiguous :=
    fun h => (isAbout_of_ofElement.1 h).ne_ambiguous rfl
  have hconfirmation : readChild e .confirmation Confirmation.ofElement ≠ .error .ambiguous := by
    intro h
    obtain ⟨c, hc⟩ := exists_of_readChild_eq_error h
    exact (isAbout_of_ofElement.2.1 hc).ne_ambiguous rfl
  have hrefusal : readChild e .rejection Refusal.ofElement ≠ .error .ambiguous := by
    intro h
    obtain ⟨c, hc⟩ := exists_of_readChild_eq_error h
    exact (isAbout_of_ofElement.2.2.1 hc).ne_ambiguous rfl
  have hwarnings : (childrenOf e .warning).mapM Warning.ofElement ≠ .error .ambiguous := by
    intro h
    obtain ⟨c, -, hc⟩ := exists_of_mapM_eq_error h
    exact (isAbout_of_ofElement.2.2.2 hc).ne_ambiguous rfl
  rw [ofElement_eq, ← both_or_neither_iff]
  constructor
  · intro h
    split at h
    · contradiction
    · next c hc =>
      obtain h | ⟨header, hread, h⟩ := bind_eq_error.1 h
      · exact absurd h hheader
      obtain h | ⟨confirmation, hc', h⟩ := bind_eq_error.1 h
      · exact absurd h hconfirmation
      obtain h | ⟨refusal, hr', h⟩ := bind_eq_error.1 h
      · exact absurd h hrefusal
      refine ⟨⟨c, hc, header, hread⟩, confirmation, refusal, hc', hr', ?_⟩
      by_contra hone
      rw [if_neg hone] at h
      obtain h | ⟨_, -, h⟩ := bind_eq_error.1 h
      · exact hwarnings h
      · contradiction
  · rintro ⟨⟨c, hc, header, hread⟩, confirmation, refusal, hc', hr', hsame⟩
    rw [Option.mem_def.1 hc]
    refine bind_eq_error.2 (.inr ⟨_, hread, bind_eq_error.2 (.inr ⟨_, hc', bind_eq_error.2 (.inr
      ⟨_, hr', ?_⟩)⟩)⟩)
    rw [if_pos hsame]
    rfl

/-- **What an answer says of the outcome.** An element is read exactly if it has a header, children
that state an outcome, all of one kind, and warnings that can be read: the first of these children
is the confirmation or the refusal, and the warnings are those of the element one by one. Without
such a child, or with some of each kind, it is refused, and as ambiguous where its parts can be
read. -/
theorem answer_states_outcome (e : Element) :
    (∀ r, Response.ofElement e = .ok r ↔ IsAnswer e r) ∧
    (outcomeChildren e = [] → ∃ fault, Response.ofElement e = .error fault) ∧
    (∀ b ∈ outcomeChildren e, ∀ c ∈ outcomeChildren e,
      AnswerElement.confirmation.isKindOf b = true → AnswerElement.rejection.isKindOf c = true →
        ∃ fault, Response.ofElement e = .error fault) ∧
    (Response.ofElement e = .error .ambiguous ↔ IsReadable e .header AnswerHeader.ofElement ∧
      (outcomeChildren e = [] ∨ IsReadable e .confirmation Confirmation.ofElement ∧
        IsReadable e .rejection Refusal.ofElement)) := by
  have hrefused (h : ∀ r, ¬ IsAnswer e r) : ∃ fault, Response.ofElement e = .error fault := by
    cases hread : Response.ofElement e with
    | ok r => exact absurd (ofElement_eq_ok.1 hread) (h r)
    | error fault => exact ⟨fault, rfl⟩
  refine ⟨fun _ => ofElement_eq_ok, fun hnil => hrefused fun r h => ?_,
    fun b hb c hc hb' hc' => hrefused fun r h => ?_, ofElement_eq_ambiguous⟩
  · exact h.outcome.ne_nil hnil
  · exact not_statesOutcome_of_both hb hc hb' hc' h.outcome

end Answers

/-! ### Repeated outcomes -/

/-- An element of an answer without content. -/
def specimenElement (name : String) (attributes : List Xml.Attribute) : Element :=
  ⟨⟨⟨some "eet", name⟩, some receiptNs, [], attributes⟩, []⟩

/-- A confirmation with this code. -/
def specimenConfirmation (fiscalCode : String) : Element :=
  specimenElement "Potvrzeni" [⟨⟨none, "fik"⟩, none, fiscalCode⟩]

/-- A refusal and a confirmation beside each other. -/
theorem answer_states_outcome_specimen :
    let refusal := specimenElement "Chyba" [⟨⟨none, "kod"⟩, none, "4"⟩]
    let e : Element := ⟨⟨⟨some "eet", "Odpoved"⟩, some receiptNs, [], []⟩,
      [.text " ", (specimenElement "Hlavicka" []).toNode, refusal.toNode,
        .instruction "p" "", (specimenConfirmation "F").toNode]⟩
    outcomeChildren e = [refusal, specimenConfirmation "F"] ∧
      (∃ fault, Response.ofElement e = .error fault) := by
  intro refusal e
  have hchildren : outcomeChildren e = [refusal, specimenConfirmation "F"] := by decide
  refine ⟨hchildren, (answer_states_outcome e).2.2.1 (specimenConfirmation "F") ?_ refusal ?_
    (by decide) (by decide)⟩
  all_goals
    rw [hchildren]
    simp

/-- **Several outcomes of one kind are accepted**, and the first of them is what counts. -/
theorem answer_with_repeated_confirmation :
    let e : Element := ⟨⟨⟨some "eet", "Odpoved"⟩, some receiptNs, [], []⟩,
      [(specimenElement "Hlavicka" []).toNode, (specimenConfirmation "F").toNode,
        (specimenConfirmation "G").toNode]⟩
    (outcomeChildren e).length = 2 ∧
      Response.ofElement e = .ok ⟨⟨none, none, none, none⟩, some ⟨"F", false⟩, none, []⟩ := by
  decide

end FiscalGateway.Soap
