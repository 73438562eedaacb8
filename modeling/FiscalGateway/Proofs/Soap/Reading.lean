import FiscalGateway.Proofs.Xml.Query
import FiscalGateway.Soap.Response

/-!
# Reading answers — an answer in canonical form is the same answer

The readers of an answer look at attributes, texts and children by name. All of these are the same
in a settled element (`Xml.Element.Reads`), and so is the answer (`Response.ofElement_settle`).
-/

namespace FiscalGateway.Soap

open Xml (Element)

/-! ## Parts without children -/

section Leaves

variable {e e' : Element}

theorem requiredValue_of_reads (h : e.Reads e') (element : AnswerElement) (name : String) :
    requiredValue element e' name = requiredValue element e name := by
  rw [requiredValue, requiredValue, h.attribute?]

theorem integerValue_of_reads (h : e.Reads e') (element : AnswerElement) (name : String) :
    integerValue element e' name = integerValue element e name := by
  rw [integerValue, integerValue, requiredValue_of_reads h]

theorem headerValue_of_reads {α : Type} (h : e.Reads e') (read? : List Char → Option α)
    (name : String) : headerValue read? e' name = headerValue read? e name := by
  rw [headerValue, headerValue, h.attribute?]

theorem testValue_of_reads (h : e.Reads e') (element : AnswerElement) :
    testValue element e' = testValue element e := by
  rw [testValue, testValue, h.attribute?]

theorem AnswerHeader.ofElement_of_reads (h : e.Reads e') :
    AnswerHeader.ofElement e' = AnswerHeader.ofElement e := by
  simp only [AnswerHeader.ofElement, headerValue_of_reads h, h.attribute?]

theorem Confirmation.ofElement_of_reads (h : e.Reads e') :
    Confirmation.ofElement e' = Confirmation.ofElement e := by
  simp only [Confirmation.ofElement, requiredValue_of_reads h, testValue_of_reads h]

theorem Refusal.ofElement_of_reads (h : e.Reads e') :
    Refusal.ofElement e' = Refusal.ofElement e := by
  simp only [Refusal.ofElement, integerValue_of_reads h, testValue_of_reads h, h.text]

theorem Warning.ofElement_of_reads (h : e.Reads e') :
    Warning.ofElement e' = Warning.ofElement e := by
  simp only [Warning.ofElement, integerValue_of_reads h, h.text]

end Leaves

/-! ## Answers -/

section Answers

variable {e : Element} (inclusive : List (Option String)) (scope rendered : Xml.Scope)
  {outer : Xml.Context}

/-- A child that is read by its own attributes and text is read alike in a settled element. -/
theorem readChild_settle {α : Type} (h : e.toNode.ResolvedIn outer) (kind : AnswerElement)
    {read : Element → Except AnswerFault α}
    (hread : ∀ c c' : Element, c.Reads c' → read c' = read c) :
    readChild (e.settle inclusive scope rendered) kind read = readChild e kind read := by
  rw [readChild, readChild]
  rcases Element.find?_settle_reads inclusive scope rendered h receiptNs kind.name with
    ⟨he, he'⟩ | ⟨i, c, j, c', he, he', hreads⟩
  · rw [he, he']
  · simp only [he, he', hread c c' hreads]

/-- **An answer in canonical form is read as the same answer.** -/
theorem Response.ofElement_settle (h : e.toNode.ResolvedIn outer) :
    Response.ofElement (e.settle inclusive scope rendered) = Response.ofElement e := by
  have hconfirmation := readChild_settle inclusive scope rendered h .confirmation
    fun _ _ hc => Confirmation.ofElement_of_reads hc
  have hrefusal := readChild_settle inclusive scope rendered h .rejection
    fun _ _ hc => Refusal.ofElement_of_reads hc
  have hwarnings := Element.mapM_findAll_settle inclusive scope rendered h
    (fun _ _ hc => Warning.ofElement_of_reads hc) receiptNs AnswerElement.warning.name
  rw [Response.ofElement, Response.ofElement]
  rcases Element.find?_settle_reads inclusive scope rendered h receiptNs
    AnswerElement.header.name with
    ⟨he, he'⟩ | ⟨i, c, j, c', he, he', hreads⟩
  · rw [he, he']
  · simp only [he, he', hconfirmation, hrefusal, hwarnings, AnswerHeader.ofElement_of_reads hreads]

end Answers

end FiscalGateway.Soap
