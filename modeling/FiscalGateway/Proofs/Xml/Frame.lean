import FiscalGateway.Proofs.Outcome
import FiscalGateway.Proofs.Xml.Resolved

/-!
# Surroundings — what is read inside an element does not depend on what is around it

While an element is open, the reader looks at what surrounds it only for its declarations
(`step_inside`). So the surroundings may be exchanged up to the end of the element (`run_inside`),
and a finished element up to the end of the text (`run_behind`). `resume_atSecond` puts both
together: the first child of a document may be exchanged for another.
-/

namespace FiscalGateway.Xml

open Outcome

/-- What surrounds the reader inside an element: what the element held before, in reverse, the
elements around it, and what was finished. -/
structure Surroundings where
  base : List Node
  outer : List OpenElement
  root : Option Element

namespace Surroundings

/-- What the element held before ends with no text, so that no text is joined to it. -/
def IsSolid (f : Surroundings) : Prop := ∀ n ∈ f.base.head?, n.isText = false

/-- The reader inside an element with these surroundings: `inner` is open inside it, and `content`
was added to it. -/
def builder (f : Surroundings) (tag : Tag) (inner : List OpenElement) (content : List Node) :
    Builder :=
  ⟨inner ++ ⟨tag, content ++ f.base⟩ :: f.outer, f.root⟩

variable {f g : Surroundings} {tag : Tag} {inner : List OpenElement} {content : List Node}

theorem context_builder (h : contextOf g.outer = contextOf f.outer) :
    (g.builder tag inner content).context = (f.builder tag inner content).context := by
  have hc : ∀ f : Surroundings, (f.builder tag inner content).context =
      contextOf inner ++ tag.declarations :: contextOf f.outer := by
    intro f
    simp [Builder.context, builder, contextOf]
  rw [hc, hc, h]

theorem addText_append {s : List Char} {base : List Node}
    (h : ∀ n ∈ base.head?, n.isText = false) (content : List Node) :
    Builder.addText s (content ++ base) = Builder.addText s content ++ base := by
  cases content with
  | nil =>
    cases base with
    | nil => rfl
    | cons n base =>
      have hn := h n rfl
      cases n with
      | text t => contradiction
      | element _ _ => rfl
      | instruction _ _ => rfl
  | cons n content => cases n <;> rfl

/-- A text is added inside, whatever the surroundings. -/
theorem text_inside (s : List Char) (tag : Tag) (inner : List OpenElement) (content : List Node) :
    ∃ inner' content', ∀ f : Surroundings, f.IsSolid →
      (f.builder tag inner content).text s = .ok (f.builder tag inner' content') := by
  cases inner with
  | nil =>
    refine ⟨[], Builder.addText s content, fun f hf => ?_⟩
    simp only [builder, Builder.text, List.nil_append, addText_append hf]
  | cons e inner =>
    exact ⟨{ e with content := Builder.addText s e.content } :: inner, content, fun f _ => rfl⟩

/-- And so is a finished element. -/
theorem attach_inside (e : Element) (tag : Tag) (inner : List OpenElement) (content : List Node) :
    ∃ inner' content', ∀ f : Surroundings,
      Builder.attach (f.builder tag inner content).opened f.root e =
        .ok (f.builder tag inner' content') := by
  cases inner with
  | nil => exact ⟨[], e.toNode :: content, fun f => rfl⟩
  | cons p inner =>
    exact ⟨{ p with content := e.toNode :: p.content } :: inner, content, fun f => rfl⟩

/-- And an instruction. -/
theorem instruction_inside (raw : List Char) (tag : Tag) (inner : List OpenElement)
    (content : List Node) : ∃ inner' content', ∀ f : Surroundings,
      (f.builder tag inner content).instruction raw = f.builder tag inner' content' := by
  cases inner with
  | nil => exact ⟨[], _ :: content, fun f => rfl⟩
  | cons p inner => exact ⟨{ p with content := _ :: p.content } :: inner, content, fun f => rfl⟩

/-- **One token inside an element** does to the reader what it would do in any surroundings with the
same declarations, unless it ends that element. -/
theorem step_inside {t : Token} {b : Builder}
    (hopen : inner = [] → ∀ name, t ≠ .endTag name)
    (h : (f.builder tag inner content).step t = .ok b) :
    ∃ inner' content', ∀ g : Surroundings, g.IsSolid → contextOf g.outer = contextOf f.outer →
      (g.builder tag inner content).step t = .ok (g.builder tag inner' content') := by
  cases t with
  | text raw =>
    simp only [Builder.step] at h ⊢
    cases hr : readText raw with
    | error fault => simp [hr] at h
    | ok s =>
      obtain ⟨inner', content', htext⟩ := text_inside s tag inner content
      exact ⟨inner', content', fun g hg _ => htext g hg⟩
  | cdata raw =>
    obtain ⟨inner', content', htext⟩ := text_inside (normalizeLineEnds raw) tag inner content
    exact ⟨inner', content', fun g hg _ => htext g hg⟩
  | comment => exact ⟨inner, content, fun g _ _ => rfl⟩
  | header => exact ⟨inner, content, fun g _ _ => rfl⟩
  | startTag raw =>
    simp only [Builder.step, bind_eq_ok, pure_eq_ok] at h
    obtain ⟨t, ht, -⟩ := h
    -- the tag is read against the declarations around it, and these are the same
    refine ⟨⟨t, []⟩ :: inner, content, fun g _ hc => ?_⟩
    simp only [Builder.step, context_builder hc, ht]
    rfl
  | emptyTag raw =>
    simp only [Builder.step, bind_eq_ok] at h
    obtain ⟨t, ht, -⟩ := h
    obtain ⟨inner', content', hattach⟩ := attach_inside ⟨t, []⟩ tag inner content
    refine ⟨inner', content', fun g _ hc => ?_⟩
    simp only [Builder.step, context_builder hc, ht]
    exact hattach g
  | endTag name =>
    cases inner with
    | nil => exact absurd rfl (hopen rfl name)
    | cons e inner =>
      simp only [builder, List.cons_append, Builder.step] at h
      split at h
      · next hname =>
        obtain ⟨inner', content', hattach⟩ :=
          attach_inside ⟨e.tag, e.content.reverse⟩ tag inner content
        refine ⟨inner', content', fun g _ _ => ?_⟩
        simp only [builder, List.cons_append, Builder.step, if_pos hname]
        exact hattach g
      · contradiction
  | instruction raw =>
    obtain ⟨inner', content', hinstruction⟩ := instruction_inside raw tag inner content
    exact ⟨inner', content', fun g _ _ => congrArg Except.ok (hinstruction g)⟩
  | doctype => contradiction
  | fault cause => contradiction

/-- **What is read inside an element does not depend on its surroundings**: either it is still open
at the end, or it ends with the same content in all of them. -/
theorem run_inside {ts : List Token} {b : Builder} (hf : f.IsSolid)
    (h : ts.foldlM Builder.step (f.builder tag inner content) = .ok b) :
    (∃ inner' content', b = f.builder tag inner' content') ∨
      ∃ (after : List Token) (content' : List Node), ∀ g : Surroundings, g.IsSolid →
        contextOf g.outer = contextOf f.outer →
          ts.foldlM Builder.step (g.builder tag inner content) =
            Builder.attach g.outer g.root ⟨tag, (content' ++ g.base).reverse⟩ >>= fun b' =>
              after.foldlM Builder.step b' := by
  induction ts generalizing inner content with
  | nil =>
    obtain rfl := Except.ok.inj h
    exact .inl ⟨inner, content, rfl⟩
  | cons t ts ih =>
    rw [List.foldlM_cons] at h
    obtain ⟨b₁, hb₁, hrest⟩ := bind_eq_ok.1 h
    by_cases hend : inner = [] ∧ ∃ name, t = .endTag name
    · obtain ⟨rfl, name, rfl⟩ := hend
      -- the end tag of the element itself: what follows is read in its surroundings
      refine .inr ⟨ts, content, fun g _ _ => ?_⟩
      simp only [builder, List.nil_append, Builder.step] at hb₁
      split at hb₁
      · next hname =>
        rw [List.foldlM_cons]
        simp only [builder, List.nil_append, Builder.step, if_pos hname]
      · contradiction
    · have hopen : inner = [] → ∀ name, t ≠ .endTag name :=
        fun hi name ht => hend ⟨hi, name, ht⟩
      obtain ⟨inner', content', hstep⟩ := step_inside hopen hb₁
      -- the step has one outcome, so it is the one that `step_inside` speaks of
      have hself := hstep f hf rfl
      rw [hb₁] at hself
      obtain rfl := Except.ok.inj hself
      rcases ih hrest with hstill | ⟨after, content'', hall⟩
      · exact .inl hstill
      · refine .inr ⟨after, content'', fun g hg hc => ?_⟩
        rw [List.foldlM_cons, hstep g hg hc]
        exact hall g hg hc

end Surroundings

/-! ## Behind the document element -/

section Behind

variable {opened : List OpenElement} {r : Element} {b : Builder}

/-- A text behind the document element is added to what is open, or is blank. -/
theorem text_behind {s : List Char} (h : Builder.text ⟨opened, some r⟩ s = .ok b) :
    ∃ opened', ∀ r', Builder.text ⟨opened, some r'⟩ s = .ok ⟨opened', some r'⟩ := by
  cases opened with
  | nil =>
    simp only [Builder.text] at h ⊢
    split at h
    · next hblank => exact ⟨[], fun r' => by rw [if_pos hblank]⟩
    · contradiction
  | cons e outer =>
    exact ⟨{ e with content := Builder.addText s e.content } :: outer, fun _ => rfl⟩

/-- A finished element is never a second one at the top. -/
theorem attach_behind {e : Element} (h : Builder.attach opened (some r) e = .ok b) :
    ∃ opened', ∀ r', Builder.attach opened (some r') e = .ok ⟨opened', some r'⟩ := by
  cases opened with
  | nil => contradiction
  | cons p outer => exact ⟨{ p with content := e.toNode :: p.content } :: outer, fun _ => rfl⟩

/-- **One token behind the document element** leaves that element as it is, and does not look at
it. -/
theorem step_behind {t : Token} (h : Builder.step ⟨opened, some r⟩ t = .ok b) :
    ∃ opened', ∀ r', Builder.step ⟨opened, some r'⟩ t = .ok ⟨opened', some r'⟩ := by
  have hcontext (r' : Element) :
      Builder.context ⟨opened, some r'⟩ = Builder.context ⟨opened, some r⟩ := rfl
  cases t with
  | text raw =>
    simp only [Builder.step] at h ⊢
    cases hr : readText raw with
    | error fault => simp [hr] at h
    | ok s =>
      rw [hr] at h
      exact text_behind h
  | cdata raw => exact text_behind h
  | comment => exact ⟨opened, fun _ => rfl⟩
  | header => exact ⟨opened, fun _ => rfl⟩
  | startTag raw =>
    simp only [Builder.step, bind_eq_ok, pure_eq_ok] at h
    obtain ⟨tag, htag, -⟩ := h
    refine ⟨⟨tag, []⟩ :: opened, fun r' => ?_⟩
    simp only [Builder.step, hcontext r', htag]
    rfl
  | emptyTag raw =>
    simp only [Builder.step, bind_eq_ok] at h
    obtain ⟨tag, htag, h⟩ := h
    obtain ⟨opened', hall⟩ := attach_behind h
    refine ⟨opened', fun r' => ?_⟩
    simp only [Builder.step, hcontext r', htag]
    exact hall r'
  | endTag name =>
    cases opened with
    | nil => contradiction
    | cons e outer =>
      simp only [Builder.step] at h ⊢
      split at h
      · next hname =>
        simp only [if_pos hname]
        exact attach_behind h
      · contradiction
  | instruction raw =>
    cases opened with
    | nil => exact ⟨[], fun _ => rfl⟩
    | cons e outer => exact ⟨{ e with content := _ :: e.content } :: outer, fun _ => rfl⟩
  | doctype => contradiction
  | fault cause => contradiction

/-- And so do many. -/
theorem run_behind {ts : List Token} (h : ts.foldlM Builder.step ⟨opened, some r⟩ = .ok b) :
    ∃ opened', ∀ r', ts.foldlM Builder.step ⟨opened, some r'⟩ = .ok ⟨opened', some r'⟩ := by
  induction ts generalizing opened with
  | nil => exact ⟨opened, fun _ => rfl⟩
  | cons t ts ih =>
    rw [List.foldlM_cons] at h
    obtain ⟨b₁, hb₁, hrest⟩ := bind_eq_ok.1 h
    obtain ⟨opened₁, hstep⟩ := step_behind hb₁
    rw [hstep r] at hb₁
    obtain rfl := Except.ok.inj hb₁
    obtain ⟨opened', hall⟩ := ih hrest
    refine ⟨opened', fun r' => ?_⟩
    rw [List.foldlM_cons, hstep r']
    exact hall r'

end Behind

/-! ## Documents -/

/-- The reader at the start of the second child of the document element, which has begun. -/
def atSecond (tag second : Tag) (first : Node) : Builder := ⟨[⟨second, []⟩, ⟨tag, [first]⟩], none⟩

/-- **The first child of a document may be exchanged** while its second child is being read: the
rest of the document stays what it is. -/
theorem resume_atSecond {tag second : Tag} {first : Node} {s : List Char} {d : Document}
    (h : (atSecond tag second first).resume s >>= Builder.finish = .ok d) :
    ∃ children rest, ∀ first' : Node, first'.isText = false →
      (atSecond tag second first').resume s >>= Builder.finish =
        .ok ⟨⟨tag, first' :: .element second children :: rest⟩⟩ := by
  obtain ⟨b, hb, hfinish⟩ := bind_eq_ok.1 h
  have hopened : b.opened = [] := by
    simp only [Builder.finish] at hfinish
    split at hfinish
    · contradiction
    · next hempty => simpa using hempty
  -- inside the second child
  have hstart : ∀ first, atSecond tag second first =
      Surroundings.builder ⟨[], [⟨tag, [first]⟩], none⟩ second [] [] := fun _ => rfl
  have hrun : (Token.scan s).foldlM Builder.step
      (Surroundings.builder ⟨[], [⟨tag, [first]⟩], none⟩ second [] []) = .ok b := hb
  rcases Surroundings.run_inside (by simp [Surroundings.IsSolid]) hrun with
    ⟨inner, content, rfl⟩ | ⟨after, content, hsecond⟩
  · simp [Surroundings.builder] at hopened
  have hclosed := hsecond _ (by simp [Surroundings.IsSolid]) rfl
  rw [hrun] at hclosed
  -- behind it, inside the document element
  have hbehind : after.foldlM Builder.step (Surroundings.builder
      ⟨[.element second (content ++ []).reverse, first], [], none⟩ tag [] []) = .ok b :=
    hclosed.symm
  rcases Surroundings.run_inside (by simp [Surroundings.IsSolid, Node.isText]) hbehind with
    ⟨inner, more, rfl⟩ | ⟨last, more, htag⟩
  · simp [Surroundings.builder] at hopened
  have hended := htag _ (by simp [Surroundings.IsSolid, Node.isText]) rfl
  rw [hbehind] at hended
  -- behind the document element
  obtain ⟨opened, hlast⟩ := run_behind hended.symm
  obtain rfl : opened = [] := by
    have hself := hlast ⟨tag, (more ++ [.element second (content ++ []).reverse, first]).reverse⟩
    obtain rfl := Except.ok.inj (hended.trans hself)
    exact hopened
  refine ⟨content.reverse, more.reverse, fun first' hfirst' => ?_⟩
  have hread : (atSecond tag second first').resume s = .ok ⟨[], some ⟨tag,
      (more ++ [.element second (content ++ []).reverse, first']).reverse⟩⟩ := by
    rw [Builder.resume, hstart,
      hsecond ⟨[], [⟨tag, [first']⟩], none⟩ (by simp [Surroundings.IsSolid]) rfl]
    have := htag ⟨[.element second (content ++ []).reverse, first'], [], none⟩
      (by simp [Surroundings.IsSolid, Node.isText]) rfl
    exact this.trans (hlast _)
  rw [hread]
  simp [bind, Except.bind, Builder.finish]

end FiscalGateway.Xml
