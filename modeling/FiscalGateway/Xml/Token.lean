import FiscalGateway.Text.Blank
import FiscalGateway.Xml.Error

/-!
# Tokens

The text of a document cut at its markup. `Token.scan` is total: where the markup is at fault the
sequence ends with a token that says so, so that what stands before the fault is judged first.
Names are taken as they come; what ends a construct is the only thing looked at.
-/

namespace FiscalGateway.Xml

/-- One piece of a document as written. -/
inductive Token where
  /-- Character data up to the next `<`, never empty. -/
  | text (raw : List Char)
  | cdata (raw : List Char)
  | comment
  /-- What stands between the angle brackets. -/
  | startTag (raw : List Char)
  /-- What stands between `<` and the closing `/>`. -/
  | emptyTag (raw : List Char)
  /-- The name, blanks behind it dropped. -/
  | endTag (name : List Char)
  /-- What stands between the question marks. -/
  | instruction (raw : List Char)
  /-- The declaration of version and encoding. -/
  | header
  | doctype
  | fault (cause : Fault)
  deriving DecidableEq, Repr

/-- The text before and after the first place where `stop` stands. -/
def splitAt? (stop : List Char) (s : List Char) : Option (List Char × List Char) :=
  if stop.isPrefixOf s then some ([], s.drop stop.length)
  else match s with
    | [] => none
    | c :: rest => (splitAt? stop rest).map fun (before, after) => (c :: before, after)

/-- The quotation mark that is open behind `c`. -/
def quoteAfter (opened : Option Char) (c : Char) : Option Char :=
  match opened with
  | some q => if c = q then none else some q
  | none => if c = '"' ∨ c = '\'' then some c else none

/-- The text before and after the first `>` that stands outside quotes. -/
def splitTag? (opened : Option Char) : List Char → Option (List Char × List Char)
  | [] => none
  | c :: rest =>
    if opened = none ∧ c = '>' then some ([], rest)
    else (splitTag? (quoteAfter opened c) rest).map fun (before, after) => (c :: before, after)

/-- Behind `<!DOCTYPE`, the angle brackets inside are balanced; returns what stands before the last
one. -/
def splitDoctype? (depth : Nat) : List Char → Option (List Char)
  | [] => none
  | '<' :: rest => (splitDoctype? (depth + 1) rest).map ('<' :: ·)
  | '>' :: rest =>
    match depth with
    | 0 => some []
    | depth + 1 => (splitDoctype? depth rest).map ('>' :: ·)
  | c :: rest => (splitDoctype? depth rest).map (c :: ·)

/-- Whether an ASCII word stands at the front, in either case. -/
def startsWithWord (word s : List Char) : Bool :=
  (s.take word.length).map Char.toLower == word.map Char.toLower

/-- A document type declaration, given what stands behind `<!`. -/
def scanDoctype (s : List Char) : Token :=
  match splitDoctype? 0 s with
  | none => .fault .markup
  | some body =>
    if startsWithWord "doctype".toList body && !(body.drop 7).all Text.isMarkupBlank then .doctype
    else .fault .markup

/-- The name in an end tag without the blanks behind it; a name of blanks alone stays. -/
def endTagName (raw : List Char) : List Char :=
  if raw.all Text.isMarkupBlank then raw
  else (raw.reverse.dropWhile Text.isMarkupBlank).reverse

/-- An instruction or the header of a document. -/
def instructionToken (raw : List Char) : Token :=
  match raw with
  | 'x' :: 'm' :: 'l' :: rest =>
    match rest with
    | [] => .header
    | c :: _ => if Text.isMarkupBlank c then .header else .instruction raw
  | _ => .instruction raw

/-- A start tag, or an empty one if a slash closes it. -/
def tagToken (raw : List Char) : Token :=
  if raw.getLast? = some '/' then .emptyTag raw.dropLast else .startTag raw

/-- The token that begins behind `<`, and what follows it. A fault leaves nothing to follow. -/
def scanMarkup : List Char → Token × List Char
  | '!' :: '-' :: '-' :: s =>
    match splitAt? ['-', '-', '>'] s with
    | some (_, after) => (.comment, after)
    | none => (.fault .markup, [])
  | '!' :: '[' :: 'C' :: 'D' :: 'A' :: 'T' :: 'A' :: '[' :: s =>
    match splitAt? [']', ']', '>'] s with
    | some (raw, after) => (.cdata raw, after)
    | none => (.fault .markup, [])
  | '!' :: s => (scanDoctype s, [])
  | '/' :: s =>
    match splitTag? none s with
    | some (raw, after) => (.endTag (endTagName raw), after)
    | none => (.fault .markup, [])
  | '?' :: '>' :: _ => (.fault .markup, [])
  | '?' :: s =>
    match splitAt? ['?', '>'] s with
    | some (raw, after) => (instructionToken raw, after)
    | none => (.fault .markup, [])
  | s =>
    match splitTag? none s with
    | some (raw, after) => (tagToken raw, after)
    | none => (.fault .markup, [])

theorem length_of_splitAt? {stop s before after : List Char}
    (h : splitAt? stop s = some (before, after)) : after.length ≤ s.length := by
  induction s generalizing before after with
  | nil =>
    unfold splitAt? at h
    split at h <;> simp_all
  | cons c rest ih =>
    unfold splitAt? at h
    split at h
    · simp only [Option.some.injEq, Prod.mk.injEq] at h
      rw [← h.2, List.length_drop]
      omega
    · simp only [Option.map_eq_some_iff, Prod.exists, Prod.mk.injEq] at h
      obtain ⟨b, a, hs, -, rfl⟩ := h
      have := ih hs
      simp only [List.length_cons]
      omega

theorem length_of_splitTag? {opened : Option Char} {s before after : List Char}
    (h : splitTag? opened s = some (before, after)) : after.length ≤ s.length := by
  induction s generalizing opened before after with
  | nil => simp [splitTag?] at h
  | cons c rest ih =>
    unfold splitTag? at h
    split at h
    · simp only [Option.some.injEq, Prod.mk.injEq] at h
      rw [← h.2, List.length_cons]
      omega
    · simp only [Option.map_eq_some_iff, Prod.exists, Prod.mk.injEq] at h
      obtain ⟨b, a, hs, -, rfl⟩ := h
      have := ih hs
      simp only [List.length_cons]
      omega

theorem length_scanMarkup (s : List Char) : (scanMarkup s).2.length ≤ s.length := by
  unfold scanMarkup
  split <;> try simp only [List.length_nil, Nat.zero_le]
  all_goals
    split
    · next h =>
      first
      | have := length_of_splitAt? h
        simp only [List.length_cons]
        omega
      | have := length_of_splitTag? h
        simp only [List.length_cons]
        omega
    · exact Nat.zero_le _

/-- The tokens of a text, in order. -/
def Token.scan (s : List Char) : List Token :=
  match s with
  | [] => []
  | '<' :: rest => (scanMarkup rest).1 :: Token.scan (scanMarkup rest).2
  | c :: rest => .text (c :: rest.takeWhile (· ≠ '<')) :: Token.scan (rest.dropWhile (· ≠ '<'))
termination_by s.length
decreasing_by
  · have := length_scanMarkup rest
    simp only [List.length_cons]
    omega
  · have := (List.dropWhile_sublist (l := rest) (· ≠ '<')).length_le
    simp only [List.length_cons]
    omega

end FiscalGateway.Xml
