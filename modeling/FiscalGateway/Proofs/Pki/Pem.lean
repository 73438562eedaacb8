import FiscalGateway.Pki.KeyPair
import FiscalGateway.Pki.Pem
import FiscalGateway.Proofs.Crypto.Rsa
import FiscalGateway.Proofs.Text.Base64
import FiscalGateway.Proofs.Text.Split
import Mathlib.Tactic.Common

/-!
# Armoured text — a block that was written is read back

`decode?_wrap` says that the lines of a block hold the octets they were made of, `read_write` that a
block that was written is the one block of its text. Certificates and private keys come back as
they were (`certificate?_writeCertificate`, `privateKey?_writePrivateKey`), because each of them is
what its octets say.
-/

namespace FiscalGateway.Pki

open Text (stripFront? stripFront?_append)
open Text.Base64 (encodeChars value? symbol value?_symbol symbol_ne_padding forall_mem_encodeChars)

namespace Pem

/-! ## Octets in lines -/

theorem length_encodeChars (b : Octets) : (encodeChars b).length = (b.length + 2) / 3 * 4 := by
  fun_induction encodeChars b with
  | case1 => rfl
  | case2 => simp
  | case3 => simp
  | case4 a b c rest n ih =>
    simp only [List.length_cons, ih]
    omega

/-- The padding fills the last group. -/
theorem dropWhile_encodeChars (b : Octets) :
    (encodeChars b).dropWhile (· ≠ '=') = List.replicate ((3 - b.length % 3) % 3) '=' := by
  have hne {n : Nat} (h : n < 64) : symbol n ≠ '=' := symbol_ne_padding h
  fun_induction encodeChars b with
  | case1 => rfl
  | case2 a n =>
    have hn : n < 256 := a.toNat_lt
    simp [hne (n := n / 4) (by omega), hne (n := n % 4 * 16) (by omega)]
  | case3 a b n =>
    have ha := a.toNat_lt
    have hb := b.toNat_lt
    simp [hne (n := n / 1024) (by omega), hne (n := n / 16 % 64) (by omega),
      hne (n := n % 16 * 4) (by omega)]
  | case4 a b c rest n ih =>
    have ha := a.toNat_lt
    have hb := b.toNat_lt
    have hc := c.toNat_lt
    have hlength : (rest.length + 1 + 1 + 1) % 3 = rest.length % 3 := by omega
    simp [hne (n := n / 262144) (by omega),
      hne (n := n / 4096 % 64) (by omega), hne (n := n / 64 % 64) (by omega),
      hne (n := n % 64) (by omega), hlength]
    simpa using ih

/-- The groups hold the octets, and what the padding stands for. -/
theorem take_groups (b : Octets) : (groups (encodeChars b)).take b.length = b := by
  have hpad : value? '=' = none := by decide
  fun_induction encodeChars b with
  | case1 => rfl
  | case2 a n =>
    have hn : n < 256 := a.toNat_lt
    have h₁ := value?_symbol (n := n / 4) (by omega)
    have h₂ := value?_symbol (n := n % 4 * 16) (by omega)
    have hfirst : (n / 4 * 64 + n % 4 * 16) * 64 * 64 / 65536 = a.toNat := by omega
    simp [groups, h₁, h₂, hpad, hfirst]
  | case3 a b n =>
    have ha := a.toNat_lt
    have hb := b.toNat_lt
    have h₁ := value?_symbol (n := n / 1024) (by omega)
    have h₂ := value?_symbol (n := n / 16 % 64) (by omega)
    have h₃ := value?_symbol (n := n % 16 * 4) (by omega)
    have hfirst : ((n / 1024 * 64 + n / 16 % 64) * 64 + n % 16 * 4) * 64 / 65536 = a.toNat := by
      omega
    have hsecond : ((n / 1024 * 64 + n / 16 % 64) * 64 + n % 16 * 4) * 64 / 256 % 256 =
        b.toNat := by omega
    simp [groups, h₁, h₂, h₃, hpad, hfirst, hsecond]
  | case4 a b c rest n ih =>
    have ha := a.toNat_lt
    have hb := b.toNat_lt
    have hc := c.toNat_lt
    have h₁ := value?_symbol (n := n / 262144) (by omega)
    have h₂ := value?_symbol (n := n / 4096 % 64) (by omega)
    have h₃ := value?_symbol (n := n / 64 % 64) (by omega)
    have h₄ := value?_symbol (n := n % 64) (by omega)
    have hsum : ((n / 262144 * 64 + n / 4096 % 64) * 64 + n / 64 % 64) * 64 + n % 64 = n := by omega
    have hfirst : n / 65536 = a.toNat := by omega
    have hsecond : n / 256 % 256 = b.toNat := by omega
    have hthird : n % 256 = c.toNat := by omega
    simp [groups, h₁, h₂, h₃, h₄, hsum, hfirst, hsecond, hthird, ih]

/-- A character that lines of content are made of. -/
structure IsContent (c : Char) : Prop where
  read : c = '=' ∨ (value? c).isSome
  /-- It is not cut off at the end of a line. -/
  not_trailing : isTrailing c = false
  ne_feed : c ≠ '\n'
  /-- It marks no header. -/
  ne_colon : c ≠ ':'
  /-- And no end. -/
  ne_dash : c ≠ '-'
  toNat_lt : c.toNat < 256

instance : DecidablePred IsContent := fun c =>
  decidable_of_iff ((c = '=' ∨ (value? c).isSome) ∧ isTrailing c = false ∧ c ≠ '\n' ∧ c ≠ ':' ∧
      c ≠ '-' ∧ c.toNat < 256)
    ⟨fun h => ⟨h.1, h.2.1, h.2.2.1, h.2.2.2.1, h.2.2.2.2.1, h.2.2.2.2.2⟩,
      fun h => ⟨h.read, h.not_trailing, h.ne_feed, h.ne_colon, h.ne_dash, h.toNat_lt⟩⟩

theorem isContent_encodeChars (b : Octets) : ∀ c ∈ encodeChars b, IsContent c :=
  forall_mem_encodeChars (by decide) (by decide) b

variable {s : List Char}

theorem isContent_take_drop (h : ∀ c ∈ s, IsContent c) (n : Nat) :
    (∀ c ∈ s.take n, IsContent c) ∧ ∀ c ∈ s.drop n, IsContent c :=
  ⟨fun c hc => h c (List.mem_of_mem_take hc), fun c hc => h c (List.mem_of_mem_drop hc)⟩

/-- What holds of the line feed and of a text holds of its lines. -/
theorem forall_mem_wrap {P : Char → Prop} (feed : P '\n') (h : ∀ c ∈ s, P c) :
    ∀ c ∈ wrap s, P c := by
  fun_induction wrap s with
  | case1 => simp
  | case2 s hs ih =>
    simp only [List.forall_mem_append, List.forall_mem_cons]
    exact ⟨fun c hc => h c (List.mem_of_mem_take hc), feed,
      ih fun c hc => h c (List.mem_of_mem_drop hc)⟩

/-- The line feeds are dropped again. -/
theorem symbols?_wrap (h : ∀ c ∈ s, IsContent c) : symbols? (wrap s) = some s := by
  have hline {l : List Char} (hl : ∀ c ∈ l, IsContent c) (rest : List Char) :
      symbols? (l ++ '\n' :: rest) = (symbols? rest).map (l ++ ·) := by
    induction l with
    | nil => cases hr : symbols? rest <;> simp [symbols?, hr]
    | cons c l ih =>
      have hc := hl c (by simp)
      have hblank : ¬ (c = ' ' ∨ c = '\t' ∨ c = '\r' ∨ c = '\n') := by
        rintro (rfl | rfl | rfl | rfl) <;> exact absurd hc.not_trailing (by decide)
      rw [List.cons_append, symbols?, if_neg hc.ne_dash, if_neg hblank, if_pos hc.read,
        ih fun d hd => hl d (List.mem_cons_of_mem c hd), Option.map_map]
      rfl
  fun_induction wrap s with
  | case1 => rfl
  | case2 s hs ih =>
    obtain ⟨hfront, hback⟩ := isContent_take_drop h contentWidth
    rw [hline hfront, ih hback, Option.map_some, List.take_append_drop]

/-- **Lines hold the octets they were made of.** -/
theorem decode?_wrap {b : Octets} (h : b ≠ []) : decode? (wrap (encodeChars b)) = some b := by
  have hlength := length_encodeChars b
  have hpos : 0 < b.length := List.length_pos_iff.2 h
  have hcount : (encodeChars b).length / 4 * 3 - (3 - b.length % 3) % 3 = b.length := by omega
  rw [decode?, symbols?_wrap (isContent_encodeChars b), Option.bind_eq_bind, Option.bind_some,
    dropWhile_encodeChars]
  dsimp only
  rw [List.length_replicate, hcount, take_groups, if_neg, if_neg (by simpa using h)]
  simp only [List.any_replicate]
  simp
  omega

/-! ## Lines of a text -/

theorem takeLine_append {width : Nat} {line : List Char} (hline : '\n' ∉ line)
    (hwidth : line.length < width) (rest : List Char) :
    takeLine width (line ++ '\n' :: rest) = (line ++ ['\n'], rest) := by
  induction line generalizing width with
  | nil =>
    obtain ⟨width, rfl⟩ := Nat.exists_eq_add_of_lt hwidth
    simp [takeLine]
  | cons c line ih =>
    cases width with
    | zero => simp at hwidth
    | succ width =>
      have hc : c ≠ '\n' := fun e => hline (by simp [e])
      have hl : '\n' ∉ line := fun hm => hline (List.mem_cons_of_mem c hm)
      rw [List.cons_append, takeLine, if_neg hc, ih hl (by simpa using hwidth)]
      rfl

/-- A line that ends in a character that counts is read as it stands. -/
theorem lineOf_append {line : List Char} {c : Char} (hlast : line.getLast? = some c)
    (hc : isTrailing c = false) : lineOf (line ++ ['\n']) = ⟨line, false⟩ := by
  obtain ⟨line, rfl⟩ := List.getLast?_eq_some_iff.1 hlast
  have hfeed : isTrailing '\n' = true := by decide
  simp [lineOf, hfeed, hc]

theorem linesOf_append {line : List Char} {c : Char} (hlast : line.getLast? = some c)
    (hc : isTrailing c = false) (hline : '\n' ∉ line) (hwidth : line.length < readWidth)
    (rest : List Char) : linesOf (line ++ '\n' :: rest) = ⟨line, false⟩ :: linesOf rest := by
  rw [linesOf, dif_neg (by simp), takeLine_append hline hwidth, lineOf_append hlast hc]

/-! ## A block -/

/-- A line of content is added as it stands. -/
theorem readBlock_line (label : List Char) {line : List Char} (h : ∀ c ∈ line, IsContent c)
    (hne : line ≠ []) (header : List Char) (rest : List Line) :
    readBlock label ⟨.undecided, false, header, []⟩ (⟨line, false⟩ :: rest) =
      readBlock label ⟨.undecided, false, header ++ (line ++ ['\n']), []⟩ rest := by
  have hphase : ¬ (Phase.undecided = .undecided ∧ ':' ∈ line) :=
    fun hc => (h _ hc.2).ne_colon rfl
  have hmark : stripFront? endMark line = none := by
    cases line with
    | nil => exact absurd rfl hne
    | cons c line => exact if_neg (h c (by simp)).ne_dash.symm
  rw [readBlock]
  dsimp only
  rw [if_neg hphase, if_neg (by simpa using hne), hmark]
  rfl

theorem readBlock_wrap (label : List Char) (h : ∀ c ∈ s, IsContent c) (header rest : List Char) :
    readBlock label ⟨.undecided, false, header, []⟩ (linesOf (wrap s ++ rest)) =
      readBlock label ⟨.undecided, false, header ++ wrap s, []⟩ (linesOf rest) := by
  fun_induction wrap s generalizing header with
  | case1 => simp
  | case2 s hs ih =>
    obtain ⟨hfront, hback⟩ := isContent_take_drop h contentWidth
    have hne : s.take contentWidth ≠ [] := by simpa [contentWidth] using hs
    have htrail := (hfront _ (List.getLast_mem hne)).not_trailing
    have hfeed : '\n' ∉ s.take contentWidth := fun hc => (hfront _ hc).ne_feed rfl
    have hwidth : (s.take contentWidth).length < readWidth :=
      Nat.lt_of_le_of_lt (List.length_take_le ..) (by decide)
    rw [List.append_assoc, List.cons_append,
      linesOf_append (List.getLast?_eq_some_getLast hne) htrail hfeed hwidth,
      readBlock_line label hfront hne, ih hback]
    simp only [List.append_assoc, List.cons_append, List.nil_append]

/-- A label that fits into a line of its own. -/
structure IsLabel (label : List Char) : Prop where
  length_lt : label.length < 200
  /-- Nothing in it ends the line or marks a header. -/
  plain : ∀ c ∈ label, c ≠ '\n' ∧ c ≠ ':' ∧ c.toNat < 256

theorem IsLabel.feed_not_mem {label : List Char} (h : IsLabel label) : '\n' ∉ label :=
  fun hc => (h.plain _ hc).1 rfl

theorem IsLabel.colon_not_mem {label : List Char} (h : IsLabel label) : ':' ∉ label :=
  fun hc => (h.plain _ hc).2.1 rfl

section Block

variable {label : List Char}

theorem linesOf_mark (hlabel : IsLabel label) {mark : List Char} (hmark : mark.length < 20)
    (hfeed : '\n' ∉ mark) (rest : List Char) :
    linesOf (mark ++ label ++ dashes ++ '\n' :: rest) =
      ⟨mark ++ label ++ dashes, false⟩ :: linesOf rest := by
  have hlast : (mark ++ label ++ dashes).getLast? = some '-' := by
    rw [List.getLast?_append]
    rfl
  have hline : '\n' ∉ mark ++ label ++ dashes := by
    have hdashes : '\n' ∉ dashes := by decide
    simp [hfeed, hlabel.feed_not_mem, hdashes]
  have hdashes : dashes.length = 5 := by decide
  have hlength := hlabel.length_lt
  exact linesOf_append hlast (by decide) hline (by simp [readWidth, hdashes]; omega) rest

theorem label?_mark (label : List Char) : label? (beginMark ++ label ++ dashes) = some label := by
  rw [label?, List.append_assoc, stripFront?_append, Option.bind_eq_bind, Option.bind_some,
    List.reverse_append, stripFront?_append]
  simp

/-- The end line closes the block. -/
theorem readBlock_end (hlabel : IsLabel label) (content : List Char) (rest : List Line) :
    readBlock label ⟨.undecided, false, content, []⟩
        (⟨endMark ++ label ++ dashes, false⟩ :: rest) = some (([], content), rest) := by
  have hcolon : ':' ∉ endMark ++ label ++ dashes := by
    have hend : ':' ∉ endMark := by decide
    have hdashes : ':' ∉ dashes := by decide
    simp [hend, hlabel.colon_not_mem, hdashes]
  have hphase : ¬ (Phase.undecided = .undecided ∧ ':' ∈ endMark ++ label ++ dashes) :=
    fun hc => hcolon hc.2
  have hne : (endMark ++ label ++ dashes).isEmpty = false := by
    have hdashes : dashes ≠ [] := by decide
    simp [hdashes]
  rw [readBlock]
  dsimp only
  rw [if_neg hphase, hne, List.append_assoc, stripFront?_append]
  simp [Progress.finish]

/-- A text of one block is read to its end. -/
theorem readLines_write (hlabel : IsLabel label) {content : Octets} (h : content ≠ []) :
    readLines true (linesOf (write label content)) = ([⟨label, [], content⟩], true) := by
  have hmark : stripFront? byteOrderMark (beginMark ++ label ++ dashes) = none :=
    if_neg (by decide)
  have hlines : linesOf (write label content) = ⟨beginMark ++ label ++ dashes, false⟩ ::
      linesOf (wrap (encodeChars content) ++ (endMark ++ label ++ dashes ++ '\n' :: [])) := by
    rw [← linesOf_mark hlabel (by decide) (by decide)]
    simp only [write, List.append_assoc, List.cons_append]
  -- between the marks stand the lines of the content, and no header
  have hblock : readBlock label ⟨.undecided, false, [], []⟩
      (linesOf (wrap (encodeChars content) ++ (endMark ++ label ++ dashes ++ '\n' :: []))) =
        some (([], wrap (encodeChars content)), []) := by
    rw [readBlock_wrap label (isContent_encodeChars content),
      linesOf_mark hlabel (by decide) (by decide), readBlock_end hlabel]
    simp [linesOf]
  rw [hlines, readLines]
  dsimp only
  rw [if_pos rfl, hmark, Option.getD_none, label?_mark]
  dsimp only
  split
  · next hnone => rw [hblock] at hnone; contradiction
  · next header text after hsome =>
    rw [hblock] at hsome
    cases hsome
    rw [decode?_wrap h]
    simp [readLines]

/-- **A block that was written is the one block of its text.** -/
theorem read_write (hlabel : IsLabel label) {content : Octets} (h : content ≠ []) :
    read (Octets.ofChars (write label content)) = ([⟨label, [], content⟩], true) := by
  have hmarks : ∀ c ∈ beginMark ++ endMark ++ dashes ++ ['\n'], c.toNat < 256 := by decide
  have hcontent : ∀ c ∈ wrap (encodeChars content), c.toNat < 256 :=
    forall_mem_wrap (by decide) fun c hc => (isContent_encodeChars content c hc).toNat_lt
  have hsmall : ∀ c ∈ write label content, c.toNat < 256 := by
    have hname := fun c hc => (hlabel.plain c hc).2.2
    simp only [write, List.forall_mem_append, List.forall_mem_cons] at hmarks ⊢
    obtain ⟨⟨⟨hbegin, hend⟩, hdashes⟩, hfeed, hnil⟩ := hmarks
    exact ⟨⟨⟨⟨⟨⟨⟨hbegin, hname⟩, hdashes⟩, hfeed, hcontent⟩, hend⟩, hname⟩, hdashes⟩, hfeed, hnil⟩
  rw [read, Octets.toChars_ofChars hsmall, readLines_write hlabel h]

/-- It is found under each set of labels that names it. -/
theorem readFirst?_write (hlabel : IsLabel label) {content : Octets} (h : content ≠ [])
    {labels : List (List Char)} (hmem : label ∈ labels) :
    readFirst? labels (Octets.ofChars (write label content)) = some ⟨label, [], content⟩ := by
  rw [readFirst?, read_write hlabel h]
  simp [hmem]

end Block

end Pem

/-! ## Certificates and keys -/

/-- A certificate is what its octets say. -/
theorem Certificate.ofDer?_der (c : Certificate) : ofDer? c.der = some c := by
  obtain ⟨der, parts, hread, i, hi⟩ := c
  have hder : der = i.encoding := by simpa using (Asn1.Item.exists_of_read? hi).1
  subst hder
  unfold ofDer?
  split
  · next hnone => rw [hi] at hnone; contradiction
  · next item rest hsome =>
    rw [hi] at hsome
    cases hsome
    split
    · next parts' hparts =>
      rw [hread] at hparts
      cases hparts
      rfl
    · next hparts => rw [hread] at hparts; contradiction

/-- And so is a key. -/
theorem PrivateKey.ofDer?_der (k : PrivateKey) : ofDer? k.der = some k := by
  rw [ofDer?, der, k.read_write, Option.bind_eq_bind, Option.bind_some, ofParts?,
    dif_pos k.read_write]

/-- Octets that can be read are not none at all. -/
theorem Certificate.der_ne_nil (c : Certificate) : c.der ≠ [] := by
  obtain ⟨i, hi⟩ := c.whole
  intro h
  rw [h] at hi
  cases hi

theorem PrivateKey.der_ne_nil (k : PrivateKey) : k.der ≠ [] := by
  simp [der, KeyParts.write, Asn1.write]

namespace Pem

/-- **A certificate that was written is read back.** -/
theorem certificate?_writeCertificate (c : Certificate) :
    certificate? (writeCertificate c) = some c := by
  have hlabel : IsLabel "CERTIFICATE".toList := ⟨by decide, by decide⟩
  rw [certificate?, writeCertificate, readFirst?_write hlabel c.der_ne_nil (by decide)]
  exact c.ofDer?_der

/-- **And so is a private key.** -/
theorem privateKey?_writePrivateKey (k : PrivateKey) :
    privateKey? (writePrivateKey k) = some k := by
  have hlabel : IsLabel keyLabel := ⟨by decide, by decide⟩
  rw [privateKey?, writePrivateKey, readFirst?_write hlabel k.der_ne_nil (by simp)]
  exact k.ofDer?_der

end Pem

/-! ## A pair that can be computed with -/

section Specimen

open Asn1 (write writeNatural objectId)

/-- The numbers of a key of two Mersenne primes. -/
def specimenNumbers : RsaNumbers :=
  let key := Crypto.Rsa.PrivateKey.specimen
  let p := 2 ^ 521 - 1
  let q := 2 ^ 127 - 1
  { modulus := key.modulus
    publicExponent := key.publicExponent
    privateExponent := key.privateExponent
    firstPrime := p
    secondPrime := q
    firstExponent := key.privateExponent % (p - 1)
    secondExponent := key.privateExponent % (q - 1)
    coefficient := Crypto.powMod q (p - 2) p }

def PrivateKey.specimen : PrivateKey := ⟨.rsa specimenNumbers, by decide +kernel⟩

/-- A name that is an organisation. -/
def specimenName (organization : String) : Octets :=
  write Asn1.sequence <| write Asn1.set <| write Asn1.sequence <|
    write Asn1.objectIdentifier Name.organizationKind ++ write 0x0C (Octets.ofText organization)

/-- The octets of a certificate of this key, made out by the organisation `A`. -/
def specimenIssued (subject : String) (extensions : Octets) (sign : Octets → Octets) : Octets :=
  let validity := write Asn1.sequence <|
    write 0x17 (Octets.ofText "200101000000Z") ++ write 0x17 (Octets.ofText "400101000000Z")
  let algorithm := write Asn1.sequence <|
    write Asn1.objectIdentifier (objectId [1, 2, 840, 113549, 1, 1, 11]) ++ write Asn1.null []
  let key := write Asn1.sequence <|
    writeNatural specimenNumbers.modulus ++ writeNatural specimenNumbers.publicExponent
  let signed := write Asn1.sequence <|
    write (Asn1.context 0) (writeNatural 2) ++ writeNatural 1 ++ algorithm ++ specimenName "A" ++
      validity ++ specimenName subject ++
      write Asn1.sequence (KeyParts.rsaAlgorithm ++ write Asn1.bitString (0 :: key)) ++ extensions
  write Asn1.sequence <| signed ++ algorithm ++ write Asn1.bitString (0 :: sign signed)

/-- One without extensions, whose signature nobody looks at. -/
def specimenOctets (organization : String) : Octets := specimenIssued organization [] fun _ => [0]

theorem map_ofDer?_specimenOctets : ∀ organization ∈ ["A", "A\x00B"],
    ((Certificate.ofDer? (specimenOctets organization)).map fun c =>
      (c.parts.key, c.parts.subject.firstOrganization?)) =
        some (some (.rsa specimenNumbers.key.publicKey), some organization.toList) := by
  decide +kernel

/-- A certificate of the key can be had in each of these names. -/
theorem exists_specimenOctets {organization : String} (h : organization ∈ ["A", "A\x00B"]) :
    ∃ c, Certificate.ofDer? (specimenOctets organization) = some c ∧
      c.parts.key = some (.rsa specimenNumbers.key.publicKey) ∧
        c.parts.subject.firstOrganization? = some organization.toList := by
  obtain ⟨c, hc, hsays⟩ := Option.map_eq_some_iff.1 (map_ofDer?_specimenOctets organization h)
  exact ⟨c, hc, Prod.mk.inj hsays⟩

def Certificate.specimen : Certificate :=
  (ofDer? (specimenOctets "A")).get <| by
    obtain ⟨c, hc, -⟩ := exists_specimenOctets (.head ["A\x00B"])
    rw [hc, Option.isSome_some]

theorem Certificate.specimen_says :
    specimen.parts.key = some (.rsa specimenNumbers.key.publicKey) ∧
      specimen.parts.subject.firstOrganization? = some "A".toList := by
  obtain ⟨c, hc, hsays⟩ := exists_specimenOctets (.head ["A\x00B"])
  have hspecimen : specimen = c := Option.get_of_eq_some _ hc
  rwa [hspecimen]

def KeyPair.specimen : KeyPair :=
  ⟨Certificate.specimen, PrivateKey.specimen, specimenNumbers.key, rfl,
    Certificate.specimen_says.1⟩

end Specimen

end FiscalGateway.Pki
