import FiscalGateway.Json.Reader
import FiscalGateway.Proofs.Json.Scan

/-!
# Reading what was written

The tokens of a value take the reader from a place where a value is awaited to the place behind it,
with that value entered (`foldl_tokens`); what is open around the value is not touched. The items of
an array and the members of an object run through their container one by one, each entered behind
those that are there. So a text that was written is read as the value it was written for
(`read_write`).
-/

namespace FiscalGateway.Json

/-- The places at which a value is awaited. -/
inductive Expected.IsValue : Expected → Prop
  | value (mayClose : Bool) : (Expected.value mayClose).IsValue
  | memberValue : Expected.memberValue.IsValue

variable {opened : List Frame} {expected : Expected}

/-- Where a value is awaited, the token that stands there begins it; only the bracket that ends an
empty array does not. -/
theorem Reading.step_of_isValue (h : expected.IsValue) {t : Token} (ht : t ≠ .closeArray) :
    Reading.step ⟨opened, expected⟩ t = Reading.begin ⟨opened, expected⟩ t := by
  cases h with
  | memberValue => rfl
  | value mayClose =>
    cases mayClose with
    | false => rfl
    | true =>
      cases t with
      | closeArray => exact absurd rfl ht
      | _ => rfl

/-- A name opens a member, whose value is awaited behind the colon. -/
theorem Reading.foldl_name (name : String) (done : List (String × Json)) (mayClose : Bool) :
    [Token.scalar (.string name), .colon].foldl step ⟨.object done :: opened, .name mayClose⟩ =
      ⟨.object ((name, .fault) :: done) :: opened, .memberValue⟩ := by
  cases mayClose <;> rfl

mutual

/-- **The tokens of a value enter that value.** -/
theorem foldl_tokens : ∀ (v : Json) (opened : List Frame) {expected : Expected}, expected.IsValue →
    v.tokens.foldl Reading.step ⟨opened, expected⟩ = Reading.enter v opened
  | .array items, opened, _, h => by
    rw [tokens, List.foldl_cons, Reading.step_of_isValue h (by nofun)]
    exact foldl_itemTokens items opened [] true (.inl rfl)
  | .object members, opened, _, h => by
    rw [tokens, List.foldl_cons, Reading.step_of_isValue h (by nofun)]
    exact foldl_memberTokens members opened [] true (.inl rfl)
  | .null, _, _, h => Reading.step_of_isValue h (by nofun)
  | .bool _, _, _, h => Reading.step_of_isValue h (by nofun)
  | .number _, _, _, h => Reading.step_of_isValue h (by nofun)
  | .string _, _, _, h => Reading.step_of_isValue h (by nofun)
  | .unpaired, _, _, h => Reading.step_of_isValue h (by nofun)
  | .fault, _, _, h => Reading.step_of_isValue h (by nofun)

/-- The items of an array are entered behind those that are there. The array may be closed at once
only where nothing is there yet. -/
theorem foldl_itemTokens : ∀ (items : List Json) (opened : List Frame) (done : List Json)
    (mayClose : Bool), mayClose = true ∨ items ≠ [] →
      (itemTokens items).foldl Reading.step ⟨.array done :: opened, .value mayClose⟩ =
        Reading.enter (.array (done.reverse ++ items)) opened
  | [], opened, done, _, h => by
    -- behind a comma the bracket would be a fault
    obtain rfl := h.resolve_right (by simp)
    rw [List.append_nil]
    rfl
  | [v], opened, done, _, _ => by
    rw [itemTokens, List.foldl_append, foldl_tokens v _ (.value _), ← List.reverse_cons]
    rfl
  | v :: w :: items, opened, done, _, _ => by
    have hrest := foldl_itemTokens (w :: items) opened (v :: done) false (.inr (by simp))
    rw [List.reverse_cons, List.append_assoc] at hrest
    rw [itemTokens, List.foldl_append, foldl_tokens v _ (.value _)]
    exact hrest

/-- The members of an object are entered likewise. -/
theorem foldl_memberTokens : ∀ (members : List (String × Json)) (opened : List Frame)
    (done : List (String × Json)) (mayClose : Bool), mayClose = true ∨ members ≠ [] →
      (memberTokens members).foldl Reading.step ⟨.object done :: opened, .name mayClose⟩ =
        Reading.enter (.object (done.reverse ++ members)) opened
  | [], opened, done, _, h => by
    obtain rfl := h.resolve_right (by simp)
    rw [List.append_nil]
    rfl
  | [(k, v)], opened, done, _, _ => by
    -- a name and a colon, the tokens of the value, and then the rest of the object
    rw [memberTokens, List.foldl_append]
    change ([Token.closeObject].foldl Reading.step (v.tokens.foldl Reading.step
      ([Token.scalar (.string k), .colon].foldl Reading.step _))) = _
    rw [Reading.foldl_name, foldl_tokens v _ .memberValue, ← List.reverse_cons]
    rfl
  | (k, v) :: m :: members, opened, done, _, _ => by
    have hrest := foldl_memberTokens (m :: members) opened ((k, v) :: done) false (.inr (by simp))
    rw [List.reverse_cons, List.append_assoc] at hrest
    rw [memberTokens, List.foldl_append]
    change ((Token.comma :: memberTokens (m :: members)).foldl Reading.step
      (v.tokens.foldl Reading.step ([Token.scalar (.string k), .colon].foldl Reading.step _))) = _
    rw [Reading.foldl_name, foldl_tokens v _ .memberValue]
    exact hrest

end

/-- **A text that was written is read as its value**, and nothing is left of it. -/
theorem read_write {v : Json} (h : v.IsWritten) : read v.write = ⟨v, true⟩ := by
  have hscan : Token.scan v.write = v.tokens := by
    have hscan : Token.scan (v.write ++ []) = _ := scan_write h (by nofun)
    rwa [List.append_nil, Token.scan, List.append_nil] at hscan
  rw [read, hscan, foldl_tokens v [] (.value false)]
  rfl

end FiscalGateway.Json
