import FiscalGateway.Proofs.Xml.Resolved
import FiscalGateway.Xml.Canonical

/-!
# Scopes — which bindings are seen

A scope and a context are two records of the same bindings (`Scope.Sees`), as long as no tag
declares a prefix twice. `neededDeclarations_eq` gives the declarations of a tag as a function of
its prefixes, one at a time; once they are made, a used prefix means what it meant in the source
(`Scope.uri?_declare_required`).
-/

namespace FiscalGateway.Xml

/-! ## Bindings -/

/-- What a prefix is bound to, `xml` being like any other. -/
def Context.uri? (context : Context) (p : Option String) : Option String :=
  (context.flatten.find? (·.nsPrefix = p)).map (·.uri)

theorem Context.resolve?_of_ne {context : Context} {p : Option String} (h : p ≠ some "xml") :
    context.resolve? p = context.uri? p := if_neg h

/-- A scope that binds each prefix as a context does. -/
def Scope.Sees (scope : Scope) (context : Context) : Prop := ∀ p, scope.uri? p = context.uri? p

theorem Scope.sees_nil : Scope.Sees [] [] := fun _ => rfl

namespace Scope

variable {scope rendered : Scope} {context : Context} {p : Option String}

/-- Declarations bind first, as long as they do not repeat a prefix. -/
theorem uri?_declare {ds : List Declaration} (h : (ds.map (·.nsPrefix)).Nodup) (scope : Scope) :
    (scope.declare ds).uri? p =
      ((ds.find? (·.nsPrefix = p)).map (·.uri)).or (scope.uri? p) := by
  induction ds generalizing scope with
  | nil => rfl
  | cons d ds ih =>
    rw [List.map_cons, List.nodup_cons] at h
    have hstep : (scope.declare (d :: ds)).uri? p =
        (Scope.declare ((d.nsPrefix, d.uri) :: scope) ds).uri? p := rfl
    rw [hstep, ih h.2]
    by_cases hp : d.nsPrefix = p
    · have hnone : ds.find? (·.nsPrefix = p) = none := by
        refine List.find?_eq_none.2 fun e he => ?_
        simp only [decide_eq_true_eq]
        rintro hep
        exact h.1 (List.mem_map.2 ⟨e, he, by rw [hep, hp]⟩)
      simp [hnone, hp, uri?]
    · have hp' : (p == d.nsPrefix) = false := beq_false_of_ne (Ne.symm hp)
      simp [hp, uri?, List.lookup_cons, hp']

theorem Sees.declare {ds : List Declaration} (hs : scope.Sees context)
    (h : (ds.map (·.nsPrefix)).Nodup) : (scope.declare ds).Sees (ds :: context) := by
  intro p
  rw [uri?_declare h, hs p]
  simp only [Context.uri?, List.flatten_cons, List.find?_append]
  cases ds.find? (·.nsPrefix = p) <;> rfl

end Scope

/-! ## Prefixes in order -/

theorem prefixLE_total (p q : Option String) : prefixLE p q = true ∨ prefixLE q p = true := by
  cases p <;> cases q <;> simp [prefixLE, String.le_total]

theorem prefixLE_trans {p q r : Option String} (hpq : prefixLE p q = true)
    (hqr : prefixLE q r = true) : prefixLE p r = true := by
  cases p <;> cases q <;> cases r <;> simp_all [prefixLE]
  exact String.le_trans hpq hqr

theorem prefixLE_antisymm {p q : Option String} (hpq : prefixLE p q = true)
    (hqp : prefixLE q p = true) : p = q := by
  cases p <;> cases q <;> simp_all [prefixLE]
  exact String.le_antisymm hpq hqp

/-- In order, and none twice. -/
def StrictlySorted (ps : List (Option String)) : Prop :=
  ps.Pairwise fun p q => prefixLE p q = true ∧ p ≠ q

theorem mem_insertPrefix {p q : Option String} {ps : List (Option String)} :
    q ∈ insertPrefix p ps ↔ q = p ∨ q ∈ ps := by
  fun_induction insertPrefix p ps with
  | case1 => simp
  | case2 rest => simp
  | case3 r rest hne hle => simp
  | case4 r rest hne hle ih =>
    rw [List.mem_cons, ih, List.mem_cons]
    exact or_left_comm

theorem StrictlySorted.insertPrefix {p : Option String} {ps : List (Option String)}
    (h : StrictlySorted ps) : StrictlySorted (insertPrefix p ps) := by
  fun_induction Xml.insertPrefix p ps with
  | case1 => exact List.pairwise_singleton _ _
  | case2 rest => exact h
  | case3 q rest hne hle =>
    obtain ⟨hq, hrest⟩ := List.pairwise_cons.1 h
    refine List.pairwise_cons.2 ⟨fun r hr => ?_, h⟩
    rcases List.mem_cons.1 hr with rfl | hr
    · exact ⟨hle, hne⟩
    · obtain ⟨hqr, hneq⟩ := hq r hr
      refine ⟨prefixLE_trans hle hqr, ?_⟩
      rintro rfl
      exact hneq (prefixLE_antisymm hqr hle)
  | case4 q rest hne hle ih =>
    obtain ⟨hq, hrest⟩ := List.pairwise_cons.1 h
    refine List.pairwise_cons.2 ⟨fun r hr => ?_, ih hrest⟩
    rcases mem_insertPrefix.1 hr with rfl | hr
    · exact ⟨(prefixLE_total r q).resolve_left hle, Ne.symm hne⟩
    · exact hq r hr

theorem strictlySorted_sortPrefixes (ps : List (Option String)) :
    StrictlySorted (sortPrefixes ps) := by
  induction ps with
  | nil => exact List.Pairwise.nil
  | cons p ps ih => exact ih.insertPrefix

/-- Sorting changes nothing about which prefixes there are. -/
@[simp] theorem mem_sortPrefixes {p : Option String} {ps : List (Option String)} :
    p ∈ sortPrefixes ps ↔ p ∈ ps := by
  induction ps with
  | nil => rfl
  | cons q ps ih =>
    have hstep : sortPrefixes (q :: ps) = insertPrefix q (sortPrefixes ps) := rfl
    rw [hstep, mem_insertPrefix, ih, List.mem_cons]

theorem nodup_sortPrefixes (ps : List (Option String)) : (sortPrefixes ps).Nodup :=
  (strictlySorted_sortPrefixes ps).imp fun h => h.2

/-! ## Declarations that are needed -/

/-- Whether the output needs a declaration for a prefix that is used. -/
def Scope.requires (scope rendered : Scope) (p : Option String) : Bool :=
  let uri := (scope.uri? p).getD ""
  p ≠ some "xml" &&
    if p = none ∧ uri = "" then (rendered.uri? none).any (· ≠ "")
    else decide (rendered.uri? p ≠ some uri)

/-- What a prefix is bound to, as a declaration. -/
def Scope.declaration (scope : Scope) (p : Option String) : Declaration :=
  ⟨p, (scope.uri? p).getD ""⟩

/-- The declarations that the output needs for the prefixes that are used. -/
def Scope.required (scope rendered : Scope) (ps : List (Option String)) : List Declaration :=
  (ps.filter (scope.requires rendered)).map scope.declaration

/-- The prefixes in a list are bound, but for those that need not be. -/
def Scope.Binds (scope : Scope) (ps : List (Option String)) : Prop :=
  ∀ q, some q ∈ ps → q ≠ "xml" → ∃ uri, scope.uri? (some q) = some uri

/-- **The declarations of a tag**, one prefix at a time. -/
theorem neededDeclarations_eq {scope rendered : Scope} {ps : List (Option String)}
    (h : scope.Binds ps) :
    neededDeclarations scope rendered ps = .ok (scope.required rendered ps) := by
  induction ps with
  | nil => rfl
  | cons p ps ih =>
    have hrest := ih fun q hq => h q (List.mem_cons_of_mem p hq)
    have hcons : scope.required rendered (p :: ps) =
        if scope.requires rendered p then scope.declaration p :: scope.required rendered ps
        else scope.required rendered ps := by
      rw [Scope.required, List.filter_cons]
      split <;> rfl
    rw [neededDeclarations, hrest, hcons]
    -- only a prefix may be unbound: no default namespace is as good as an empty one
    cases p with
    | none =>
      cases hu : scope.uri? none with
      | none =>
        simp only [Scope.requires, Scope.declaration, hu]
        simp [bind, Except.bind, pure, Except.pure]
      | some uri =>
        simp only [Scope.requires, Scope.declaration, hu]
        simp [bind, Except.bind, pure, Except.pure]
    | some q =>
      by_cases hq : q = "xml"
      · simp [Scope.requires, hq]
      · obtain ⟨uri, hu⟩ := h q List.mem_cons_self hq
        simp only [Scope.requires, Scope.declaration, hu]
        simp [hq, bind, Except.bind, pure, Except.pure]

namespace Scope

variable {scope rendered : Scope} {p : Option String} {ps : List (Option String)}

theorem map_nsPrefix_required (ps : List (Option String)) :
    (scope.required rendered ps).map (·.nsPrefix) = ps.filter (scope.requires rendered) := by
  rw [required, List.map_map]
  exact List.map_id _

/-- The declarations that are needed do not repeat a prefix. -/
theorem nodup_required (h : ps.Nodup) :
    ((scope.required rendered ps).map (·.nsPrefix)).Nodup := by
  rw [map_nsPrefix_required]
  exact h.filter _

theorem find?_required (ps : List (Option String)) :
    (scope.required rendered ps).find? (·.nsPrefix = p) =
      if p ∈ ps ∧ scope.requires rendered p then some (scope.declaration p) else none := by
  split
  · next h =>
    have hmem : scope.declaration p ∈ scope.required rendered ps :=
      List.mem_map_of_mem (List.mem_filter.2 h)
    cases hf : (scope.required rendered ps).find? (·.nsPrefix = p) with
    | none => simpa [declaration] using List.find?_eq_none.1 hf _ hmem
    | some d =>
      obtain ⟨q, -, rfl⟩ := List.mem_map.1 (List.mem_of_find?_eq_some hf)
      have hq := List.find?_some hf
      obtain rfl : q = p := of_decide_eq_true hq
      rfl
  · next h =>
    refine List.find?_eq_none.2 fun d hd hp => h ?_
    obtain ⟨q, hq, rfl⟩ := List.mem_map.1 hd
    obtain rfl : q = p := of_decide_eq_true hp
    exact List.mem_filter.1 hq

/-- **Once the needed declarations are made, a prefix means what it meant in the source.** -/
theorem uri?_declare_required (hps : ps.Nodup) {q : String} (hq : some q ∈ ps) (hxml : q ≠ "xml")
    {uri : String} (h : scope.uri? (some q) = some uri) :
    (rendered.declare (scope.required rendered ps)).uri? (some q) = some uri := by
  rw [uri?_declare (nodup_required hps), find?_required]
  by_cases hr : rendered.uri? (some q) = some uri
  · simp [requires, hxml, h, hr]
  · simp [requires, declaration, hxml, h, hr, hq]

/-- The default namespace means the same too, none and the empty one being alike. -/
theorem default_declare_required (hps : ps.Nodup) (hmem : none ∈ ps) :
    ((rendered.declare (scope.required rendered ps)).uri? none).getD "" =
      (scope.uri? none).getD "" := by
  rw [uri?_declare (nodup_required hps), find?_required]
  by_cases hempty : (scope.uri? none).getD "" = ""
  · cases hr : rendered.uri? none with
    | none => simp [requires, hempty, hr]
    | some uri =>
      by_cases huri : uri = ""
      · simp [requires, hempty, hr, huri]
      · simp [requires, declaration, hempty, hr, huri, hmem]
  · by_cases hr : rendered.uri? none = some ((scope.uri? none).getD "")
    · simp [requires, hempty, hr]
    · simp [requires, declaration, hempty, hr, hmem]

end Scope

end FiscalGateway.Xml
