import Terrasmith.Proofs.Alike
import Terrasmith.Proofs.Outcomes
import Terrasmith.Proofs.Structures
import Terrasmith.Transform.Patch

/-!
Two patches of one declaration. What a body says about the structure of its patch does not depend on any value: there
is a plan of it in which each expression stands as the raw or the evaluated one that it is, and in every scope the
patch is this plan with the expressions filled in, each evaluated one by what was read from the text of its value.
-/
namespace Terrasmith.Source

/-! ## Where the text of a value ends up -/

theorem ne_of_isIdentStart {c d : Char} (hc : Text.isIdentStart c = true) (hd : Text.isIdentStart d = false) :
    c ≠ d := by
  rintro rfl
  exact Bool.false_ne_true (hd.symm.trans hc)

/-- Before an identifier there are no blanks to read. -/
theorem startsBlanks_ident {lines : Bool} {c : Char} (hc : Text.isIdentStart c = true) (s : List Char) :
    startsBlanks lines (c :: s) = false := by
  have hne : ∀ d, Text.isIdentStart d = false → c ≠ d := fun _ => ne_of_isIdentStart hc
  simp [startsBlanks, hne ' ' (by decide), hne '\t' (by decide), hne '\n' (by decide), hne '\r' (by decide),
    hne '#' (by decide), hne '/' (by decide)]

theorem ident?_eq_some {s r : List Char} {x : String} (h : ident? s = some (x, r)) :
    s = x.toList ++ r ∧ ∃ c v, x.toList = c :: v ∧ Text.isIdentStart c = true := by
  cases s with
  | nil => cases h
  | cons c rest =>
    simp only [ident?] at h
    split at h
    · next hc =>
      simp only [Option.some.injEq, Prod.mk.injEq] at h
      obtain ⟨rfl, rfl⟩ := h
      simp [hc]
    · cases h

theorem blanks_space {s : List Char} (h : startsBlanks false s = false) : blanks false (' ' :: s) = (" ", s) := by
  have hs := blanks_none h
  rcases hread : blanksFrom false (s.length + 1) s with ⟨inside, rest⟩
  simp only [blanks, hread, Prod.mk.injEq] at hs
  obtain ⟨hinside, rfl⟩ := hs
  obtain rfl : inside = [] := by simpa using congrArg String.toList hinside
  simp [blanks, blanksFrom, hread]

theorem blanks_sign (s : List Char) : blanks false (' ' :: '=' :: s) = (" ", '=' :: s) := blanks_space rfl

theorem attributeRest?_start {size : Nat} {lead key gap : String} {start rest r : List Char} {a : Attribute}
    (h : attributeRest? size lead key gap start rest = some (a, r)) :
    a.lead = lead ∧ a.key = key ∧ a.keyTrail = gap := by
  rcases hgap : blanks false rest with ⟨valueLead, behind⟩
  simp only [attributeRest?, hgap, Option.bind_eq_bind, Option.bind_eq_some_iff, Option.some.injEq,
    Prod.mk.injEq] at h
  obtain ⟨-, -, rfl, -⟩ := h
  exact ⟨rfl, rfl, rfl⟩

theorem structuresFrom?_first {size n : Nat} {keys : List String} {s first : Structure} {chars r : List Char}
    {more : List Structure} {x : String × Bool}
    (h : structuresFrom? size n keys s chars = some ((first :: more, x), r)) :
    ∃ trail, first = (s.closed keys trail).1 := by
  rcases htail : lineTail chars with ⟨trail, rest⟩
  simp only [structuresFrom?, htail, Option.bind_eq_bind, Option.bind_eq_some_iff, Option.some.injEq,
    Prod.mk.injEq, List.cons.injEq] at h
  obtain ⟨-, -, -, -, ⟨⟨hfirst, -⟩, -⟩, -⟩ := h
  exact ⟨trail, hfirst.symm⟩

/-- The first structure of a text, if it is an attribute: its margin, its key and what stands before its sign. -/
theorem structures?_attribute {size n : Nat} {keys : List String} {ended : Bool} {chars : List Char} {a : Attribute}
    {more : List Structure} {x : String × Bool} {r : List Char}
    (h : structures? size n keys ended chars = some ((.attribute a :: more, x), r)) :
    ∃ start rest behind, blanks true chars = (a.lead, start) ∧ ident? start = some (a.key, rest) ∧
      blanks false rest = (a.keyTrail, '=' :: behind) := by
  cases n with
  | zero => cases h
  | succ n =>
    rw [structures?_succ] at h
    rcases hstart : blanks true chars with ⟨lead, start⟩
    simp only [hstart] at h
    split at h
    · cases h
    · cases h
    · simp only [Option.bind_eq_bind, Option.bind_eq_some_iff] at h
      obtain ⟨⟨ident, rest⟩, hident, h⟩ := h
      rcases hgap : blanks false rest with ⟨gap, behind⟩
      simp only [hgap] at h
      split at h
      · split at h
        · cases h
        · obtain ⟨⟨read, _⟩, hread, hmore⟩ := Option.bind_eq_some_iff.mp h
          obtain ⟨trail, hfirst⟩ := structuresFrom?_first hmore
          obtain ⟨rfl, rfl, rfl⟩ := attributeRest?_start hread
          obtain rfl : a = { read with trail } := Structure.attribute.inj hfirst
          exact ⟨start, rest, _, rfl, hident, hgap⟩
      · obtain ⟨⟨b, _⟩, -, hmore⟩ := Option.bind_eq_some_iff.mp h
        obtain ⟨trail, hfirst⟩ := structuresFrom?_first hmore
        cases hfirst

theorem parse?_eq_some {text : String} {body : Body} (h : parse? text = some body) :
    ∃ size n x r, structures? size n [] false text.toList = some ((body.structures, x), r) := by
  simp only [parse?, Option.bind_eq_bind, Option.bind_eq_some_iff] at h
  obtain ⟨⟨⟨structures, x⟩, rest⟩, hread, hend⟩ := h
  split at hend
  · obtain rfl := Option.some.inj hend
    exact ⟨_, _, x, rest, hread⟩
  · cases hend

theorem parseAttribute_eq_ok {key text : String} {a : Attribute} (h : parseAttribute key text = .ok a) :
    a.key = key ∧ ∃ body, parse? (key ++ " = " ++ Text.trim text ++ "\n") = some body ∧
      body.structures = [.attribute a] := by
  unfold parseAttribute at h
  split at h
  · cases h
  · next body hparse =>
    split at h
    · next a' hbody =>
      split at h
      · next hkey =>
        obtain rfl : a' = a := Except.ok.inj h
        exact ⟨hkey, body, hparse, hbody⟩
      · cases h
    · cases h

/-- Whatever text is read as its value, an attribute has no margin and one blank before its sign. -/
theorem parseAttribute_start {key text : String} {a : Attribute} (h : parseAttribute key text = .ok a) :
    a.lead = "" ∧ a.key = key ∧ a.keyTrail = " " := by
  obtain ⟨hkey, body, hparse, hbody⟩ := parseAttribute_eq_ok h
  obtain ⟨size, n, x, r, hread⟩ := parse?_eq_some hparse
  rw [hbody] at hread
  obtain ⟨start, behind, value, hlead, hident, hgap⟩ := structures?_attribute hread
  obtain ⟨hstart, c, v, hc, hfirst⟩ := ident?_eq_some hident
  have hchars : (key ++ " = " ++ Text.trim text ++ "\n").toList =
      key.toList ++ ' ' :: '=' :: ' ' :: ((Text.trim text).toList ++ ['\n']) := by simp
  -- The key is at the very start of the text, so there is nothing before it.
  rw [hchars, ← hkey, hc, List.cons_append, blanks_none (startsBlanks_ident hfirst _), Prod.mk.injEq] at hlead
  obtain ⟨hmargin, rfl⟩ := hlead
  rw [hc, List.cons_append, List.cons.injEq, List.append_cancel_left_eq] at hstart
  obtain ⟨-, rfl⟩ := hstart
  rw [blanks_sign, Prod.mk.injEq] at hgap
  exact ⟨hmargin.symm, hkey, hgap.1.symm⟩

end Terrasmith.Source

namespace Terrasmith

open Source

/-! ## Patches by what fills them -/

mutual

/-- What a structure of a declaration adds to a patch, where raw content is changed by `raw` and the attribute for
one that is evaluated is given by `value`. -/
def fillStructure (raw value : Attribute → Attribute) (top : Bool) (patch : Body) : Structure → Body
  | .attribute a => if top && reservedNames.contains a.key then patch else patch.setAttribute (value a)
  | .block ⟨_, ident, identTrail, labels, ⟨structures, _, _, _, _⟩, _, _⟩ =>
    if ident = "asraw" then patch.mergeStructures (mapAllAttributes raw structures)
    else if ident = "asstring" then fillStructures raw value false patch structures
    else if top && reservedNames.contains ident then patch
    else patch.pushBlock { ident, identTrail, labels, body := fillStructures raw value false {} structures }

def fillStructures (raw value : Attribute → Attribute) (top : Bool) (patch : Body) : List Structure → Body
  | [] => patch
  | s :: rest => fillStructures raw value top (fillStructure raw value top patch s) rest

end

mutual

/-- The attributes of a structure of a declaration that are evaluated. -/
def Source.Structure.evaluated (top : Bool) : Structure → List Attribute
  | .attribute a => if top && reservedNames.contains a.key then [] else [a]
  | .block ⟨_, ident, _, _, ⟨structures, _, _, _, _⟩, _, _⟩ =>
    if ident = "asraw" then []
    else if ident = "asstring" then evaluatedOf false structures
    else if top && reservedNames.contains ident then []
    else evaluatedOf false structures

def Source.evaluatedOf (top : Bool) : List Structure → List Attribute
  | [] => []
  | s :: rest => s.evaluated top ++ evaluatedOf top rest

end

/-- The attributes of a declaration that are evaluated for its patch. -/
def Source.Body.evaluated (b : Body) : List Attribute := evaluatedOf true b.structures

/-- What an attribute is evaluated to, or the attribute itself if that fails. -/
def Source.Attribute.valueIn (scope : Scope) (a : Attribute) : Attribute :=
  match evaluatedAttribute scope a with
  | .ok read => read
  | .error _ => a

theorem Source.Attribute.valueIn_of_ok {scope : Scope} {a read : Attribute} (h : evaluatedAttribute scope a = .ok read) :
    a.valueIn scope = read := by
  rw [valueIn, h]

section Scope

variable {scope : Scope}

mutual

theorem patchStructure_eq_ok (top : Bool) : (s : Structure) → ∀ {p q : Body},
    patchStructure scope top p s = .ok q → fillStructure id (Attribute.valueIn scope) top p s = q ∧
      ∀ a ∈ s.evaluated top, evaluatedAttribute scope a = .ok (a.valueIn scope)
  | .attribute a, p, q, h => by
    simp only [patchStructure] at h
    simp only [fillStructure, Structure.evaluated]
    split at h
    · next htop =>
      rw [if_pos htop, if_pos htop]
      exact ⟨Except.ok.inj h, List.forall_mem_nil _⟩
    · next htop =>
      obtain ⟨read, hread, rfl⟩ := return_eq_ok h
      rw [if_neg htop, if_neg htop, List.forall_mem_singleton, Attribute.valueIn_of_ok hread]
      exact ⟨rfl, hread⟩
  | .block ⟨lead, ident, identTrail, labels, ⟨structures, head, tail, oneLine, openEnd⟩, trail, span?⟩, p, q, h => by
    simp only [patchStructure] at h
    simp only [fillStructure, Structure.evaluated]
    by_cases hraw : ident = "asraw"
    · rw [if_pos hraw] at h
      rw [if_pos hraw, if_pos hraw, mapAllAttributes_id]
      exact ⟨Except.ok.inj h, List.forall_mem_nil _⟩
    rw [if_neg hraw] at h
    rw [if_neg hraw, if_neg hraw]
    by_cases hstring : ident = "asstring"
    · rw [if_pos hstring] at h
      rw [if_pos hstring, if_pos hstring]
      exact patchStructures_eq_ok false structures h
    rw [if_neg hstring] at h
    rw [if_neg hstring, if_neg hstring]
    by_cases htop : (top && reservedNames.contains ident) = true
    · rw [if_pos htop] at h
      rw [if_pos htop, if_pos htop]
      exact ⟨Except.ok.inj h, List.forall_mem_nil _⟩
    rw [if_neg htop] at h
    obtain ⟨body, hbody, rfl⟩ := return_eq_ok h
    obtain ⟨rfl, hvalues⟩ := patchStructures_eq_ok false structures hbody
    rw [if_neg htop, if_neg htop]
    exact ⟨rfl, hvalues⟩
termination_by structural s => s

/-- Where everything can be evaluated, the patch is filled with the values. -/
theorem patchStructures_eq_ok (top : Bool) : (structures : List Structure) → ∀ {p q : Body},
    patchStructures scope top p structures = .ok q →
      fillStructures id (Attribute.valueIn scope) top p structures = q ∧
        ∀ a ∈ evaluatedOf top structures, evaluatedAttribute scope a = .ok (a.valueIn scope)
  | [], p, q, h => ⟨Except.ok.inj h, List.forall_mem_nil _⟩
  | s :: rest, p, q, h => by
    simp only [patchStructures] at h
    obtain ⟨first, hfirst, hmore⟩ := bind_eq_ok h
    obtain ⟨rfl, hs⟩ := patchStructure_eq_ok top s hfirst
    obtain ⟨hfill, hrest⟩ := patchStructures_eq_ok top rest hmore
    simp only [evaluatedOf, List.mem_append]
    exact ⟨hfill, fun a ha => ha.elim (hs a) (hrest a)⟩
termination_by structural structures => structures

end

theorem buildPatch_eq_ok {body patch : Body} (h : buildPatch scope body = .ok patch) :
    fillStructures id (Attribute.valueIn scope) true {} body.structures = patch ∧
      ∀ a ∈ body.evaluated, evaluatedAttribute scope a = .ok (a.valueIn scope) :=
  patchStructures_eq_ok true body.structures h

end Scope

section Fillings

variable {R : Attribute → Attribute → Prop} {raw raw' value value' : Attribute → Attribute}

mutual

/-- What fills a patch decides on attributes alone. -/
theorem fillStructure_alike (hR : Tallies R) (hraw : ∀ a, R (raw a) (raw' a)) (top : Bool) : (s : Structure) →
    ∀ {p p' : Body}, (∀ a ∈ s.evaluated top, R (value a) (value' a)) → p.Alike R p' →
      (fillStructure raw value top p s).Alike R (fillStructure raw' value' top p' s)
  | .attribute a, p, p', hvalue, hp => by
    simp only [Structure.evaluated] at hvalue
    simp only [fillStructure]
    split
    · exact hp
    · next htop =>
      rw [if_neg htop] at hvalue
      exact hp.setAttribute hR (hvalue a (List.mem_singleton.mpr rfl))
  | .block ⟨lead, ident, identTrail, labels, ⟨structures, head, tail, oneLine, openEnd⟩, trail, span?⟩, p, p', hvalue,
      hp => by
    simp only [Structure.evaluated] at hvalue
    simp only [fillStructure]
    by_cases hasraw : ident = "asraw"
    · rw [if_pos hasraw, if_pos hasraw]
      exact Body.Alike.mergeStructures hR _ (mapAllAttributes_alike hraw structures) hp
    rw [if_neg hasraw] at hvalue
    rw [if_neg hasraw, if_neg hasraw]
    by_cases hstring : ident = "asstring"
    · rw [if_pos hstring] at hvalue
      rw [if_pos hstring, if_pos hstring]
      exact fillStructures_alike hR hraw false structures hvalue hp
    rw [if_neg hstring] at hvalue
    rw [if_neg hstring, if_neg hstring]
    by_cases htop : (top && reservedNames.contains ident) = true
    · rw [if_pos htop, if_pos htop]
      exact hp
    rw [if_neg htop] at hvalue
    rw [if_neg htop, if_neg htop]
    refine hp.pushBlock hR
      (.mk (b := { ident, identTrail, labels, body := fillStructures raw value false {} structures }) ?_)
    exact fillStructures_alike hR hraw false structures hvalue (.mk .nil)
termination_by structural s => s

theorem fillStructures_alike (hR : Tallies R) (hraw : ∀ a, R (raw a) (raw' a)) (top : Bool) :
    (structures : List Structure) → ∀ {p p' : Body}, (∀ a ∈ evaluatedOf top structures, R (value a) (value' a)) →
      p.Alike R p' → (fillStructures raw value top p structures).Alike R (fillStructures raw' value' top p' structures)
  | [], p, p', _, hp => hp
  | s :: rest, p, p', hvalue, hp => by
    simp only [evaluatedOf, List.mem_append] at hvalue
    exact fillStructures_alike hR hraw top rest (fun a ha => hvalue a (.inr ha))
      (fillStructure_alike hR hraw top s (fun a ha => hvalue a (.inl ha)) hp)
termination_by structural structures => structures

end

end Fillings

/-! ## The plan of a patch -/

/-- An expression as the argument of a call. -/
def Source.Written.marked (name : String) (w : Written) : Written := .bare (.call [name] "" [w] .plain "")

/-- An attribute of raw content with `raw(e)` for its expression `e`. -/
def Source.Attribute.asRaw (a : Attribute) : Attribute := { a with value := a.value.marked "raw" }

/-- The attribute for one that is to be evaluated, with `evaluated(e)` for its expression `e`. -/
def Source.Attribute.asEvaluated (a : Attribute) : Attribute := { key := a.key, value := a.value.marked "evaluated" }

/-- The patch of a declaration before anything is evaluated. Each expression in it says where it is from. -/
def Source.Body.plan (b : Body) : Body :=
  fillStructures Attribute.asRaw Attribute.asEvaluated true {} b.structures

/-- What a planned expression for a key is in a scope: itself where it is raw, and else the one expression that is read
from the text of its value. -/
inductive Realizes (scope : Scope) (key : String) : Expression → Expression → Prop
  | raw (lead : String) (w : Written) : Realizes scope key ⟨lead, w.marked "raw"⟩ ⟨lead, w⟩
  | evaluated {w : Written} {v : Value} {read : Attribute} (lead : String) (hv : w.expr.evaluate scope = .ok v)
      (hread : parseAttribute key v.sourceText = .ok read) :
      Realizes scope key ⟨lead, w.marked "evaluated"⟩ read.expression

/-- An attribute of a patch at its place in the plan. -/
structure FilledIn (scope : Scope) (planned a : Attribute) : Prop where
  lead : planned.lead = a.lead
  key : planned.key = a.key
  keyTrail : planned.keyTrail = a.keyTrail
  expression : Realizes scope a.key planned.expression a.expression

/-- Attributes at one place of the patches in two scopes. All up to the sign is the same, and one planned expression
gives both expressions. The comments behind them are the same, or those in the texts of the values of one attribute. -/
structure Counterparts (scope scope' : Scope) (evaluated : List Attribute) (a a' : Attribute) : Prop where
  lead : a.lead = a'.lead
  key : a.key = a'.key
  keyTrail : a.keyTrail = a'.keyTrail
  expression : ∃ planned, Realizes scope a.key planned a.expression ∧ Realizes scope' a.key planned a'.expression
  comment : a.trail = a'.trail ∨ ∃ e ∈ evaluated, e.key = a.key ∧ ∃ x x', evaluatedAttribute scope e = .ok x ∧
    evaluatedAttribute scope' e = .ok x' ∧ a.trail = x.trail ∧ a'.trail = x'.trail

variable {scope scope' : Scope} {declared : List Attribute}

theorem tallies_filledIn : Tallies (FilledIn scope) where
  lead h := h.lead
  key h := h.key
  withLead h _ := { h with lead := rfl }
  withValue {old old' a a'} hold h hkey := by
    have hkey' : old'.key = a'.key := hold.key.symm.trans (hkey.trans h.key)
    exact { hold with expression := hkey' ▸ h.expression }

theorem tallies_counterparts : Tallies (Counterparts scope scope' declared) where
  lead h := h.lead
  key h := h.key
  withLead h _ := { h with lead := rfl }
  withValue hold h hkey := { hold with expression := hkey ▸ h.expression }

/-- What an attribute is evaluated to is read from the text of its value, so it has no margin. -/
theorem evaluatedAttribute_eq_ok {a read : Attribute} (h : evaluatedAttribute scope a = .ok read) :
    read.lead = "" ∧ read.key = a.key ∧ read.keyTrail = " " ∧
      Realizes scope a.key ⟨" ", a.value.marked "evaluated"⟩ read.expression := by
  unfold evaluatedAttribute at h
  split at h
  · cases h
  · next v hv =>
    split at h
    · next read' hread =>
      obtain rfl : read' = read := Except.ok.inj h
      obtain ⟨hlead, hkey, htrail⟩ := parseAttribute_start hread
      exact ⟨hlead, hkey, htrail, .evaluated " " hv hread⟩
    · cases h

/-- The patch has in each place what the plan has there, filled in. -/
theorem plan_alike {body patch : Body} (h : buildPatch scope body = .ok patch) :
    body.plan.Alike (FilledIn scope) patch := by
  obtain ⟨rfl, hvalues⟩ := buildPatch_eq_ok h
  refine fillStructures_alike tallies_filledIn (fun a => ?_) true body.structures (fun a ha => ?_) (.mk .nil)
  · exact ⟨rfl, rfl, rfl, .raw a.valueLead a.value⟩
  · obtain ⟨hlead, hkey, htrail, hrealizes⟩ := evaluatedAttribute_eq_ok (hvalues a ha)
    exact ⟨hlead.symm, hkey.symm, htrail.symm, hkey.symm ▸ hrealizes⟩

theorem counterparts_alike {body patch patch' : Body} (h : buildPatch scope body = .ok patch)
    (h' : buildPatch scope' body = .ok patch') : patch.Alike (Counterparts scope scope' body.evaluated) patch' := by
  obtain ⟨rfl, hvalues⟩ := buildPatch_eq_ok h
  obtain ⟨rfl, hvalues'⟩ := buildPatch_eq_ok h'
  refine fillStructures_alike tallies_counterparts (fun a => ?_) true body.structures (fun a ha => ?_) (.mk .nil)
  · exact ⟨rfl, rfl, rfl, ⟨_, .raw a.valueLead a.value, .raw a.valueLead a.value⟩, .inl rfl⟩
  · obtain ⟨hlead, hkey, htrail, hrealizes⟩ := evaluatedAttribute_eq_ok (hvalues a ha)
    obtain ⟨hlead', hkey', htrail', hrealizes'⟩ := evaluatedAttribute_eq_ok (hvalues' a ha)
    exact
      { lead := hlead.trans hlead'.symm, key := hkey.trans hkey'.symm, keyTrail := htrail.trans htrail'.symm
        expression := ⟨_, hkey.symm ▸ hrealizes, hkey.symm ▸ hrealizes'⟩
        comment := .inr ⟨a, ha, hkey.symm, _, _, hvalues a ha, hvalues' a ha, rfl, rfl⟩ }

/-- Values cannot inject structure. The patches of a body in two scopes are those of one plan, which depends on no
value: they have its blocks, labels and keys in its order. At each place all up to the sign is the same in both, a
raw expression is the one in the plan, and any other is the one expression that is read from the text of the value of
the attribute that the plan has there. -/
theorem buildPatch_alike (scope scope' : Scope) (body : Body) {patch patch' : Body}
    (h : buildPatch scope body = .ok patch) (h' : buildPatch scope' body = .ok patch') :
    body.plan.Alike (FilledIn scope) patch ∧ body.plan.Alike (FilledIn scope') patch' ∧
      patch.Alike (Counterparts scope scope' body.evaluated) patch' :=
  ⟨plan_alike h, plan_alike h', counterparts_alike h h'⟩

/-- An attribute whose value is the variable `x`. -/
def variableField (key : String) : Structure := .attribute { key, value := .bare (.variable "x") }

/-- A declaration with that variable in every kind of place. -/
def variableEverywhere : Body :=
  { structures := [variableField "target_block_address", variableField "name",
      .block { ident := "rule", body := { structures := [variableField "port"] } },
      .block { ident := "asraw", body := { structures := [variableField "tags",
        .block { ident := "rule", body := { structures := [variableField "from"] } }] } },
      .block { ident := "asstring", body := { structures := [variableField "tags", variableField "from"] } }] }

/-- A value with line ends, braces and a comment, and one with an escaped quote and text behind it. -/
theorem buildPatch_alike_hostile :
    let scope : Scope := [("x", .string "\x7b\n  rule = 1 # \x7d\n\x7d")]
    let scope' : Scope := [("x", .string "\"\x7d\\nrule \x7b\\\"\" # \x7d")]
    ∃ patch patch', buildPatch scope variableEverywhere = .ok patch ∧
      buildPatch scope' variableEverywhere = .ok patch' ∧
      variableEverywhere.plan.Alike (FilledIn scope) patch ∧ variableEverywhere.plan.Alike (FilledIn scope') patch' ∧
      patch.Alike (Counterparts scope scope' variableEverywhere.evaluated) patch' := by
  intro scope scope'
  obtain ⟨patch, h⟩ : ∃ patch, buildPatch scope variableEverywhere = .ok patch := exists_of_isOk (by decide +kernel)
  obtain ⟨patch', h'⟩ : ∃ patch, buildPatch scope' variableEverywhere = .ok patch :=
    exists_of_isOk (by decide +kernel)
  exact ⟨patch, patch', h, h', buildPatch_alike scope scope' variableEverywhere h h'⟩

end Terrasmith
