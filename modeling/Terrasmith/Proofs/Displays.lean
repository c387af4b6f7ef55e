import Mathlib.Data.List.Perm.Subperm
import Terrasmith.Proofs.Parts
import Terrasmith.Proofs.Shapes
import Terrasmith.Provider.Schema

/-!
The texts of shapes are read in one way only. No text of a shape goes on as the text of another one, so that what stands
in front of any rest can be told: by the word at its start, then part by part. The names of fields end before the blank
of ` = `, which no identifier contains. Values of schemas hold these texts, and so they are equal for equal fields only.
-/
namespace Terrasmith

namespace Shape

/-- The names of the fields of all objects in the shape are identifiers. -/
inductive Named : Shape → Prop where
  | dynamic : Named .dynamic
  | bool : Named .bool
  | number : Named .number
  | string : Named .string
  | list {s : Shape} (h : Named s) : Named (.list s)
  | set {s : Shape} (h : Named s) : Named (.set s)
  | map {s : Shape} (h : Named s) : Named (.map s)
  | tuple {shapes : List Shape} (h : ∀ s ∈ shapes, Named s) : Named (.tuple shapes)
  | object {fields : List (String × Shape × Bool)} (hnames : ∀ f ∈ fields, Text.isIdentifier f.1 = true)
      (h : ∀ f ∈ fields, Named f.2.1) : Named (.object fields)

/-- The characters of a shape. -/
def chars (s : Shape) : List Char := s.display.toList

/-- The characters of the shape of a field with its mark. -/
def markedChars (s : Shape) (optional : Bool) : List Char :=
  if optional then "optional(".toList ++ (s.chars ++ [')']) else s.chars

/-- The characters of a field of an object. -/
def fieldChars (f : String × Shape × Bool) : List Char :=
  f.1.toList ++ ' ' :: '=' :: ' ' :: f.2.1.markedChars f.2.2

/-- Parts with what separates them. -/
def separated {α : Type} (text : α → List Char) : List α → List Char
  | [] => []
  | a :: rest => text a ++ rest.flatMap fun b => ',' :: ' ' :: text b

variable {s t : Shape} {r r' : List Char}

section Equations

theorem toList_enclosed (opening inner closing : String) :
    (opening ++ inner ++ closing).toList = opening.toList ++ (inner.toList ++ closing.toList) := by
  rw [String.toList_append, String.toList_append, List.append_assoc]

@[simp] theorem chars_dynamic : chars .dynamic = ['a', 'n', 'y'] := rfl

@[simp] theorem chars_bool : chars .bool = ['b', 'o', 'o', 'l'] := rfl

@[simp] theorem chars_number : chars .number = ['n', 'u', 'm', 'b', 'e', 'r'] := rfl

@[simp] theorem chars_string : chars .string = ['s', 't', 'r', 'i', 'n', 'g'] := rfl

@[simp] theorem chars_list (s : Shape) : chars (.list s) = 'l' :: 'i' :: 's' :: 't' :: '(' :: (s.chars ++ [')']) :=
  toList_enclosed "list(" s.display ")"

@[simp] theorem chars_set (s : Shape) : chars (.set s) = 's' :: 'e' :: 't' :: '(' :: (s.chars ++ [')']) :=
  toList_enclosed "set(" s.display ")"

@[simp] theorem chars_map (s : Shape) : chars (.map s) = 'm' :: 'a' :: 'p' :: '(' :: (s.chars ++ [')']) :=
  toList_enclosed "map(" s.display ")"

theorem toList_displayElements (shapes : List Shape) : (displayElements shapes).toList = separated chars shapes := by
  induction shapes with
  | nil => rfl
  | cons s rest ih =>
    cases rest with
    | nil => exact (List.append_nil _).symm
    | cons u rest =>
      have hcons : displayElements (s :: u :: rest) = display s ++ ", " ++ displayElements (u :: rest) := rfl
      rw [hcons, toList_enclosed, ih]
      simp [separated, chars]

theorem toList_displayFields (fields : List (String × Shape × Bool)) :
    (displayFields fields).toList = separated fieldChars fields := by
  induction fields with
  | nil => rfl
  | cons f rest ih =>
    obtain ⟨name, s, optional⟩ := f
    have hcons : displayFields ((name, s, optional) :: rest) =
        name ++ " = " ++ (if optional then "optional(" ++ display s ++ ")" else display s)
          ++ (if rest.isEmpty then "" else ", ") ++ displayFields rest := rfl
    have hmarked : (if optional = true then "optional(" ++ display s ++ ")" else display s).toList =
        s.markedChars optional := by
      cases optional <;> simp [markedChars, chars]
    rw [hcons]
    simp only [String.toList_append, hmarked, ih]
    cases rest <;> simp [separated, fieldChars]

@[simp] theorem chars_tuple (shapes : List Shape) : chars (.tuple shapes) =
    't' :: 'u' :: 'p' :: 'l' :: 'e' :: '(' :: '[' :: (separated chars shapes ++ [']', ')']) := by
  rw [← toList_displayElements]
  exact toList_enclosed "tuple([" (displayElements shapes) "])"

@[simp] theorem chars_object (fields : List (String × Shape × Bool)) : chars (.object fields) =
    'o' :: 'b' :: 'j' :: 'e' :: 'c' :: 't' :: '(' :: '{' :: (separated fieldChars fields ++ ['}', ')']) := by
  rw [← toList_displayFields]
  exact toList_enclosed "object(\x7b" (displayFields fields) "\x7d)"

end Equations

/-! ### Cancellation -/

/-- In front of any rest, the text of `a` is the text of no other item. -/
def Cancels {α : Type} (text : α → List Char) (p : α → Prop) (a : α) : Prop :=
  ∀ b r r', p b → text a ++ r = text b ++ r' → a = b ∧ r = r'

section Separated

variable {α : Type} {text : α → List Char} {p : α → Prop} {stop : Char}

theorem followers_cancel {as bs : List α} (has : ∀ a ∈ as, Cancels text p a) (hbs : ∀ b ∈ bs, p b) (hstop : stop ≠ ',')
    (h : (as.flatMap fun a => ',' :: ' ' :: text a) ++ stop :: r =
      (bs.flatMap fun b => ',' :: ' ' :: text b) ++ stop :: r') : as = bs ∧ r = r' := by
  induction as generalizing bs with
  | nil =>
    cases bs with
    | nil => exact ⟨rfl, (List.cons.inj h).2⟩
    | cons b bs =>
      have hhead := (List.cons.inj h).1
      exact absurd hhead hstop
  | cons a as ih =>
    cases bs with
    | nil =>
      have hhead := (List.cons.inj h).1
      exact absurd hhead.symm hstop
    | cons b bs =>
      rw [List.forall_mem_cons] at has hbs
      simp only [List.flatMap_cons, List.cons_append, List.append_assoc, List.cons.injEq, true_and] at h
      obtain ⟨rfl, hrest⟩ := has.1 b _ _ hbs.1 h
      obtain ⟨rfl, hr⟩ := ih has.2 hbs.2 hrest
      exact ⟨rfl, hr⟩

/-- Parts that can be told in front of any rest can be told together, up to a sign that starts none of them. -/
theorem separated_cancel {as bs : List α} (hp : ∀ a, p a → ∀ r, (text a ++ r).head? ≠ some stop) (hstop : stop ≠ ',')
    (has : ∀ a ∈ as, p a) (hbs : ∀ b ∈ bs, p b) (hcancels : ∀ a ∈ as, Cancels text p a)
    (h : separated text as ++ stop :: r = separated text bs ++ stop :: r') : as = bs ∧ r = r' := by
  cases as with
  | nil =>
    cases bs with
    | nil => exact ⟨rfl, (List.cons.inj h).2⟩
    | cons b bs =>
      rw [separated, separated, List.append_assoc] at h
      exact absurd (congrArg List.head? h).symm (hp b (hbs b List.mem_cons_self) _)
  | cons a as =>
    cases bs with
    | nil =>
      rw [separated, separated, List.append_assoc] at h
      exact absurd (congrArg List.head? h) (hp a (has a List.mem_cons_self) _)
    | cons b bs =>
      rw [List.forall_mem_cons] at hbs hcancels
      rw [separated, separated, List.append_assoc, List.append_assoc] at h
      obtain ⟨rfl, hrest⟩ := hcancels.1 b _ _ hbs.1 h
      obtain ⟨rfl, hr⟩ := followers_cancel hcancels.2 hbs.2 hstop hrest
      exact ⟨rfl, hr⟩

end Separated

/-- A field of an object in a shape with identifiers for names. -/
def NamedField (f : String × Shape × Bool) : Prop :=
  Text.isIdentifier f.1 = true ∧ f.2.1.Named

theorem head?_chars (s : Shape) (r : List Char) : (s.chars ++ r).head? ≠ some ']' := by
  cases s <;> simp

theorem head?_fieldChars {f : String × Shape × Bool} (hf : NamedField f) (r : List Char) :
    (fieldChars f ++ r).head? ≠ some '}' := by
  obtain ⟨c, rest, hname, hstart, -⟩ := Text.exists_cons_of_isIdentifier hf.1
  rw [fieldChars, hname, List.cons_append, List.cons_append, List.head?_cons]
  rintro ⟨rfl⟩
  exact absurd hstart (by decide +kernel)

/-- No shape is written like the mark of an optional field: `object` goes on with another letter. -/
theorem chars_ne_optional (s : Shape) (r rest : List Char) : s.chars ++ r ≠ 'o' :: 'p' :: rest := by
  cases s <;> simp

theorem markedChars_cancel {optional optional' : Bool} (hs : Cancels chars Named s) (ht : t.Named)
    (h : s.markedChars optional ++ r = t.markedChars optional' ++ r') : s = t ∧ optional = optional' ∧ r = r' := by
  cases optional with
  | false =>
    cases optional' with
    | false =>
      obtain ⟨hst, hr⟩ := hs t r r' ht h
      exact ⟨hst, rfl, hr⟩
    | true => exact absurd h (chars_ne_optional s r _)
  | true =>
    cases optional' with
    | false => exact absurd h.symm (chars_ne_optional t r' _)
    | true =>
      simp only [markedChars, if_true, List.append_assoc, List.append_cancel_left_eq] at h
      obtain ⟨hst, hr⟩ := hs t _ _ ht h
      exact ⟨hst, rfl, (List.cons.inj hr).2⟩

theorem fieldChars_cancel {f : String × Shape × Bool} (hname : Text.isIdentifier f.1 = true)
    (hshape : Cancels chars Named f.2.1) : Cancels fieldChars NamedField f := by
  intro g r r' hg h
  obtain ⟨name, s, optional⟩ := f
  obtain ⟨name', s', optional'⟩ := g
  have hblank : ∀ x : String, Text.isIdentifier x = true → Text.partsAt ' ' [] x.toList = [x.toList] := fun x hx =>
    Text.partsAt_of_not_mem (Text.not_mem_of_isIdentifier hx (by decide +kernel) (by decide +kernel))
  simp only [fieldChars, List.append_assoc, List.cons_append] at h
  -- the name is what stands before the first blank
  have hparts := congrArg (Text.partsAt ' ' []) h
  rw [Text.partsAt_append_separator, Text.partsAt_append_separator, hblank name hname, hblank name' hg.1] at hparts
  obtain rfl : name = name' := String.toList_injective (List.cons.inj hparts).1
  simp only [List.append_cancel_left_eq, List.cons.injEq, true_and] at h
  obtain ⟨rfl, rfl, rfl⟩ := markedChars_cancel hshape hg.2 h
  exact ⟨rfl, rfl⟩

/-- In front of any rest, the text of a shape is the text of no other one. -/
theorem Named.cancels (hs : s.Named) : Cancels chars Named s := by
  induction hs with
  | dynamic | bool | number | string =>
    intro t r r' ht h
    cases ht <;> simp at h
    exact ⟨rfl, h⟩
  | list _ ih | set _ ih | map _ ih =>
    intro t r r' ht h
    cases ht <;> simp at h
    rename_i ht
    obtain ⟨rfl, hr⟩ := ih _ _ _ ht h
    exact ⟨rfl, (List.cons.inj hr).2⟩
  | @tuple shapes hshapes ih =>
    intro t r r' ht h
    cases ht with
    | tuple hothers =>
      simp only [chars_tuple, List.cons_append, List.append_assoc, List.cons.injEq, true_and] at h
      obtain ⟨rfl, hr⟩ := separated_cancel (fun s _ => head?_chars s) (by decide) hshapes hothers ih h
      exact ⟨rfl, (List.cons.inj hr).2⟩
    | _ => simp at h
  | @object fields hnames hshapes ih =>
    intro t r r' ht h
    cases ht with
    | object hnames' hshapes' =>
      simp only [chars_object, List.cons_append, List.append_assoc, List.cons.injEq, true_and] at h
      obtain ⟨rfl, hr⟩ := separated_cancel (fun f hf => head?_fieldChars hf) (by decide)
        (fun f hf => ⟨hnames f hf, hshapes f hf⟩) (fun f hf => ⟨hnames' f hf, hshapes' f hf⟩)
        (fun f hf => fieldChars_cancel (hnames f hf) (ih f hf)) h
      exact ⟨rfl, (List.cons.inj hr).2⟩
    | _ => simp at h

/-- Equal texts of shapes are texts of equal shapes. -/
theorem Named.eq_of_display_eq (hs : s.Named) (ht : t.Named) (h : s.display = t.display) : s = t := by
  have hchars : s.chars ++ [] = t.chars ++ [] := by rw [chars, chars, h]
  exact (hs.cancels t [] [] ht hchars).1

end Shape

namespace Value

theorem sameEntries_iff {as bs : List (String × Value)} :
    sameEntries as bs = true ↔ ∀ e ∈ as, ∃ b, bs.lookup e.1 = some b ∧ e.2.same b = true := by
  induction as with
  | nil => simp [sameEntries]
  | cons e rest ih =>
    obtain ⟨key, a⟩ := e
    rw [sameEntries, Bool.and_eq_true, ih, List.forall_mem_cons]
    refine and_congr_left fun _ => ?_
    cases bs.lookup key <;> simp

/-- Equal objects hold equal values under the same keys, in any order. -/
theorem same_object_iff {as bs : List (String × Value)} (has : (as.map Prod.fst).Nodup) :
    (Value.object as).same (.object bs) = true ↔ (as.map Prod.fst).Perm (bs.map Prod.fst) ∧
      ∀ key a b, as.lookup key = some a → bs.lookup key = some b → a.same b = true := by
  rw [same, Bool.and_eq_true, beq_iff_eq, sameEntries_iff]
  constructor
  · rintro ⟨hlength, hentries⟩
    have hsubset : as.map Prod.fst ⊆ bs.map Prod.fst := by
      intro key hkey
      obtain ⟨e, he, rfl⟩ := List.mem_map.mp hkey
      obtain ⟨b, hb, -⟩ := hentries e he
      exact List.mem_map.mpr ⟨(e.1, b), mem_of_lookup hb, rfl⟩
    refine ⟨(List.subperm_of_subset has hsubset).perm_of_length_le (by simp [hlength]), fun key a b ha hb => ?_⟩
    obtain ⟨b', hb', hsame⟩ := hentries _ (mem_of_lookup ha)
    obtain rfl : b' = b := Option.some.inj (hb'.symm.trans hb)
    exact hsame
  · rintro ⟨hperm, hsame⟩
    refine ⟨by simpa using hperm.length_eq, fun e he => ?_⟩
    obtain ⟨b, hb⟩ := Option.ne_none_iff_exists'.mp fun hnone =>
      lookup_eq_none_iff_notMem.mp hnone (hperm.subset (List.mem_map_of_mem (f := Prod.fst) he))
    exact ⟨b, hb, hsame _ _ _ (lookup_of_mem has he) hb⟩

end Value

namespace Provider

open Json

theorem nodup_block? {fuel : Nat} {d : Document} {fields : Fields} (h : block? fuel d = some fields) :
    (fields.map Prod.fst).Nodup := by
  cases fuel with
  | zero => cases h
  | succ fuel =>
    simp only [block?, Option.bind_eq_bind, Option.bind_eq_some_iff, Option.some.injEq] at h
    obtain ⟨_, -, attributes, -, blocks, -, rfl⟩ := h
    exact nodup_keys_insertEntries (by simp) (attributes ++ blocks)

/-- The values of fields are equal exactly if both have the same names and the same text under each. -/
theorem same_fieldsValue_iff {a b : Fields} (ha : (a.map Prod.fst).Nodup) (hb : (b.map Prod.fst).Nodup) :
    (fieldsValue a).same (fieldsValue b) = true ↔
      ∀ name, (a.lookup name).map (·.1.display) = (b.lookup name).map (·.1.display) := by
  have hvalue : ∀ fields, fieldsValue fields = .object (fields.map fun f => (f.1, Value.string f.2.1.display)) :=
    fun fields => rfl
  have hkeys : ∀ fields : Fields,
      (fields.map fun f => (f.1, Value.string f.2.1.display)).map Prod.fst = fields.map Prod.fst :=
    fun fields => by rw [List.map_map]; rfl
  have hlookup : ∀ (fields : Fields) name, (fields.map fun f => (f.1, Value.string f.2.1.display)).lookup name =
      (fields.lookup name).map fun f => Value.string f.1.display :=
    fun fields name => lookup_map_snd (fun _ f => Value.string f.1.display) name fields
  rw [hvalue, hvalue, Value.same_object_iff (by rwa [hkeys]), hkeys, hkeys, List.perm_ext_iff_of_nodup ha hb,
    ← forall_and]
  refine forall_congr' fun name => ?_
  rw [← not_iff_not (a := name ∈ _), ← lookup_eq_none_iff_notMem, ← lookup_eq_none_iff_notMem, hlookup, hlookup]
  cases a.lookup name <;> cases b.lookup name <;> simp [Value.same]

/-- The text of a shape tells the shape, with the order of its fields, their marks and all that is nested. Hence blocks
of schemas with equal values have the same fields, and these the same shapes. -/
theorem displays_unambiguous :
    (∀ s t : Shape, s.Named → t.Named → s.display = t.display → s = t) ∧
    (∀ (n m : Nat) (d e : Document) (a b : Fields), block? n d = some a → block? m e = some b →
      (∀ f ∈ a, f.2.1.Named) → (∀ f ∈ b, f.2.1.Named) → (fieldsValue a).same (fieldsValue b) = true →
      ∀ name, (a.lookup name).map Prod.fst = (b.lookup name).map Prod.fst) := by
  refine ⟨fun s t hs ht h => hs.eq_of_display_eq ht h, fun n m d e a b ha hb hnamed hnamed' hsame name => ?_⟩
  have htexts := (same_fieldsValue_iff (nodup_block? ha) (nodup_block? hb)).mp hsame name
  cases hfield : a.lookup name with
  | none =>
    rw [hfield] at htexts
    rw [Option.map_none, Option.map_eq_none_iff.mpr (Option.map_eq_none_iff.mp htexts.symm)]
  | some f =>
    rw [hfield] at htexts
    obtain ⟨g, hother, hdisplay⟩ := Option.map_eq_some_iff.mp htexts.symm
    have hshapes : g.1 = f.1 :=
      (hnamed' _ (mem_of_lookup hother)).eq_of_display_eq (hnamed _ (mem_of_lookup hfield)) hdisplay
    rw [hother, Option.map_some, Option.map_some, hshapes]

/-- A shape that is also read from a description with its fields in another order, and blocks of the same fields in two
orders, a nested one among them. -/
theorem displays_unambiguous_reordered :
    let s := Shape.object [("a", .tuple [.string, .list .bool], false), ("b", .number, true)]
    let t := Shape.ofDescription? (.array [.string "object", .object [("b", .string "number"),
      ("a", .array [.string "tuple", .array [.string "string", .array [.string "list", .string "bool"]]])],
      .array [.string "b"]])
    let id := ("id", Document.object [("type", .string "string"), ("optional", .bool true)])
    let nested := ("block_types", Document.object [("rule", .object [("nesting_mode", .string "set"),
      ("block", .object [("attributes", .object [id])])])])
    let tags := ("tags", Document.object [("type", .array [.string "map", .string "string"])])
    let a := [("id", Shape.string, true), ("tags", .map .string, false),
      ("rule", .set (.object [("id", .string, true)]), true)]
    let b := [("tags", Shape.map .string, false), ("id", .string, true),
      ("rule", .set (.object [("id", .string, true)]), true)]
    (∃ u, t = some u ∧ s.Named ∧ u.Named ∧ s.display = u.display ∧ s = u) ∧
      block? 3 (.object [("attributes", .object [id, tags]), nested]) = some a ∧
      block? 3 (.object [nested, ("attributes", .object [tags, id])]) = some b ∧
      (∀ f ∈ a, f.2.1.Named) ∧ (∀ f ∈ b, f.2.1.Named) ∧ (fieldsValue a).same (fieldsValue b) = true ∧
      ∀ name, (a.lookup name).map Prod.fst = (b.lookup name).map Prod.fst := by
  intro s t id nested tags a b
  have hs : s.Named := .object (by decide +kernel) (List.forall_mem_cons.mpr
    ⟨.tuple (List.forall_mem_cons.mpr ⟨.string, List.forall_mem_singleton.mpr (.list .bool)⟩),
      List.forall_mem_singleton.mpr .number⟩)
  have ht : t = some s := by rfl
  have hrule : (Shape.set (.object [("id", .string, true)])).Named :=
    .set (.object (by decide +kernel) (List.forall_mem_singleton.mpr .string))
  have ha : block? 3 (.object [("attributes", .object [id, tags]), nested]) = some a := by rfl
  have hb : block? 3 (.object [nested, ("attributes", .object [tags, id])]) = some b := by rfl
  have hnamed : ∀ f ∈ a, f.2.1.Named := by simpa [a] using ⟨.string, .map .string, hrule⟩
  have hnamed' : ∀ f ∈ b, f.2.1.Named := by simpa [b] using ⟨.map .string, .string, hrule⟩
  have hsame : (fieldsValue a).same (fieldsValue b) = true := by decide +kernel
  exact ⟨⟨s, ht, hs, hs, rfl, displays_unambiguous.1 s s hs hs rfl⟩, ha, hb, hnamed, hnamed', hsame,
    displays_unambiguous.2 _ _ _ _ a b ha hb hnamed hnamed' hsame⟩

end Provider

end Terrasmith
