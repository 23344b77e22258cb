import Mathlib.Data.List.Nodup
import QuotaBoard.Json.Record
import QuotaBoard.Proofs.Drift

/-!
# Records as others write them

What this library writes comes back changed in what does not matter: the members of a record in
another order, and others among them that the record does not know.  A `Rendering` says in which
documents a value may come back; `Rendering.record` allows those changes in one object, and the
renderings of its fields allow them further inside.

A reader that takes a value in each of its renderings `ReadsBack` what was written.  Every field of
a record is looked up by its name, so all that counts is what a look-up finds: exactly a rendering
of the member that was written, or nothing if none was (`Record.of?_of_renders`).  From there a
record is read field by field (`Record.Renders.withDefault?_eq`).
-/

namespace QuotaBoard

namespace Document

/-! ## 1. Renderings -/

/-- In which documents a value may come back. -/
abbrev Rendering := Json → Document → Prop

/-- An object whose keys are readable. -/
def ofFields (fields : List (String × Document)) : Document :=
  .object (fields.map fun m => (some m.1, m.2))

namespace Rendering

/-- As it was written. -/
def exact : Rendering := fun v d => d = ofJson v

/-- An array, each of its items in one way. -/
inductive array (item : Rendering) : Rendering where
  | mk {items : List Json} {written : List Document} (h : List.Forall₂ item items written) :
    array item (.array items) (.array written)

/-- An object of a record with some fields: the members in any order, each as its field allows, and
among others that are none of the fields. -/
inductive record (fields : List (String × Rendering)) : Rendering where
  | mk {members : List (String × Json)} {written others all : List (String × Document)}
    (fieldwise : List.Forall₂
      (fun m w => w.1 = m.1 ∧ ∃ rendering, (m.1, rendering) ∈ fields ∧ rendering m.2 w.2)
      members written)
    (unknown : ∀ m ∈ others, m.1 ∉ fields.map Prod.fst)
    (order : all.Perm (written ++ others)) :
    record fields (.object members) (ofFields all)

/-- Whatever else it holds, an object may come back with its members the other way round. -/
theorem record.reversed {fields : List (String × Rendering)} {members : List (String × Json)}
    (written others : List (String × Document))
    (fieldwise : List.Forall₂
      (fun m w => w.1 = m.1 ∧ ∃ rendering, (m.1, rendering) ∈ fields ∧ rendering m.2 w.2)
      members written)
    (unknown : ∀ m ∈ others, m.1 ∉ fields.map Prod.fst) :
    record fields (.object members) (ofFields (written ++ others).reverse) :=
  .mk fieldwise unknown (List.reverse_perm _)

end Rendering

variable {α : Type} {rendering : Rendering} {write : α → Json} {read : Document → Option α}

/-- What was written is read in each of its renderings. -/
def ReadsBack (rendering : Rendering) (write : α → Json) (read : Document → Option α) : Prop :=
  ∀ a d, rendering (write a) d → read d = some a

theorem readsBack_text : ReadsBack .exact .string text? := by
  rintro s _ rfl
  rfl

theorem readsBack_bool : ReadsBack .exact .bool bool? := by
  rintro b _ rfl
  rfl

theorem readsBack_double : ReadsBack .exact .ofDouble double? := by
  rintro x _ rfl
  rfl

theorem natBelow?_ofInt {n limit : Nat} (h : n < limit) :
    (ofJson (.ofInt n)).natBelow? limit = some n :=
  if_pos h

theorem readsBack_status : ReadsBack .exact .ofStatus status? := by
  rintro status _ rfl
  rw [status?, Json.ofStatus, natBelow?_ofInt status.toNat_lt, Option.map_some, UInt16.ofNat_toNat]

theorem nullable?_of_ne {d : Document} (h : d ≠ .null) : nullable? read d = (read d).map some := by
  cases d with
  | null => exact absurd rfl h
  | _ => rfl

theorem ofJson_ne_null {v : Json} (h : v ≠ .null) : ofJson v ≠ .null := by
  cases v with
  | null => exact absurd rfl h
  | _ => exact fun h => nomatch h

theorem ReadsBack.nullable (h : ReadsBack .exact write read) (hnull : ∀ a, write a ≠ .null) :
    ReadsBack .exact (Json.ofOption write) (nullable? read) := by
  rintro (_ | a) _ rfl
  · rfl
  · rw [Json.ofOption, nullable?_of_ne (ofJson_ne_null (hnull a)), h a _ rfl, Option.map_some]

/-- A list is read if its items are. -/
theorem ReadsBack.list (h : ReadsBack rendering write read) :
    ReadsBack (.array rendering) (fun as => .array (as.map write)) (list? read) := by
  intro as d hd
  have hitems : ∀ (as : List α) (written : List Document),
      List.Forall₂ rendering (as.map write) written → written.mapM read = some as := by
    intro as
    induction as with
    | nil =>
      intro written hwritten
      cases hwritten
      rfl
    | cons a rest ih =>
      intro written hwritten
      cases hwritten with
      | cons ha hrest => simp [List.mapM_cons, h a _ ha, ih _ hrest]
  cases hd with
  | mk hwritten => exact hitems as _ hwritten

end Document

namespace Record

open Document (Rendering ReadsBack)

variable {α : Type} {fields : List (String × Rendering)} {members : List (String × Json)}
  {rendering : Rendering} {write : α → Json} {read : Document → Option α} {r : Record}
  {name : String}

/-! ## 2. What a look-up finds -/

/-- A record has what was written: under the name of each field a rendering of the member that was
written, and nothing if none was. -/
def Renders (r : Record) (fields : List (String × Rendering)) (members : List (String × Json)) :
    Prop :=
  ∃ all, r = named all ∧ ∀ name rendering, (name, rendering) ∈ fields → ∀ position, ∃ found,
    Option.Rel rendering (members.lookup name) found ∧ r.find? position [name] = some found

theorem of?_ofFields (all : List (String × Document)) (size : Nat) :
    of? size (Document.ofFields all) = some (named all) := by
  have hkeys : (all.map fun m => (some m.1, m.2)).mapM readKey? = some all := by
    induction all with
    | nil => rfl
    | cons m rest ih => simp [List.mapM_cons, readKey?, ih]
  rw [Document.ofFields, of?, hkeys, Option.map_some]

theorem filter_eq_nil_of_forall {all : List (String × Document)} (h : ∀ m ∈ all, m.1 ≠ name) :
    all.filter ([name].contains ·.1) = [] := by
  rw [List.filter_eq_nil_iff]
  intro m hm
  simpa using h m hm

theorem fst_mem_of_forall₂ {p : String × Json → String × Document → Prop}
    {written : List (String × Document)} (hp : ∀ m w, p m w → w.1 = m.1)
    (h : List.Forall₂ p members written) {w : String × Document} (hw : w ∈ written) :
    w.1 ∈ members.map Prod.fst := by
  induction h with
  | nil => cases hw
  | cons hm hrest ih =>
    rcases List.mem_cons.mp hw with rfl | hw
    · exact hp _ _ hm ▸ List.mem_cons_self
    · exact List.mem_cons_of_mem _ (ih hw)

/-- Among the members that were written. -/
theorem filter_written (hfields : (fields.map Prod.fst).Nodup)
    (hfield : (name, rendering) ∈ fields) {written : List (String × Document)}
    (h : List.Forall₂
      (fun m w => w.1 = m.1 ∧ ∃ rendering, (m.1, rendering) ∈ fields ∧ rendering m.2 w.2)
      members written) (hmembers : (members.map Prod.fst).Nodup) :
    ∃ found, Option.Rel rendering (members.lookup name) found ∧
      written.filter ([name].contains ·.1) = found.toList.map (name, ·) := by
  induction h with
  | nil => exact ⟨none, .none, rfl⟩
  | @cons m w rest written hm hrest ih =>
    obtain ⟨key, v⟩ := m
    obtain ⟨key', d⟩ := w
    obtain ⟨rfl, rendering', hfield', hd⟩ := hm
    rw [List.map_cons, List.nodup_cons] at hmembers
    rw [Json.lookup_cons_ite]
    by_cases hname : name = key'
    · subst hname
      obtain ⟨-, rfl⟩ := Prod.mk.inj (List.inj_on_of_nodup_map hfields hfield hfield' rfl)
      refine ⟨some d, ?_, ?_⟩
      · rw [if_pos rfl]
        exact .some hd
      · rw [List.filter_cons_of_pos (by simp), filter_eq_nil_of_forall]
        · rfl
        · rintro w hw rfl
          exact hmembers.1 (fst_mem_of_forall₂ (fun _ _ h => h.1) hrest hw)
    · rw [if_neg hname, List.filter_cons_of_neg (by simpa using Ne.symm hname)]
      exact ih hmembers.2

/-- **What is found in a rendering of a record is what was written.** -/
theorem of?_of_renders (hfields : (fields.map Prod.fst).Nodup)
    (hmembers : (members.map Prod.fst).Nodup) {d : Document}
    (h : Rendering.record fields (.object members) d) (size : Nat) :
    ∃ r, of? size d = some r ∧ r.Renders fields members := by
  cases h with
  | @mk _ written others all fieldwise unknown order =>
    refine ⟨named all, of?_ofFields all size, all, rfl, fun name rendering hfield position => ?_⟩
    obtain ⟨found, hfound, hwritten⟩ := filter_written hfields hfield fieldwise hmembers
    refine ⟨found, hfound, ?_⟩
    have hothers : others.filter ([name].contains ·.1) = [] := by
      refine filter_eq_nil_of_forall ?_
      rintro m hm rfl
      exact unknown m hm (List.mem_map.mpr ⟨_, hfield, rfl⟩)
    have hperm := order.filter ([name].contains ·.1)
    rw [List.filter_append, hwritten, hothers, List.append_nil] at hperm
    cases found with
    | none => rw [find?, List.Perm.eq_nil hperm]
    | some d => rw [find?, List.perm_singleton.mp hperm]

/-! ## 3. Fields -/

theorem Renders.withDefault?_eq (h : r.Renders fields members) (hfield : (name, rendering) ∈ fields)
    (position : Nat) {a default : α}
    (hwritten : ∀ v d, members.lookup name = some v → rendering v d → read d = some a)
    (hmissing : members.lookup name = none → default = a) :
    r.withDefault? position [name] read default = some a := by
  obtain ⟨all, -, hfind⟩ := h
  obtain ⟨found, hfound, hfind⟩ := hfind name rendering hfield position
  rw [withDefault?, hfind]
  cases hlookup : members.lookup name with
  | none =>
    rw [hlookup] at hfound
    cases hfound
    exact congrArg some (hmissing hlookup)
  | some v =>
    rw [hlookup] at hfound
    cases hfound with
    | some hd => exact hwritten v _ hlookup hd

/-- A field with a default that was written all the same. -/
theorem Renders.withWritten?_eq (h : r.Renders fields members)
    (hfield : (name, rendering) ∈ fields) (position : Nat) {a default : α}
    (hlookup : members.lookup name = some (write a)) (hread : ReadsBack rendering write read) :
    r.withDefault? position [name] read default = some a := by
  refine h.withDefault?_eq hfield position (fun v d hv hd => ?_) fun hnone => ?_
  · obtain rfl : write a = v := by simpa [hlookup] using hv
    exact hread a d hd
  · simp [hlookup] at hnone

/-- What is read for a field that was written. -/
theorem Renders.exists_required? (h : r.Renders fields members)
    (hfield : (name, rendering) ∈ fields) (position : Nat) {v : Json}
    (hlookup : members.lookup name = some v) :
    ∃ d, rendering v d ∧ ∀ {β : Type} (read : Document → Option β),
      r.required? position [name] read = read d := by
  obtain ⟨all, -, hfind⟩ := h
  obtain ⟨found, hfound, hfind⟩ := hfind name rendering hfield position
  rw [hlookup] at hfound
  cases hfound with
  | some hd => exact ⟨_, hd, fun read => by rw [required?, hfind]; rfl⟩

theorem Renders.required?_eq (h : r.Renders fields members) (hfield : (name, rendering) ∈ fields)
    (position : Nat) {a : α} (hlookup : members.lookup name = some (write a))
    (hread : ReadsBack rendering write read) : r.required? position [name] read = some a := by
  obtain ⟨d, hd, hrequired⟩ := h.exists_required? hfield position hlookup
  rw [hrequired, hread a d hd]

/-- A field that is left out when it has no value. -/
theorem Renders.optional?_eq (h : r.Renders fields members) (hfield : (name, .exact) ∈ fields)
    (position : Nat) {a? : Option α} (hlookup : members.lookup name = a?.map write)
    (hread : ReadsBack .exact write read) (hnull : ∀ a, write a ≠ .null) :
    r.optional? position [name] read = some a? := by
  refine h.withDefault?_eq hfield position (fun v d hv hd => ?_) fun hnone => ?_
  · cases a? with
    | none => simp [hlookup] at hv
    | some a =>
      obtain rfl : write a = v := by simpa [hlookup] using hv
      exact hread.nullable hnull (some a) d hd
  · cases a? with
    | none => rfl
    | some a => simp [hlookup] at hnone

/-- A field that is `null` when it has no value. -/
theorem Renders.nullable?_eq (h : r.Renders fields members) (hfield : (name, .exact) ∈ fields)
    (position : Nat) {a? : Option α} (hlookup : members.lookup name = some (Json.ofOption write a?))
    (hread : ReadsBack .exact write read) (hnull : ∀ a, write a ≠ .null) :
    r.nullable? position [name] read = some a? := by
  have hoptional : r.nullable? position [name] read = r.optional? position [name] read := by
    obtain ⟨all, rfl, -⟩ := h
    rfl
  rw [hoptional]
  refine h.withDefault?_eq hfield position (fun v d hv hd => ?_) fun hnone => ?_
  · obtain rfl : Json.ofOption write a? = v := by simpa [hlookup] using hv
    exact hread.nullable hnull a? d hd
  · simp [hlookup] at hnone

end Record

end QuotaBoard
